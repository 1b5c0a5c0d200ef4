import ClusterRig.Toml.Value

/-!
# Statements of a document

A document is a list of lines, each of which is a header in brackets or binds a
value to a key.
-/

namespace ClusterRig
namespace Toml

inductive Statement
  /-- The path of a table; with `element`, of the next element of an array of tables. -/
  | header (path : List String) (element : Bool)
  | binding (path : List String) (v : Value)

namespace Statement

def skipBlank : List Token → List Token
  | .blank _ :: ts => ts
  | ts => ts

/-- Skip what may stand between lines and between the items of an array. -/
def skipLines : List Token → List Token
  | .blank _ :: ts => skipLines ts
  | .newline :: ts => skipLines ts
  | .comment :: ts => skipLines ts
  | ts => ts

/-- A line ends, after blanks and a comment, at its break or with the text. -/
def endLine (ts : List Token) : Option (List Token) :=
  let ts := match skipBlank ts with
    | .comment :: ts => ts
    | ts => ts
  match ts with
  | .newline :: ts => some ts
  | [] => some []
  | _ => none

/-- A single key. A quoted one may not be empty. -/
def key : List Token → Option (String × List Token)
  | .word w :: ts => some (String.ofList w, ts)
  | .quoted s false :: ts => if s.isEmpty then none else some (String.ofList s, ts)
  | _ => none

/-- Keys with dots between them. -/
def path (ts : List Token) : Option (List String × List Token) :=
  match key (skipBlank ts) with
  | none => none
  | some (k, rest) =>
    match skipBlank rest with
    | .period :: rest =>
      if rest.length < ts.length then (path rest).map fun (ks, rest) => (k :: ks, rest) else none
    | rest => some ([k], rest)
termination_by ts.length

/-- A key, an equals sign and a value. -/
def pair (value : List Token → Option (Value × List Token)) (ts : List Token) :
    Option (List String × Value × List Token) := do
  let (ks, ts) ← path ts
  match ts with
  | .equals :: ts =>
    let (v, ts) ← value (skipBlank ts)
    return (ks, v, ts)
  | _ => none

/-- The items of an array up to its closing bracket. All are of one kind, and a
comma may follow the last. -/
def items (value : List Token → Option (Value × List Token)) :
    Nat → Option Value.Kind → List Token → Option (List Value × List Token)
  | 0, _, _ => none
  | fuel + 1, kind, ts =>
    match skipLines ts with
    | .rightBracket :: ts => some ([], ts)
    | ts => do
      let (v, ts) ← value ts
      if kind.any (· ≠ v.kind) then none
      else
        match skipLines ts with
        | .comma :: ts =>
          let (vs, ts) ← items value fuel (some v.kind) ts
          return (v :: vs, ts)
        | .rightBracket :: ts => return ([v], ts)
        | _ => none

/-- The entries of a table in braces, of which there is at least one. -/
def members (value : List Token → Option (Value × List Token)) :
    Nat → Entries → List Token → Option (Entries × List Token)
  | 0, _, _ => none
  | fuel + 1, es, ts => do
    let (ks, v, ts) ← pair value ts
    let es ← es.add ks v
    match skipBlank ts with
    | .rightBrace :: ts => return (es, ts)
    | .comma :: ts => members value fuel es (skipBlank ts)
    | _ => none

/-- The words of a time that follow its first colon, with what is between them. -/
def clock (ts : List Token) : Option (List Token × List Token) := do
  let (minute, ts) ← wordOf ts
  match ts with
  | .colon :: ts =>
    let (second, ts) ← wordOf ts
    let (fraction, ts) ← after .period ts
    let (hours, ts) ← after .plus ts
    let (minutes, ts) ← after .colon ts
    return ([minute, .colon, second] ++ fraction ++ hours ++ minutes, ts)
  | _ => none
where
  wordOf : List Token → Option (Token × List Token)
    | .word w :: ts => some (.word w, ts)
    | _ => none
  /-- A mark with a word after it, or nothing. -/
  after (mark : Token) : List Token → Option (List Token × List Token)
    | t :: ts =>
      if t = mark then (wordOf ts).map fun (w, ts) => ([t, w], ts) else some ([], t :: ts)
    | [] => some ([], [])

/-- A date or a time that begins with a word, and a colon where `colon` says so. A
single space may stand before the time. -/
def moment (w : List Char) (colon : Bool) (ts : List Token) : Option (Value × List Token) := do
  let (spaced, ts) := match ts with
    | .blank [' '] :: .word h :: ts => (' ' :: h, ts)
    | _ => ([], ts)
  let start := w ++ (if colon then [':'] else []) ++ spaced
  let (more, ts) ← match colon, ts with
    | true, ts => clock ts
    | false, .colon :: ts => (clock ts).map fun (more, ts) => (.colon :: more, ts)
    | false, ts => some ([], ts)
  return (.moment (start ++ more.flatMap Token.text), ts)

/-- Whether a word can only begin a date. -/
def beginsDate (w : List Char) : Bool :=
  w.contains 'T' || ((w.drop 1).contains '-' && !hasExponent w)
where
  hasExponent : List Char → Bool
    | 'e' :: '-' :: _ => true
    | _ :: rest => hasExponent rest
    | [] => false

/-- A number that begins with a word. -/
def number (w : List Char) (ts : List Token) : Option (Value × List Token) :=
  let real (after : Option (List Char)) (ts : List Token) :=
    (Number.float w after ts).map fun (x, ts) => (Value.float (some x), ts)
  let whole (radix : Nat) (s : List Char) :=
    (Number.whole radix s).map fun n => (Value.integer n, ts)
  match w with
  | '0' :: 'x' :: s => whole 16 s
  | '0' :: 'o' :: s => whole 8 s
  | '0' :: 'b' :: s => whole 2 s
  | _ =>
    if w.contains 'e' || w.contains 'E' then real none ts
    else
      match ts with
      | .period :: .word a :: ts => real (some a) ts
      | .period :: _ => none
      | _ =>
        if ["inf", "-inf", "nan", "-nan"].contains (String.ofList w) then
          some (.float none, ts)
        else whole 10 w

/-- A value that begins with a word. -/
def worded (w : List Char) (ts : List Token) : Option (Value × List Token) :=
  if w = ['t', 'r', 'u', 'e'] then some (.bool true, ts)
  else if w = ['f', 'a', 'l', 's', 'e'] then some (.bool false, ts)
  else if beginsDate w then moment w false ts
  else
    match ts with
    | .colon :: ts => moment w true ts
    | ts => number w ts

/-- A value in which arrays and tables are nested at most `depth` deep. -/
def value : Nat → List Token → Option (Value × List Token)
  | _, .quoted s _ :: ts => some (.text (String.ofList s), ts)
  | _, .word w :: ts => worded w ts
  | _, .plus :: .word w :: ts => number w ts
  | depth + 1, .leftBrace :: ts =>
    match skipBlank ts with
    | .rightBrace :: ts => some (.table false [], ts)
    | ts => (members (value depth) ts.length [] ts).map fun (es, ts) => (.table false es, ts)
  | depth + 1, .leftBracket :: ts =>
    (items (value depth) ts.length none ts).map fun (vs, ts) => (.array vs, ts)
  | _, _ => none

/-- A header after its first bracket. -/
def headerAfter (ts : List Token) : Option (Statement × List Token) := do
  let (element, ts) := match ts with
    | .leftBracket :: ts => (true, ts)
    | ts => (false, ts)
  let (ks, ts) ← path ts
  let ts ← match element, ts with
    | false, .rightBracket :: ts => endLine ts
    | true, .rightBracket :: .rightBracket :: ts => endLine ts
    | _, _ => none
  return (.header ks element, ts)

def bindingAt (ts : List Token) : Option (Statement × List Token) := do
  let (ks, v, ts) ← pair (value ts.length) ts
  return (.binding ks v, ← endLine ts)

/-- The statements of a document. -/
def all (ts : List Token) : Option (List Statement) :=
  match skipLines ts with
  | [] => some []
  | first :: rest =>
    let r := if first = .leftBracket then headerAfter rest else bindingAt (first :: rest)
    match r with
    | none => none
    | some (s, left) =>
      if left.length < ts.length then (all left).map (s :: ·) else none
termination_by ts.length

end Statement
end Toml
end ClusterRig
