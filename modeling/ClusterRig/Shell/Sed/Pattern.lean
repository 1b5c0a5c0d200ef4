import ClusterRig.Shell.Sed.Expression
import ClusterRig.Text.Numeral

/-!
# Reading regular expressions

The two ways of writing expressions differ in which signs need a backslash to have
their meaning. A sign of repetition with nothing before it stands for itself in basic
expressions and is wrong in extended ones.
-/

namespace ClusterRig
namespace Shell
namespace Sed
namespace Reading

inductive Token
  | stop
  | char (c : Char)
  | item (e : Expr)
  | anchor (a : Anchor)
  | star
  | plus
  | question
  | openInterval
  | closeInterval
  | openGroup
  | closeGroup
  | bar
  | back (n : Nat)
  | bracket
  | trailing

def isWordMember : Char → Bool := Regex.isWordChar

/-- The meaning of a sign that is written with a backslash or without, as the kind of
expressions wants it. -/
def sign? : Char → Option Token
  | '+' => some .plus
  | '?' => some .question
  | '{' => some .openInterval
  | '}' => some .closeInterval
  | '(' => some .openGroup
  | ')' => some .closeGroup
  | '|' => some .bar
  | _ => none

/-- The meaning of a letter after a backslash. -/
def escaped? : Char → Option Token
  | 'w' => some (.item (.set false [isWordMember]))
  | 'W' => some (.item (.set true [isWordMember]))
  | 's' => some (.item (.set false [isSpace]))
  | 'S' => some (.item (.set true [isSpace]))
  | 'b' => some (.anchor .wordEdge)
  | 'B' => some (.anchor .wordInside)
  | '<' => some (.anchor .wordStart)
  | '>' => some (.anchor .wordEnd)
  | '\x60' => some (.anchor .textStart)
  | '\'' => some (.anchor .textEnd)
  | _ => none

/-- Whether a dollar sign before `rest` is an anchor. -/
def endsHere (extended : Bool) (rest : List Char) : Bool :=
  extended || match rest with
    | [] => true
    | '\\' :: ')' :: _ => true
    | '\\' :: '|' :: _ => true
    | _ => false

/-- The next token. Where an expression begins a circumflex is an anchor. -/
def token (extended begins : Bool) : List Char → Token × List Char
  | [] => (.stop, [])
  | ['\\'] => (.trailing, [])
  | '\\' :: c :: rest =>
    if Text.isDigit c && c != '0' then (.back (Text.digitValue c), rest)
    else
      match (if extended then none else sign? c), escaped? c with
      | some t, _ => (t, rest)
      | none, some t => (t, rest)
      | none, none => (.char c, rest)
  | '.' :: rest => (.item .any, rest)
  | '*' :: rest => (.star, rest)
  | '[' :: rest => (.bracket, rest)
  | '^' :: rest => (if extended || begins then .anchor .lineStart else .char '^', rest)
  | '$' :: rest => (if endsHere extended rest then .anchor .lineEnd else .char '$', rest)
  | c :: rest => ((if extended then sign? c else none).getD (.char c), rest)

abbrev Result := Except String

def badRepetition : String := "Invalid preceding regular expression"

/-! ## Sets -/

/-- A member of a set: a character, or a class, which has no place in a range. -/
inductive Member
  | char (c : Char)
  | named (p : Char → Bool)

/-- A member at the start of a text, and what follows it. -/
def member (s : List Char) : Result (Member × List Char) :=
  match s with
  | '[' :: ':' :: _ =>
    match enclosed? ['[', ':'] [':', ']'] s with
    | some (name, rest) =>
      match namedClass? name with
      | some p => .ok (.named p, rest)
      | none => .error "Invalid character class name"
    | none => .error "Unmatched [, [^, [:, [., or [="
  | '[' :: sign :: _ =>
    if sign == '.' || sign == '=' then
      match enclosed? ['[', sign] [sign, ']'] s with
      | some ([c], rest) => .ok (if sign == '.' then .char c else .named (· == c), rest)
      | some _ => .error "Invalid collation character"
      | none => .error "Unmatched [, [^, [:, [., or [="
    else .ok (.char '[', s.tail)
  | c :: rest => .ok (.char c, rest)
  | [] => .error "Unmatched [, [^, [:, [., or [="

/-- The members of a set up to its closing bracket, which is an ordinary character at
first. -/
def members : Nat → Bool → List Char → Result (List (Char → Bool) × List Char)
  | 0, _, _ => .error "Regular expression too big"
  | _, false, ']' :: rest => .ok ([], rest)
  | fuel + 1, _, s => do
    let (a, rest) ← member s
    match rest with
    | '-' :: d :: tail =>
      if d = ']' then
        let (ps, rest) ← members fuel false rest
        return (single a :: ps, rest)
      else
        let (b, rest) ← member (d :: tail)
        match a, b with
        | .char a, .char b =>
          if b < a then throw "Invalid range end"
          let (ps, rest) ← members fuel false rest
          return ((fun c => a ≤ c && c ≤ b) :: ps, rest)
        | _, _ => throw "Invalid range end"
    | rest =>
      let (ps, rest) ← members fuel false rest
      return (single a :: ps, rest)
where
  single : Member → Char → Bool
    | .char a => (· == a)
    | .named p => p

def set (s : List Char) : Result (Expr × List Char) := do
  let (negated, s) := match s with
    | '^' :: rest => (true, rest)
    | _ => (false, s)
  let (ps, rest) ← members (s.length + 1) true s
  return (.set negated ps, rest)

/-! ## Repetition -/

/-- What ends a number in an interval, with what follows that. -/
inductive Limit
  | comma (rest : List Char)
  | close (rest : List Char)
  | stop

/-- The text of a number in an interval, and what ends it. -/
def limited (extended : Bool) : List Char → List Char × Limit
  | [] => ([], .stop)
  | ',' :: rest => ([], .comma rest)
  | c :: rest =>
    match extended, c, rest with
    | true, '\x7d', rest => ([], .close rest)
    | false, '\\', '\x7d' :: rest => ([], .close rest)
    | _, c, rest =>
      let (s, limit) := limited extended rest
      (c :: s, limit)

/-- The largest number of repetitions. -/
def greatest : Nat := 32767

def badInterval : String := "Invalid content of \\\x7b\\\x7d"

/-- A number in an interval; there may be none. -/
def number (s : List Char) : Result (Option Nat) :=
  if s.all Text.isDigit then .ok (Text.natural? s) else .error badInterval

/-- An interval after its opening brace. -/
def interval (extended : Bool) (s : List Char) : Result (Nat × Option Nat × List Char) := do
  let (first, limit) := limited extended s
  let (least, most, rest) ← match limit with
    | .stop => throw "Unmatched \\\x7b"
    | .close rest =>
      match ← number first with
      | some n => pure (n, some n, rest)
      | none => throw badInterval
    | .comma rest =>
      let least ← number first
      match limited extended rest with
      | (_, .stop) => throw "Unmatched \\\x7b"
      | (_, .comma _) => throw badInterval
      | (second, .close rest) => pure (least.getD 0, ← number second, rest)
  if most.any fun n => n < least then throw badInterval
  if greatest < most.getD least then throw "Regular expression too big"
  return (least, most, rest)

/-- How many groups have been opened, and which ones have been closed. -/
structure Groups where
  opened : Nat
  closed : List Nat

/-- An expression, what follows it, and the groups so far. -/
structure Read where
  expr : Expr
  rest : List Char
  groups : Groups

/-- Apply the signs of repetition that follow an expression. In basic expressions none
follows another one unless it needs a backslash that the star does not. -/
def repetitions (extended : Bool) : Nat → Read → Result Read
  | 0, _ => .error "Regular expression too big"
  | fuel + 1, r => do
    let again (e : Expr) (rest : List Char) : Result Read := do
      match extended, (token extended false rest).1 with
      | false, .star | false, .openInterval => throw badRepetition
      | _, _ => repetitions extended fuel { r with expr := e, rest }
    match token extended false r.rest with
    | (.star, rest) => again (.repeated r.expr 0 none) rest
    | (.plus, rest) => again (.repeated r.expr 1 none) rest
    | (.question, rest) => again (.repeated r.expr 0 (some 1)) rest
    | (.openInterval, rest) =>
      let (least, most, rest) ← interval extended rest
      again (.repeated r.expr least most) rest
    | _ => return r

mutual

/-- Alternatives. In a group its end is not taken. -/
def alternatives (extended : Bool) : Nat → Nat → Bool → List Char → Groups → Result Read
  | 0, _, _, _, _ => .error "Regular expression too big"
  | fuel + 1, nest, begins, s, groups => do
    let first ← branch extended fuel nest begins .empty s groups
    match token extended false first.rest with
    | (.bar, rest) =>
      let second ← alternatives extended fuel nest true rest first.groups
      return { second with expr := .either first.expr second.expr }
    | _ => return first

/-- Items one after the other, behind those that have been read. -/
def branch (extended : Bool) : Nat → Nat → Bool → Expr → List Char → Groups → Result Read
  | 0, _, _, _, _, _ => .error "Regular expression too big"
  | fuel + 1, nest, begins, done, s, groups => do
    match (token extended begins s).1, nest with
    | .stop, _ | .bar, _ | .closeGroup, _ + 1 => return ⟨done, s, groups⟩
    | _, _ =>
      let (r, anchored) ← item extended fuel nest begins s groups
      let joined := match done with
        | .empty => r.expr
        | done => .both done r.expr
      branch extended fuel nest anchored joined r.rest r.groups

/-- One item with its repetitions, and whether a circumflex after it is an anchor. -/
def item (extended : Bool) : Nat → Nat → Bool → List Char → Groups → Result (Read × Bool)
  | 0, _, _, _, _ => .error "Regular expression too big"
  | fuel + 1, nest, begins, s, groups => do
    let repeated (e : Expr) (rest : List Char) (groups : Groups) : Result (Read × Bool) := do
      return (← repetitions extended fuel ⟨e, rest, groups⟩, false)
    let literal (c : Char) (rest : List Char) : Result (Read × Bool) :=
      if extended then throw badRepetition else repeated (.char c) rest groups
    match token extended begins s with
    | (.char c, rest) => repeated (.char c) rest groups
    | (.item e, rest) => repeated e rest groups
    | (.anchor a, rest) => return (⟨.anchor a, rest, groups⟩, true)
    | (.bracket, rest) =>
      let (e, rest) ← set rest
      repeated e rest groups
    | (.back n, rest) =>
      if groups.closed.contains n then repeated (.back n) rest groups
      else throw "Invalid back reference"
    | (.openGroup, rest) =>
      let n := groups.opened + 1
      let inner ← alternatives extended fuel (nest + 1) true rest { groups with opened := n }
      match token extended false inner.rest with
      | (.closeGroup, rest) =>
        repeated (.group n inner.expr) rest
          { inner.groups with closed := n :: inner.groups.closed }
      | _ => throw "Unmatched ( or \\("
    | (.closeGroup, _) => throw "Unmatched ) or \\)"
    | (.star, rest) => literal '*' rest
    | (.plus, rest) => literal '+' rest
    | (.question, rest) => literal '?' rest
    | (.openInterval, _) => throw badRepetition
    | (.closeInterval, rest) => repeated (.char '\x7d') rest groups
    | (.trailing, _) => throw "Trailing backslash"
    | (.stop, rest) | (.bar, rest) => return (⟨.empty, rest, groups⟩, false)

end

/-- An expression, and the number of its groups. -/
def expression (extended : Bool) (s : List Char) : Result (Expr × Nat) := do
  let r ← alternatives extended (8 * s.length + 16) 0 true s ⟨0, []⟩
  return (r.expr, r.groups.opened)

end Reading
end Sed
end Shell
end ClusterRig
