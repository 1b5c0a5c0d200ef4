import ClusterRig.Pattern.Expression
import ClusterRig.Pattern.Property
import ClusterRig.Text.Blank
import ClusterRig.Text.Numeral

/-!
# Reading patterns

A pattern is read from left to right. Of its flags only one matters to the reading:
in a verbose pattern blanks and comments do not count. Each reading function takes
the text that is left and returns what it read with the rest, or nothing when the
pattern is malformed.
-/

namespace ClusterRig
namespace Pattern
namespace Reader

/-- Drop blanks and comments; a comment reaches from `#` to the end of its line. -/
def skipVerbose : Bool → List Char → List Char
  | _, [] => []
  | true, c :: rest => skipVerbose (c != '\n') rest
  | false, c :: rest =>
    if Text.isBlank c then skipVerbose false rest
    else if c == '#' then skipVerbose true rest
    else c :: rest

/-- Blanks and comments count unless the pattern is verbose. -/
def skip (verbose : Bool) (s : List Char) : List Char :=
  if verbose then skipVerbose false s else s

def isMeta (c : Char) : Bool :=
  ['\\', '.', '+', '*', '?', '(', ')', '|', '[', ']', '\x7b', '\x7d', '^', '$', '#', '&', '-',
    '~'].contains c

/-- ASCII characters without a meaning of their own after a backslash. -/
def isEscapable (c : Char) : Bool :=
  isMeta c || (c.toNat < 0x80 && !c.isAlphanum && c != '<' && c != '>')

def hexValue? (c : Char) : Option Nat :=
  if c.isDigit then some (c.toNat - 48)
  else if 'a' ≤ c && c ≤ 'f' then some (c.toNat - 87)
  else if 'A' ≤ c && c ≤ 'F' then some (c.toNat - 55)
  else none

def charOfNat? (n : Nat) : Option Char := if n.isValidChar then some (Char.ofNat n) else none

/-- Hexadecimal digits up to a closing brace. -/
def hexBraced (verbose : Bool) : Nat → Option Nat → List Char → Option (Char × List Char)
  | 0, _, _ => none
  | fuel + 1, n, s =>
    match skip verbose s with
    | [] => none
    | '\x7d' :: rest => do return (← charOfNat? (← n), skip verbose rest)
    | c :: rest => do hexBraced verbose fuel (some ((n.getD 0) * 16 + (← hexValue? c))) rest

/-- Exactly so many hexadecimal digits. -/
def hexDigits (verbose : Bool) : Nat → Nat → List Char → Option (Char × List Char)
  | 0, n, s => do return (← charOfNat? n, s)
  | count + 1, n, s =>
    match s with
    | [] => none
    | c :: rest => do hexDigits verbose count (n * 16 + (← hexValue? c)) (skip verbose rest)

/-- An escape by number, after its letter. Without braces it has so many digits. -/
def hexEscape (verbose : Bool) (digits : Nat) (s : List Char) : Option (Expr × List Char) :=
  match skip verbose s with
  | [] => none
  | '\x7b' :: rest =>
    (hexBraced verbose (rest.length + 1) none rest).map fun (c, rest) => (.literal c false, rest)
  | s => (hexDigits verbose digits 0 s).map fun (c, rest) => (.literal c (digits == 2), rest)

/-- The characters up to a closing brace. -/
def braced (verbose : Bool) : Nat → List Char → Option (List Char × List Char)
  | 0, _ => none
  | fuel + 1, s =>
    match skip verbose s with
    | [] => none
    | '\x7d' :: rest => some ([], rest)
    | c :: rest => (braced verbose fuel rest).map fun (name, rest) => (c :: name, rest)

/-- The name and the value around the first place where one of the separators is. -/
def splitAtFirst (separator : List Char) : List Char → Option (List Char × List Char)
  | [] => none
  | c :: rest =>
    if separator.isPrefixOf (c :: rest) then some ([], (c :: rest).drop separator.length)
    else (splitAtFirst separator rest).map fun (a, b) => (c :: a, b)

/-- The set of a property as written between braces, and whether all but that set is
meant. -/
def propertySet? (name : List Char) : Option (Bool × CharSet) :=
  match splitAtFirst ['!', '='] name with
  | some (p, v) => (Property.ofValue? p v).map fun s => (true, s)
  | none =>
    let set? :=
      match (splitAtFirst [':'] name).orElse fun _ => splitAtFirst ['='] name with
      | some (p, v) => Property.ofValue? p v
      | none => Property.ofName? name
    set?.map fun s => (false, s)

/-- A property, after its letter. -/
def property (verbose : Bool) (negated : Bool) (s : List Char) : Option (Expr × List Char) :=
  match skip verbose s with
  | [] => none
  | '\x7b' :: rest => do
    let (name, rest) ← braced verbose (rest.length + 1) rest
    let (other, s) ← propertySet? name
    return (.set (.property (negated != other) s), rest)
  | '\\' :: _ => none
  | c :: rest => do
    return (.set (.property negated (← Property.ofName? [c])), skip verbose rest)

/-- The class of a letter; capitals stand for what is not in it. -/
def letterClass? : Char → Option SetExpr
  | 'd' => some (.letter false .digit)
  | 's' => some (.letter false .blank)
  | 'w' => some (.letter false .word)
  | 'D' => some (.letter true .digit)
  | 'S' => some (.letter true .blank)
  | 'W' => some (.letter true .word)
  | _ => none

/-- The letters and hyphens of a name between braces; nothing when the braces hold
something else. -/
def boundaryName (verbose : Bool) : Nat → List Char → Option (List Char × List Char)
  | 0, _ => none
  | fuel + 1, s =>
    match skip verbose s with
    | '\x7d' :: rest => some ([], rest)
    | c :: rest =>
      if c.isAlpha || c == '-' then
        (boundaryName verbose fuel rest).map fun (name, rest) => (c :: name, rest)
      else none
    | [] => none

/-- A word boundary, after its letter. Braces that begin with a letter or a hyphen
name a kind of boundary; others are left to be read as a repetition. -/
def boundary (verbose : Bool) (s : List Char) : Option (Expr × List Char) :=
  match s with
  | '\x7b' :: rest =>
    match skip verbose rest with
    | [] => none
    | c :: _ =>
      if c.isAlpha || c == '-' then do
        let (name, rest) ← boundaryName verbose (rest.length + 1) rest
        match String.ofList name with
        | "start" => return (.boundary .start, rest)
        | "end" => return (.boundary .stop, rest)
        | "start-half" => return (.boundary .startHalf, rest)
        | "end-half" => return (.boundary .stopHalf, rest)
        | _ => none
      else some (.boundary .either, s)
  | _ => some (.boundary .either, s)

/-- What follows a backslash. -/
def escape (verbose : Bool) : List Char → Option (Expr × List Char)
  | [] => none
  | 'x' :: rest => hexEscape verbose 2 rest
  | 'u' :: rest => hexEscape verbose 4 rest
  | 'U' :: rest => hexEscape verbose 8 rest
  | 'p' :: rest => property verbose false rest
  | 'P' :: rest => property verbose true rest
  | 'b' :: rest => boundary verbose rest
  | c :: rest =>
    if isEscapable c then some (.literal c false, rest)
    else
      match c with
      | 'a' => some (.literal '\x07' false, rest)
      | 'f' => some (.literal '\x0c' false, rest)
      | 't' => some (.literal '\t' false, rest)
      | 'n' => some (.literal '\n' false, rest)
      | 'r' => some (.literal '\r' false, rest)
      | 'v' => some (.literal '\x0b' false, rest)
      | 'A' => some (.textStart, rest)
      | 'z' => some (.textEnd, rest)
      | 'B' => some (.boundary .neither, rest)
      | '<' => some (.boundary .start, rest)
      | '>' => some (.boundary .stop, rest)
      | _ => (letterClass? c).map fun e => (.set e, rest)

/-- A single element of a bracketed class. -/
def classAtom (verbose : Bool) : List Char → Option (Expr × List Char)
  | [] => none
  | '\\' :: rest => escape verbose rest
  | c :: rest => some (.literal c false, rest)

/-- An element of a class that stands by itself. -/
def classElement? : Expr → Option SetExpr
  | .literal c _ => some (.literal c)
  | .set e => some e
  | _ => none

/-- An element of a bracketed class or a range of characters. A hyphen makes no
range before the closing bracket or another hyphen. -/
def classItem (verbose : Bool) (s : List Char) : Option (SetExpr × List Char) := do
  let (first, rest) ← classAtom verbose s
  let rest := skip verbose rest
  match rest with
  | [] => none
  | '-' :: tail =>
    match skip verbose tail with
    | [] => none
    | c :: _ =>
      if c == ']' || c == '-' then return (← classElement? first, rest)
      else
        let (last, rest) ← classAtom verbose (skip verbose tail)
        match first, last with
        | .literal a _, .literal b _ => if a ≤ b then return (.range a b, rest) else none
        | _, _ => none
  | _ => return (← classElement? first, rest)

/-- An ASCII class such as `[:alpha:]`, if that is what follows. -/
def asciiClass? (s : List Char) : Option (SetExpr × List Char) :=
  match s with
  | '[' :: ':' :: rest =>
    let (negated, rest) := match rest with
      | '^' :: rest => (true, rest)
      | _ => (false, rest)
    match rest.dropWhile (· != ':') with
    | ':' :: ']' :: after =>
      (CharSet.ofAsciiName? (String.ofList (rest.takeWhile (· != ':')))).map fun s =>
        (.ascii negated s, after)
    | _ => none
  | _ => none

/-- Hyphens at the beginning of a class stand for themselves. -/
def leadingHyphens (verbose : Bool) : Nat → List SetExpr → List Char →
    List SetExpr × List Char
  | 0, items, s => (items, s)
  | fuel + 1, items, s =>
    match s with
    | '-' :: rest => leadingHyphens verbose fuel (.literal '-' :: items) (skip verbose rest)
    | _ => (items, s)

/-- The beginning of a bracketed class after its bracket: whether it is negated,
and hyphens or a closing bracket that stand for themselves. -/
def classOpening (verbose : Bool) (s : List Char) : Bool × List SetExpr × List Char :=
  let s := skip verbose s
  let (negated, s) := match s with
    | '^' :: rest => (true, skip verbose rest)
    | _ => (false, s)
  let (items, s) := leadingHyphens verbose (s.length + 1) [] s
  match items, s with
  | [], ']' :: rest => (negated, [.literal ']'], skip verbose rest)
  | _, _ => (negated, items, s)

/-- Join what is left of an operator with the items right of it, which come last to
first. -/
def joinClass (left : Option (SetExpr × ClassOp)) (items : List SetExpr) : SetExpr :=
  let right := SetExpr.ofItems items.reverse
  match left with
  | none => right
  | some (l, o) => .op o l right

/-- The rest of a bracketed class, up to its closing bracket. The items read so far
come last to first. -/
def classBody (verbose : Bool) : Nat → Bool → Option (SetExpr × ClassOp) → List SetExpr →
    List Char → Option (SetExpr × List Char)
  | 0, _, _, _, _ => none
  | fuel + 1, negated, left, items, s =>
    let operator (o : ClassOp) (rest : List Char) :=
      classBody verbose fuel negated (some (joinClass left items, o)) [] rest
    match skip verbose s with
    | [] => none
    | ']' :: rest => some (.bracketed negated (joinClass left items), rest)
    | '[' :: rest =>
      match asciiClass? ('[' :: rest) with
      | some (e, rest) => classBody verbose fuel negated left (e :: items) rest
      | none => do
        let (inner, first, rest) := classOpening verbose rest
        let (e, rest) ← classBody verbose fuel inner none first rest
        classBody verbose fuel negated left (e :: items) rest
    | '&' :: '&' :: rest => operator .intersection rest
    | '-' :: '-' :: rest => operator .difference rest
    | '~' :: '~' :: rest => operator .symmetric rest
    | s => do
      let (e, rest) ← classItem verbose s
      classBody verbose fuel negated left (e :: items) rest

/-- A bracketed class after its opening bracket. -/
def bracketed (verbose : Bool) (s : List Char) : Option (SetExpr × List Char) :=
  let (negated, first, rest) := classOpening verbose s
  classBody verbose (s.length + 1) negated none first rest

def flag? : Char → Option Flag
  | 'i' => some .ignoreCase
  | 'm' => some .multiLine
  | 's' => some .dotAll
  | 'U' => some .swapGreed
  | 'u' => some .unicode
  | 'R' => some .crlf
  | 'x' => some .verbose
  | _ => none

/-- Flags up to a colon or a closing bracket: those set, and after a hyphen those
cleared, each at most once. `last` is the character before. -/
def flagList (used : List Flag) (value : Bool) (last : Option Char) :
    List Char → Option (List (Flag × Bool) × List Char)
  | [] => none
  | c :: rest =>
    if c == ':' || c == ')' then
      if last == some '-' then none else some ([], c :: rest)
    else if c == '-' then
      if value then flagList used false (some '-') rest else none
    else do
      let flag ← flag? c
      if used.contains flag then none
      else
        let (flags, rest) ← flagList (flag :: used) value (some c) rest
        return ((flag, value) :: flags, rest)

def isNameChar (first : Bool) (c : Char) : Bool :=
  if first then c == '_' || Unicode.isAlphabetic c
  else ['_', '.', '[', ']'].contains c || Unicode.isAlphanumeric c

/-- The name of a group and what follows its closing angle bracket. -/
def groupName (s : List Char) : Option (List Char × List Char) :=
  let name := s.takeWhile (· != '>')
  match s.dropWhile (· != '>'), name with
  | '>' :: rest, c :: more =>
    if isNameChar true c && more.all (isNameChar false) then some (name, rest) else none
  | _, _ => none

/-- How a group opens, after its bracket. -/
inductive Opening
  | group (name : Option (List Char))
  | plain (changes : List (Flag × Bool))
  /-- No group, but flags for what follows up to the end of the enclosing one. -/
  | flags (changes : List (Flag × Bool))

def opening (verbose : Bool) (s : List Char) : Option (Opening × List Char) :=
  match skip verbose s with
  | '?' :: '=' :: _ | '?' :: '!' :: _ | '?' :: '<' :: '=' :: _ | '?' :: '<' :: '!' :: _ => none
  | '?' :: 'P' :: '<' :: rest | '?' :: '<' :: rest =>
    (groupName rest).map fun (name, rest) => (.group (some name), rest)
  | '?' :: rest => do
    let (changes, tail) ← flagList [] true none rest
    match tail with
    | ':' :: tail => return (.plain changes, tail)
    | ')' :: tail => if rest.head? == some ')' then none else return (.flags changes, tail)
    | _ => none
  | s => some (.group none, s)

/-- Whether the pattern is verbose after changes of flags. -/
def verboseAfter (verbose : Bool) (changes : List (Flag × Bool)) : Bool :=
  ((changes.find? fun c => c.1 == .verbose).map Prod.snd).getD verbose

/-- A number with blanks around it: nothing if there is no digit. -/
def count (verbose : Bool) (s : List Char) : Option Nat × List Char :=
  let s := s.dropWhile Text.isBlank
  let rec digits : Nat → Option Nat → List Char → Option Nat × List Char
    | 0, n, s => (n, s)
    | fuel + 1, n, s =>
      match s with
      | c :: rest =>
        if c.isDigit then
          digits fuel (some ((n.getD 0) * 10 + Text.digitValue c)) (skip verbose rest)
        else (n, s)
      | [] => (n, [])
  let (n, rest) := digits s.length none s
  (n, skip verbose (rest.dropWhile Text.isBlank))

/-- The greatest count of repetitions that can be written. -/
def maxCount : Nat := UInt32.size - 1

/-- The bounds of a counted repetition after its opening brace. -/
def bounds (verbose : Bool) (s : List Char) : Option (Nat × Option Nat × List Char) := do
  let (first, rest) := count verbose (skip verbose s)
  let min ← first
  if min > maxCount then none
  match rest with
  | ',' :: rest =>
    match skip verbose rest with
    | '\x7d' :: rest => return (min, none, rest)
    | rest =>
      let (second, rest) := count verbose rest
      let max ← second
      if max > maxCount || max < min then none
      match rest with
      | '\x7d' :: rest => return (min, some max, rest)
      | _ => none
  | '\x7d' :: rest => return (min, some min, rest)
  | _ => none

/-- What follows a repetition: a question mark makes it lazy. -/
def greed (s : List Char) : Bool × List Char :=
  match s with
  | '?' :: rest => (false, rest)
  | _ => (true, s)

/-- The repetition of the last item; flags cannot be repeated. -/
def repeatLast (items : List Expr) (min : Nat) (max : Option Nat) (greedy : Bool) :
    Option (List Expr) :=
  match items with
  | [] | .flags _ :: _ => none
  | e :: rest => some (.rep e min max greedy :: rest)

/-- A branch of items and the branches before it, all last to first. -/
def branches (items : List Expr) (before : List Expr) : Expr :=
  .ofBranches (Expr.ofItems items.reverse :: before).reverse

/-- Read up to the end of a group or of the pattern. `items` are those of the
branch at hand and `before` the finished branches, both last to first. The names of
groups read so far are handed on. -/
def pieces : Nat → Bool → List (List Char) → List Expr → List Expr → List Char →
    Option (Expr × List (List Char) × List Char)
  | 0, _, _, _, _, _ => none
  | fuel + 1, verbose, names, items, before, s =>
    let next (items : List Expr) (rest : List Char) :=
      pieces fuel verbose names items before rest
    let again (min : Nat) (max : Option Nat) (rest : List Char) := do
      let (greedy, rest) := greed rest
      next (← repeatLast items min max greedy) rest
    let grouped (names : List (List Char)) (captures : Bool) (changes : List (Flag × Bool))
        (rest : List Char) := do
      match ← pieces fuel (verboseAfter verbose changes) names [] [] rest with
      | (e, names, ')' :: rest) =>
        pieces fuel verbose names (.group captures changes e :: items) before rest
      | _ => none
    match skip verbose s with
    | [] => some (branches items before, names, [])
    | ')' :: rest => some (branches items before, names, ')' :: rest)
    | '|' :: rest => pieces fuel verbose names [] (.ofItems items.reverse :: before) rest
    | '(' :: rest => do
      match ← opening verbose rest with
      | (.flags changes, rest) =>
        pieces fuel (verboseAfter verbose changes) names (.flags changes :: items) before rest
      | (.plain changes, rest) => grouped names false changes rest
      | (.group none, rest) => grouped names true [] rest
      | (.group (some n), rest) =>
        if names.contains n then none else grouped (n :: names) true [] rest
    | '[' :: rest => do
      let (e, rest) ← bracketed verbose rest
      next (.set e :: items) rest
    | '?' :: rest => again 0 (some 1) rest
    | '*' :: rest => again 0 none rest
    | '+' :: rest => again 1 none rest
    | '\x7b' :: rest => do
      let (min, max, rest) ← bounds verbose rest
      again min max (skip verbose rest)
    | '\\' :: rest => do
      let (e, rest) ← escape verbose rest
      next (e :: items) rest
    | '.' :: rest => next (.point :: items) rest
    | '^' :: rest => next (.caret :: items) rest
    | '$' :: rest => next (.dollar :: items) rest
    | c :: rest => next (.literal c false :: items) rest

/-- The expression of a pattern, if it is well formed. -/
def expression? (pattern : List Char) : Option Expr :=
  match pieces (pattern.length + 1) false [] [] [] pattern with
  | some (e, _, []) => some e
  | _ => none

end Reader
end Pattern
end ClusterRig
