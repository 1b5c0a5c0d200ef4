import ClusterRig.Shell.Integer

/-!
# Arithmetic

Integer expressions with the operators of C, in 64 bits. An expression is read
first and then evaluated, where only the side that counts of a choice, a
conjunction or a disjunction is looked at. Names stand for variables, which
assignments change. Of an expression that is not well formed the part before the
mistake is evaluated as well, since what is wrong there is told first.
-/

namespace ClusterRig
namespace Shell
namespace Arithmetic

inductive Unary
  | plus
  | minus
  | not
  | complement
  deriving DecidableEq, Repr

inductive Binary
  | mul | div | rem
  | add | sub
  | shiftLeft | shiftRight
  | less | atMost | greater | atLeast
  | equal | unequal
  | and | xor | or
  deriving DecidableEq, Repr

inductive Expr
  | number (n : Int)
  | variable (name : List Char)
  | unary (op : Unary) (a : Expr)
  | binary (op : Binary) (a b : Expr)
  | both (a b : Expr)
  | either (a b : Expr)
  | choice (a b c : Expr)
  | assign (name : List Char) (op : Option Binary) (a : Expr)
  /-- An expression behind which something is wrong. -/
  | broken (a : Expr)

/-! ## Reading -/

inductive Token
  | number (n : Int)
  | name (s : List Char)
  | sign (s : String)
  | bad
  deriving DecidableEq

/-- The operators, longer ones before those they begin with. -/
def signs : List String :=
  ["<<=", ">>=", "<<", ">>", "<=", ">=", "==", "!=", "&&", "||", "*=", "/=", "%=", "+=", "-=", "&=",
    "^=", "|=", "<", ">", "=", "!", "&", "|", "*", "/", "%", "+", "-", "^", "~", "?", ":", "(", ")"]

def isNameStart (c : Char) : Bool := c.isAlpha || c == '_'

def isNameChar (c : Char) : Bool := c.isAlphanum || c == '_'

/-- What follows an operator at the start of a text, with that operator. -/
def sign? (s : List Char) : Option (String × List Char) :=
  signs.findSome? fun t => if t.toList.isPrefixOf s then some (t, s.drop t.length) else none

/-- The tokens of a text. What is no token stands as a bad one. -/
def tokens : Nat → List Char → List Token
  | 0, _ => []
  | _, [] => []
  | fuel + 1, c :: rest =>
    if c == ' ' || c == '\t' || c == '\n' then tokens fuel rest
    else if Text.isDigit c then
      match Integer.read? true (c :: rest) with
      | some (n, after) => .number (Integer.clamp n) :: tokens fuel after
      | none => [.bad]
    else if isNameStart c then
      .name ((c :: rest).takeWhile isNameChar)
        :: tokens fuel ((c :: rest).dropWhile isNameChar)
    else
      match sign? (c :: rest) with
      | some (t, after) => .sign t :: tokens fuel after
      | none => .bad :: tokens fuel rest

/-- The operator of a sign, and how tightly it binds. -/
def binary? : String → Option (Binary × Nat)
  | "*" => some (.mul, 8)
  | "/" => some (.div, 8)
  | "%" => some (.rem, 8)
  | "+" => some (.add, 7)
  | "-" => some (.sub, 7)
  | "<<" => some (.shiftLeft, 6)
  | ">>" => some (.shiftRight, 6)
  | "<" => some (.less, 5)
  | "<=" => some (.atMost, 5)
  | ">" => some (.greater, 5)
  | ">=" => some (.atLeast, 5)
  | "==" => some (.equal, 4)
  | "!=" => some (.unequal, 4)
  | "&" => some (.and, 3)
  | "^" => some (.xor, 2)
  | "|" => some (.or, 1)
  | _ => none

/-- The operator that an assignment applies, if its sign is one of an assignment. -/
def assignment? : String → Option (Option Binary)
  | "=" => some none
  | "*=" => some (some .mul)
  | "/=" => some (some .div)
  | "%=" => some (some .rem)
  | "+=" => some (some .add)
  | "-=" => some (some .sub)
  | "<<=" => some (some .shiftLeft)
  | ">>=" => some (some .shiftRight)
  | "&=" => some (some .and)
  | "^=" => some (some .xor)
  | "|=" => some (some .or)
  | _ => none

/-- What is left after an expression, or what is wrong with it. -/
abbrev Rest := Except String (List Token)

abbrev Reader := List Token → Expr × Rest

/-- There is no expression. -/
def nothing (why : String) : Expr × Rest := (.broken (.number 0), .error why)

/-- Put an expression that has been read into another one. -/
def wrap (f : Expr → Expr) (read : Expr × Rest) : Expr × Rest := (f read.1, read.2)

mutual

/-- An operand with the signs before it. -/
def primary : Nat → Reader
  | 0, _ => nothing "too long"
  | fuel + 1, ts =>
    match ts with
    | .number n :: ts => (.number n, .ok ts)
    | .name s :: ts => (.variable s, .ok ts)
    | .sign "(" :: ts =>
      match assignment fuel ts with
      | (e, .ok (.sign ")" :: ts)) => (e, .ok ts)
      | (e, .ok _) => (.broken e, .error "expecting ')'")
      | wrong => wrong
    | .sign "+" :: ts => wrap (.unary .plus) (primary fuel ts)
    | .sign "-" :: ts => wrap (.unary .minus) (primary fuel ts)
    | .sign "!" :: ts => wrap (.unary .not) (primary fuel ts)
    | .sign "~" :: ts => wrap (.unary .complement) (primary fuel ts)
    | _ => nothing "expecting primary"

/-- Go on after an operand, with operators that bind at least as tightly as `least`. -/
def operations : Nat → Nat → Expr → Reader
  | 0, _, _, _ => nothing "too long"
  | fuel + 1, least, a, ts =>
    match ts with
    | .sign s :: after =>
      match binary? s with
      | some (op, level) =>
        if level < least then (a, .ok ts)
        else
          match operand fuel (level + 1) after with
          | (b, .ok ts) => operations fuel least (.binary op a b) ts
          | wrong => wrap (.binary op a) wrong
      | none => (a, .ok ts)
    | _ => (a, .ok ts)

/-- An operand with operators that bind at least as tightly as `least`. -/
def operand : Nat → Nat → Reader
  | 0, _, _ => nothing "too long"
  | fuel + 1, least, ts =>
    match primary fuel ts with
    | (a, .ok ts) => operations fuel least a ts
    | wrong => wrong

def conjunction : Nat → Reader
  | 0, _ => nothing "too long"
  | fuel + 1, ts =>
    match operand fuel 0 ts with
    | (a, .ok (.sign "&&" :: ts)) => wrap (.both a) (conjunction fuel ts)
    | read => read

def disjunction : Nat → Reader
  | 0, _ => nothing "too long"
  | fuel + 1, ts =>
    match conjunction fuel ts with
    | (a, .ok (.sign "||" :: ts)) => wrap (.either a) (disjunction fuel ts)
    | read => read

def choice : Nat → Reader
  | 0, _ => nothing "too long"
  | fuel + 1, ts =>
    match disjunction fuel ts with
    | (a, .ok (.sign "?" :: ts)) =>
      match assignment fuel ts with
      | (b, .ok (.sign ":" :: ts)) => wrap (.choice a b) (choice fuel ts)
      | (b, .ok _) => (.choice a (.broken b) (.number 0), .error "expecting ':'")
      | wrong => wrap (fun b => .choice a b (.number 0)) wrong
    | read => read

def assignment : Nat → Reader
  | 0, _ => nothing "too long"
  | fuel + 1, ts =>
    match ts with
    | .name s :: .sign t :: after =>
      match assignment? t with
      | some op => wrap (.assign s op) (assignment fuel after)
      | none => choice fuel ts
    | ts => choice fuel ts

end

/-- The expression that is all of a text, and what is wrong with it if it is not well
formed. -/
def parse (s : List Char) : Expr × Option String :=
  let ts := tokens (s.length + 1) s
  match assignment (10 * ts.length + 10) ts with
  | (e, .ok []) => (e, none)
  | (e, .ok _) => (e, some "expecting EOF")
  | (e, .error why) => (e, some why)

/-! ## Evaluating -/

def truth (b : Bool) : Int := if b then 1 else 0

namespace Unary

def apply : Unary → Int → Int
  | .plus, n => n
  | .minus, n => Integer.wrap (-n)
  | .not, n => truth (n = 0)
  | .complement, n => -n - 1

end Unary

namespace Binary

/-- Shifts count modulo 64, and to the right they keep the sign. Division goes
towards zero, and there is no dividing by zero. -/
def result? (op : Binary) (a b : Int) : Option Int :=
  let distance := Integer.bits b % 64
  match op with
  | .mul => some (Integer.wrap (a * b))
  | .div => if b = 0 then none else some (Integer.wrap (a.tdiv b))
  | .rem => if b = 0 then none else some (a.tmod b)
  | .add => some (Integer.wrap (a + b))
  | .sub => some (Integer.wrap (a - b))
  | .shiftLeft => some (Integer.wrap (a * Nat.pow 2 distance))
  | .shiftRight => some (a / Nat.pow 2 distance)
  | .less => some (truth (a < b))
  | .atMost => some (truth (a ≤ b))
  | .greater => some (truth (b < a))
  | .atLeast => some (truth (b ≤ a))
  | .equal => some (truth (a = b))
  | .unequal => some (truth (a ≠ b))
  | .and => some (Integer.wrap (Integer.bits a &&& Integer.bits b : Nat))
  | .xor => some (Integer.wrap (Integer.bits a ^^^ Integer.bits b : Nat))
  | .or => some (Integer.wrap (Integer.bits a ||| Integer.bits b : Nat))

end Binary

inductive Trouble
  | byZero
  /-- The value of a variable is no number. -/
  | noNumber (value : List Char)
  /-- The expression is not well formed. -/
  | broken

/-- The value of an expression, with the variables as it leaves them. `look` gives the
texts of variables, `change` sets one. -/
def Expr.eval {σ : Type} (look : σ → List Char → List Char) (change : σ → List Char → Int → σ) :
    Expr → σ → Except Trouble (Int × σ)
  | .number n, s => .ok (n, s)
  | .variable name, s =>
    match Integer.whole? true (look s name) with
    | some n => .ok (n, s)
    | none => .error (.noNumber (look s name))
  | .unary op a, s => do
    let (m, s) ← a.eval look change s
    return (op.apply m, s)
  | .binary op a b, s => do
    let (m, s) ← a.eval look change s
    let (n, s) ← b.eval look change s
    match op.result? m n with
    | some v => return (v, s)
    | none => .error .byZero
  | .both a b, s => do
    let (m, s) ← a.eval look change s
    if m = 0 then return (0, s)
    else
      let (n, s) ← b.eval look change s
      return (truth (n ≠ 0), s)
  | .either a b, s => do
    let (m, s) ← a.eval look change s
    if m ≠ 0 then return (1, s)
    else
      let (n, s) ← b.eval look change s
      return (truth (n ≠ 0), s)
  | .choice a b c, s => do
    let (m, s) ← a.eval look change s
    if m ≠ 0 then b.eval look change s else c.eval look change s
  | .broken a, s => do
    let _ ← a.eval look change s
    throw .broken
  | .assign name op a, s => do
    let (n, s) ← a.eval look change s
    match op with
    | none => return (n, change s name n)
    | some op =>
      match Integer.whole? true (look s name) with
      | none => .error (.noNumber (look s name))
      | some m =>
        match op.result? m n with
        | some v => return (v, change s name v)
        | none => .error .byZero

end Arithmetic
end Shell
end ClusterRig
