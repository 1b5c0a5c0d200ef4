import ClusterRig.Decimal.Binary64
import ClusterRig.Toml.Token

/-!
# Numbers in TOML

Digits may have single underscores between them. A decimal whole number has no
leading zeros; whole numbers have 64 bits with sign, and fractions are rounded to
the nearest floating-point number.
-/

namespace ClusterRig
namespace Toml
namespace Number

/-- What has been seen of a group of digits. -/
structure Seen where
  any : Bool := false
  zero : Bool := false
  underscore : Bool := false

/-- The digits at the start of a text, without their underscores, and what
follows them. -/
def digitsFrom (radix : Nat) (zeros : Bool) (seen : Seen) :
    List Char → Option (List Char × List Char)
  | [] => if seen.any && !seen.underscore then some ([], []) else none
  | c :: rest =>
    if c = '0' ∧ !seen.any then
      Token.before [c] (digitsFrom radix zeros ⟨true, true, false⟩ rest)
    else if (Token.digit? radix c).isSome then
      if seen.any && seen.zero && !zeros then none
      else Token.before [c] (digitsFrom radix zeros ⟨true, seen.zero, false⟩ rest)
    else if c = '_' ∧ !seen.any then none
    else if c = '_' ∧ !seen.underscore then
      digitsFrom radix zeros { seen with underscore := true } rest
    else if seen.any && !seen.underscore then some ([], c :: rest)
    else none

/-- A group of digits; unless `zeros`, a zero can only stand alone. -/
def digits (radix : Nat) (zeros : Bool) (s : List Char) : Option (List Char × List Char) :=
  digitsFrom radix zeros {} s

/-- A minus sign, and what follows it. -/
def sign : List Char → Bool × List Char
  | '-' :: rest => (true, rest)
  | s => (false, s)

def valueOf (radix : Nat) (ds : List Char) : Nat :=
  ds.foldl (fun n d => n * radix + (Token.digit? radix d).getD 0) 0

/-- A whole number that takes all of a text. -/
def whole (radix : Nat) (s : List Char) : Option Int64 := do
  let (negative, s) := if radix = 10 then sign s else (false, s)
  let (ds, rest) ← digits radix (radix ≠ 10) s
  let n : Int := valueOf radix ds
  let n := if negative then -n else n
  let fits := Int64.minValue.toInt ≤ n && n ≤ Int64.maxValue.toInt
  if rest.isEmpty && fits then some (Int64.ofInt n) else none

/-- Skip a plus sign. -/
def skipPlus : List Token → List Token
  | .plus :: ts => ts
  | ts => ts

/-- An exponent, which begins in the word of the number: after a bare `e` its
digits are the next word. -/
def exponent : List Char → List Token → Option (Option Int × List Token)
  | c :: rest, ts =>
    if c ≠ 'e' ∧ c ≠ 'E' then some (none, ts)
    else if rest.isEmpty then
      match skipPlus ts with
      | .word w :: ts =>
        match digits 10 false w with
        | some (ds, []) => some (some (Text.ofDigits ds : Int), ts)
        | _ => none
      | _ => none
    else
      let (negative, rest) := sign rest
      match digits 10 false rest with
      | some (ds, []) =>
        let n : Int := Text.ofDigits ds
        some (some (if negative then -n else n), ts)
      | _ => none
  | [], ts => some (none, ts)

/-- A floating-point number of which `s` is the first word. `after` is the word
after a decimal point. -/
def float (s : List Char) (after : Option (List Char)) (ts : List Token) :
    Option (Decimal.Binary64 × List Token) := do
  let (negative, unsigned) := sign s
  let (integral, rest) ← digits 10 false unsigned
  let (fraction, rest) ← match after with
    | none => some ([], rest)
    | some w => if rest.isEmpty then digits 10 true w else none
  let (e, ts) ← exponent rest ts
  let coefficient := Text.ofDigits (integral ++ fraction)
  let x ← Decimal.Binary64.ofDecimal? negative coefficient (e.getD 0 - fraction.length)
  return (x, ts)

end Number
end Toml
end ClusterRig
