import ClusterRig.Decimal.Shortest

/-!
# Writing numbers

A `Layout` says when a number is written in plain positions and how an exponent
is written otherwise. `fixed` writes a given number of decimal places.
-/

namespace ClusterRig
namespace Decimal

/-- The exponents of the first digit for which the plain form is used, from
`plainFrom` up to but not including `plainBelow`. -/
structure Layout where
  plainFrom : Int
  plainBelow : Int
  exponentMark : Char
  positiveSign : Bool

namespace Layout

/-- Numbers in documents are plain from `1e-5` up to `1e16`, always with a
fraction; beyond that the sign of the exponent is written and a whole coefficient
has no fraction. -/
def document : Layout := ⟨-5, 16, 'e', true⟩

/-- Digits with the decimal point after the first `whole` of them, at least one
digit on either side. -/
def plain (digits : List Char) (whole : Int) : List Char :=
  if whole ≤ 0 then
    '0' :: '.' :: (List.replicate (-whole).toNat '0' ++ digits)
  else
    let n := whole.toNat
    let before := digits.take n ++ List.replicate (n - digits.length) '0'
    let after := digits.drop n
    before ++ '.' :: (if after.isEmpty then ['0'] else after)

def scientific (l : Layout) (digits : List Char) (exponent : Int) : List Char :=
  let head := match digits with
    | [] => []
    | [d] => [d]
    | d :: rest => d :: '.' :: rest
  let sign := if exponent < 0 then ['-'] else if l.positiveSign then ['+'] else []
  head ++ l.exponentMark :: (sign ++ Nat.toDigits 10 exponent.natAbs)

/-- Drop the zeros at the end of the digits. -/
def significantDigits (n : Nat) : List Char :=
  ((Nat.toDigits 10 n).reverse.dropWhile (· == '0')).reverse

def writeMagnitude (l : Layout) (x : Magnitude) : List Char :=
  if x.isZero then ['0', '.', '0']
  else
    let d := x.shortest
    let all := Nat.toDigits 10 d.coefficient
    let first := (all.length : Int) - 1 + d.exponent
    let digits := significantDigits d.coefficient
    if l.plainFrom ≤ first ∧ first < l.plainBelow then plain digits (first + 1)
    else l.scientific digits first

def write (l : Layout) (x : Binary64) : List Char :=
  (if x.negative then ['-'] else []) ++ l.writeMagnitude x.magnitude

end Layout

/-- The magnitude in hundredths, rounded to a whole number of them. -/
def hundredths (x : Magnitude) : Nat := roundHalfEven (x.units * 100) Magnitude.one

/-- The magnitude with exactly two decimal places. -/
def twoPlaces (x : Magnitude) : List Char :=
  let n := hundredths x
  Nat.toDigits 10 (n / 100) ++ '.' :: Nat.toDigits 10 (n / 10 % 10) ++ Nat.toDigits 10 (n % 10)

end Decimal
end ClusterRig
