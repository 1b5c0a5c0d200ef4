import ClusterRig.Decimal.Binary64

/-!
# The shortest decimal that reads back

Among the decimals that lie nearer to a magnitude than to any other, the one with
the fewest digits is chosen, and of several the one nearest to the magnitude.
-/

namespace ClusterRig
namespace Decimal

/-- The decimal `coefficient * 10 ^ exponent`. -/
structure Scientific where
  coefficient : Nat
  exponent : Int
  deriving DecidableEq, Repr

namespace Magnitude

/-- Quarter units from zero to the magnitude, and to the ends of the interval of
numbers that round to it. Below a power of two the interval is half as wide. -/
def quarters (x : Magnitude) : Nat := 4 * x.units

def lowerQuarters (x : Magnitude) : Nat :=
  if x.significand = Nat.pow 2 52 ∧ x.scale ≠ 0 then x.quarters - Nat.pow 2 x.scale
  else x.quarters - 2 * Nat.pow 2 x.scale

def upperQuarters (x : Magnitude) : Nat := x.quarters + 2 * Nat.pow 2 x.scale

/-- Whether a decimal rounds to the magnitude; the ends of the interval do so when
the significand is even. -/
def admits (x : Magnitude) (d : Scientific) : Bool :=
  let point := d.coefficient * Nat.pow 10 d.exponent.toNat * (4 * one)
  let scaled (q : Nat) := q * Nat.pow 10 (-d.exponent).toNat
  if x.significand % 2 = 0 then
    scaled x.lowerQuarters ≤ point && point ≤ scaled x.upperQuarters
  else
    scaled x.lowerQuarters < point && point < scaled x.upperQuarters

/-- The two multiples of `10 ^ exponent` around the magnitude, the nearer one first. -/
def neighbours (x : Magnitude) (exponent : Int) : List Scientific :=
  let num := x.units * Nat.pow 10 (-exponent).toNat
  let den := one * Nat.pow 10 exponent.toNat
  let low := num / den
  if roundHalfEven num den = low then [⟨low, exponent⟩, ⟨low + 1, exponent⟩]
  else [⟨low + 1, exponent⟩, ⟨low, exponent⟩]

/-- The exponent of the first digit of a positive magnitude. -/
def firstExponent (x : Magnitude) : Int :=
  let places : Nat := 330
  ((Nat.toDigits 10 (x.units * Nat.pow 10 places / one)).length : Int) - 1 - (places : Int)

/-- Try the grids of `digits`, `digits + 1`, … digits; the last one is not tested,
because 17 digits always suffice. -/
def shortestFrom (x : Magnitude) (first : Int) : Nat → Nat → Scientific
  | 0, digits => ((neighbours x (first - digits + 1)).headD ⟨0, 0⟩)
  | more + 1, digits =>
    match (neighbours x (first - digits + 1)).find? (admits x) with
    | some d => d
    | none => shortestFrom x first more (digits + 1)

def shortest (x : Magnitude) : Scientific :=
  if x.isZero then ⟨0, 0⟩ else shortestFrom x x.firstExponent 16 1

end Magnitude
end Decimal
end ClusterRig
