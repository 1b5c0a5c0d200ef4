import ClusterRig.Decimal.Binary64
import ClusterRig.Text.Numeral

/-!
# Quick reading of decimal literals

A literal is read in two steps, neither of which needs big numbers: its digits
are gathered into a significand of 64 bits and a power of ten, and the
significand is multiplied or divided once by the rounded power. The result is
exact for short literals and can differ from the nearest number in the last bit
for long ones or large powers.
-/

namespace ClusterRig
namespace Decimal

/-- `significand * 10 ^ exponent`, and whether a digit has been left out. -/
structure Gathered where
  significand : Nat
  exponent : Int
  full : Bool

namespace Gathered

/-- The first digit that does not fit into 64 bits is left out, and all after it. -/
def takes (g : Gathered) (d : Char) : Bool :=
  !g.full && g.significand * 10 + Text.digitValue d < UInt64.size

def whole (g : Gathered) (d : Char) : Gathered :=
  if g.takes d then ⟨g.significand * 10 + Text.digitValue d, g.exponent, false⟩
  else ⟨g.significand, g.exponent + 1, true⟩

def fraction (g : Gathered) (d : Char) : Gathered :=
  if g.takes d then ⟨g.significand * 10 + Text.digitValue d, g.exponent - 1, false⟩
  else ⟨g.significand, g.exponent, true⟩

/-- Gather the digits before and after the decimal point. -/
def ofDigits (before after : List Char) : Gathered :=
  let g := before.foldl whole ⟨0, 0, false⟩
  after.foldl fraction ⟨g.significand, g.exponent, false⟩

end Gathered

namespace Magnitude

/-- The greatest power of ten in range. -/
def greatestPower : Nat := 308

def powerOfTen (k : Nat) : Magnitude := ofNat (Nat.pow 10 k)

/-- Divide by `10 ^ k`, in steps of the greatest power. -/
def shrink (x : Magnitude) (k : Nat) : Magnitude :=
  if k ≤ greatestPower then x.div (powerOfTen k)
  else if x.isZero then x
  else shrink (x.div (powerOfTen greatestPower)) (k - greatestPower)
termination_by k
decreasing_by simp [greatestPower] at *; omega

/-- Multiply by a power of ten, if the result is in range. -/
def shift? (x : Magnitude) (exponent : Int) : Option Magnitude :=
  if exponent < 0 then some (x.shrink exponent.natAbs)
  else if exponent ≤ greatestPower then
    let y := x.mul (powerOfTen exponent.toNat)
    if y.inRange then some y else none
  else if x.isZero then some x
  else none

end Magnitude

/-- The number of a literal, given the digits around its point and its exponent. -/
def Binary64.ofLiteral? (negative : Bool) (before after : List Char) (exponent : Int) :
    Option Binary64 :=
  let g := Gathered.ofDigits before after
  ((Magnitude.ofNat g.significand).shift? (g.exponent + exponent)).map fun x => ⟨negative, x⟩

end Decimal
end ClusterRig
