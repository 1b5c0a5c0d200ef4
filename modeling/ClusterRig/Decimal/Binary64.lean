import ClusterRig.Decimal.Rounding

/-!
# Binary floating point with 53 bits

A magnitude is `significand * 2 ^ scale` units, the unit being the least positive
magnitude `2 ^ -1074`. Every operation takes the exact rational result and rounds
it to the nearest magnitude, a half to the even significand. Magnitudes are not
bounded above: whether one is in the range of the 64-bit format is a question of
its own.
-/

namespace ClusterRig
namespace Decimal

/-- `significand * 2 ^ scale` units of `2 ^ -1074`. -/
structure Magnitude where
  significand : Nat
  scale : Nat
  deriving DecidableEq, Repr

namespace Magnitude

/-- The number of units in one. -/
def one : Nat := Nat.pow 2 1074

def units (x : Magnitude) : Nat := x.significand * Nat.pow 2 x.scale

/-- The magnitude nearest to `num / den`. -/
def ofRatio (num den : Nat) : Magnitude :=
  let n := num * one
  let scale := Nat.log2 (n / den) + 1 - 53
  let m := roundHalfEven n (den * Nat.pow 2 scale)
  if m = Nat.pow 2 53 then ⟨Nat.pow 2 52, scale + 1⟩ else ⟨m, scale⟩

def ofNat (n : Nat) : Magnitude := ofRatio n 1

def mul (x y : Magnitude) : Magnitude := ofRatio (x.units * y.units) (one * one)

def div (x y : Magnitude) : Magnitude := ofRatio x.units y.units

/-- The nearest whole number, a half going away from zero. -/
def round (x : Magnitude) : Magnitude := ofNat (roundHalfUp x.units one)

/-- No larger than the greatest finite number of the 64-bit format. -/
def inRange (x : Magnitude) : Bool := x.scale ≤ 2045

def isZero (x : Magnitude) : Bool := x.significand == 0

end Magnitude

/-- A finite number with its sign; zero has both signs. -/
structure Binary64 where
  negative : Bool
  magnitude : Magnitude
  deriving DecidableEq, Repr

namespace Binary64

def isZero (x : Binary64) : Bool := x.magnitude.isZero

def zero (negative : Bool) : Binary64 := ⟨negative, ⟨0, 0⟩⟩

/-- The number nearest to a decimal fraction, if in range. Fractions of at least
`10 ^ 400` or below `10 ^ -400` are decided without computing them. -/
def ofDecimal? (negative : Bool) (coefficient : Nat) (exponent : Int) : Option Binary64 :=
  if coefficient = 0 then some (zero negative)
  else if 400 ≤ exponent then none
  else if exponent + (Nat.toDigits 10 coefficient).length < -400 then some (zero negative)
  else
    let x := Magnitude.ofRatio (coefficient * Nat.pow 10 exponent.toNat)
      (Nat.pow 10 (-exponent).toNat)
    if x.inRange then some ⟨negative, x⟩ else none

end Binary64
end Decimal
end ClusterRig
