/-!
# Rounding a quotient to an integer

The two ways in which a quotient of natural numbers is rounded here. They differ
only on halves.
-/

namespace ClusterRig
namespace Decimal

/-- The integer nearest to `num / den`; a half goes to the even neighbour. -/
def roundHalfEven (num den : Nat) : Nat :=
  let q := num / den
  let r := num % den
  if 2 * r < den ∨ (2 * r = den ∧ q % 2 = 0) then q else q + 1

/-- The integer nearest to `num / den`; a half goes up. -/
def roundHalfUp (num den : Nat) : Nat := (2 * num + den) / (2 * den)

end Decimal
end ClusterRig
