import ClusterRig.Decimal.Rounding
import Mathlib.Algebra.Order.Floor.Semifield
import Mathlib.Data.Rat.Floor
import Mathlib.Tactic.Linarith
import Mathlib.Tactic.Positivity

/-!
# Integers nearest to a quotient

The two ways of rounding, seen on the rational number that is rounded. Main statement:
rounding halves to even gives an integer that no other one is nearer than, and which is
even where another is as near; rounding halves up gives the floor of the number and a half.
-/

namespace ClusterRig
namespace Decimal

/-- `n` is an integer nearest to `q`, and even if `q` lies halfway to another one. -/
structure NearestEven (q : ℚ) (n : ℕ) : Prop where
  near : |(n : ℚ) - q| ≤ 1 / 2
  even : |(n : ℚ) - q| = 1 / 2 → Even n

/-- A quotient is its whole part and a fraction. -/
theorem ratio_eq {num den : ℕ} (h : 0 < den) :
    (num : ℚ) / den = (num / den : ℕ) + ((num % den : ℕ) : ℚ) / den := by
  have hd : (den : ℚ) ≠ 0 := by positivity
  rw [div_eq_iff hd, add_mul, div_mul_cancel₀ _ hd]
  exact_mod_cast (Nat.div_add_mod' num den).symm

theorem nearestEven_roundHalfEven {num den : ℕ} (h : 0 < den) :
    NearestEven (num / den) (roundHalfEven num den) := by
  have hd : (0 : ℚ) < den := by positivity
  have hlt : num % den < den := Nat.mod_lt num h
  unfold roundHalfEven
  dsimp only
  split_ifs with hc
  · have hle : 2 * (num % den) ≤ den := by omega
    have hdist : |((num / den : ℕ) : ℚ) - num / den| = ((num % den : ℕ) : ℚ) / den := by
      rw [ratio_eq h, sub_add_cancel_left, abs_neg, abs_of_nonneg (by positivity)]
    constructor
    · rw [hdist, div_le_div_iff₀ hd two_pos]
      exact_mod_cast (by omega : num % den * 2 ≤ 1 * den)
    · rw [hdist, div_eq_div_iff hd.ne' two_ne_zero]
      intro ht
      have ht : num % den * 2 = 1 * den := by exact_mod_cast ht
      exact Nat.even_iff.mpr (by omega)
  · have hle : den ≤ 2 * (num % den) := by omega
    have hdist : |((num / den + 1 : ℕ) : ℚ) - num / den| = ((den - num % den : ℕ) : ℚ) / den := by
      have hone : (1 : ℚ) = den / den := (div_self hd.ne').symm
      rw [ratio_eq h, Nat.cast_add_one, add_sub_add_left_eq_sub, hone, ← sub_div,
        ← Nat.cast_sub hlt.le, abs_of_nonneg (by positivity)]
    constructor
    · rw [hdist, div_le_div_iff₀ hd two_pos]
      exact_mod_cast (by omega : (den - num % den) * 2 ≤ 1 * den)
    · rw [hdist, div_eq_div_iff hd.ne' two_ne_zero]
      intro ht
      have ht : (den - num % den) * 2 = 1 * den := by exact_mod_cast ht
      rw [Nat.even_iff]
      omega

/-- Rounding up where the fraction is at least a half is rounding down half a step later. -/
theorem roundHalfUp_eq_floor {num den : ℕ} (h : 0 < den) :
    roundHalfUp num den = ⌊(num / den : ℚ) + 1 / 2⌋₊ := by
  have hq : (num / den : ℚ) + 1 / 2 = ((2 * num + den : ℕ) : ℚ) / (2 * den : ℕ) := by
    have hd : (den : ℚ) ≠ 0 := by positivity
    push_cast
    rw [div_add_div _ _ hd two_ne_zero]
    ring
  rw [hq, Nat.floor_div_eq_div]
  rfl

namespace NearestEven

variable {q r : ℚ} {m n : ℕ}

theorem natCast (n : ℕ) : NearestEven n n := by
  constructor <;> norm_num

/-- Of a greater number no lesser integer is the nearest. -/
theorem le_of_le (hm : NearestEven q m) (hn : NearestEven r n) (h : q ≤ r) : m ≤ n := by
  by_contra hlt
  have hlt : n + 1 ≤ m := by omega
  have hlt' : (n : ℚ) + 1 ≤ m := by exact_mod_cast hlt
  obtain ⟨-, hqm⟩ := abs_le.mp hm.near
  obtain ⟨hrn, -⟩ := abs_le.mp hn.near
  -- Both numbers lie in the middle of two neighbours, and these cannot both be even.
  have hmq : (m : ℚ) - q = 1 / 2 := by linarith
  have hnr : (n : ℚ) - r = -(1 / 2) := by linarith
  have hme : Even m := hm.even (by rw [hmq, abs_of_pos (by norm_num)])
  have hne : Even n := hn.even (by rw [hnr, abs_neg, abs_of_pos (by norm_num)])
  have hmn : m = n + 1 := by
    have : (m : ℚ) = n + 1 := by linarith
    exact_mod_cast this
  rw [Nat.even_iff] at hme hne
  omega

theorem eq_of_abs_lt (hn : NearestEven q n) (h : |(m : ℚ) - q| < 1 / 2) : n = m := by
  obtain ⟨hnl, hnu⟩ := abs_le.mp hn.near
  obtain ⟨hml, hmu⟩ := abs_lt.mp h
  have hlt : (n : ℚ) < m + 1 := by linarith
  have hgt : (m : ℚ) < n + 1 := by linarith
  have hlt : n < m + 1 := by exact_mod_cast hlt
  have hgt : m < n + 1 := by exact_mod_cast hgt
  omega

/-- Another integer is at least half a step away. -/
theorem half_le_of_ne (hn : NearestEven q n) (h : m ≠ n) : 1 / 2 ≤ |(m : ℚ) - q| :=
  le_of_not_gt fun hlt => h (hn.eq_of_abs_lt hlt).symm

theorem abs_le_abs (hn : NearestEven q n) (m : ℕ) : |(n : ℚ) - q| ≤ |(m : ℚ) - q| := by
  by_cases h : m = n
  · rw [h]
  · exact hn.near.trans (hn.half_le_of_ne h)

theorem even_of_tie (hn : NearestEven q n) (h : m ≠ n) (ht : |(m : ℚ) - q| = |(n : ℚ) - q|) :
    Even n :=
  hn.even (le_antisymm hn.near (ht ▸ hn.half_le_of_ne h))

end NearestEven

end Decimal
end ClusterRig
