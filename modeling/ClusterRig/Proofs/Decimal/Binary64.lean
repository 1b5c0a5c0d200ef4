import ClusterRig.Decimal.Binary64
import ClusterRig.Proofs.Decimal.Rounding
import Mathlib.Tactic.FieldSimp
import Mathlib.Tactic.Ring

/-!
# Magnitudes nearest to a number

What an operation makes of its exact result. The result is counted in steps of as many
units as leave it 53 bits, and the nearest number of steps is taken. Main statement: no
magnitude is nearer to the exact result, and one that is as near has the odd significand.
It follows how far off the magnitude is, that results of at most 53 bits are exact, and
that operations keep the order of their results.
-/

namespace ClusterRig
namespace Decimal
namespace Magnitude

/-- The number that a magnitude stands for. -/
def value (x : Magnitude) : ℚ := x.units / one

/-- The significand has 53 bits, or fewer where the step is a single unit. -/
structure Normal (x : Magnitude) : Prop where
  significand_lt : x.significand < 2 ^ 53
  le_significand : x.scale ≠ 0 → 2 ^ 52 ≤ x.significand

/-- No magnitude is nearer to `q`, and if one is as near then `x` is the even one. -/
structure Nearest (q : ℚ) (x : Magnitude) : Prop where
  normal : x.Normal
  abs_le : ∀ y, Normal y → |x.value - q| ≤ |y.value - q|
  even : ∀ y, Normal y → y.value ≠ x.value → |y.value - q| = |x.value - q| → Even x.significand

/-- The number `q` has 53 bits before the point, or fewer if `s` is zero, when it is counted
in steps of `2 ^ s` units, and `m` is the nearest number of steps. -/
structure Steps (q : ℚ) (m s : ℕ) : Prop where
  nearest : NearestEven (q * one / 2 ^ s) m
  lt : q * one < 2 ^ (53 + s)
  le : s ≠ 0 → 2 ^ (52 + s) ≤ q * one

/-- As many steps of `2 ^ s` units. -/
def ofSteps (m s : ℕ) : Magnitude :=
  if m = Nat.pow 2 53 then ⟨Nat.pow 2 52, s + 1⟩ else ⟨m, s⟩

/-- The result of an operation that has the exact result `q`. -/
def Rounded (q : ℚ) (x : Magnitude) : Prop := ∃ m s, Steps q m s ∧ x = ofSteps m s

theorem cast_two_pow (n : ℕ) : ((Nat.pow 2 n : ℕ) : ℚ) = 2 ^ n := by
  rw [Nat.pow_eq, Nat.cast_pow, Nat.cast_ofNat]

theorem one_cast : (one : ℚ) = 2 ^ 1074 := by
  unfold one
  -- No step below may evaluate this power.
  generalize 1074 = n
  exact cast_two_pow n

theorem one_pos : (0 : ℚ) < one := by
  rw [one_cast]
  positivity

theorem units_eq (x : Magnitude) : x.units = x.significand * 2 ^ x.scale := rfl

theorem units_cast (x : Magnitude) : (x.units : ℚ) = x.value * one :=
  (div_mul_cancel₀ _ one_pos.ne').symm

theorem value_nonneg (x : Magnitude) : 0 ≤ x.value := div_nonneg (Nat.cast_nonneg _) one_pos.le

theorem steps_ofRatio {num den : ℕ} (h : 0 < den) :
    let s := Nat.log2 (num * one / den) + 1 - 53
    Steps (num / den) (roundHalfEven (num * one) (den * Nat.pow 2 s)) s := by
  intro s
  have hd : (0 : ℚ) < den := by positivity
  have hq : (num / den : ℚ) * one = (num * one : ℕ) / den := by
    rw [Nat.cast_mul, div_mul_eq_mul_div]
  refine ⟨?_, ?_, fun hs => ?_⟩
  · rw [hq, div_div, Nat.pow_eq]
    exact_mod_cast nearestEven_roundHalfEven (by positivity)
  · have hlog : num * one / den < 2 ^ (53 + s) :=
      Nat.lt_log2_self.trans_le (Nat.pow_le_pow_right two_pos (by omega))
    rw [hq, div_lt_iff₀ hd]
    exact_mod_cast (Nat.div_lt_iff_lt_mul h).mp hlog
  · have hne : num * one / den ≠ 0 := by
      intro h0
      simp [s, h0] at hs
    have hlog : Nat.log2 (num * one / den) = 52 + s := by omega
    have hle : 2 ^ (52 + s) ≤ num * one / den := hlog ▸ Nat.log2_self_le hne
    rw [hq, le_div_iff₀ hd]
    exact_mod_cast (Nat.le_div_iff_mul_le h).mp hle

theorem rounded_ofRatio {num den : ℕ} (h : 0 < den) : Rounded (num / den) (ofRatio num den) :=
  ⟨_, _, steps_ofRatio h, rfl⟩

theorem rounded_ofNat (n : ℕ) : Rounded n (ofNat n) := by
  have h : Rounded ((n : ℚ) / (1 : ℕ)) (ofNat n) := rounded_ofRatio Nat.one_pos
  rwa [Nat.cast_one, div_one] at h

theorem rounded_mul (x y : Magnitude) : Rounded (x.value * y.value) (x.mul y) := by
  have h : Rounded ((x.units * y.units : ℕ) / (one * one : ℕ)) (x.mul y) := by
    refine rounded_ofRatio ?_
    exact_mod_cast mul_pos one_pos one_pos
  rwa [Nat.cast_mul, Nat.cast_mul, ← div_mul_div_comm] at h

theorem rounded_div (x : Magnitude) {y : Magnitude} (h : 0 < y.value) :
    Rounded (x.value / y.value) (x.div y) := by
  have hy : (0 : ℚ) < y.units := by
    rw [units_cast]
    exact mul_pos h one_pos
  have hr : Rounded (x.units / y.units) (x.div y) := rounded_ofRatio (by exact_mod_cast hy)
  rwa [← div_div_div_cancel_right₀ one_pos.ne'] at hr

/-- A whole number is rounded once more, when it is written as a magnitude. -/
theorem rounded_round (x : Magnitude) : Rounded ⌊x.value + 1 / 2⌋₊ x.round := by
  rw [value, ← roundHalfUp_eq_floor (by exact_mod_cast one_pos)]
  exact rounded_ofNat _

theorem units_ofSteps (m s : ℕ) : (ofSteps m s).units = m * 2 ^ s := by
  unfold ofSteps
  split_ifs with h
  · rw [h, units_eq, Nat.pow_eq, Nat.pow_eq, pow_succ 2 s]
    ring
  · rfl

theorem Normal.inRange {x : Magnitude} (hx : x.Normal) {t : ℕ} (ht : t ≤ 1023)
    (h : x.value < 2 ^ t) : x.inRange = true := by
  have hscale : x.scale ≠ 0 → 52 + x.scale < t + 1074 := by
    intro hs
    have hle : (2 : ℚ) ^ (52 + x.scale) ≤ x.units := by
      rw [pow_add]
      exact_mod_cast Nat.mul_le_mul_right (2 ^ x.scale) (hx.le_significand hs)
    have hlt : (x.units : ℚ) < 2 ^ (t + 1074) := by
      rw [units_cast, pow_add, one_cast]
      exact mul_lt_mul_of_pos_right h (by positivity)
    exact (pow_lt_pow_iff_right₀ one_lt_two).mp (hle.trans_lt hlt)
  refine decide_eq_true ?_
  omega

theorem value_sub_eq {x : Magnitude} {m s : ℕ} (h : x.units = m * 2 ^ s) (q : ℚ) :
    x.value - q = (m - q * one / 2 ^ s) * (2 ^ s / one) := by
  have hone : (one : ℚ) ≠ 0 := one_pos.ne'
  rw [value, h]
  -- The power that `one` is must not be evaluated here either.
  generalize (one : ℚ) = units at *
  push_cast
  field_simp

theorem abs_value_sub {x : Magnitude} {m s : ℕ} (h : x.units = m * 2 ^ s) (q : ℚ) :
    |x.value - q| = |m - q * one / 2 ^ s| * (2 ^ s / one) := by
  have hpos : (0 : ℚ) < 2 ^ s / one := div_pos (by positivity) one_pos
  rw [value_sub_eq h, abs_mul, abs_of_pos hpos]

namespace Steps

variable {q r : ℚ} {m n s t : ℕ}

theorem le_two_pow (h : Steps q m s) : m ≤ 2 ^ 53 := by
  refine h.nearest.le_of_le (.natCast _) ?_
  rw [div_le_iff₀ (by positivity), Nat.cast_pow, Nat.cast_ofNat, ← pow_add]
  exact h.lt.le

theorem two_pow_le (h : Steps q m s) (hs : s ≠ 0) : 2 ^ 52 ≤ m := by
  refine NearestEven.le_of_le (.natCast _) h.nearest ?_
  rw [le_div_iff₀ (by positivity), Nat.cast_pow, Nat.cast_ofNat, ← pow_add]
  exact h.le hs

theorem scale_le (h : Steps q m s) (hq : q * one < 2 ^ (53 + t)) : s ≤ t := by
  by_cases hs : s = 0
  · omega
  · have hlt : (2 : ℚ) ^ (52 + s) < 2 ^ (53 + t) := (h.le hs).trans_lt hq
    rw [pow_lt_pow_iff_right₀ one_lt_two] at hlt
    omega

theorem normal (h : Steps q m s) : (ofSteps m s).Normal := by
  unfold ofSteps
  split_ifs with hm
  · exact ⟨by norm_num, fun _ => le_rfl⟩
  · exact ⟨lt_of_le_of_ne h.le_two_pow hm, h.two_pow_le⟩

theorem even_significand (hm : Even m) : Even (ofSteps m s).significand := by
  unfold ofSteps
  split_ifs
  · exact ⟨2 ^ 51, by norm_num⟩
  · exact hm

/-- The units of a magnitude with a greater step are steps of the lesser one. -/
theorem units_eq_of_scale_le {y : Magnitude} (hs : s ≤ y.scale) :
    y.units = y.significand * 2 ^ (y.scale - s) * 2 ^ s := by
  rw [units_eq, mul_assoc, ← pow_add, Nat.sub_add_cancel hs]

theorem abs_le_of_scale_le (h : Steps q m s) {y : Magnitude} (hs : s ≤ y.scale) :
    |(ofSteps m s).value - q| ≤ |y.value - q| := by
  have hpos : (0 : ℚ) ≤ 2 ^ s / one := (div_pos (by positivity) one_pos).le
  rw [abs_value_sub (units_ofSteps m s), abs_value_sub (units_eq_of_scale_le hs)]
  exact mul_le_mul_of_nonneg_right (h.nearest.abs_le_abs _) hpos

theorem even_of_tie (h : Steps q m s) {y : Magnitude} (hs : s ≤ y.scale)
    (hne : y.value ≠ (ofSteps m s).value)
    (ht : |y.value - q| = |(ofSteps m s).value - q|) : Even m := by
  have hpos : (0 : ℚ) < 2 ^ s / one := div_pos (by positivity) one_pos
  rw [abs_value_sub (units_ofSteps m s), abs_value_sub (units_eq_of_scale_le hs)] at ht
  refine h.nearest.even_of_tie (fun he => hne ?_) (mul_right_cancel₀ hpos.ne' ht)
  rw [value, value, units_ofSteps, units_eq_of_scale_le hs, he]

/-- A magnitude with a lesser step is farther away than the first one of 53 bits. -/
theorem abs_lt_of_scale_lt (h : Steps q m s) {y : Magnitude} (hy : y.Normal) (hs : y.scale < s) :
    |(ofSteps m s).value - q| < |y.value - q| := by
  have hfirst : (⟨2 ^ 52, s⟩ : Magnitude).value ≤ q := by
    rw [value, div_le_iff₀ one_pos, units_eq, ← pow_add, Nat.cast_pow, Nat.cast_ofNat]
    exact h.le (by omega)
  have hyfirst : y.value < (⟨2 ^ 52, s⟩ : Magnitude).value := by
    rw [value, value, div_lt_div_iff_of_pos_right one_pos, units_eq, units_eq, Nat.cast_lt]
    calc y.significand * 2 ^ y.scale
        < 2 ^ 53 * 2 ^ y.scale := Nat.mul_lt_mul_of_pos_right hy.significand_lt (by positivity)
      _ = 2 ^ 52 * 2 ^ (y.scale + 1) := by ring
      _ ≤ 2 ^ 52 * 2 ^ s := Nat.mul_le_mul_left _ (Nat.pow_le_pow_right two_pos hs)
  calc |(ofSteps m s).value - q|
      ≤ |(⟨2 ^ 52, s⟩ : Magnitude).value - q| := h.abs_le_of_scale_le le_rfl
    _ = q - (⟨2 ^ 52, s⟩ : Magnitude).value := by rw [abs_sub_comm, abs_of_nonneg (by linarith)]
    _ < q - y.value := by linarith
    _ = |y.value - q| := by rw [abs_sub_comm, abs_of_nonneg (by linarith)]

theorem units_le (h : Steps q m s) (h' : Steps r n t) (hqr : q ≤ r) : m * 2 ^ s ≤ n * 2 ^ t := by
  have hexact : q * one ≤ r * one := mul_le_mul_of_nonneg_right hqr one_pos.le
  have hst : s ≤ t := h.scale_le (hexact.trans_lt h'.lt)
  rcases hst.eq_or_lt with rfl | hlt
  · refine Nat.mul_le_mul_right _ (h.nearest.le_of_le h'.nearest ?_)
    exact div_le_div_of_nonneg_right hexact (by positivity)
  · calc m * 2 ^ s
        ≤ 2 ^ 53 * 2 ^ s := Nat.mul_le_mul_right _ h.le_two_pow
      _ = 2 ^ 52 * 2 ^ (s + 1) := by ring
      _ ≤ 2 ^ 52 * 2 ^ t := Nat.mul_le_mul_left _ (Nat.pow_le_pow_right two_pos hlt)
      _ ≤ n * 2 ^ t := Nat.mul_le_mul_right _ (h'.two_pow_le (by omega))

end Steps

namespace Rounded

variable {q r : ℚ} {x y : Magnitude}

theorem nearest (h : Rounded q x) : Nearest q x := by
  obtain ⟨m, s, h, rfl⟩ := h
  refine ⟨h.normal, fun y hy => ?_, fun y hy hne ht => ?_⟩
  · rcases Nat.lt_or_ge y.scale s with hs | hs
    · exact (h.abs_lt_of_scale_lt hy hs).le
    · exact h.abs_le_of_scale_le hs
  · rcases Nat.lt_or_ge y.scale s with hs | hs
    · exact absurd ht (h.abs_lt_of_scale_lt hy hs).ne'
    · exact Steps.even_significand (h.even_of_tie hs hne ht)

/-- Operations keep the order of their exact results. -/
theorem value_le (hx : Rounded q x) (hy : Rounded r y) (h : q ≤ r) : x.value ≤ y.value := by
  obtain ⟨m, s, hx, rfl⟩ := hx
  obtain ⟨n, t, hy, rfl⟩ := hy
  rw [value, value, div_le_div_iff_of_pos_right one_pos, units_ofSteps, units_ofSteps, Nat.cast_le]
  exact hx.units_le hy h

/-- The result is off by at most half a step. -/
theorem abs_sub_le (h : Rounded q x) {t : ℕ} (hq : q < 2 ^ t) : |x.value - q| ≤ 2 ^ t / 2 ^ 54 := by
  obtain ⟨m, s, h, rfl⟩ := h
  have hs : s ≤ t + 1021 := by
    refine h.scale_le ?_
    have hexact : q * one < 2 ^ t * 2 ^ 1074 := by
      rw [one_cast]
      exact mul_lt_mul_of_pos_right hq (by positivity)
    rwa [← pow_add, show t + 1074 = 53 + (t + 1021) by omega] at hexact
  have hstep : (2 : ℚ) ^ s ≤ 2 ^ (t + 1021) := pow_le_pow_right₀ one_le_two hs
  rw [abs_value_sub (units_ofSteps m s)]
  calc |m - q * one / 2 ^ s| * (2 ^ s / one)
      ≤ 1 / 2 * (2 ^ (t + 1021) / one) :=
        mul_le_mul h.nearest.near (div_le_div_of_nonneg_right hstep one_pos.le)
          (div_pos (by positivity) one_pos).le one_half_pos.le
    _ = 2 ^ t / 2 ^ 54 := by
        rw [one_cast, pow_add]
        field_simp

/-- A result of at most 53 bits is exact. -/
theorem value_eq (h : Rounded q x) {j i : ℕ} (hj : j < 2 ^ 53) (hi : i ≤ 1074)
    (hq : q = j / 2 ^ i) : x.value = q := by
  obtain ⟨m, s, h, rfl⟩ := h
  have hexact : q * one = j * 2 ^ (1074 - i) := by
    rw [hq, one_cast, div_mul_eq_mul_div, mul_div_assoc, pow_sub₀ 2 two_ne_zero hi, ← div_eq_mul_inv]
  have hs : s ≤ 1074 - i := by
    refine h.scale_le ?_
    rw [hexact, pow_add]
    exact mul_lt_mul_of_pos_right (by exact_mod_cast hj) (by positivity)
  have hsteps : q * one / 2 ^ s = (j * 2 ^ (1074 - i - s) : ℕ) := by
    rw [hexact, mul_div_assoc]
    push_cast
    rw [pow_sub₀ 2 two_ne_zero hs, ← div_eq_mul_inv]
  have hm : m = j * 2 ^ (1074 - i - s) := by
    refine h.nearest.eq_of_abs_lt ?_
    rw [hsteps, sub_self, abs_zero]
    exact one_half_pos
  rw [← sub_eq_zero, value_sub_eq (units_ofSteps m s), hsteps, hm, sub_self, zero_mul]

end Rounded

end Magnitude
end Decimal
end ClusterRig
