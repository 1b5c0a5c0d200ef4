import ClusterRig.Decimal.Layout
import ClusterRig.PeakHeap
import ClusterRig.Proofs.Decimal.Binary64
import ClusterRig.Proofs.Text.Numeral

/-!
# Bytes in gibibytes

What the conversion of bytes comes to, each step of which is rounded. Main statement:
`gibibytes_hundredths` finds the number of hundredths that is meant and written. Up to
`2 ^ 53 / 25` bytes no step before the rounding to hundredths loses anything, so that the
number is the exact one; beyond that it is at most one off, and the order is always kept.
-/

namespace ClusterRig
namespace Decimal

/-- The text has two places behind the point, and it is a numeral of `q`. -/
def WritesHundredths (q : ℚ) (text : List Char) : Prop :=
  ∃ whole places, text = Text.decimal whole ++ '.' :: places ∧ places.length = 2 ∧
    (∀ d ∈ places, Text.isDigit d = true) ∧ q = whole + (Text.ofDigits places : ℚ) / 100

theorem toDigits_of_lt_ten : ∀ d < 10, Nat.toDigits 10 d = [Nat.digitChar d] ∧
    Text.isDigit (Nat.digitChar d) = true ∧ Text.digitValue (Nat.digitChar d) = d := by
  decide

theorem writesHundredths_twoPlaces (x : Magnitude) :
    WritesHundredths (hundredths x / 100) (twoPlaces x) := by
  generalize hn : hundredths x = n
  obtain ⟨ht, htd, htv⟩ := toDigits_of_lt_ten (n / 10 % 10) (Nat.mod_lt _ (by decide))
  obtain ⟨hu, hud, huv⟩ := toDigits_of_lt_ten (n % 10) (Nat.mod_lt _ (by decide))
  refine ⟨n / 100, [Nat.digitChar (n / 10 % 10), Nat.digitChar (n % 10)], ?_, rfl, ?_, ?_⟩
  · simp [twoPlaces, hn, ht, hu, Text.decimal]
  · simp [htd, hud]
  · have hv : n = n / 100 * 100 + (n / 10 % 10 * 10 + n % 10) := by omega
    have hd : Text.ofDigits [Nat.digitChar (n / 10 % 10), Nat.digitChar (n % 10)] =
        n / 10 % 10 * 10 + n % 10 := by
      simp [Text.ofDigits, htv, huv]
    rw [hd, eq_comm, add_div_eq_mul_add_div _ _ (by norm_num)]
    exact_mod_cast congrArg (fun m : ℕ => (m : ℚ) / 100) hv.symm

theorem nearestEven_hundredths (x : Magnitude) : NearestEven (x.value * 100) (hundredths x) := by
  have h : NearestEven ((x.units * 100 : ℕ) / Magnitude.one) (hundredths x) :=
    nearestEven_roundHalfEven (by exact_mod_cast Magnitude.one_pos)
  rwa [Nat.cast_mul, mul_div_right_comm] at h

end Decimal

namespace PeakHeap

open Decimal Magnitude

/-- The bytes in hundredths of a gibibyte, before these are rounded to a whole number. -/
def scaled (bytes : UInt64) : Magnitude :=
  ((ofNat bytes.toNat).div (ofNat gibibyte)).mul (ofNat 100)

/-- The whole number of hundredths that the conversion finds. -/
def wholeHundredths (bytes : UInt64) : ℕ := ⌊(scaled bytes).value + 1 / 2⌋₊

/-- The exact number of hundredths, a half going up. -/
def exactHundredths (bytes : UInt64) : ℕ := ⌊(100 * bytes.toNat / 2 ^ 30 : ℚ) + 1 / 2⌋₊

theorem value_hundred : (ofNat 100).value = 100 := by
  have h : (ofNat 100).value = ((100 : ℕ) : ℚ) :=
    (rounded_ofNat 100).value_eq (j := 100) (i := 0) (by norm_num) (by norm_num) (by norm_num)
  exact_mod_cast h

theorem value_gibibyte : (ofNat gibibyte).value = 2 ^ 30 := by
  have h : (ofNat gibibyte).value = (gibibyte : ℚ) :=
    (rounded_ofNat _).value_eq (j := gibibyte) (i := 0) (by decide) (by norm_num) (by norm_num)
  rw [h]
  norm_num [gibibyte]

theorem rounded_div_gibibyte (x : Magnitude) :
    Rounded (x.value / 2 ^ 30) (x.div (ofNat gibibyte)) := by
  have h := rounded_div x (y := ofNat gibibyte) (by rw [value_gibibyte]; norm_num)
  rwa [value_gibibyte] at h

theorem rounded_mul_hundred (x : Magnitude) : Rounded (x.value * 100) (x.mul (ofNat 100)) := by
  have h := rounded_mul x (ofNat 100)
  rwa [value_hundred] at h

theorem rounded_div_hundred (x : Magnitude) : Rounded (x.value / 100) (x.div (ofNat 100)) := by
  have h := rounded_div x (y := ofNat 100) (by rw [value_hundred]; norm_num)
  rwa [value_hundred] at h

/-- So many bytes leave 53 bits for a hundredfold of them. -/
theorem value_scaled {bytes : UInt64} (h : 25 * bytes.toNat < 2 ^ 53) :
    (scaled bytes).value = 100 * bytes.toNat / 2 ^ 30 := by
  have hbytes : (ofNat bytes.toNat).value = bytes.toNat :=
    (rounded_ofNat _).value_eq (j := bytes.toNat) (i := 0) (by omega) (by norm_num) (by norm_num)
  have hgib : ((ofNat bytes.toNat).div (ofNat gibibyte)).value = bytes.toNat / 2 ^ 30 := by
    rw [(rounded_div_gibibyte _).value_eq (j := bytes.toNat) (i := 30) (by omega) (by norm_num)]
      <;> rw [hbytes]
  have hscaled := (rounded_mul_hundred ((ofNat bytes.toNat).div (ofNat gibibyte))).value_eq
    (j := 25 * bytes.toNat) (i := 28) h (by norm_num) (by rw [hgib]; push_cast; ring)
  rw [scaled, hscaled, hgib]
  ring

theorem toNat_cast_lt (bytes : UInt64) : (bytes.toNat : ℚ) < 2 ^ 64 := by
  exact_mod_cast bytes.toNat_lt

/-- Whatever the steps lose, it is far less than half a hundredth. -/
theorem abs_scaled_sub_lt (bytes : UInt64) :
    |(scaled bytes).value - 100 * bytes.toNat / 2 ^ 30| < 1 / 2 := by
  have hlt := toNat_cast_lt bytes
  have hbytes := abs_le.mp ((rounded_ofNat bytes.toNat).abs_sub_le hlt)
  have hgib := abs_le.mp ((rounded_div_gibibyte (ofNat bytes.toNat)).abs_sub_le (t := 35) (by linarith))
  have hscaled := abs_le.mp ((rounded_mul_hundred
    ((ofNat bytes.toNat).div (ofNat gibibyte))).abs_sub_le (t := 42) (by linarith))
  rw [scaled, abs_lt]
  constructor <;> linarith

theorem wholeHundredths_lt (bytes : UInt64) : wholeHundredths bytes < 2 ^ 43 := by
  have hlt := toNat_cast_lt bytes
  have habs := abs_lt.mp (abs_scaled_sub_lt bytes)
  rw [wholeHundredths, Nat.floor_lt' (by norm_num)]
  push_cast
  linarith

theorem wholeHundredths_of_lt {bytes : UInt64} (h : 25 * bytes.toNat < 2 ^ 53) :
    wholeHundredths bytes = exactHundredths bytes := by
  rw [wholeHundredths, value_scaled h, exactHundredths]

theorem wholeHundredths_near (bytes : UInt64) :
    wholeHundredths bytes ≤ exactHundredths bytes + 1 ∧
      exactHundredths bytes ≤ wholeHundredths bytes + 1 := by
  have hexact : (0 : ℚ) ≤ 100 * bytes.toNat / 2 ^ 30 := by positivity
  have hscaled : 0 ≤ (scaled bytes).value := value_nonneg _
  have habs := abs_lt.mp (abs_scaled_sub_lt bytes)
  constructor
  · rw [wholeHundredths, exactHundredths, ← Nat.floor_add_one (by linarith)]
    exact Nat.floor_le_floor (by linarith)
  · rw [wholeHundredths, exactHundredths, ← Nat.floor_add_one (by linarith)]
    exact Nat.floor_le_floor (by linarith)

theorem rounded_gibibytes (bytes : UInt64) :
    Rounded (wholeHundredths bytes / 100) (gibibytes bytes) := by
  have hround : (scaled bytes).round.value = wholeHundredths bytes := by
    have hlt := wholeHundredths_lt bytes
    exact (rounded_round _).value_eq (j := wholeHundredths bytes) (i := 0) (by omega) (by norm_num)
      (by rw [pow_zero, div_one]; rfl)
  rw [← hround]
  exact rounded_div_hundred _

theorem abs_gibibytes_sub_le (bytes : UInt64) :
    |(gibibytes bytes).value - wholeHundredths bytes / 100| ≤ 2 ^ 37 / 2 ^ 54 := by
  have hlt : (wholeHundredths bytes : ℚ) < 2 ^ 43 := by
    exact_mod_cast wholeHundredths_lt bytes
  exact (rounded_gibibytes bytes).abs_sub_le (by linarith)

theorem hundredths_gibibytes (bytes : UInt64) :
    hundredths (gibibytes bytes) = wholeHundredths bytes := by
  have habs := abs_le.mp (abs_gibibytes_sub_le bytes)
  refine (nearestEven_hundredths _).eq_of_abs_lt ?_
  rw [abs_lt]
  constructor <;> linarith

theorem inRange_gibibytes (bytes : UInt64) : (gibibytes bytes).inRange = true := by
  have hlt : (wholeHundredths bytes : ℚ) < 2 ^ 43 := by
    exact_mod_cast wholeHundredths_lt bytes
  have habs := abs_le.mp (abs_gibibytes_sub_le bytes)
  exact (rounded_gibibytes bytes).nearest.normal.inRange (t := 38) (by norm_num) (by linarith)

/-- More bytes are no fewer gibibytes. -/
theorem value_gibibytes_le {b c : UInt64} (h : b ≤ c) :
    (gibibytes b).value ≤ (gibibytes c).value := by
  have hbytes : (ofNat b.toNat).value ≤ (ofNat c.toNat).value :=
    (rounded_ofNat _).value_le (rounded_ofNat _) (by exact_mod_cast UInt64.le_iff_toNat_le.mp h)
  have hgib : ((ofNat b.toNat).div (ofNat gibibyte)).value ≤
      ((ofNat c.toNat).div (ofNat gibibyte)).value :=
    (rounded_div_gibibyte _).value_le (rounded_div_gibibyte _)
      (div_le_div_of_nonneg_right hbytes (by positivity))
  have hscaled : (scaled b).value ≤ (scaled c).value :=
    (rounded_mul_hundred _).value_le (rounded_mul_hundred _)
      (mul_le_mul_of_nonneg_right hgib (by positivity))
  refine (rounded_gibibytes b).value_le (rounded_gibibytes c) ?_
  refine div_le_div_of_nonneg_right (Nat.cast_le.mpr (Nat.floor_le_floor ?_)) (by positivity)
  exact add_le_add_left hscaled _

/-- The gibibytes are the number nearest to a whole number of hundredths, and are written as
these. The hundredths are exact as long as a hundredfold of the bytes is, and at most one off
otherwise; of more bytes they are no fewer. -/
theorem gibibytes_hundredths :
    (∀ bytes : UInt64, ∃ k : ℕ, Nearest (k / 100) (gibibytes bytes) ∧
      (gibibytes bytes).inRange = true ∧
      WritesHundredths (k / 100) (twoPlaces (gibibytes bytes)) ∧
      (25 * bytes.toNat < 2 ^ 53 → k = exactHundredths bytes) ∧
      (2 ^ 53 ≤ 25 * bytes.toNat →
        k ≤ exactHundredths bytes + 1 ∧ exactHundredths bytes ≤ k + 1)) ∧
    ∀ b c : UInt64, b ≤ c → (gibibytes b).value ≤ (gibibytes c).value := by
  refine ⟨fun bytes => ?_, fun b c => value_gibibytes_le⟩
  refine ⟨wholeHundredths bytes, (rounded_gibibytes bytes).nearest, inRange_gibibytes bytes, ?_,
    wholeHundredths_of_lt, fun _ => wholeHundredths_near bytes⟩
  rw [← hundredths_gibibytes]
  exact writesHundredths_twoPlaces _

/-- The second number of bytes lies just below a half, to which its hundredfold is rounded. -/
theorem gibibytes_hundredths_tie :
    let few : UInt64 := 1079252849
    let many : UInt64 := 360287986295767
    25 * few.toNat < 2 ^ 53 ∧ 2 ^ 53 ≤ 25 * many.toNat ∧ few ≤ many ∧
    twoPlaces (gibibytes few) = "1.01".toList ∧ twoPlaces (gibibytes many) = "335544.34".toList ∧
    exactHundredths many = 33554433 ∧
    (∃ k : ℕ, Nearest (k / 100) (gibibytes few) ∧ k = exactHundredths few) ∧
    (∃ k : ℕ, Nearest (k / 100) (gibibytes many) ∧
      k ≤ exactHundredths many + 1 ∧ exactHundredths many ≤ k + 1) ∧
    (gibibytes few).value ≤ (gibibytes many).value := by
  intro few many
  have hfew : 25 * few.toNat < 2 ^ 53 := by decide
  have hmany : 2 ^ 53 ≤ 25 * many.toNat := by decide
  have hle : few ≤ many := by decide
  obtain ⟨hall, hmono⟩ := gibibytes_hundredths
  obtain ⟨j, hj, -, -, hjexact, -⟩ := hall few
  obtain ⟨k, hk, -, -, -, hknear⟩ := hall many
  refine ⟨hfew, hmany, hle, by decide +kernel, by decide +kernel, ?_, ⟨j, hj, hjexact hfew⟩,
    ⟨k, hk, hknear hmany⟩, hmono few many hle⟩
  have hn : many.toNat = 360287986295767 := rfl
  rw [exactHundredths, hn, Nat.floor_eq_iff (by positivity)]
  norm_num

end PeakHeap
end ClusterRig
