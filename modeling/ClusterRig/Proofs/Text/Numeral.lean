import ClusterRig.Text.Numeral
import Mathlib.Tactic.Common

/-!
# Numerals

The texts that denote a natural number. Main statement: `word?` reads exactly the
numerals of the numbers that fit in 64 bits, and `decimal` writes a numeral.
-/

namespace ClusterRig
namespace Text

/-- An optional plus sign and one or more digits, which are the number in base ten. -/
def Denotes (s : List Char) (n : Nat) : Prop :=
  ∃ ds, (s = ds ∨ s = '+' :: ds) ∧ ds ≠ [] ∧ (∀ d ∈ ds, isDigit d = true) ∧
    n = Nat.ofDigitChars 10 ds 0

/-- The digits after the plus sign, if there is one. -/
def unsigned (s : List Char) : List Char :=
  match s with
  | '+' :: rest => rest
  | _ => s

theorem unsigned_plus (rest : List Char) : unsigned ('+' :: rest) = rest := rfl

theorem unsigned_of_ne {s : List Char} (h : ∀ rest, s ≠ '+' :: rest) : unsigned s = s := by
  unfold unsigned
  split
  · exact absurd rfl (h _)
  · rfl

theorem unsigned_of_digit {ds : List Char} (h : ∀ d ∈ ds, isDigit d = true) :
    unsigned ds = ds := by
  refine unsigned_of_ne ?_
  rintro rest rfl
  exact absurd (h '+' List.mem_cons_self) (by decide)

theorem denotes_iff {s : List Char} {n : Nat} :
    Denotes s n ↔ unsigned s ≠ [] ∧ (∀ d ∈ unsigned s, isDigit d = true) ∧
      n = Nat.ofDigitChars 10 (unsigned s) 0 := by
  constructor
  · rintro ⟨ds, rfl | rfl, hne, hd, hn⟩
    · rw [unsigned_of_digit hd]
      exact ⟨hne, hd, hn⟩
    · exact ⟨hne, hd, hn⟩
  · rintro ⟨hne, hd, hn⟩
    refine ⟨unsigned s, ?_, hne, hd, hn⟩
    unfold unsigned
    split
    · exact .inr rfl
    · exact .inl rfl

theorem ofDigits_eq (ds : List Char) : ofDigits ds = Nat.ofDigitChars 10 ds 0 := by
  simp only [ofDigits, Nat.ofDigitChars, digitValue, Nat.mul_comm]

theorem natural?_eq_some_iff {s : List Char} {n : Nat} :
    natural? (unsigned s) = some n ↔ Denotes s n := by
  rw [denotes_iff, natural?, ofDigits_eq]
  by_cases h : unsigned s = []
  · rw [h]
    simp
  · have he : (unsigned s).isEmpty = false := by simpa using h
    rw [he, Bool.not_false, Bool.true_and]
    split_ifs with hd <;> rw [List.all_eq_true] at hd
    · rw [Option.some.injEq, eq_comm]
      exact ⟨fun hn => ⟨h, hd, hn⟩, fun hn => hn.2.2⟩
    · exact ⟨fun hn => (nomatch hn), fun hn => absurd hn.2.1 hd⟩

theorem word?_eq (s : List Char) :
    word? s = (natural? (unsigned s)).bind fun n =>
      if n < UInt64.size then some (UInt64.ofNat n) else none := by
  unfold word?
  split
  next rest =>
    rw [unsigned_plus]
    dsimp only
    cases natural? rest <;> rfl
  next h =>
    rw [unsigned_of_ne h]
    dsimp only
    cases natural? s <;> rfl

theorem word?_eq_some_iff {s : List Char} {n : UInt64} :
    word? s = some n ↔ Denotes s n.toNat := by
  rw [word?_eq, Option.bind_eq_some_iff]
  constructor
  · rintro ⟨m, hm, h⟩
    split_ifs at h with hlt
    obtain rfl := Option.some.inj h
    rw [UInt64.toNat_ofNat_of_lt' hlt]
    exact natural?_eq_some_iff.mp hm
  · intro h
    exact ⟨n.toNat, natural?_eq_some_iff.mpr h, by simp [n.toNat_lt_size]⟩

theorem word?_eq_none_iff {s : List Char} :
    word? s = none ↔ ∀ n, Denotes s n → UInt64.size ≤ n := by
  constructor
  · intro h n hn
    by_contra hlt
    have hw : word? s = some (UInt64.ofNat n) := by
      rw [word?_eq_some_iff, UInt64.toNat_ofNat_of_lt' (Nat.not_le.mp hlt)]
      exact hn
    cases h.symm.trans hw
  · intro h
    cases hw : word? s with
    | none => rfl
    | some n => exact absurd (h _ (word?_eq_some_iff.mp hw)) (Nat.not_le.mpr n.toNat_lt_size)

theorem isDigit_of_mem_decimal {n : Nat} {d : Char} (h : d ∈ decimal n) : isDigit d = true := by
  have hd := Nat.isDigit_of_mem_toDigits (by decide) (by decide) h
  simpa [Char.isDigit, isDigit, Char.le_def] using hd

theorem decimal_ne_nil (n : Nat) : decimal n ≠ [] := Nat.toDigits_ne_nil

theorem denotes_decimal (n : Nat) : Denotes (decimal n) n :=
  ⟨decimal n, .inl rfl, decimal_ne_nil n, fun _ => isDigit_of_mem_decimal,
    Nat.ofDigitChars_ten_toDigits.symm⟩

end Text
end ClusterRig
