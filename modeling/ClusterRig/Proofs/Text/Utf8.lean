import ClusterRig.Text.Utf8
import Mathlib.Data.List.Basic
import Mathlib.Data.String.Basic
import Mathlib.Tactic.Common

/-!
# The bytes of encoded text

The bytes of a text are those of its characters, one after the other. Main statements:
a byte of value ten is in them only where the text has a line feed, the bytes of texts
are in the order of the texts, and they are read as the texts that they come from.
-/

namespace ClusterRig
namespace Text
namespace Utf8

theorem toList_loop (b : ByteArray) (i : Nat) (read : List UInt8) :
    ByteArray.toList.loop b i read = read.reverse ++ b.data.toList.drop i := by
  fun_induction ByteArray.toList.loop b i read with
  | case1 i read h ih =>
    have hi : i < b.data.toList.length := by simpa using h
    rw [ih, List.drop_eq_getElem_cons hi]
    simp [ByteArray.get!, h]
  | case2 i read h =>
    have hi : b.data.toList.length ≤ i := by simpa using Nat.le_of_not_lt h
    rw [List.drop_eq_nil_of_le hi, List.append_nil]

theorem toList_eq_data (b : ByteArray) : b.toList = b.data.toList := by
  rw [ByteArray.toList, toList_loop]
  rfl

theorem encode_eq_flatMap (s : String) : encode s = s.toList.flatMap String.utf8EncodeChar := by
  have hs : s.toUTF8 = (s.toList.flatMap String.utf8EncodeChar).toByteArray := by
    rw [String.toUTF8_eq_toByteArray]
    conv_lhs => rw [← String.ofList_toList (s := s)]
    rfl
  rw [encode, hs, toList_eq_data, List.toList_data_toByteArray]

theorem encode_append (s t : String) : encode (s ++ t) = encode s ++ encode t := by
  simp only [encode_eq_flatMap, String.toList_append, List.flatMap_append]

theorem encode_lineFeed : encode "\n" = [10] := by
  rw [encode_eq_flatMap]
  rfl

theorem toNat_ofNat_of_lt {m : Nat} (hm : m < 256) : (UInt8.ofNat m).toNat = m := by
  rw [UInt8.toNat_ofNat', Nat.mod_eq_of_lt hm]

theorem le_toNat_ofNat {m : Nat} (hl : 128 ≤ m) (hu : m < 256) : 128 ≤ (UInt8.ofNat m).toNat := by
  rw [toNat_ofNat_of_lt hu]
  exact hl

/-- The bytes of a character outside ASCII are at least 128. -/
theorem le_of_mem_utf8EncodeChar {c : Char} (hc : 128 ≤ c.val.toNat) {b : UInt8}
    (h : b ∈ String.utf8EncodeChar c) : 128 ≤ b.toNat := by
  have hv : ¬ c.val.toNat ≤ 127 := by omega
  simp only [String.utf8EncodeChar, if_neg hv] at h
  -- Two, three or four bytes, each of them a marker and some bits of the character.
  split at h
  · simp only [List.mem_cons, List.not_mem_nil, or_false] at h
    rcases h with rfl | rfl <;> exact le_toNat_ofNat (by omega) (by omega)
  · split at h
    · simp only [List.mem_cons, List.not_mem_nil, or_false] at h
      rcases h with rfl | rfl | rfl <;> exact le_toNat_ofNat (by omega) (by omega)
    · simp only [List.mem_cons, List.not_mem_nil, or_false] at h
      rcases h with rfl | rfl | rfl | rfl <;> exact le_toNat_ofNat (by omega) (by omega)

theorem lineFeed_mem_utf8EncodeChar_iff {c : Char} : 10 ∈ String.utf8EncodeChar c ↔ c = '\n' := by
  constructor
  · intro h
    rcases Nat.lt_or_ge c.val.toNat 128 with hc | hc
    · have hv : c.val.toNat ≤ 127 := by omega
      simp only [String.utf8EncodeChar, if_pos hv, List.mem_singleton] at h
      have hm : c.val.toNat % 256 = 10 := (congrArg UInt8.toNat h).symm
      have hn : c.val.toNat = ('\n').val.toNat := by
        change c.val.toNat = 10
        omega
      exact Char.ext (UInt32.toNat_inj.mp hn)
    · exact absurd (le_of_mem_utf8EncodeChar hc h) (by decide)
  · rintro rfl
    decide

theorem lineFeed_mem_encode_iff {s : String} : 10 ∈ encode s ↔ '\n' ∈ s.toList := by
  rw [encode_eq_flatMap, List.mem_flatMap]
  simp only [lineFeed_mem_utf8EncodeChar_iff, exists_eq_right]

/-- Of two bytes the lesser one decides, and equal ones leave it to what follows. -/
theorem lex_cons_ofNat {m n : Nat} {l k : List UInt8} (hn : n < 256) (hle : m ≤ n)
    (h : m = n → List.Lex (· < ·) l k) :
    List.Lex (· < ·) (UInt8.ofNat m :: l) (UInt8.ofNat n :: k) := by
  by_cases he : m = n
  · subst he
    exact .cons (h rfl)
  · refine .rel (UInt8.lt_iff_toNat_lt.mpr ?_)
    rw [UInt8.toNat_ofNat', UInt8.toNat_ofNat']
    omega

theorem toNat_val_lt (c : Char) : c.val.toNat < 0x110000 := by
  have hv : c.val.toNat.isValidChar := c.valid
  unfold Nat.isValidChar at hv
  omega

/-- The bytes of the lesser character come first, whatever follows them. -/
theorem lex_utf8EncodeChar {c d : Char} (h : c < d) (rest more : List UInt8) :
    List.Lex (· < ·) (String.utf8EncodeChar c ++ rest) (String.utf8EncodeChar d ++ more) := by
  have hlt : c.val.toNat < d.val.toNat := UInt32.lt_iff_toNat_lt.mp h
  have hc : c.val.toNat < 0x110000 := toNat_val_lt c
  have hd : d.val.toNat < 0x110000 := toNat_val_lt d
  simp only [String.utf8EncodeChar]
  generalize c.val.toNat = m at *
  generalize d.val.toNat = n at *
  -- More bytes begin with a greater one. Where there are as many, each byte is a part of the
  -- number, the highest part first, so that the parts before the first difference are equal.
  split_ifs <;> (repeat refine lex_cons_ofNat (by omega) (by omega) fun _ => ?_) <;> omega

theorem lex_flatMap_utf8EncodeChar {l m : List Char} (h : List.Lex (· < ·) l m) :
    List.Lex (· < ·) (l.flatMap String.utf8EncodeChar) (m.flatMap String.utf8EncodeChar) := by
  induction h with
  | @nil d m =>
    obtain ⟨b, bs, hb⟩ := List.exists_cons_of_ne_nil (String.utf8EncodeChar_ne_nil (c := d))
    rw [List.flatMap_nil, List.flatMap_cons, hb]
    exact .nil
  | rel hcd => exact lex_utf8EncodeChar hcd _ _
  | cons _ ih => exact List.append_left_lt ih

/-- Texts are in the order of their bytes. -/
theorem lex_encode {s t : String} (h : s < t) : List.Lex (· < ·) (encode s) (encode t) := by
  rw [encode_eq_flatMap, encode_eq_flatMap]
  exact lex_flatMap_utf8EncodeChar (String.lt_iff.mp h)

/-- The bytes of texts are in no other order than the texts. -/
theorem encode_lt_encode_iff {s t : String} : encode s < encode t ↔ s < t := by
  refine ⟨fun h => ?_, lex_encode⟩
  rcases lt_trichotomy s t with hst | rfl | hts
  · exact hst
  · exact absurd h (List.lt_irrefl _)
  · exact absurd h (List.lt_asymm (lex_encode hts))

/-! ## Reading what was written -/

section

variable {bits more m : Nat} {low high : UInt8} {rest : List UInt8}

theorem within_ofNat (hm : m < 256) (hl : low.toNat ≤ m) (hh : m ≤ high.toNat) :
    (low ≤ UInt8.ofNat m && UInt8.ofNat m ≤ high) = true := by
  simp only [Bool.and_eq_true, decide_eq_true_eq, UInt8.le_iff_toNat_le, toNat_ofNat_of_lt hm]
  exact ⟨hl, hh⟩

/-- The last byte of a begun character. -/
theorem pieces_last (hm : m < 256) (hl : low.toNat ≤ m) (hh : m ≤ high.toNat) :
    pieces (some ⟨bits, low, high, 0⟩) (UInt8.ofNat m :: rest) =
      some (Char.ofNat (bits * 64 + (m - 0x80))) :: pieces none rest := by
  rw [pieces]
  simp only [within_ofNat hm hl hh, if_true, toNat_ofNat_of_lt hm]

/-- A byte of a begun character after which more are missing. -/
theorem pieces_more (hm : m < 256) (hl : low.toNat ≤ m) (hh : m ≤ high.toNat) :
    pieces (some ⟨bits, low, high, more + 1⟩) (UInt8.ofNat m :: rest) =
      pieces (some ⟨bits * 64 + (m - 0x80), 0x80, 0xBF, more⟩) rest := by
  rw [pieces]
  simp only [within_ofNat hm hl hh, if_true, toNat_ofNat_of_lt hm]

end

theorem opening_ofNat {m : Nat} (hm : m < 256) : opening (UInt8.ofNat m) =
    if m < 0x80 then .whole (Char.ofNat m)
    else if m < 0xC2 then .stray
    else if m < 0xE0 then .begun ⟨m - 0xC0, 0x80, 0xBF, 0⟩
    else if m < 0xF0 then
      .begun ⟨m - 0xE0, if m = 0xE0 then 0xA0 else 0x80, if m = 0xED then 0x9F else 0xBF, 1⟩
    else if m < 0xF5 then
      .begun ⟨m - 0xF0, if m = 0xF0 then 0x90 else 0x80, if m = 0xF4 then 0x8F else 0xBF, 2⟩
    else .stray := by
  simp [opening, UInt8.lt_iff_toNat_lt, ← UInt8.toNat_inj, Nat.mod_eq_of_lt hm]

theorem pieces_none_cons {m : Nat} {rest : List UInt8} {b : Begun}
    (h : opening (UInt8.ofNat m) = .begun b) :
    pieces none (UInt8.ofNat m :: rest) = pieces (some b) rest := by
  rw [pieces, h]

/-- Behind the first and the last of the leading bytes the second one has a narrower range. -/
theorem second_within {lead last second : Nat} {low high : UInt8} (hl : 0x80 ≤ second)
    (hh : second ≤ 0xBF) (hfirst : lead = 0 → low.toNat ≤ second)
    (hlast : lead = last → second ≤ high.toNat) :
    (if lead = 0 then low else 0x80 : UInt8).toNat ≤ second ∧
      second ≤ (if lead = last then high else 0xBF : UInt8).toNat := by
  constructor
  · split
    · exact hfirst ‹_›
    · exact hl
  · split
    · exact hlast ‹_›
    · exact hh

theorem pieces_two {v : Nat} (hl : 0x80 ≤ v) (hu : v < 0x800) (rest : List UInt8) :
    pieces none (UInt8.ofNat (v / 64 % 32 + 192) :: UInt8.ofNat (v % 64 + 128) :: rest) =
      some (Char.ofNat v) :: pieces none rest := by
  have hlead : v / 64 % 32 + 192 - 0xC0 = v / 64 := by omega
  have hopen : opening (UInt8.ofNat (v / 64 % 32 + 192)) = .begun ⟨v / 64, 0x80, 0xBF, 0⟩ := by
    rw [opening_ofNat (by omega), if_neg (by omega), if_neg (by omega), if_pos (by omega), hlead]
  have hv : v / 64 * 64 + (v % 64 + 128 - 0x80) = v := by omega
  rw [pieces_none_cons hopen, pieces_last (by omega) (by simp) (by simp; omega), hv]

/-- Of three bytes, the second may be no lower than it is for the least character that takes
three, and no higher than it is for the last character before the surrogates. -/
theorem pieces_three {v : Nat} (hl : 0x800 ≤ v) (hu : v < 0x10000)
    (hs : v < 0xD800 ∨ 0xDFFF < v) (rest : List UInt8) :
    pieces none (UInt8.ofNat (v / 4096 % 16 + 224) :: UInt8.ofNat (v / 64 % 64 + 128) ::
      UInt8.ofNat (v % 64 + 128) :: rest) = some (Char.ofNat v) :: pieces none rest := by
  have hlead : v / 4096 % 16 = v / 4096 := by omega
  have hopen : opening (UInt8.ofNat (v / 4096 % 16 + 224)) =
      .begun ⟨v / 4096, if v / 4096 = 0 then 0xA0 else 0x80,
        if v / 4096 = 13 then 0x9F else 0xBF, 1⟩ := by
    rw [opening_ofNat (by omega), if_neg (by omega), if_neg (by omega), if_neg (by omega),
      if_pos (by omega), hlead]
    simp
  obtain ⟨hlow, hhigh⟩ : (if v / 4096 = 0 then 0xA0 else 0x80 : UInt8).toNat ≤ v / 64 % 64 + 128 ∧
      v / 64 % 64 + 128 ≤ (if v / 4096 = 13 then 0x9F else 0xBF : UInt8).toNat :=
    second_within (by omega) (by omega) (by simp; omega) (by simp; omega)
  have hv : (v / 4096 * 64 + (v / 64 % 64 + 128 - 0x80)) * 64 + (v % 64 + 128 - 0x80) = v := by
    omega
  rw [pieces_none_cons hopen, pieces_more (by omega) hlow hhigh,
    pieces_last (by omega) (by simp) (by simp; omega), hv]

theorem pieces_four {v : Nat} (hl : 0x10000 ≤ v) (hu : v < 0x110000) (rest : List UInt8) :
    pieces none (UInt8.ofNat (v / 262144 % 8 + 240) :: UInt8.ofNat (v / 4096 % 64 + 128) ::
      UInt8.ofNat (v / 64 % 64 + 128) :: UInt8.ofNat (v % 64 + 128) :: rest) =
      some (Char.ofNat v) :: pieces none rest := by
  have hlead : v / 262144 % 8 = v / 262144 := by omega
  have hopen : opening (UInt8.ofNat (v / 262144 % 8 + 240)) =
      .begun ⟨v / 262144, if v / 262144 = 0 then 0x90 else 0x80,
        if v / 262144 = 4 then 0x8F else 0xBF, 2⟩ := by
    rw [opening_ofNat (by omega), if_neg (by omega), if_neg (by omega), if_neg (by omega),
      if_neg (by omega), if_pos (by omega), hlead]
    simp
  obtain ⟨hlow, hhigh⟩ : (if v / 262144 = 0 then 0x90 else 0x80 : UInt8).toNat ≤
        v / 4096 % 64 + 128 ∧
      v / 4096 % 64 + 128 ≤ (if v / 262144 = 4 then 0x8F else 0xBF : UInt8).toNat :=
    second_within (by omega) (by omega) (by simp; omega) (by simp; omega)
  have hv : ((v / 262144 * 64 + (v / 4096 % 64 + 128 - 0x80)) * 64
      + (v / 64 % 64 + 128 - 0x80)) * 64 + (v % 64 + 128 - 0x80) = v := by
    omega
  rw [pieces_none_cons hopen, pieces_more (by omega) hlow hhigh,
    pieces_more (by omega) (by simp) (by simp; omega),
    pieces_last (by omega) (by simp) (by simp; omega), hv]

/-- The bytes of a character are read as this character. -/
theorem pieces_utf8EncodeChar (c : Char) (rest : List UInt8) :
    pieces none (String.utf8EncodeChar c ++ rest) = some c :: pieces none rest := by
  have hc : Char.ofNat c.val.toNat = c := Char.ofNat_toNat c
  have hvalid : c.val.toNat < 0xD800 ∨ 0xDFFF < c.val.toNat ∧ c.val.toNat < 0x110000 := c.valid
  unfold String.utf8EncodeChar
  generalize c.val.toNat = v at hc hvalid
  dsimp only
  rw [← hc]
  split
  · have hopen : opening (UInt8.ofNat v) = .whole (Char.ofNat v) := by
      rw [opening_ofNat (by omega), if_pos (by omega)]
    rw [List.singleton_append, pieces, hopen]
  · split
    · exact pieces_two (by omega) (by omega) rest
    · split
      · exact pieces_three (by omega) (by omega) (by omega) rest
      · exact pieces_four (by omega) (by omega) rest

theorem pieces_encode (s : String) : pieces none (encode s) = s.toList.map some := by
  rw [encode_eq_flatMap]
  induction s.toList with
  | nil => rfl
  | cons c l ih => rw [List.flatMap_cons, pieces_utf8EncodeChar, ih, List.map_cons]

/-- The bytes of a text are read as this text. -/
theorem decodeLossy_encode (s : String) : decodeLossy (encode s) = s.toList := by
  simp [decodeLossy, pieces_encode, Function.comp_def]

end Utf8
end Text
end ClusterRig
