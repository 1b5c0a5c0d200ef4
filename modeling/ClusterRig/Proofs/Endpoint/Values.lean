import ClusterRig.Endpoint.Values
import ClusterRig.Proofs.Text.Trim
import Mathlib.Tactic.Common

/-!
# Values of rendered lines

What the lines of an answer carry. A rendering is a value with the attribute and an
equals sign before it, or without them, with blanks around every part and semicolons
behind. Main statement: a value that can be told from its surroundings is read back
from each of its renderings, a rendering of no value carries none, and no line at all
carries an empty value or one with blanks at its ends.
-/

namespace ClusterRig

open Text

/-- A text that renderings leave intact. -/
structure Readable (v : List Char) : Prop where
  nonempty : v ≠ []
  trimmed : Trimmed v
  last : ∀ c ∈ v.getLast?, c ≠ ';'

/-- The renderings of the value `v` of an attribute. -/
inductive Rendering (attr v : List Char) : List Char → Prop
  | assigned {w₁ w₂ w₃ w₄ w₅ : List Char} (h₁ : Blank w₁) (h₂ : Blank w₂) (h₃ : Blank w₃)
      (h₄ : Blank w₄) (h₅ : Blank w₅) (k : Nat) :
      Rendering attr v (w₁ ++ (attr ++ w₂ ++ ['=']) ++
        (w₃ ++ v ++ w₄ ++ List.replicate k ';' ++ w₅))
  | bare {w₁ w₂ w₃ : List Char} (h₁ : Blank w₁) (h₂ : Blank w₂) (h₃ : Blank w₃) (k : Nat) :
      Rendering attr v (w₁ ++ v ++ w₂ ++ List.replicate k ';' ++ w₃)

theorem after?_eq_some_iff {start s rest : List Char} :
    after? start s = some rest ↔ s = start ++ rest := by
  induction start generalizing s with
  | nil => simp [after?]
  | cons c start ih =>
    cases s with
    | nil => simp [after?]
    | cons d s =>
      by_cases h : c = d
      · simp [after?, h, ih]
      · simp [after?, h, Ne.symm h]

theorem assigned?_eq_some_iff {attr line rest : List Char} :
    assigned? attr line = some rest ↔ ∃ w, Blank w ∧ line = attr ++ w ++ '=' :: rest := by
  have he : isBlank '=' = false := by decide
  unfold assigned?
  constructor
  · intro h
    cases ha : after? attr line with
    | none => simp [ha] at h
    | some tail =>
      obtain rfl := after?_eq_some_iff.mp ha
      rw [ha, Option.map_some] at h
      have ht : trimStart tail = '=' :: rest := by grind
      refine ⟨tail.takeWhile isBlank, fun c hc => List.mem_takeWhile_imp hc, ?_⟩
      rw [List.append_assoc, ← ht, trimStart, List.takeWhile_append_dropWhile]
  · rintro ⟨w, hw, rfl⟩
    have ht : trimStart (w ++ '=' :: rest) = '=' :: rest := by
      rw [trimStart, List.dropWhile_append_of_pos hw, List.dropWhile_cons, he, if_neg (by simp)]
    rw [List.append_assoc, after?_eq_some_iff.mpr rfl, Option.map_some, ht]
    rfl

/-- The value in what follows the equals sign, or in a line without one. -/
def strip (raw : List Char) : List Char := trim (dropWhileEnd (· == ';') (trim raw))

theorem valueOf?_of_assigned {attr line rest : List Char}
    (h : assigned? attr (trim line) = some rest) :
    valueOf? attr line = if (strip rest).isEmpty then none else some (strip rest) := by
  simp only [valueOf?, h, strip]
  rfl

theorem valueOf?_of_not_assigned {attr line : List Char}
    (h : assigned? attr (trim line) = none) :
    valueOf? attr line = if (strip line).isEmpty then none else some (strip line) := by
  simp only [valueOf?, h, strip]
  rfl

theorem Readable.strip_eq {v w₁ w₂ w₃ : List Char} (hv : Readable v) (h₁ : Blank w₁)
    (h₂ : Blank w₂) (h₃ : Blank w₃) (k : Nat) :
    strip (w₁ ++ v ++ w₂ ++ List.replicate k ';' ++ w₃) = v := by
  cases k with
  | zero =>
    have ht : trim (w₁ ++ v ++ w₂ ++ List.replicate 0 ';' ++ w₃) = v := by
      refine trim_eq_iff.mpr ⟨hv.trimmed, w₁, w₂ ++ w₃, ?_, h₁, h₂.append h₃⟩
      simp
    have hl : ∀ c ∈ v.getLast?, (c == ';') = false := by simpa using hv.last
    rw [strip, ht, dropWhileEnd_of_last hl, hv.trimmed.trim_eq]
  | succ k =>
    have hm : Trimmed (v ++ w₂ ++ List.replicate (k + 1) ';') := by
      constructor
      · rw [List.append_assoc, List.head?_append_of_ne_nil v hv.nonempty]
        exact hv.trimmed.head
      · simp [List.getLast?_append, List.getLast?_replicate]
        decide
    have ht : trim (w₁ ++ v ++ w₂ ++ List.replicate (k + 1) ';' ++ w₃) =
        v ++ w₂ ++ List.replicate (k + 1) ';' := by
      refine trim_eq_iff.mpr ⟨hm, w₁, w₃, ?_, h₁, h₃⟩
      simp
    have hl : ∀ c ∈ (v ++ w₂).getLast?, (c == ';') = false := by
      rw [List.getLast?_append]
      cases h : w₂.getLast? with
      | none => simpa using hv.last
      | some d =>
        intro c hc
        obtain rfl : d = c := by simpa using hc
        have hd : isBlank d = true := h₂ d (List.mem_of_getLast? h)
        rw [beq_eq_false_iff_ne]
        rintro rfl
        exact absurd hd (by decide)
    rw [strip, ht, dropWhileEnd_append (by simp), dropWhileEnd_of_last hl,
      trim_append_blank h₂, hv.trimmed.trim_eq]

/-- Nothing is left of blanks and semicolons. -/
theorem strip_padding {w w' : List Char} (h : Blank w) (h' : Blank w') (k : Nat) :
    strip (w ++ List.replicate k ';' ++ w') = [] := by
  have hm : Trimmed (List.replicate k ';') := by
    have hb : ∀ c ∈ List.replicate k ';', isBlank c = false := by
      intro c hc
      rw [List.eq_of_mem_replicate hc]
      decide
    exact ⟨fun c hc => hb c (List.mem_of_mem_head? hc), fun c hc => hb c (List.mem_of_getLast? hc)⟩
  have ht : trim (w ++ List.replicate k ';' ++ w') = List.replicate k ';' :=
    trim_eq_iff.mpr ⟨hm, w, w', rfl, h, h'⟩
  have hd : dropWhileEnd (· == ';') ([] ++ List.replicate k ';') = [] :=
    dropWhileEnd_append (by simp)
  rw [List.nil_append] at hd
  rw [strip, ht, hd]
  rfl

theorem equals_not_mem {w : List Char} (h : Blank w) : '=' ∉ w :=
  fun he => absurd (h _ he) (by decide)

theorem equals_not_mem_padding {w w' : List Char} (h : Blank w) (h' : Blank w') (k : Nat) :
    '=' ∉ w ++ List.replicate k ';' ++ w' := by
  simp [equals_not_mem h, equals_not_mem h']

/-- Without a name the blanks before the equals sign are those of the line. -/
theorem exists_trimmed_name {attr w₁ w₂ : List Char} (ha : ∀ c ∈ attr.head?, isBlank c = false)
    (h₁ : Blank w₁) (h₂ : Blank w₂) :
    ∃ u u', Blank u ∧ Blank u' ∧ Trimmed (attr ++ u' ++ ['=']) ∧
      w₁ ++ (attr ++ w₂ ++ ['=']) = u ++ (attr ++ u' ++ ['=']) := by
  have he : isBlank '=' = false := by decide
  cases attr with
  | nil =>
    refine ⟨w₁ ++ w₂, [], h₁.append h₂, blank_nil, ⟨?_, ?_⟩, by simp⟩
    · simpa using he
    · simpa using he
  | cons c attr =>
    refine ⟨w₁, w₂, h₁, h₂, ⟨?_, ?_⟩, rfl⟩
    · simpa using ha
    · rw [List.getLast?_concat]
      simpa using he

/-- What stands behind a value does not make it an assignment. -/
theorem not_assigned {attr v tail : List Char}
    (hv : ∀ w rest, Blank w → v ≠ attr ++ w ++ '=' :: rest) (ht : '=' ∉ tail) :
    assigned? attr (v ++ tail) = none := by
  rw [Option.eq_none_iff_forall_ne_some]
  intro rest hr
  obtain ⟨w, hw, h⟩ := assigned?_eq_some_iff.mp hr
  rw [List.append_cons] at h
  rcases List.append_eq_append_iff.mp h with ⟨a, ha, h⟩ | ⟨a, ha, -⟩
  · rcases List.eq_nil_or_concat a with rfl | ⟨a, d, rfl⟩
    · exact hv w [] hw (by simpa using ha.symm)
    · rw [List.concat_eq_append, ← List.append_assoc] at ha
      obtain ⟨-, hd⟩ := List.append_inj' ha rfl
      obtain rfl := List.cons.inj hd |>.1
      exact ht (by simp [h])
  · exact hv w a hw (by simpa using ha)

/-- The value of an assignment is in what follows the equals sign. -/
theorem valueOf?_assigned {attr w₁ w₂ : List Char} (ha : ∀ c ∈ attr.head?, isBlank c = false)
    (h₁ : Blank w₁) (h₂ : Blank w₂) (rest : List Char) :
    valueOf? attr (w₁ ++ (attr ++ w₂ ++ ['=']) ++ rest) =
      if (strip rest).isEmpty then none else some (strip rest) := by
  obtain ⟨u, u', hu, hu', ht, hx⟩ := exists_trimmed_name ha h₁ h₂
  have hs : assigned? attr (trim (w₁ ++ (attr ++ w₂ ++ ['=']) ++ rest)) = some (trimEnd rest) := by
    rw [hx, trim_core_append hu ht (by simp), assigned?_eq_some_iff]
    exact ⟨u', hu', by simp⟩
  rw [valueOf?_of_assigned hs, strip, trim_trimEnd, ← strip]

/-- Blanks and semicolons carry no value. -/
theorem valueOf?_padding {attr w w' : List Char} (h : Blank w) (h' : Blank w') (k : Nat) :
    valueOf? attr (w ++ List.replicate k ';' ++ w') = none := by
  have hs : assigned? attr (trim (w ++ List.replicate k ';' ++ w')) = none := by
    rw [Option.eq_none_iff_forall_ne_some]
    intro rest hr
    obtain ⟨u, -, hu⟩ := assigned?_eq_some_iff.mp hr
    have he : '=' ∈ trim (w ++ List.replicate k ';' ++ w') := by
      rw [hu]
      simp
    have hi : trim (w ++ List.replicate k ';' ++ w') <:+: w ++ List.replicate k ';' ++ w' :=
      trim_infix _
    exact equals_not_mem_padding h h' k (hi.subset he)
  rw [valueOf?_of_not_assigned hs, strip_padding h h']
  rfl

/-- A text of blanks carries nothing. -/
theorem valueOf?_blank {attr w : List Char} (h : Blank w) : valueOf? attr w = none := by
  have hw : valueOf? attr (w ++ List.replicate 0 ';' ++ []) = none :=
    valueOf?_padding h blank_nil 0
  simpa using hw

section Readable

variable {attr v w₁ w₂ w₃ w₄ w₅ : List Char}

theorem Readable.valueOf?_assigned (ha : ∀ c ∈ attr.head?, isBlank c = false) (hv : Readable v)
    (h₁ : Blank w₁) (h₂ : Blank w₂) (h₃ : Blank w₃) (h₄ : Blank w₄) (h₅ : Blank w₅) (k : Nat) :
    valueOf? attr (w₁ ++ (attr ++ w₂ ++ ['=']) ++
      (w₃ ++ v ++ w₄ ++ List.replicate k ';' ++ w₅)) = some v := by
  have hne : v.isEmpty = false := by simpa using hv.nonempty
  rw [ClusterRig.valueOf?_assigned ha h₁ h₂, hv.strip_eq h₃ h₄ h₅, hne]
  rfl

theorem Readable.valueOf?_bare (hv : Readable v)
    (hb : ∀ w rest, Blank w → v ≠ attr ++ w ++ '=' :: rest) (h₁ : Blank w₁) (h₂ : Blank w₂)
    (h₃ : Blank w₃) (k : Nat) :
    valueOf? attr (w₁ ++ v ++ w₂ ++ List.replicate k ';' ++ w₃) = some v := by
  have hne : v.isEmpty = false := by simpa using hv.nonempty
  have ht : '=' ∉ trimEnd (w₂ ++ List.replicate k ';' ++ w₃) := by
    intro he
    have hp : trimEnd (w₂ ++ List.replicate k ';' ++ w₃) <+: w₂ ++ List.replicate k ';' ++ w₃ :=
      List.rdropWhile_prefix _ _
    exact equals_not_mem_padding h₂ h₃ k (hp.subset he)
  have hs : assigned? attr (trim (w₁ ++ v ++ w₂ ++ List.replicate k ';' ++ w₃)) = none := by
    have hl : w₁ ++ v ++ w₂ ++ List.replicate k ';' ++ w₃ =
        w₁ ++ v ++ (w₂ ++ List.replicate k ';' ++ w₃) := by
      simp
    rw [hl, trim_core_append h₁ hv.trimmed hv.nonempty]
    exact not_assigned hb ht
  rw [valueOf?_of_not_assigned hs, hv.strip_eq h₁ h₂ h₃, hne]
  rfl

theorem valueOf?_rendering {line : List Char} (ha : ∀ c ∈ attr.head?, isBlank c = false)
    (hv : Readable v) (hb : ∀ w rest, Blank w → v ≠ attr ++ w ++ '=' :: rest)
    (h : Rendering attr v line) : valueOf? attr line = some v := by
  cases h with
  | assigned h₁ h₂ h₃ h₄ h₅ k => exact hv.valueOf?_assigned ha h₁ h₂ h₃ h₄ h₅ k
  | bare h₁ h₂ h₃ k => exact hv.valueOf?_bare hb h₁ h₂ h₃ k

end Readable

/-- Whatever a line carries is proper: it is not empty, nor are there blanks around it. -/
theorem proper_of_valueOf?_eq {attr line v : List Char} (h : valueOf? attr line = some v) :
    v ≠ [] ∧ Trimmed v := by
  have hs : ∃ raw, valueOf? attr line =
      if (strip raw).isEmpty then none else some (strip raw) := by
    cases ha : assigned? attr (trim line) with
    | none => exact ⟨line, valueOf?_of_not_assigned ha⟩
    | some rest => exact ⟨rest, valueOf?_of_assigned ha⟩
  obtain ⟨raw, hs⟩ := hs
  rw [hs] at h
  split_ifs at h with he
  obtain rfl := Option.some.inj h
  exact ⟨by simpa using he, trimmed_trim _⟩

namespace Values

theorem takeFrom_fst (v : Values) (lines : List String) :
    (v.takeFrom lines).1 = lines.findSome? v.value? := by
  induction lines with
  | nil => rfl
  | cons line rest ih =>
    rw [takeFrom, List.findSome?_cons]
    cases v.value? line with
    | none => exact ih
    | some value => rfl

theorem first_eq_ok_iff {v : Values} {raw : String} :
    v.first = .ok raw ↔ ∃ before line after, v.lines = before ++ line :: after ∧
      v.value? line = some raw ∧ ∀ l ∈ before, v.value? l = none := by
  have h : v.first = .ok raw ↔ v.lines.findSome? v.value? = some raw := by
    rw [← takeFrom_fst, first, next]
    cases (v.takeFrom v.lines).1 <;> simp
  rw [h, List.findSome?_eq_some_iff]

theorem first_eq_error_iff {v : Values} {e : Failure} :
    v.first = .error e ↔
      (∀ l ∈ v.lines, v.value? l = none) ∧ e = .valueMissing v.bean v.attr := by
  have h : v.first = .error e ↔
      v.lines.findSome? v.value? = none ∧ e = .valueMissing v.bean v.attr := by
    rw [← takeFrom_fst, first, next]
    cases (v.takeFrom v.lines).1 <;> simp [eq_comm]
  rw [h, List.findSome?_eq_none_iff]

/-- The next value is the first that is left, and the others are left after it. -/
theorem takeFrom_filterMap (v : Values) (lines : List String) :
    (v.takeFrom lines).1 = (lines.filterMap v.value?).head? ∧
      (v.takeFrom lines).2.filterMap v.value? = (lines.filterMap v.value?).tail := by
  induction lines with
  | nil => exact ⟨rfl, rfl⟩
  | cons line rest ih =>
    rw [takeFrom, List.filterMap_cons]
    cases v.value? line with
    | none => exact ih
    | some value => exact ⟨rfl, rfl⟩

theorem next_fst (v : Values) : v.next.1 = v.toList.head? := (v.takeFrom_filterMap v.lines).1

theorem toList_next (v : Values) : v.next.2.toList = v.toList.tail :=
  (v.takeFrom_filterMap v.lines).2

/-- The values are taken in the order of their lines, and none is left after the last. -/
theorem take_fst (v : Values) (n : Nat) :
    (v.take n).1 = (List.range n).map fun i => v.toList[i]? := by
  induction n generalizing v with
  | zero => rfl
  | succ n ih =>
    have ht : (v.take (n + 1)).1 = v.next.1 :: (v.next.2.take n).1 := rfl
    rw [ht, ih, v.next_fst, v.toList_next, List.range_succ_eq_map, List.map_cons, List.map_map]
    refine congrArg₂ List.cons List.head?_eq_getElem? (List.map_congr_left fun i _ => ?_)
    exact List.getElem?_tail

theorem exists_line_of_mem_take {v : Values} {n : Nat} {value : String}
    (h : some value ∈ (v.take n).1) : ∃ line ∈ v.lines, v.value? line = some value := by
  rw [take_fst, List.mem_map] at h
  obtain ⟨i, -, hi⟩ := h
  exact List.mem_filterMap.mp (List.mem_of_getElem? hi)

theorem proper_of_value?_eq {v : Values} {line value : String} (h : v.value? line = some value) :
    value ≠ "" ∧ Trimmed value.toList := by
  obtain ⟨text, ht, rfl⟩ := Option.map_eq_some_iff.mp h
  obtain ⟨hne, htt⟩ := proper_of_valueOf?_eq ht
  rw [String.toList_ofList]
  refine ⟨fun he => hne ?_, htt⟩
  simpa using congrArg String.toList he

/-- Reading a line undoes writing it, with any blanks around its parts and any number of
semicolons behind. Where no value was written none is read, and what is read from any line
at all is proper. -/
theorem padded_roundTrip :
    (∀ (attr w₁ w₂ w₃ w₄ w₅ : List Char) (k : Nat), (∀ c ∈ attr.head?, isBlank c = false) →
      Blank w₁ → Blank w₂ → Blank w₃ → Blank w₄ → Blank w₅ →
      (∀ v, Readable v →
        valueOf? attr (w₁ ++ (attr ++ w₂ ++ ['=']) ++
          (w₃ ++ v ++ w₄ ++ List.replicate k ';' ++ w₅)) = some v ∧
        ((∀ w rest, Blank w → v ≠ attr ++ w ++ '=' :: rest) →
          valueOf? attr (w₁ ++ v ++ w₄ ++ List.replicate k ';' ++ w₅) = some v)) ∧
      valueOf? attr (w₁ ++ (attr ++ w₂ ++ ['=']) ++
        (w₃ ++ w₄ ++ List.replicate k ';' ++ w₅)) = none ∧
      valueOf? attr (w₁ ++ w₄ ++ List.replicate k ';' ++ w₅) = none) ∧
    (∀ attr line v, valueOf? attr line = some v → v ≠ [] ∧ Trimmed v) ∧
    ∀ (vs : Values) (n : Nat) (value : String), some value ∈ (vs.take n).1 →
      value ≠ "" ∧ Trimmed value.toList := by
  refine ⟨?_, fun _ _ _ => proper_of_valueOf?_eq, ?_⟩
  · intro attr w₁ w₂ w₃ w₄ w₅ k ha h₁ h₂ h₃ h₄ h₅
    refine ⟨fun v hv => ⟨?_, ?_⟩, ?_, ?_⟩
    · exact hv.valueOf?_assigned ha h₁ h₂ h₃ h₄ h₅ k
    · exact fun hb => hv.valueOf?_bare hb h₁ h₄ h₅ k
    · rw [valueOf?_assigned ha h₁ h₂, strip_padding (h₃.append h₄) h₅]
      rfl
    · exact valueOf?_padding (h₁.append h₄) h₅ k
  · intro vs n value h
    obtain ⟨line, -, hl⟩ := exists_line_of_mem_take h
    exact proper_of_value?_eq hl

/-- A value with the name of its attribute and both delimiters in it, and an attribute
that is not set. -/
theorem padded_roundTrip_delimiters :
    Readable "a;=x".toList ∧
      (∀ w rest, Blank w → "a;=x".toList ≠ "a".toList ++ w ++ '=' :: rest) ∧
      valueOf? "a".toList "\u00A0a\u2003= a;=x\t;;\u3000".toList = some "a;=x".toList ∧
      valueOf? "a".toList "\u00A0a;=x\t;;\u3000".toList = some "a;=x".toList ∧
      valueOf? "a".toList "\u00A0a\u2003= \t;;\u3000".toList = none ∧
      valueOf? "a".toList "\u00A0\t;;\u3000".toList = none := by
  have hv : Readable "a;=x".toList := by
    refine ⟨by simp, ⟨?_, ?_⟩, ?_⟩
    · simp [isBlank]
    · simp [isBlank]
    · simp
  have hb : ∀ w rest, Blank w → "a;=x".toList ≠ "a".toList ++ w ++ '=' :: rest := by
    intro w rest hw he
    cases w with
    | nil => simp at he
    | cons c w =>
      have hc : isBlank c = true := hw c (by simp)
      simp only [String.reduceToList, List.cons_append, List.nil_append, List.cons.injEq] at he
      obtain ⟨-, rfl, -⟩ := he
      exact absurd hc (by decide)
  obtain ⟨h, -, -⟩ := padded_roundTrip
  obtain ⟨hr, ha, hn⟩ := h "a".toList ['\u00A0'] ['\u2003'] [' '] ['\t'] ['\u3000'] 2
    (by simp [isBlank]) (by simp [Blank, isBlank]) (by simp [Blank, isBlank])
    (by simp [Blank, isBlank]) (by simp [Blank, isBlank]) (by simp [Blank, isBlank])
  obtain ⟨hra, hrb⟩ := hr _ hv
  exact ⟨hv, hb, hra, hrb hb, ha, hn⟩

end Values
end ClusterRig
