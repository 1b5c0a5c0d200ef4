import ClusterRig.Text.Blank
import Mathlib.Data.List.DropRight

/-!
# Trimming

What is left of a text without the blanks at its ends. Main statement: trimming gives
the one trimmed text that is the given one up to blanks around it.
-/

namespace ClusterRig
namespace Text

/-- A text of nothing but blanks. -/
def Blank (w : List Char) : Prop := ∀ c ∈ w, isBlank c = true

/-- A text that has no blank at either end. -/
structure Trimmed (s : List Char) : Prop where
  head : ∀ c ∈ s.head?, isBlank c = false
  last : ∀ c ∈ s.getLast?, isBlank c = false

theorem blank_nil : Blank [] := fun _ h => absurd h List.not_mem_nil

theorem Blank.append {w w' : List Char} (h : Blank w) (h' : Blank w') : Blank (w ++ w') := by
  intro c hc
  rcases List.mem_append.mp hc with hc | hc
  · exact h c hc
  · exact h' c hc

variable {p : Char → Bool} {s t w : List Char}

theorem dropWhileEnd_append (h : ∀ c ∈ w, p c = true) :
    dropWhileEnd p (s ++ w) = dropWhileEnd p s := by
  have hr : ∀ c ∈ w.reverse, p c = true := fun c hc => h c (List.mem_reverse.mp hc)
  rw [dropWhileEnd, dropWhileEnd, List.reverse_append, List.dropWhile_append_of_pos hr]

theorem dropWhileEnd_of_last (h : ∀ c ∈ s.getLast?, p c = false) : dropWhileEnd p s = s := by
  refine List.rdropWhile_eq_self_iff.mpr fun hs => ?_
  simpa using h _ (List.getLast?_eq_some_getLast hs)

theorem dropWhile_of_head (h : ∀ c ∈ s.head?, p c = false) : s.dropWhile p = s := by
  cases s with
  | nil => rfl
  | cons c s => rw [List.dropWhile_cons, h c rfl, if_neg (by simp)]

/-- The end of a text is what has been dropped there. -/
theorem exists_dropWhileEnd (p : Char → Bool) (s : List Char) :
    ∃ w, s = dropWhileEnd p s ++ w ∧ (∀ c ∈ w, p c = true) ∧
      ∀ c ∈ (dropWhileEnd p s).getLast?, p c = false := by
  refine ⟨s.rtakeWhile p, List.rdropWhile_append_rtakeWhile.symm, ?_, ?_⟩
  · intro c hc
    exact List.mem_rtakeWhile_imp hc
  · intro c hc
    obtain ⟨hne, rfl⟩ := List.mem_getLast?_eq_getLast hc
    have hn : ¬ p ((dropWhileEnd p s).getLast hne) = true := List.rdropWhile_last_not p s hne
    simpa using hn

theorem trim_append_blank (h : Blank w) : trim (s ++ w) = trim s := by
  unfold trim trimStart
  by_cases hs : ∀ c ∈ s, isBlank c = true
  · rw [List.dropWhile_append_of_pos hs, List.dropWhile_eq_nil_iff.mpr h,
      List.dropWhile_eq_nil_iff.mpr hs]
  · have he : (s.dropWhile isBlank).isEmpty = false := by
      simpa [List.dropWhile_eq_nil_iff] using hs
    rw [List.dropWhile_append, he, if_neg (by simp)]
    exact dropWhileEnd_append h

theorem trim_blank_append (h : Blank w) : trim (w ++ s) = trim s := by
  unfold trim trimStart
  rw [List.dropWhile_append_of_pos h]

theorem Trimmed.trim_eq (h : Trimmed s) : trim s = s := by
  rw [trim, trimStart, dropWhile_of_head h.head]
  exact dropWhileEnd_of_last h.last

theorem exists_trim (s : List Char) :
    ∃ w w', s = w ++ trim s ++ w' ∧ Blank w ∧ Blank w' ∧ Trimmed (trim s) := by
  obtain ⟨w', hs, hw', hl⟩ := exists_dropWhileEnd isBlank (trimStart s)
  have hw : Blank (s.takeWhile isBlank) := fun c hc => List.mem_takeWhile_imp hc
  refine ⟨s.takeWhile isBlank, w', ?_, hw, hw', ?_, hl⟩
  · rw [List.append_assoc]
    refine (List.takeWhile_append_dropWhile (p := isBlank)).symm.trans ?_
    exact congrArg (s.takeWhile isBlank ++ ·) hs
  · intro c hc
    have hc' : (trimStart s).head? = some c := by
      rw [hs]
      exact List.mem_head?_append_of_mem_head? hc
    have hn := List.head?_dropWhile_not isBlank s
    rw [trimStart] at hc'
    rw [hc'] at hn
    simpa using hn

theorem trimmed_trim (s : List Char) : Trimmed (trim s) := by
  obtain ⟨-, -, -, -, -, ht⟩ := exists_trim s
  exact ht

theorem trim_infix (s : List Char) : trim s <:+: s := by
  obtain ⟨w, w', hs, -⟩ := exists_trim s
  exact ⟨w, w', hs.symm⟩

theorem trim_eq_iff :
    trim s = t ↔ Trimmed t ∧ ∃ w w', s = w ++ t ++ w' ∧ Blank w ∧ Blank w' := by
  constructor
  · rintro rfl
    obtain ⟨w, w', hs, hw, hw', ht⟩ := exists_trim s
    exact ⟨ht, w, w', hs, hw, hw'⟩
  · rintro ⟨ht, w, w', rfl, hw, hw'⟩
    rw [trim_append_blank hw', trim_blank_append hw, ht.trim_eq]

theorem trim_trimEnd (s : List Char) : trim (trimEnd s) = trim s := by
  obtain ⟨w, hs, hw, -⟩ := exists_dropWhileEnd isBlank s
  conv_rhs => rw [hs]
  exact (trim_append_blank hw).symm

/-- What a text begins with stays if it has no blank at its ends itself. -/
theorem trim_core_append (hw : Blank w) (ht : Trimmed t) (hne : t ≠ []) :
    trim (w ++ t ++ s) = t ++ trimEnd s := by
  obtain ⟨b, hs, hb, hl⟩ := exists_dropWhileEnd isBlank s
  have hts : ∀ c ∈ (t ++ s).head?, isBlank c = false := by
    rw [List.head?_append_of_ne_nil t hne]
    exact ht.head
  have hte : ∀ c ∈ (t ++ trimEnd s).getLast?, isBlank c = false := by
    rw [List.getLast?_append]
    cases h : (trimEnd s).getLast? with
    | none => exact ht.last
    | some d => exact fun c hc => hl c (h.trans hc)
  rw [List.append_assoc, trim_blank_append hw, trim, trimStart, dropWhile_of_head hts]
  conv_lhs => rw [hs, ← List.append_assoc]
  exact (dropWhileEnd_append hb).trans (dropWhileEnd_of_last hte)

end Text
end ClusterRig
