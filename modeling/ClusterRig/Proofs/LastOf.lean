import Mathlib.Data.List.Basic
import Mathlib.Data.List.Nodup
import Mathlib.Tactic.Common

/-!
# The last element of a kind

Lists in which an element has one property and all elements after it have another. Of
this kind are the elements whose key does not occur after them: each key of the list
has such an element, and an element that is added at the end takes the place of the
one with its key.
-/

namespace ClusterRig

universe u v

variable {α : Type u} {κ : Type v} {key : α → κ}

/-- Some element has the first property, and all elements after it have the second. -/
def LastWith (writes spares : α → Prop) (l : List α) : Prop :=
  ∃ before a after, l = before ++ a :: after ∧ writes a ∧ ∀ b ∈ after, spares b

namespace LastWith

variable {writes spares : α → Prop}

theorem not_nil : ¬ LastWith writes spares [] := by
  simp [LastWith]

theorem cons_iff {a : α} {l : List α} :
    LastWith writes spares (a :: l) ↔
      LastWith writes spares l ∨ writes a ∧ ∀ b ∈ l, spares b := by
  constructor
  · rintro ⟨before, b, after, hl, hw, hs⟩
    cases before with
    | nil =>
      obtain ⟨rfl, rfl⟩ := List.cons.inj hl
      exact .inr ⟨hw, hs⟩
    | cons x before =>
      obtain ⟨rfl, rfl⟩ := List.cons.inj hl
      exact .inl ⟨before, b, after, rfl, hw, hs⟩
  · rintro (⟨before, b, after, rfl, hw, hs⟩ | ⟨hw, hs⟩)
    · exact ⟨a :: before, b, after, rfl, hw, hs⟩
    · exact ⟨[], a, l, rfl, hw, hs⟩

theorem append_iff {l m : List α} :
    LastWith writes spares (l ++ m) ↔
      LastWith writes spares m ∨ LastWith writes spares l ∧ ∀ b ∈ m, spares b := by
  induction l with
  | nil => simp [not_nil]
  | cons a l ih =>
    rw [List.cons_append, cons_iff, ih, cons_iff]
    simp only [List.forall_mem_append]
    tauto

theorem singleton_iff {a : α} : LastWith writes spares [a] ↔ writes a := by
  simp [cons_iff, not_nil]

theorem concat_iff {a : α} {l : List α} :
    LastWith writes spares (l ++ [a]) ↔ writes a ∨ LastWith writes spares l ∧ spares a := by
  rw [append_iff, singleton_iff, List.forall_mem_singleton]

end LastWith

/-- The element is in the list, and none after it has its key. -/
def LastOf (key : α → κ) (l : List α) (a : α) : Prop :=
  ∃ before after, l = before ++ a :: after ∧ ∀ b ∈ after, key b ≠ key a

namespace LastOf

theorem iff_lastWith {a : α} {l : List α} :
    LastOf key l a ↔ LastWith (a = ·) (fun b => key b ≠ key a) l := by
  constructor
  · rintro ⟨before, after, hl, ha⟩
    exact ⟨before, a, after, hl, rfl, ha⟩
  · rintro ⟨before, _, after, hl, rfl, ha⟩
    exact ⟨before, after, hl, ha⟩

theorem not_nil (a : α) : ¬ LastOf key [] a :=
  mt iff_lastWith.mp LastWith.not_nil

theorem cons_iff {a b : α} {l : List α} :
    LastOf key (b :: l) a ↔ LastOf key l a ∨ a = b ∧ ∀ x ∈ l, key x ≠ key a := by
  rw [iff_lastWith, LastWith.cons_iff, ← iff_lastWith]

theorem append_iff {a : α} {l m : List α} :
    LastOf key (l ++ m) a ↔ LastOf key m a ∨ LastOf key l a ∧ ∀ b ∈ m, key b ≠ key a := by
  rw [iff_lastWith, LastWith.append_iff, ← iff_lastWith, ← iff_lastWith]

theorem concat_iff {a b : α} {l : List α} :
    LastOf key (l ++ [b]) a ↔ a = b ∨ LastOf key l a ∧ key b ≠ key a := by
  rw [iff_lastWith, LastWith.concat_iff, ← iff_lastWith]

/-- Repeating a list leaves the last elements of its keys what they are. -/
theorem append_self_iff {a : α} {l : List α} : LastOf key (l ++ l) a ↔ LastOf key l a := by
  rw [append_iff]
  exact ⟨fun h => h.elim id And.left, .inl⟩

theorem mem {a : α} {l : List α} (h : LastOf key l a) : a ∈ l := by
  obtain ⟨before, after, rfl, -⟩ := h
  simp

theorem exists_of_mem_map {k : κ} {l : List α} (h : k ∈ l.map key) :
    ∃ a, LastOf key l a ∧ key a = k := by
  induction l with
  | nil => cases h
  | cons c l ih =>
    by_cases hl : k ∈ l.map key
    · obtain ⟨a, ha, hk⟩ := ih hl
      exact ⟨a, cons_iff.mpr (.inl ha), hk⟩
    · have hc : key c = k := by simpa [hl, eq_comm] using h
      refine ⟨c, cons_iff.mpr (.inr ⟨rfl, fun x hx hx' => hl ?_⟩), hc⟩
      exact List.mem_map.mpr ⟨x, hx, hx'.trans hc⟩

/-- Where no key occurs twice every element is the last of its key. -/
theorem iff_mem_of_nodup {a : α} {l : List α} (h : (l.map key).Nodup) :
    LastOf key l a ↔ a ∈ l := by
  refine ⟨mem, fun ha => ?_⟩
  obtain ⟨b, hb, hk⟩ := exists_of_mem_map (List.mem_map_of_mem (f := key) ha)
  exact List.inj_on_of_nodup_map h hb.mem ha hk ▸ hb

end LastOf

/-- A list without repeated keys is determined by its keys and its elements. -/
theorem eq_of_map_eq_of_mem {l m : List α} (hn : (m.map key).Nodup) (hk : l.map key = m.map key)
    (hm : ∀ a ∈ l, a ∈ m) : l = m := by
  induction l generalizing m with
  | nil => exact (List.map_eq_nil_iff.mp hk.symm).symm
  | cons a l ih =>
    obtain ⟨b, m, rfl, hab, hlm⟩ := List.map_eq_cons_iff.mp hk.symm
    obtain rfl : a = b :=
      List.inj_on_of_nodup_map hn (hm a List.mem_cons_self) List.mem_cons_self hab.symm
    obtain ⟨ha, hn⟩ := List.nodup_cons.mp hn
    refine congrArg (a :: ·) (ih hn hlm.symm fun x hx => ?_)
    -- The first element does not occur again, as its key does not.
    have hx' : x ≠ a := by
      rintro rfl
      exact ha (hlm ▸ List.mem_map_of_mem hx)
    exact List.mem_of_ne_of_mem hx' (hm x (List.mem_cons_of_mem a hx))

end ClusterRig
