import Mathlib.Data.List.Induction
import Mathlib.Data.List.Nodup
import Mathlib.Tactic.Common

/-!
# The first element of each key

A list from which every element is dropped whose key occurs earlier. Main statement:
`mem_firstOfEach_iff` says which elements stay. Elements that are added at the end are
the only ones that can be added to the result.
-/

namespace ClusterRig

universe u v

variable {α : Type u} {κ : Type v} [DecidableEq κ] {key : α → κ}

/-- Of the elements with one key the first stays. -/
def firstOfEach (key : α → κ) (l : List α) : List α := l.eraseDupsBy fun a b => key a == key b

@[simp] theorem firstOfEach_nil : firstOfEach key ([] : List α) = [] := rfl

/-- Keys that are not wanted may be left out before or after. -/
theorem filter_firstOfEach (p : κ → Bool) (l : List α) :
    (firstOfEach key l).filter (fun b => p (key b)) =
      firstOfEach key (l.filter fun b => p (key b)) := by
  -- The recursion goes on with the rest after it has been filtered, which is only shorter.
  induction hn : l.length using Nat.strongRecOn generalizing l with
  | ind n ih =>
    cases l with
    | nil => rfl
    | cons a l =>
      have hlt : (l.filter fun b => (key b == key a) = false).length < n :=
        hn ▸ Nat.lt_succ_of_le (List.length_filter_le _ l)
      have hrest := ih _ hlt _ rfl
      simp only [firstOfEach, List.filter_filter] at hrest ⊢
      rw [List.eraseDupsBy_cons, List.filter_cons, List.filter_cons, hrest]
      cases hp : p (key a) with
      | true =>
        rw [if_pos rfl, if_pos rfl, List.eraseDupsBy_cons, List.filter_filter]
        simp only [Bool.and_comm]
      | false =>
        rw [if_neg (by simp), if_neg (by simp)]
        congr 1
        refine List.filter_congr fun b _ => ?_
        by_cases hb : key b = key a <;> simp [hb, hp]

theorem firstOfEach_cons (a : α) (l : List α) :
    firstOfEach key (a :: l) = a :: (firstOfEach key l).filter fun b => key b ≠ key a := by
  rw [filter_firstOfEach fun k => k ≠ key a, firstOfEach, List.eraseDupsBy_cons, firstOfEach]
  simp

theorem mem_map_firstOfEach {l : List α} {k : κ} :
    k ∈ (firstOfEach key l).map key ↔ k ∈ l.map key := by
  induction l with
  | nil => rfl
  | cons a l ih =>
    simp only [List.mem_map] at ih
    by_cases hk : key a = k
    · simp [firstOfEach_cons, hk]
    · simp only [firstOfEach_cons, List.map_cons, List.mem_cons, List.mem_map, List.mem_filter,
        Ne.symm hk, false_or, ← ih]
      constructor
      · rintro ⟨b, ⟨hb, -⟩, rfl⟩
        exact ⟨b, hb, rfl⟩
      · rintro ⟨b, hb, rfl⟩
        exact ⟨b, ⟨hb, by simpa using Ne.symm hk⟩, rfl⟩

theorem nodup_map_firstOfEach (l : List α) : ((firstOfEach key l).map key).Nodup := by
  induction l with
  | nil => exact List.nodup_nil
  | cons a l ih =>
    rw [firstOfEach_cons, List.map_cons, List.nodup_cons]
    refine ⟨by simp, ?_⟩
    exact (List.filter_sublist.map key).nodup ih

theorem mem_firstOfEach_id_iff {l : List κ} {k : κ} : k ∈ firstOfEach id l ↔ k ∈ l := by
  have h : k ∈ (firstOfEach id l).map id ↔ k ∈ l.map id := mem_map_firstOfEach
  simpa using h

theorem nodup_firstOfEach_id (l : List κ) : (firstOfEach id l).Nodup := by
  have h : ((firstOfEach id l).map id).Nodup := nodup_map_firstOfEach l
  simpa using h

/-- One element more at the end stays if its key is new. -/
theorem firstOfEach_concat (l : List α) (a : α) :
    firstOfEach key (l ++ [a]) =
      firstOfEach key l ++ if key a ∈ l.map key then [] else [a] := by
  induction l with
  | nil => simp [firstOfEach_cons]
  | cons b l ih =>
    simp only [List.cons_append, firstOfEach_cons, ih, List.filter_append, List.map_cons,
      List.mem_cons]
    by_cases hl : key a ∈ l.map key
    · simp [hl]
    · by_cases hb : key a = key b <;> simp [hl, hb]

/-- Elements whose keys have all occurred before add nothing. -/
theorem firstOfEach_append_of_mem {l m : List α} (h : ∀ a ∈ m, key a ∈ l.map key) :
    firstOfEach key (l ++ m) = firstOfEach key l := by
  induction m using List.reverseRecOn with
  | nil => rw [List.append_nil]
  | append_singleton m a ih =>
    have ha : key a ∈ (l ++ m).map key := by
      rw [List.map_append]
      exact List.mem_append_left _ (h a (by simp))
    rw [← List.append_assoc, firstOfEach_concat, if_pos ha, List.append_nil]
    exact ih fun b hb => h b (List.mem_append_left _ hb)

theorem firstOfEach_prefix (l m : List α) : firstOfEach key l <+: firstOfEach key (l ++ m) := by
  induction m using List.reverseRecOn with
  | nil => simp
  | append_singleton m a ih =>
    rw [← List.append_assoc, firstOfEach_concat]
    exact ih.trans (List.prefix_append _ _)

/-- The elements that stay are those without an earlier one of their key. -/
theorem mem_firstOfEach_iff {l : List α} {a : α} :
    a ∈ firstOfEach key l ↔
      ∃ before after, l = before ++ a :: after ∧ ∀ b ∈ before, key b ≠ key a := by
  constructor
  · intro h
    induction l with
    | nil => cases h
    | cons b l ih =>
      rw [firstOfEach_cons] at h
      rcases List.mem_cons.mp h with rfl | h
      · exact ⟨[], l, rfl, by simp⟩
      · obtain ⟨h, hb⟩ := List.mem_filter.mp h
        obtain ⟨before, after, rfl, hbefore⟩ := ih h
        refine ⟨b :: before, after, rfl, ?_⟩
        rintro c (_ | ⟨_, hc⟩)
        · exact Ne.symm (by simpa using hb)
        · exact hbefore c hc
  · rintro ⟨before, after, rfl, hbefore⟩
    have ha : key a ∉ before.map key := by simpa using hbefore
    have hp : firstOfEach key (before ++ [a]) <+: firstOfEach key (before ++ [a] ++ after) :=
      firstOfEach_prefix _ _
    rw [firstOfEach_concat, if_neg ha, List.append_assoc] at hp
    exact hp.subset (by simp)

/-- Where an element stays, those that stay before it are those of the list up to it. -/
theorem exists_of_firstOfEach_eq {l before after : List α} {a : α}
    (h : firstOfEach key l = before ++ a :: after) :
    ∃ earlier later, l = earlier ++ a :: later ∧ firstOfEach key earlier = before := by
  induction l using List.reverseRecOn generalizing after with
  | nil => simp at h
  | append_singleton l b ih =>
    rw [firstOfEach_concat] at h
    split_ifs at h with hb
    · rw [List.append_nil] at h
      obtain ⟨earlier, later, rfl, hearlier⟩ := ih h
      exact ⟨earlier, later ++ [b], by simp, hearlier⟩
    · rcases List.eq_nil_or_concat after with rfl | ⟨after, c, rfl⟩
      · obtain ⟨hl, hab⟩ := List.append_inj' h rfl
        obtain rfl : b = a := List.singleton_inj.mp hab
        exact ⟨l, [], rfl, hl⟩
      · rw [List.concat_eq_append, ← List.cons_append, ← List.append_assoc] at h
        obtain ⟨hl, -⟩ := List.append_inj' h rfl
        obtain ⟨earlier, later, rfl, hearlier⟩ := ih hl
        exact ⟨earlier, later ++ [b], by simp, hearlier⟩

end ClusterRig
