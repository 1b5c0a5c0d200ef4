import ClusterRig.Proofs.LastOf
import ClusterRig.Proofs.Sorted
import Mathlib.Data.List.Induction

/-!
# Looking up keys in sorted maps

What an insertion changes, seen through the values that the keys are bound to. A
sorted map is determined by these values, and a map that is built from a list
binds each key to the last value given for it.
-/

namespace ClusterRig

universe u v

variable {α : Type u} {β : Type v}

theorem lookup_cons_of_ne {k l : String} (h : k ≠ l) (value : α) (rest : List (String × α)) :
    List.lookup k ((l, value) :: rest) = rest.lookup k := by
  rw [List.lookup_cons, beq_false_of_ne h]

namespace Ascending

theorem lookup_insert (key : String) (value : α) (entries : List (String × α)) (k : String) :
    (insert compareKeys (key, value) entries).lookup k =
      if k = key then some value else entries.lookup k := by
  induction entries with
  | nil =>
    by_cases h : k = key
    · simp [insert, h]
    · simp [insert, lookup_cons_of_ne, h]
  | cons e rest ih =>
    obtain ⟨l, t⟩ := e
    simp only [insert]
    split
    · by_cases h : k = key
      · simp [h]
      · rw [lookup_cons_of_ne h, if_neg h]
    next heq =>
      obtain rfl : key = l := Std.LawfulEqOrd.eq_of_compare heq
      by_cases h : k = key
      · simp [h]
      · rw [lookup_cons_of_ne h, lookup_cons_of_ne h, if_neg h]
    next hgt =>
      have hne : l ≠ key := by
        rintro rfl
        simp [compareKeys] at hgt
      by_cases h : k = l
      · subst h
        simp [hne]
      · rw [lookup_cons_of_ne h, lookup_cons_of_ne h, ih]

theorem ne_of_mem_tail {e : String × α} {rest : List (String × α)}
    (h : Ascending compareKeys (e :: rest)) {x : String × α} (hx : x ∈ rest) : x.1 ≠ e.1 := by
  intro hk
  have hlt : compareKeys e x = .lt := (List.pairwise_cons.mp h).1 x hx
  simp [compareKeys, hk] at hlt

theorem lookup_tail {key : String} {value : α} {rest : List (String × α)}
    (h : Ascending compareKeys ((key, value) :: rest)) : rest.lookup key = none := by
  rw [List.lookup_eq_none_iff]
  exact fun e he => bne_iff_ne.mpr (ne_of_mem_tail h he).symm

theorem lookup_eq_some_iff {entries : List (String × α)} (h : Ascending compareKeys entries)
    {k : String} {value : α} : entries.lookup k = some value ↔ (k, value) ∈ entries := by
  induction entries with
  | nil => simp
  | cons e rest ih =>
    obtain ⟨l, t⟩ := e
    have ih := ih (List.pairwise_cons.mp h).2
    by_cases hk : k = l
    · subst hk
      have hn : (k, value) ∉ rest := fun hm => ne_of_mem_tail h hm rfl
      simp [hn, eq_comm]
    · simp [lookup_cons_of_ne hk, ih, hk]

/-- Ascending entries with the same values are equal. -/
theorem eq_of_lookup_eq {l m : List (String × α)} (hl : Ascending compareKeys l)
    (hm : Ascending compareKeys m) (h : ∀ k, l.lookup k = m.lookup k) : l = m := by
  refine eq_of_mem_iff hl hm fun e => ?_
  rw [← lookup_eq_some_iff hl, ← lookup_eq_some_iff hm, h]

theorem nodup_keys {entries : List (String × α)} (h : Ascending compareKeys entries) :
    (entries.map Prod.fst).Nodup := by
  induction entries with
  | nil => exact List.nodup_nil
  | cons e rest ih =>
    rw [List.map_cons, List.nodup_cons]
    refine ⟨fun he => ?_, ih (List.pairwise_cons.mp h).2⟩
    obtain ⟨x, hx, hk⟩ := List.mem_map.mp he
    exact ne_of_mem_tail h hx hk

end Ascending

namespace SortedMap

@[simp] theorem get?_empty (k : String) : (empty : SortedMap α).get? k = none := rfl

theorem get?_insert (m : SortedMap α) (key : String) (value : α) (k : String) :
    (m.insert key value).get? k = if k = key then some value else m.get? k :=
  Ascending.lookup_insert key value m.entries k

theorem ext_get? {m n : SortedMap α} (h : ∀ k, m.get? k = n.get? k) : m = n :=
  ext_entries (Ascending.eq_of_lookup_eq m.ascending n.ascending h)

theorem mem_keys_iff {m : SortedMap α} {k : String} : k ∈ m.keys ↔ ∃ value, m.get? k = some value := by
  simp only [get?, Ascending.lookup_eq_some_iff m.ascending, keys, List.mem_map, Prod.exists,
    exists_and_right, exists_eq_right]

theorem nodup_keys (m : SortedMap α) : m.keys.Nodup := Ascending.nodup_keys m.ascending

/-- Change the values and keep the keys. -/
def map (f : α → β) (m : SortedMap α) : SortedMap β where
  entries := m.entries.map fun e => (e.1, f e.2)
  ascending := by
    unfold Ascending
    rw [List.pairwise_map]
    exact m.ascending

theorem get?_map (f : α → β) (m : SortedMap α) (k : String) :
    (m.map f).get? k = (m.get? k).map f := by
  change (m.entries.map fun e => (e.1, f e.2)).lookup k = (m.entries.lookup k).map f
  induction m.entries with
  | nil => rfl
  | cons e rest ih =>
    rw [List.map_cons, List.lookup_cons, List.lookup_cons, ih]
    cases k == e.1 <;> rfl

theorem map_insert (f : α → β) (m : SortedMap α) (key : String) (value : α) :
    (m.insert key value).map f = (m.map f).insert key (f value) := by
  refine ext_get? fun k => ?_
  rw [get?_map, get?_insert, get?_insert, get?_map]
  split <;> rfl

theorem ofList_concat (entries : List (String × α)) (e : String × α) :
    ofList (entries ++ [e]) = (ofList entries).insert e.1 e.2 := by
  rw [ofList, List.foldl_append]
  rfl

/-- A map that is built from a list binds each key to the last value given for it. -/
theorem get?_ofList_eq_some_iff {entries : List (String × α)} {k : String} {value : α} :
    (ofList entries).get? k = some value ↔ LastOf Prod.fst entries (k, value) := by
  induction entries using List.reverseRecOn with
  | nil => simp [ofList, LastOf.not_nil]
  | append_singleton entries e ih =>
    obtain ⟨l, t⟩ := e
    rw [ofList_concat, get?_insert, LastOf.concat_iff, ← ih]
    by_cases h : k = l
    · simp [h, eq_comm]
    · simp [h, Ne.symm h]

theorem get?_ofList_eq_none_iff {entries : List (String × α)} {k : String} :
    (ofList entries).get? k = none ↔ k ∉ entries.map Prod.fst := by
  rw [Option.eq_none_iff_forall_ne_some]
  constructor
  · intro h hk
    obtain ⟨⟨_, value⟩, he, rfl⟩ := LastOf.exists_of_mem_map hk
    exact h value (get?_ofList_eq_some_iff.mpr he)
  · intro hk value hv
    exact hk (List.mem_map_of_mem (get?_ofList_eq_some_iff.mp hv).mem)

end SortedMap
end ClusterRig
