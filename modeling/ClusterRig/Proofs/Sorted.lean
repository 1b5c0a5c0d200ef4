import ClusterRig.NodeConfig.Basic
import Mathlib.Data.List.Sort
import Mathlib.Tactic.Common

/-!
# Members of sorted sets

Where elements that compare equal are equal, insertion adds exactly one element.
The order of beans is of this kind. A sorted set is determined by its members.
-/

namespace ClusterRig

universe u

theorem Ascending.mem_insert_iff {α : Type u} {cmp : α → α → Ordering} [Std.LawfulEqCmp cmp]
    {a x : α} {l : List α} : x ∈ insert cmp a l ↔ x = a ∨ x ∈ l := by
  induction l with
  | nil => simp [insert]
  | cons b rest ih =>
    simp only [insert]
    split
    · simp
    next heq =>
      obtain rfl : a = b := Std.LawfulEqCmp.eq_of_compare heq
      simp
    · rw [List.mem_cons, ih, List.mem_cons]
      exact or_left_comm

theorem SortedSet.mem_insert_iff {α : Type u} {cmp : α → α → Ordering} [Std.TransCmp cmp]
    [Std.LawfulEqCmp cmp] {a x : α} {s : SortedSet cmp} :
    x ∈ (s.insert a).elements ↔ x = a ∨ x ∈ s.elements :=
  Ascending.mem_insert_iff

theorem SortedSet.mem_foldl_insert_iff {α : Type u} {cmp : α → α → Ordering} [Std.TransCmp cmp]
    [Std.LawfulEqCmp cmp] {a : α} {l : List α} {s : SortedSet cmp} :
    a ∈ (l.foldl (fun s b => s.insert b) s).elements ↔ a ∈ s.elements ∨ a ∈ l := by
  induction l generalizing s with
  | nil => simp
  | cons b l ih =>
    rw [List.foldl_cons, ih, mem_insert_iff, List.mem_cons]
    tauto

theorem SortedSet.mem_ofList_iff {α : Type u} {cmp : α → α → Ordering} [Std.TransCmp cmp]
    [Std.LawfulEqCmp cmp] {a : α} {l : List α} :
    a ∈ (ofList l : SortedSet cmp).elements ↔ a ∈ l := by
  rw [ofList, mem_foldl_insert_iff]
  simp [empty]

/-- Ascending lists with the same members are equal. -/
theorem Ascending.eq_of_mem_iff {α : Type u} {cmp : α → α → Ordering} [Std.OrientedCmp cmp]
    {l m : List α} (hl : Ascending cmp l) (hm : Ascending cmp m) (h : ∀ a, a ∈ l ↔ a ∈ m) :
    l = m := by
  have irrefl : Std.Irrefl fun a b => cmp a b = .lt := by
    refine ⟨fun a ha => ?_⟩
    have he : cmp a a = .eq := Std.ReflCmp.compare_self
    rw [he] at ha
    cases ha
  have antisymm : Std.Antisymm fun a b => cmp a b = .lt := by
    refine ⟨fun a b hab hba => ?_⟩
    rw [Std.OrientedCmp.gt_of_lt hba] at hab
    cases hab
  exact List.Pairwise.eq_of_mem_iff hl hm h

theorem SortedSet.eq_of_mem_iff {α : Type u} {cmp : α → α → Ordering} [Std.OrientedCmp cmp]
    {s t : SortedSet cmp} (h : ∀ a, a ∈ s.elements ↔ a ∈ t.elements) : s = t := by
  have he : s.elements = t.elements := Ascending.eq_of_mem_iff s.ascending t.ascending h
  cases s
  cases t
  simpa using he

theorem SortedMap.ext_entries {α : Type u} {m n : SortedMap α} (h : m.entries = n.entries) :
    m = n := by
  cases m
  cases n
  simpa using h

namespace Bean

instance : Std.LawfulEqCmp compareProperty where
  compare_self := Std.ReflCmp.compare_self
  eq_of_compare := by
    intro p q h
    obtain ⟨hn, hv⟩ := compareLex_eq_eq.mp h
    exact Prod.ext (Std.LawfulEqOrd.eq_of_compare hn) (Std.LawfulEqOrd.eq_of_compare hv)

instance : Std.LawfulEqCmp compare where
  compare_self := Std.ReflCmp.compare_self
  eq_of_compare := by
    intro a b h
    obtain ⟨hc, hp⟩ := compareLex_eq_eq.mp h
    have hc : a.className = b.className := Std.LawfulEqOrd.eq_of_compare hc
    have hlex : Std.LawfulEqCmp (List.compareLex compareProperty) := inferInstance
    have hp : a.properties = b.properties := SortedMap.ext_entries (hlex.eq_of_compare hp)
    cases a
    cases b
    simp_all

end Bean

theorem NodeConfig.mem_withExporter_iff {c : NodeConfig} {a b : Bean} :
    b ∈ (c.withExporter a).exporters.elements ↔ b = a ∨ b ∈ c.exporters.elements :=
  SortedSet.mem_insert_iff

end ClusterRig
