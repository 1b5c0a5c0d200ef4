/-!
# Sorted sets and maps

A list that ascends strictly under a comparison represents a finite set, or with
keys a finite map, in exactly one way. Insertion keeps the list ascending, so the
structures below carry that as a field.
-/

namespace ClusterRig

universe u

/-- Each element comes strictly before all later ones. -/
def Ascending {α : Type u} (cmp : α → α → Ordering) (l : List α) : Prop :=
  l.Pairwise fun a b => cmp a b = .lt

namespace Ascending

variable {α : Type u}

/-- Put `a` at its place; an element that compares equal is replaced. -/
def insert (cmp : α → α → Ordering) (a : α) : List α → List α
  | [] => [a]
  | b :: rest =>
    match cmp a b with
    | .lt => a :: b :: rest
    | .eq => a :: rest
    | .gt => b :: insert cmp a rest

theorem mem_insert {cmp : α → α → Ordering} {a x : α} {l : List α}
    (h : x ∈ insert cmp a l) : x = a ∨ x ∈ l := by
  induction l with
  | nil => simpa [insert] using h
  | cons b rest ih =>
    simp only [insert] at h
    split at h
    · simpa using h
    · rcases List.mem_cons.mp h with h | h
      · exact .inl h
      · exact .inr (List.mem_cons_of_mem _ h)
    · rcases List.mem_cons.mp h with h | h
      · exact .inr (h ▸ List.mem_cons_self)
      · rcases ih h with h | h
        · exact .inl h
        · exact .inr (List.mem_cons_of_mem _ h)

theorem insert_ascending (cmp : α → α → Ordering) [Std.TransCmp cmp] (a : α) {l : List α}
    (h : Ascending cmp l) : Ascending cmp (insert cmp a l) := by
  induction l with
  | nil => simp [insert, Ascending]
  | cons b rest ih =>
    have hb := List.pairwise_cons.mp h
    simp only [insert]
    split
    next hlt =>
      refine List.pairwise_cons.mpr ⟨fun x hx => ?_, h⟩
      rcases List.mem_cons.mp hx with rfl | hx
      · exact hlt
      · exact Std.TransCmp.lt_trans hlt (hb.1 x hx)
    next heq =>
      exact List.pairwise_cons.mpr
        ⟨fun x hx => Std.TransCmp.lt_of_eq_of_lt heq (hb.1 x hx), hb.2⟩
    next hgt =>
      refine List.pairwise_cons.mpr ⟨fun x hx => ?_, ih hb.2⟩
      rcases mem_insert hx with rfl | hx
      · exact Std.OrientedCmp.lt_of_gt hgt
      · exact hb.1 x hx

end Ascending

/-- A finite set, its elements in ascending order. -/
structure SortedSet {α : Type u} (cmp : α → α → Ordering) where
  elements : List α
  ascending : Ascending cmp elements
  deriving DecidableEq

namespace SortedSet

variable {α : Type u} {cmp : α → α → Ordering}

def empty : SortedSet cmp := ⟨[], List.Pairwise.nil⟩

instance : Inhabited (SortedSet cmp) := ⟨empty⟩

/-- Add an element; one that is there already changes nothing. -/
def insert [Std.TransCmp cmp] (a : α) (s : SortedSet cmp) : SortedSet cmp :=
  ⟨Ascending.insert cmp a s.elements, Ascending.insert_ascending cmp a s.ascending⟩

/-- The set of the elements of a list. -/
def ofList [Std.TransCmp cmp] (l : List α) : SortedSet cmp := l.foldl (fun s a => s.insert a) empty

end SortedSet

/-- Entries are compared by their keys alone. -/
def compareKeys {α : Type u} (a b : String × α) : Ordering := compare a.1 b.1

instance {α : Type u} : Std.TransCmp (compareKeys (α := α)) where
  eq_swap := Std.OrientedOrd.eq_swap
  isLE_trans := Std.TransOrd.isLE_trans

/-- A finite map from strings, its entries in ascending order of their keys. -/
structure SortedMap (α : Type u) where
  entries : List (String × α)
  ascending : Ascending compareKeys entries
  deriving DecidableEq

namespace SortedMap

variable {α : Type u}

def empty : SortedMap α := ⟨[], List.Pairwise.nil⟩

instance : Inhabited (SortedMap α) := ⟨empty⟩

/-- Bind `key` to `value`, in place of any earlier binding. -/
def insert (key : String) (value : α) (m : SortedMap α) : SortedMap α :=
  ⟨Ascending.insert compareKeys (key, value) m.entries,
    Ascending.insert_ascending compareKeys (key, value) m.ascending⟩

def get? (m : SortedMap α) (key : String) : Option α := m.entries.lookup key

def keys (m : SortedMap α) : List String := m.entries.map Prod.fst

/-- Insert the entries from left to right, so that of equal keys the last one stays. -/
def ofList (entries : List (String × α)) : SortedMap α :=
  entries.foldl (fun m e => m.insert e.1 e.2) empty

end SortedMap
end ClusterRig
