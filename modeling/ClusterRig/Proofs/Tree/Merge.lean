import ClusterRig.Proofs.SortedMap
import ClusterRig.Tree.Basic
import Mathlib.Data.List.Basic
import Mathlib.Tactic.Common

/-!
# Laying one tree over another

What a path leads to in a merged tree, from what it leads to in the two trees. The
upper tree decides wherever it has a value; below a value that is no object it
decides as well, since nothing of the lower tree is left there.
-/

namespace ClusterRig
namespace Tree

def IsObject : Tree → Prop
  | .object _ => True
  | .null | .bool _ | .number _ | .text _ | .array _ => False

/-- There is an object at the path. -/
def ObjectAt (t : Tree) (path : List String) : Prop := ∃ v, lookup path t = some v ∧ v.IsObject

/-- There is a value at the path, and it is no object. -/
def LeafAt (t : Tree) (path : List String) : Prop := ∃ v, lookup path t = some v ∧ ¬ v.IsObject

/-- No value above the path cuts it off. -/
def ClearAbove (t : Tree) (path : List String) : Prop :=
  ∀ q, q <+: path → q ≠ path → ¬ t.LeafAt q

/-- The value under a key. -/
def child? (key : String) : Tree → Option Tree
  | .object entries => entries.lookup key
  | .null | .bool _ | .number _ | .text _ | .array _ => none

@[simp] theorem lookup_nil (t : Tree) : lookup [] t = some t := by rw [lookup]

theorem lookup_cons (key : String) (path : List String) (t : Tree) :
    lookup (key :: path) t = (child? key t).bind (lookup path) := by
  cases t <;> simp [lookup, child?]

theorem child?_of_not_isObject {t : Tree} (h : ¬ t.IsObject) (key : String) :
    child? key t = none := by
  cases t with
  | object => exact absurd trivial h
  | _ => rfl

@[simp] theorem leafAt_nil {t : Tree} : t.LeafAt [] ↔ ¬ t.IsObject := by simp [LeafAt]

theorem leafAt_cons {t : Tree} {key : String} {path : List String} :
    t.LeafAt (key :: path) ↔ ∃ u, child? key t = some u ∧ u.LeafAt path := by
  unfold LeafAt
  rw [lookup_cons]
  cases child? key t <;> simp

theorem clearAbove_nil (t : Tree) : t.ClearAbove [] :=
  fun _ hq hne => absurd (List.prefix_nil.mp hq) hne

theorem clearAbove_cons {t : Tree} {key : String} {path : List String} :
    t.ClearAbove (key :: path) ↔
      t.IsObject ∧ ∀ u, child? key t = some u → u.ClearAbove path := by
  constructor
  · intro h
    refine ⟨not_not.mp fun ho => h [] List.nil_prefix (by simp) (leafAt_nil.mpr ho), ?_⟩
    intro u hu q hq hne hl
    exact h (key :: q) (List.prefix_cons_iff.mpr (.inr ⟨q, rfl, hq⟩)) (by simpa using hne)
      (leafAt_cons.mpr ⟨u, hu, hl⟩)
  · rintro ⟨ho, hc⟩ q hq hne hl
    rcases List.prefix_cons_iff.mp hq with rfl | ⟨r, rfl, hr⟩
    · exact leafAt_nil.mp hl ho
    · obtain ⟨u, hu, hl⟩ := leafAt_cons.mp hl
      exact hc u hu r hr (by simpa using hne) hl

theorem lookup_of_not_clearAbove {t : Tree} {path : List String} (h : ¬ t.ClearAbove path) :
    lookup path t = none := by
  induction path generalizing t with
  | nil => exact absurd (clearAbove_nil t) h
  | cons key path ih =>
    rw [lookup_cons]
    by_cases ho : t.IsObject
    · cases hu : child? key t with
      | none => rfl
      | some u =>
        refine ih fun hc => h (clearAbove_cons.mpr ⟨ho, fun w hw => ?_⟩)
        exact Option.some.inj (hu.symm.trans hw) ▸ hc
    · rw [child?_of_not_isObject ho, Option.bind_none]

theorem lookup_put (key : String) (value : Tree) (entries : List (String × Tree)) (k : String) :
    (put key value entries).lookup k = if k = key then some value else entries.lookup k :=
  Ascending.lookup_insert key value entries k

theorem merge_null (t : Tree) : merge .null t = t := by cases t <;> simp [merge]

theorem merge_of_not_isObject (base : Tree) {upper : Tree} (h : ¬ upper.IsObject) :
    merge base upper = upper := by
  cases upper with
  | object => exact absurd trivial h
  | _ => rw [merge]

@[simp] theorem isObject_merge {base upper : Tree} :
    (merge base upper).IsObject ↔ upper.IsObject := by
  cases upper with
  | object => cases base <;> simp [merge, IsObject]
  | _ => simp [merge, IsObject]

theorem lookup_mergeEntries {upper : List (String × Tree)} (h : Ascending compareKeys upper)
    (entries : List (String × Tree)) (key : String) :
    (mergeEntries entries upper).lookup key =
      match upper.lookup key with
      | none => entries.lookup key
      | some t => some (merge ((entries.lookup key).getD .null) t) := by
  induction upper generalizing entries with
  | nil => simp [mergeEntries]
  | cons e rest ih =>
    obtain ⟨l, t⟩ := e
    rw [mergeEntries, ih (List.pairwise_cons.mp h).2, List.lookup_cons, lookup_put]
    by_cases hk : key = l
    · subst hk
      simp [Ascending.lookup_tail h]
    · simp [hk, show (key == l) = false by simpa using hk]

/-- One key of two trees at a time, where the upper one is an object. -/
theorem child?_merge {base upper : Tree} (hu : upper.Canonical) (ho : upper.IsObject)
    (key : String) :
    child? key (merge base upper) =
      match child? key upper with
      | none => child? key base
      | some t => some (merge ((child? key base).getD .null) t) := by
  cases upper with
  | object entries =>
    simp only [Canonical] at hu
    cases base with
    | object below =>
      simp only [merge, child?]
      exact lookup_mergeEntries hu.1 below key
    | _ => cases h : entries.lookup key <;> simp [merge, child?, h, merge_null]
  | _ => exact absurd ho id

theorem canonical_of_child? {key : String} {t u : Tree} (ht : t.Canonical)
    (h : child? key t = some u) : u.Canonical := by
  cases t with
  | object entries =>
    simp only [Canonical] at ht
    exact canonical_of_lookup ht.2 h
  | _ => cases h

/-- What a path leads to in a merged tree, unless the upper tree cuts it off: the upper
value laid over the lower one, or the lower one where there is no upper one. -/
theorem lookup_merge {base upper : Tree} (hu : upper.Canonical) {path : List String}
    (hc : upper.ClearAbove path) :
    lookup path (merge base upper) =
      match lookup path upper with
      | none => lookup path base
      | some t => some (merge ((lookup path base).getD .null) t) := by
  induction path generalizing base upper with
  | nil => simp
  | cons key path ih =>
    obtain ⟨ho, hc⟩ := clearAbove_cons.mp hc
    rw [lookup_cons, lookup_cons, lookup_cons, child?_merge hu ho]
    cases hk : child? key upper with
    | none => simp
    | some t =>
      simp only [Option.bind_some]
      rw [ih (canonical_of_child? hu hk) (hc t hk)]
      cases hb : child? key base with
      | some u => simp
      | none =>
        -- Under a missing key the lower tree counts as null, which has no value at a
        -- longer path and gives way to any value at this one.
        cases path with
        | nil => simp
        | cons k path => simp [lookup_cons, child?]

theorem lookup_merge_of_not_clearAbove {base upper : Tree} (hu : upper.Canonical)
    {path : List String} (hc : ¬ upper.ClearAbove path) :
    lookup path (merge base upper) = none := by
  induction path generalizing base upper with
  | nil => exact absurd (clearAbove_nil upper) hc
  | cons key path ih =>
    by_cases ho : upper.IsObject
    · rw [lookup_cons, child?_merge hu ho]
      cases hk : child? key upper with
      | none => exact absurd (clearAbove_cons.mpr ⟨ho, by simp [hk]⟩) hc
      | some t =>
        refine ih (canonical_of_child? hu hk) fun ht => hc (clearAbove_cons.mpr ⟨ho, ?_⟩)
        intro u hu'
        exact Option.some.inj (hk.symm.trans hu') ▸ ht
    · rw [merge_of_not_isObject base ho]
      exact lookup_of_not_clearAbove hc

/-- A value that is no object stands in a merged tree where the upper tree has it, or
where the lower one has it and the upper one neither has a value nor cuts the path off. -/
theorem lookup_merge_leaf {base upper v : Tree} (hu : upper.Canonical) (hv : ¬ v.IsObject)
    (path : List String) :
    lookup path (merge base upper) = some v ↔
      lookup path upper = some v ∨
        lookup path base = some v ∧ lookup path upper = none ∧ upper.ClearAbove path := by
  by_cases hc : upper.ClearAbove path
  · rw [lookup_merge hu hc]
    cases lookup path upper with
    | none => simp [hc]
    | some t =>
      simp only [Option.some.injEq, reduceCtorEq, false_and, and_false, or_false]
      by_cases ht : t.IsObject
      · have hm : (merge ((lookup path base).getD .null) t).IsObject := isObject_merge.mpr ht
        exact ⟨fun h => absurd (h ▸ hm) hv, fun h => absurd (h ▸ ht) hv⟩
      · rw [merge_of_not_isObject _ ht]
  · simp [lookup_merge_of_not_clearAbove hu hc, lookup_of_not_clearAbove hc, hc]

theorem forall_prefix_not_leafAt {t : Tree} {path : List String} :
    (∀ q, q <+: path → ¬ t.LeafAt q) ↔ t.ClearAbove path ∧ ¬ t.LeafAt path := by
  constructor
  · intro h
    exact ⟨fun q hq _ => h q hq, h path List.prefix_rfl⟩
  · rintro ⟨hc, hp⟩ q hq
    by_cases h : q = path
    · exact h ▸ hp
    · exact hc q hq h

/-- An object stands in a merged tree where the upper tree has one, or where the lower
one has one and the upper one has only objects along the path. -/
theorem objectAt_merge {base upper : Tree} (hu : upper.Canonical) (path : List String) :
    (merge base upper).ObjectAt path ↔
      upper.ObjectAt path ∨
        base.ObjectAt path ∧ ∀ q, q <+: path → ¬ upper.LeafAt q := by
  rw [forall_prefix_not_leafAt]
  unfold ObjectAt LeafAt
  by_cases hc : upper.ClearAbove path
  · rw [lookup_merge hu hc]
    cases lookup path upper with
    | none => simp [hc]
    | some t =>
      by_cases ht : t.IsObject <;> simp [ht]
  · simp [lookup_merge_of_not_clearAbove hu hc, lookup_of_not_clearAbove hc, hc]

end Tree
end ClusterRig
