import ClusterRig.Proofs.Globals.LastWriter
import ClusterRig.Proofs.Tree.Regroup

/-!
# Regrouping layers of globals

A command lays the sources of its arguments over each other first, and the result over
the globals of the settings. Main statement: when this is the same as laying every layer
over those before it, and which values come back where it is not.
-/

namespace ClusterRig
namespace Globals

theorem eq_of_root_eq {g h : Globals} (hr : g.root = h.root) : g = h := by
  cases g
  cases h
  simpa using hr

theorem root_mergeAll (g : Globals) (layers : List Globals) :
    (g.mergeAll layers).root = Tree.stack g.root (layers.map root) := by
  induction layers generalizing g with
  | nil => rfl
  | cons x layers ih => exact ih (g.merge x)

theorem canonical_of_mem_map_root {layers : List Globals} :
    ∀ x ∈ layers.map root, x.Canonical := by
  intro x hx
  obtain ⟨g, -, rfl⟩ := List.mem_map.mp hx
  exact g.canonical

/-- Over no settings at all a tree stays what it is. -/
theorem merge_empty_root (g : Globals) : Tree.merge empty.root g.root = g.root := by
  by_cases h : g.root.IsObject
  · refine Tree.eq_of_child?_eq (Tree.canonical_merge empty.canonical _ g.canonical) g.canonical
      (Tree.isObject_merge.mpr h) h fun key => ?_
    rw [Tree.child?_merge g.canonical h]
    cases Tree.child? key g.root with
    | none => rfl
    | some t => exact congrArg some (Tree.merge_null t)
  · exact Tree.merge_of_not_isObject _ h

theorem root_mergeAll_empty {layers : List Globals} (hne : layers ≠ []) :
    (empty.mergeAll layers).root = Tree.stack .null (layers.map root) := by
  cases layers with
  | nil => exact absurd rfl hne
  | cons x layers =>
    rw [root_mergeAll, List.map_cons, Tree.stack_cons, Tree.stack_cons, merge_empty_root,
      Tree.merge_null]

/-- Laying no settings at all over a tree leaves it alone only if it is an object. -/
theorem merge_empty_iff (g : Globals) : g.merge empty = g ↔ g.root.IsObject := by
  constructor
  · intro h
    rw [← h]
    exact Tree.isObject_merge.mpr trivial
  · intro h
    refine eq_of_root_eq (Tree.eq_of_child?_eq (g.merge empty).canonical g.canonical
      (Tree.isObject_merge.mpr trivial) h fun key => ?_)
    exact (Tree.child?_merge empty.canonical trivial key).trans rfl

theorem merge_mergeAll_iff (g : Globals) (layers : List Globals) :
    g.merge (empty.mergeAll layers) = g.mergeAll layers ↔
      (layers = [] → g.root.IsObject) ∧
      ∀ path u w, g.lookup path = some u → u.IsObject → (∃ x ∈ layers, x.root.LeafAt path) →
        (empty.mergeAll layers).lookup path = some w → w.IsObject → u.merge w = w := by
  by_cases hne : layers = []
  · subst hne
    simpa [mergeAll] using merge_empty_iff g
  · have hroots : layers.map root ≠ [] := by simpa using hne
    have hiff := Tree.merge_stack_iff g.canonical canonical_of_mem_map_root hroots
    rw [← root_mergeAll, ← root_mergeAll_empty hne] at hiff
    have hleft : g.merge (empty.mergeAll layers) = g.mergeAll layers ↔
        g.root.merge (empty.mergeAll layers).root = (g.mergeAll layers).root :=
      ⟨congrArg root, fun h => eq_of_root_eq h⟩
    rw [hleft, hiff, Tree.Absorbs, ← root_mergeAll_empty hne]
    simp only [hne, false_implies, true_and, List.mem_map, exists_exists_and_eq_and, lookup]

theorem merge_assoc_iff (a b c : Globals) :
    (a.merge b).merge c = a.merge (b.merge c) ↔ ∀ path u w, a.lookup path = some u →
      u.IsObject → b.root.LeafAt path → c.lookup path = some w → w.IsObject → u.merge w = w := by
  have hiff : a.root.merge (Tree.stack .null [b.root, c.root]) =
      Tree.stack a.root [b.root, c.root] ↔ Tree.Absorbs a.root [b.root, c.root] :=
    Tree.merge_stack_iff a.canonical (by simp [b.canonical, c.canonical]) (by simp)
  have hnull : Tree.stack .null [b.root, c.root] = (b.merge c).root := by
    rw [Tree.stack_cons, Tree.merge_null]
    rfl
  rw [Tree.absorbs_pair_iff c.canonical, hnull] at hiff
  exact Iff.trans ⟨fun h => (congrArg root h).symm, fun h => eq_of_root_eq h.symm⟩ hiff

/-- The layers that leave what stands at a path alone. -/
def Spares (path : List String) (g : Globals) : Prop :=
  g.lookup path = none ∧ g.root.ClearAbove path

theorem lookup_mergeAll_leaf (g : Globals) (layers : List Globals) (path : List String)
    {v : Tree} (hv : ¬ v.IsObject) :
    (g.mergeAll layers).lookup path = some v ↔
      LastWith (fun x => x.lookup path = some v) (Spares path) layers ∨
        g.lookup path = some v ∧ ∀ x ∈ layers, Spares path x := by
  rw [(lastWriter_mergeAll g layers).leaf path v hv, LastWith.cons_iff]
  rfl

theorem lookup_empty_ne {path : List String} {v : Tree} (hv : ¬ v.IsObject) :
    empty.lookup path ≠ some v := by
  cases path with
  | nil => exact fun h => hv (Option.some.inj h ▸ trivial)
  | cons key path =>
    intro h
    cases h

/-- A leaf that only the regrouped layers have: it stands in the lowest globals, and some layer
has switched it off there or above, but the layers as a whole do neither. -/
theorem reappears_iff (g : Globals) (layers : List Globals) (path : List String) {v : Tree}
    (hv : ¬ v.IsObject) :
    (g.merge (empty.mergeAll layers)).lookup path = some v ∧
        (g.mergeAll layers).lookup path ≠ some v ↔
      g.lookup path = some v ∧ Spares path (empty.mergeAll layers) ∧
        ∃ x ∈ layers, ¬ Spares path x := by
  have hupper := lookup_mergeAll_leaf empty layers path hv
  rw [or_iff_left fun h => lookup_empty_ne hv h.1] at hupper
  have hgrouped : (g.merge (empty.mergeAll layers)).lookup path = some v ↔
      (empty.mergeAll layers).lookup path = some v ∨
        g.lookup path = some v ∧ Spares path (empty.mergeAll layers) :=
    Tree.lookup_merge_leaf (empty.mergeAll layers).canonical hv path
  rw [hgrouped, Ne, lookup_mergeAll_leaf g layers path hv, ← hupper]
  constructor
  · rintro ⟨hu | ⟨hg, hs⟩, hn⟩
    · exact absurd (.inl hu) hn
    · refine ⟨hg, hs, ?_⟩
      by_contra hall
      exact hn (.inr ⟨hg, fun x hx => not_not.mp fun hx' => hall ⟨x, hx, hx'⟩⟩)
  · rintro ⟨hg, hs, x, hx, hxs⟩
    refine ⟨.inr ⟨hg, hs⟩, ?_⟩
    rintro (hu | ⟨-, hall⟩)
    · rw [hs.1] at hu
      cases hu
    · exact hxs (hall x hx)

theorem exists_layers_of_read {fs : FileSystem} {sources : List String} {upper : Globals}
    (h : read fs sources = .ok upper) :
    ∃ layers, List.Forall₂ (fun s g => readSource fs s = .ok g) sources layers ∧
      upper = empty.mergeAll layers := by
  rw [read_eq] at h
  cases hm : sources.mapM (readSource fs) with
  | error e =>
    rw [hm] at h
    cases h
  | ok layers =>
    rw [hm] at h
    exact ⟨layers, FirstFailure.mapM_eq_ok_iff.mp hm, (Except.ok.inj h).symm⟩

/-- Three layers may be regrouped exactly if the upper one, wherever the middle one cuts off an
object of the lower one and the upper one has an object again, already has all that this object
would add. So it is with any number of sources that are laid over each other before they are
laid over other globals, and a value that comes back then is one that a source has switched
off, while the sources as a whole leave it alone. -/
theorem merge_regroup :
    (∀ a b c : Globals, (a.merge b).merge c = a.merge (b.merge c) ↔
      ∀ path u w, a.lookup path = some u → u.IsObject → b.root.LeafAt path →
        c.lookup path = some w → w.IsObject → u.merge w = w) ∧
    ∀ fs sources upper, read fs sources = .ok upper →
      ∃ layers, List.Forall₂ (fun s g => readSource fs s = .ok g) sources layers ∧
        ∀ g : Globals,
          (g.merge upper = g.mergeAll layers ↔ (sources = [] → g.root.IsObject) ∧
            ∀ path u w, g.lookup path = some u → u.IsObject →
              (∃ x ∈ layers, x.root.LeafAt path) → upper.lookup path = some w → w.IsObject →
                u.merge w = w) ∧
          ∀ path v, ¬ v.IsObject →
            ((g.merge upper).lookup path = some v ∧ (g.mergeAll layers).lookup path ≠ some v ↔
              g.lookup path = some v ∧ Spares path upper ∧ ∃ x ∈ layers, ¬ Spares path x) := by
  refine ⟨merge_assoc_iff, fun fs sources upper h => ?_⟩
  obtain ⟨layers, hlayers, rfl⟩ := exists_layers_of_read h
  have hnil : sources = [] ↔ layers = [] := by
    rw [← List.length_eq_zero_iff, ← List.length_eq_zero_iff, hlayers.length_eq]
  refine ⟨layers, hlayers, fun g => ⟨?_, fun path v hv => reappears_iff g layers path hv⟩⟩
  rw [hnil]
  exact merge_mergeAll_iff g layers

/-- A feature that one source switches off as a whole, and of which a later one says nothing but
that it is there, is switched on again by the settings. -/
theorem merge_regroup_switched_off :
    let fs := FileSystem.ofList []
    let sources := ["\x7b\"ssl\":false\x7d", "\x7b\"ssl\":\x7b\x7d\x7d"]
    let off := ofTree (.object [("ssl", .bool false)])
    let upper := ofTree (.object [("ssl", .object [])])
    let g := ofTree (.object [("ssl", .object [("enabled", .bool true)])])
    let path := ["ssl", "enabled"]
    read fs sources = .ok upper ∧ (g.merge upper).lookup path = some (.bool true) ∧
      (g.mergeAll [off, upper]).lookup path ≠ some (.bool true) := by
  intro fs sources off upper g path
  have h : read fs sources = .ok upper := by decide +kernel
  have hoff : readSource fs "\x7b\"ssl\":false\x7d" = .ok off := by decide +kernel
  have hupper : readSource fs "\x7b\"ssl\":\x7b\x7d\x7d" = .ok upper := by decide +kernel
  obtain ⟨layers, hlayers, hg⟩ := merge_regroup.2 fs sources upper h
  obtain rfl : layers = [off, upper] := by
    obtain ⟨x, l, hx, hl, rfl⟩ := List.forall₂_cons_left_iff.mp hlayers
    obtain ⟨y, m, hy, hm, rfl⟩ := List.forall₂_cons_left_iff.mp hl
    obtain rfl := List.forall₂_nil_left_iff.mp hm
    rw [Except.ok.inj (hx.symm.trans hoff), Except.ok.inj (hy.symm.trans hupper)]
  have hspares : Spares path upper := by
    refine ⟨by decide, Tree.clearAbove_cons.mpr ⟨trivial, fun u hu => ?_⟩⟩
    obtain rfl : Tree.object [] = u := Option.some.inj hu
    exact Tree.clearAbove_cons.mpr ⟨trivial, fun u hu => by cases hu⟩
  have hcut : ¬ Spares path off := by
    rintro ⟨-, hc⟩
    have hb : (Tree.bool false).ClearAbove ["enabled"] := (Tree.clearAbove_cons.mp hc).2 _ rfl
    exact (Tree.clearAbove_cons.mp hb).1
  exact ⟨h, ((hg g).2 path (.bool true) id).mpr ⟨by decide, hspares, off, by simp, hcut⟩⟩

end Globals
end ClusterRig
