import ClusterRig.Proofs.Tree.Merge

/-!
# Regrouping layers of trees

Laying a tree below layers that have been laid over each other before is not the same
as laying all of them over each other from below. Main statement: `merge_stack_iff`
says when it is. What makes the difference is a layer with a value that is no object
where the tree below and the layers as a whole have objects: in one grouping it cuts
off what the lowest tree has there, in the other it does not.
-/

namespace ClusterRig
namespace Tree

theorem sizeOf_lt_of_child? {key : String} {t u : Tree} (h : child? key t = some u) :
    sizeOf u < sizeOf t := by
  cases t with
  | object entries =>
    obtain ⟨before, after, rfl, -⟩ := List.lookup_eq_some_iff.mp h
    have hlt : sizeOf (key, u) < sizeOf (before ++ (key, u) :: after) :=
      List.sizeOf_lt_of_mem (by simp)
    rw [Prod.mk.sizeOf_spec] at hlt
    rw [object.sizeOf_spec]
    omega
  | _ => cases h

/-- A property of trees holds if it passes from the values under the keys to the tree. -/
theorem child_induction {motive : Tree → Prop}
    (step : ∀ t, (∀ key u, child? key t = some u → motive u) → motive t) (t : Tree) : motive t :=
  step t fun _ u h =>
    have := sizeOf_lt_of_child? h
    child_induction step u
termination_by sizeOf t

/-- Objects with the same values under all keys are equal. -/
theorem eq_of_child?_eq {t u : Tree} (ht : t.Canonical) (hu : u.Canonical) (hto : t.IsObject)
    (huo : u.IsObject) (h : ∀ key, child? key t = child? key u) : t = u := by
  cases t with
  | object entries =>
    cases u with
    | object others =>
      simp only [Canonical] at ht hu
      exact congrArg object (Ascending.eq_of_lookup_eq ht.1 hu.1 h)
    | _ => exact absurd huo id
  | _ => exact absurd hto id

theorem merge_of_base_not_isObject {base : Tree} (h : ¬ base.IsObject) (upper : Tree) :
    merge base upper = upper := by
  cases upper with
  | object =>
    cases base with
    | object => exact absurd trivial h
    | _ => simp only [merge]
  | _ => rw [merge]

/-- The layers laid over a tree, the later ones above. -/
def stack (t : Tree) (layers : List Tree) : Tree := layers.foldl merge t

variable {t u : Tree} {layers : List Tree}

@[simp] theorem stack_nil (t : Tree) : stack t [] = t := rfl

@[simp] theorem stack_cons (t x : Tree) (layers : List Tree) :
    stack t (x :: layers) = stack (merge t x) layers := rfl

theorem canonical_stack (ht : t.Canonical) (hl : ∀ x ∈ layers, x.Canonical) :
    (stack t layers).Canonical := by
  induction layers generalizing t with
  | nil => exact ht
  | cons x layers ih =>
    exact ih (canonical_merge ht x (hl x List.mem_cons_self)) fun y hy =>
      hl y (List.mem_cons_of_mem x hy)

theorem canonical_stack_null (hl : ∀ x ∈ layers, x.Canonical) : (stack .null layers).Canonical :=
  canonical_stack (by simp only [Canonical]) hl

theorem isObject_stack (h : t.IsObject) (ho : ∀ x ∈ layers, x.IsObject) :
    (stack t layers).IsObject := by
  induction layers generalizing t with
  | nil => exact h
  | cons x layers ih =>
    exact ih (isObject_merge.mpr (ho x List.mem_cons_self)) fun y hy =>
      ho y (List.mem_cons_of_mem x hy)

theorem isObject_stack_of_ne_nil (hne : layers ≠ []) (ho : ∀ x ∈ layers, x.IsObject) :
    (stack t layers).IsObject := by
  cases layers with
  | nil => exact absurd rfl hne
  | cons x layers =>
    rw [stack_cons]
    exact isObject_stack (isObject_merge.mpr (ho x List.mem_cons_self)) fun y hy =>
      ho y (List.mem_cons_of_mem x hy)

theorem stack_of_not_isObject (hne : layers ≠ []) (ht : ¬ t.IsObject) :
    stack t layers = stack .null layers := by
  cases layers with
  | nil => exact absurd rfl hne
  | cons x layers => rw [stack_cons, stack_cons, merge_of_base_not_isObject ht, merge_null]

/-- Nothing below a layer that is no object is left. -/
theorem stack_of_leaf {x : Tree} (hx : x ∈ layers) (hn : ¬ x.IsObject) (t u : Tree) :
    stack t layers = stack u layers := by
  induction layers generalizing t u with
  | nil => cases hx
  | cons y layers ih =>
    rw [stack_cons, stack_cons]
    rcases List.mem_cons.mp hx with rfl | hx
    · rw [merge_of_not_isObject t hn, merge_of_not_isObject u hn]
    · exact ih hx _ _

/-- A value over one that may be missing. -/
def laidOver (below : Option Tree) (t : Tree) : Option Tree := some (merge (below.getD .null) t)

theorem foldl_laidOver {us : List Tree} (hne : us ≠ []) (below : Option Tree) :
    us.foldl laidOver below = some (stack (below.getD .null) us) := by
  induction us generalizing below with
  | nil => exact absurd rfl hne
  | cons x us ih =>
    cases us with
    | nil => rfl
    | cons y us =>
      rw [List.foldl_cons, ih (by simp)]
      rfl

/-- One key of layers of objects: the values of the layers that have the key. -/
theorem child?_stack (hl : ∀ x ∈ layers, x.Canonical) (ho : ∀ x ∈ layers, x.IsObject) (t : Tree)
    (key : String) :
    child? key (stack t layers) = (layers.filterMap (child? key)).foldl laidOver (child? key t) := by
  induction layers generalizing t with
  | nil => rfl
  | cons x layers ih =>
    rw [stack_cons, ih (fun y hy => hl y (List.mem_cons_of_mem x hy))
      (fun y hy => ho y (List.mem_cons_of_mem x hy)),
      child?_merge (hl x List.mem_cons_self) (ho x List.mem_cons_self)]
    cases h : child? key x with
    | none => rw [List.filterMap_cons_none h]
    | some u => rw [List.filterMap_cons_some h, List.foldl_cons]; rfl

theorem canonical_of_mem_filterMap (hl : ∀ x ∈ layers, x.Canonical) {key : String} :
    ∀ v ∈ layers.filterMap (child? key), v.Canonical := by
  intro v hv
  obtain ⟨x, hx, hxv⟩ := List.mem_filterMap.mp hv
  exact canonical_of_child? (hl x hx) hxv

theorem lookup_merge_congr {x : Tree} (hx : x.Canonical) {path : List String}
    (h : lookup path t = lookup path u) : lookup path (merge t x) = lookup path (merge u x) := by
  by_cases hc : x.ClearAbove path
  · rw [lookup_merge hx hc, lookup_merge hx hc, h]
  · rw [lookup_merge_of_not_clearAbove hx hc, lookup_merge_of_not_clearAbove hx hc]

theorem lookup_stack_congr (hl : ∀ x ∈ layers, x.Canonical) {path : List String}
    (h : lookup path t = lookup path u) :
    lookup path (stack t layers) = lookup path (stack u layers) := by
  induction layers generalizing t u with
  | nil => exact h
  | cons x layers ih =>
    exact ih (fun y hy => hl y (List.mem_cons_of_mem x hy))
      (lookup_merge_congr (hl x List.mem_cons_self) h)

/-- Below a layer that has a leaf at the path the trees do not count. -/
theorem lookup_stack_of_leafAt (hl : ∀ x ∈ layers, x.Canonical) {path : List String} {x : Tree}
    (hx : x ∈ layers) (hp : x.LeafAt path) (t u : Tree) :
    lookup path (stack t layers) = lookup path (stack u layers) := by
  induction layers generalizing t u with
  | nil => cases hx
  | cons y layers ih =>
    have hl' : ∀ z ∈ layers, z.Canonical := fun z hz => hl z (List.mem_cons_of_mem y hz)
    rcases List.mem_cons.mp hx with rfl | hx
    · obtain ⟨v, hv, hn⟩ := hp
      have hm : ∀ s : Tree, lookup path (merge s x) = some v := fun s =>
        (lookup_merge_leaf (hl x List.mem_cons_self) hn path).mpr (.inl hv)
      exact lookup_stack_congr hl' ((hm t).trans (hm u).symm)
    · exact ih hl' hx _ _

/-- Laying the same layers once more over what they have come to changes nothing, though the
lower ones undo the upper ones for a while. -/
theorem stack_stack (ht : t.Canonical) (hl : ∀ x ∈ layers, x.Canonical) :
    stack (stack t layers) layers = stack t layers := by
  -- The induction is on the result: what stands under one of its keys was made by the layers
  -- that have this key.
  induction hr : stack t layers using child_induction generalizing t layers with
  | step r ih =>
    by_cases hne : layers = []
    · rw [hne, stack_nil]
    by_cases ho : ∀ x ∈ layers, x.IsObject
    · have hrc : r.Canonical := hr ▸ canonical_stack ht hl
      have hro : r.IsObject := hr ▸ isObject_stack_of_ne_nil hne ho
      refine eq_of_child?_eq (canonical_stack hrc hl) hrc (isObject_stack_of_ne_nil hne ho) hro
        fun key => ?_
      have hk : child? key r = (layers.filterMap (child? key)).foldl laidOver (child? key t) :=
        hr ▸ child?_stack hl ho t key
      rw [child?_stack hl ho]
      by_cases hus : layers.filterMap (child? key) = []
      · rw [hus, List.foldl_nil]
      · rw [foldl_laidOver hus] at hk ⊢
        have hbelow : ((child? key t).getD .null).Canonical := by
          cases hv : child? key t with
          | none => exact trivial
          | some v => exact canonical_of_child? ht hv
        rw [hk, Option.getD_some]
        exact congrArg some (ih key _ hk hbelow (canonical_of_mem_filterMap hl) rfl)
    · obtain ⟨x, hx, hn⟩ : ∃ x ∈ layers, ¬ x.IsObject := by simpa using ho
      rw [stack_of_leaf hx hn r t, hr]

/-- Wherever one of the layers has a leaf, what the layers come to already has everything that
the object of the tree below would add. -/
def Absorbs (t : Tree) (layers : List Tree) : Prop :=
  ∀ path u w, lookup path t = some u → u.IsObject → (∃ x ∈ layers, x.LeafAt path) →
    lookup path (stack .null layers) = some w → w.IsObject → merge u w = w

theorem Absorbs.child {key : String} {v : Tree} (h : Absorbs t layers)
    (hl : ∀ x ∈ layers, x.Canonical) (ho : ∀ x ∈ layers, x.IsObject)
    (hv : child? key t = some v) : Absorbs v (layers.filterMap (child? key)) := by
  rintro path u w hu huo ⟨x, hx, hp⟩ hw hwo
  have hne : layers.filterMap (child? key) ≠ [] := List.ne_nil_of_mem hx
  obtain ⟨y, hy, hyx⟩ := List.mem_filterMap.mp hx
  refine h (key :: path) u w ?_ huo ⟨y, hy, leafAt_cons.mpr ⟨x, hyx, hp⟩⟩ ?_ hwo
  · rw [lookup_cons, hv]
    exact hu
  · rw [lookup_cons, child?_stack hl ho, foldl_laidOver hne]
    exact hw

/-- Layers of objects may be regrouped if the values under each of their keys may be. -/
theorem merge_stack_of_child (ht : t.Canonical) (hl : ∀ x ∈ layers, x.Canonical)
    (hne : layers ≠ []) (hto : t.IsObject) (ho : ∀ x ∈ layers, x.IsObject)
    (h : ∀ key v, child? key t = some v → layers.filterMap (child? key) ≠ [] →
      merge v (stack .null (layers.filterMap (child? key))) =
        stack v (layers.filterMap (child? key))) :
    merge t (stack .null layers) = stack t layers := by
  have hb : (stack .null layers).Canonical := canonical_stack_null hl
  have hbo : (stack .null layers).IsObject := isObject_stack_of_ne_nil hne ho
  refine eq_of_child?_eq (canonical_merge ht _ hb) (canonical_stack ht hl)
    (isObject_merge.mpr hbo) (isObject_stack hto ho) fun key => ?_
  rw [child?_merge hb hbo, child?_stack hl ho, child?_stack hl ho]
  by_cases hus : layers.filterMap (child? key) = []
  · rw [hus]
    rfl
  · rw [foldl_laidOver hus, foldl_laidOver hus]
    cases hv : child? key t with
    | none => exact congrArg some (merge_null _)
    | some v => exact congrArg some (h key v hv hus)

theorem merge_stack_of_absorbs (ht : t.Canonical) (hl : ∀ x ∈ layers, x.Canonical)
    (hne : layers ≠ []) (h : Absorbs t layers) :
    merge t (stack .null layers) = stack t layers := by
  induction t using child_induction generalizing layers with
  | step t ih =>
    by_cases hto : t.IsObject
    · by_cases ho : ∀ x ∈ layers, x.IsObject
      · exact merge_stack_of_child ht hl hne hto ho fun key v hv hus =>
          ih key v hv (canonical_of_child? ht hv) (canonical_of_mem_filterMap hl) hus
            (h.child hl ho hv)
      · obtain ⟨x, hx, hn⟩ : ∃ x ∈ layers, ¬ x.IsObject := by simpa using ho
        rw [stack_of_leaf hx hn t .null]
        by_cases hbo : (stack .null layers).IsObject
        · exact h [] t _ (lookup_nil t) hto ⟨x, hx, leafAt_nil.mpr hn⟩ (lookup_nil _) hbo
        · exact merge_of_not_isObject t hbo
    · rw [merge_of_base_not_isObject hto, stack_of_not_isObject hne hto]

theorem absorbs_of_merge_stack (hl : ∀ x ∈ layers, x.Canonical)
    (h : merge t (stack .null layers) = stack t layers) : Absorbs t layers := by
  rintro path u w hu huo ⟨x, hx, hp⟩ hw hwo
  have hb : (stack .null layers).Canonical := canonical_stack_null hl
  have hc : (stack .null layers).ClearAbove path := by
    by_contra hc
    rw [lookup_of_not_clearAbove hc] at hw
    cases hw
  have hm : lookup path (merge t (stack .null layers)) = some (merge u w) := by
    rw [lookup_merge hb hc, hw, hu]
    rfl
  rw [h, lookup_stack_of_leafAt hl hx hp t .null, hw] at hm
  exact (Option.some.inj hm).symm

/-- When a tree may be laid below layers that have been laid over each other before. -/
theorem merge_stack_iff (ht : t.Canonical) (hl : ∀ x ∈ layers, x.Canonical) (hne : layers ≠ []) :
    merge t (stack .null layers) = stack t layers ↔ Absorbs t layers :=
  ⟨absorbs_of_merge_stack hl, merge_stack_of_absorbs ht hl hne⟩

/-- Over a leaf only the upper tree has an object. -/
theorem lookup_merge_of_leafAt {base upper w : Tree} (hu : upper.Canonical) {path : List String}
    (hb : base.LeafAt path) (hw : w.IsObject) :
    lookup path (merge base upper) = some w ↔ lookup path upper = some w := by
  obtain ⟨v, hv, hn⟩ := hb
  by_cases hc : upper.ClearAbove path
  · rw [lookup_merge hu hc, hv]
    cases lookup path upper with
    | none =>
      have hne : v ≠ w := fun h => hn (h ▸ hw)
      simp [hne]
    | some t => simp only [Option.getD_some, merge_of_base_not_isObject hn]
  · rw [lookup_merge_of_not_clearAbove hu hc, lookup_of_not_clearAbove hc]

/-- With two layers the leaf is in the lower one, and the object in the upper one. -/
theorem absorbs_pair_iff {a b c : Tree} (hc : c.Canonical) :
    Absorbs a [b, c] ↔ ∀ path u w, lookup path a = some u → u.IsObject → b.LeafAt path →
      lookup path c = some w → w.IsObject → merge u w = w := by
  have hs : stack .null [b, c] = merge b c := by rw [stack_cons, merge_null]; rfl
  unfold Absorbs
  rw [hs]
  constructor
  · intro h path u w hu huo hb hw hwo
    exact h path u w hu huo ⟨b, by simp, hb⟩ ((lookup_merge_of_leafAt hc hb hwo).mpr hw) hwo
  · rintro h path u w hu huo ⟨x, hx, hp⟩ hw hwo
    rcases List.mem_cons.mp hx with rfl | hx
    · exact h path u w hu huo hp ((lookup_merge_of_leafAt hc hp hwo).mp hw) hwo
    · obtain rfl := List.mem_singleton.mp hx
      obtain ⟨v, hv, hn⟩ := hp
      have hm : lookup path (merge b x) = some v := (lookup_merge_leaf hc hn path).mpr (.inl hv)
      rw [hm] at hw
      exact absurd hwo (Option.some.inj hw ▸ hn)

end Tree
end ClusterRig
