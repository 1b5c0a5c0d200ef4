import Mathlib.Data.List.Forall2
import Mathlib.Tactic.Common

/-!
# Runs that stop at the first failure

A list that is worked through in order gives all its results, or the failure of the
first element that has none.
-/

namespace ClusterRig
namespace FirstFailure

variable {ε α β : Type}

theorem bind_eq_ok_iff {x : Except ε α} {f : α → Except ε β} {b : β} :
    x >>= f = .ok b ↔ ∃ a, x = .ok a ∧ f a = .ok b := by
  cases x <;> simp [bind, Except.bind]

theorem bind_eq_error_iff {x : Except ε α} {f : α → Except ε β} {e : ε} :
    x >>= f = .error e ↔ x = .error e ∨ ∃ a, x = .ok a ∧ f a = .error e := by
  cases x <;> simp [bind, Except.bind]

theorem map_eq_error_iff {x : Except ε α} {f : α → β} {e : ε} :
    x.map f = .error e ↔ x = .error e := by
  cases x <;> simp [Except.map]

theorem mapM_eq_ok_iff {f : α → Except ε β} {l : List α} {bs : List β} :
    l.mapM f = .ok bs ↔ List.Forall₂ (fun a b => f a = .ok b) l bs := by
  induction l generalizing bs with
  | nil => cases bs <;> simp [pure, Except.pure]
  | cons a l ih =>
    simp only [List.mapM_cons, bind_eq_ok_iff, ih, pure, Except.pure, Except.ok.injEq]
    constructor
    · rintro ⟨b, hb, cs, hcs, rfl⟩
      exact .cons hb hcs
    · rintro (_ | ⟨hb, hcs⟩)
      exact ⟨_, hb, _, hcs, rfl⟩

theorem mapM_eq_error_iff {f : α → Except ε β} {l : List α} {e : ε} :
    l.mapM f = .error e ↔ ∃ before a after, l = before ++ a :: after ∧
      (∀ x ∈ before, ∃ b, f x = .ok b) ∧ f a = .error e := by
  induction l with
  | nil => simp [pure, Except.pure]
  | cons a l ih =>
    rw [List.mapM_cons, bind_eq_error_iff]
    constructor
    · rintro (h | ⟨b, hb, h⟩)
      · exact ⟨[], a, l, rfl, by simp, h⟩
      · have h : l.mapM f = .error e := by
          cases hl : l.mapM f <;> simp_all [bind, Except.bind, pure, Except.pure]
        obtain ⟨before, x, after, rfl, hok, hx⟩ := ih.mp h
        refine ⟨a :: before, x, after, rfl, ?_, hx⟩
        simpa [hb] using hok
    · rintro ⟨before, x, after, hl, hok, hx⟩
      cases before with
      | nil =>
        obtain ⟨rfl, rfl⟩ := List.cons.inj hl
        exact .inl hx
      | cons y before =>
        obtain ⟨rfl, rfl⟩ := List.cons.inj hl
        obtain ⟨b, hb⟩ := hok a List.mem_cons_self
        have h := ih.mpr
          ⟨before, x, after, rfl, fun z hz => hok z (List.mem_cons_of_mem _ hz), hx⟩
        exact .inr ⟨b, hb, by rw [h]; rfl⟩

theorem exists_of_mapM_eq_ok {f : α → Except ε β} {l : List α} {bs : List β}
    (h : l.mapM f = .ok bs) : ∀ a ∈ l, ∃ b, f a = .ok b :=
  ((List.forall₂_and_left l bs).mp ((mapM_eq_ok_iff.mp h).imp fun _ b hb => ⟨⟨b, hb⟩, hb⟩)).1

theorem mapM_congr {f g : α → Except ε β} {l : List α} (h : ∀ a ∈ l, f a = g a) :
    l.mapM f = l.mapM g := by
  induction l with
  | nil => rfl
  | cons a l ih =>
    obtain ⟨ha, hl⟩ := List.forall_mem_cons.mp h
    rw [List.mapM_cons, List.mapM_cons, ha, ih hl]

/-- Working through a list twice gives all its results twice, or the same failure. -/
theorem mapM_flatMap {γ : Type} (f : β → Except ε γ) (g : α → List β) (l : List α) :
    (do return (← l.mapM fun a => (g a).mapM f).flatten) = (l.flatMap g).mapM f := by
  induction l with
  | nil => rfl
  | cons a l ih =>
    rw [List.flatMap_cons, List.mapM_append, ← ih, List.mapM_cons]
    cases (g a).mapM f with
    | error e => rfl
    | ok bs => cases l.mapM fun a => (g a).mapM f <;> rfl

theorem mapM_append_self (f : α → Except ε β) (l : List α) :
    (l ++ l).mapM f = (l.mapM f).map fun bs => bs ++ bs := by
  rw [List.mapM_append]
  cases l.mapM f <;> rfl

/-- A fold over readings is a fold over what all of them give. -/
theorem foldlM_map {γ : Type} (f : α → Except ε β) (g : γ → β → γ) (l : List α) (c : γ) :
    l.foldlM (fun c a => do return g c (← f a)) c = (l.mapM f).map (fun bs => bs.foldl g c) := by
  induction l generalizing c with
  | nil => rfl
  | cons a l ih =>
    rw [List.foldlM_cons, List.mapM_cons]
    cases f a with
    | error e => rfl
    | ok b =>
      change l.foldlM _ (g c b) = _
      rw [ih]
      cases h : l.mapM f <;> rfl

theorem findSome?_congr {f g : α → Option β} {l : List α} (h : ∀ a ∈ l, f a = g a) :
    l.findSome? f = l.findSome? g := by
  rw [← List.head?_filterMap, ← List.head?_filterMap, List.filterMap_congr h]

/-- A value, unless something has failed. -/
def settle : Option ε → α → Except ε α
  | some e, _ => .error e
  | none, a => .ok a

@[simp] theorem settle_none (a : α) : settle (none : Option ε) a = .ok a := rfl

@[simp] theorem settle_some (e : ε) (a : α) : settle (some e) a = .error e := rfl

theorem settle_eq_ok_iff {o : Option ε} {a b : α} : settle o a = .ok b ↔ o = none ∧ a = b := by
  cases o <;> simp

theorem settle_eq_error_iff {o : Option ε} {a : α} {e : ε} :
    settle o a = .error e ↔ o = some e := by
  cases o <;> simp

theorem settle_bind {o p : Option ε} {a : α} {b : β} {f : α → Except ε β}
    (h : f a = settle p b) : settle o a >>= f = settle (o.or p) b := by
  cases o with
  | none => exact h
  | some e => rfl

theorem settle_map {o : Option ε} {a : α} (f : α → β) :
    (settle o a).map f = settle o (f a) := by
  cases o <;> rfl

/-- A fold whose steps do not change what later steps fail on fails like the first of
its steps that fails at the beginning. -/
theorem foldlM_eq_settle {σ : Type} {f : σ → α → Except ε σ} {failure? : σ → α → Option ε}
    {effect : σ → α → σ} (hf : ∀ s a, f s a = settle (failure? s a) (effect s a))
    (hp : ∀ s a b, failure? s a = none → failure? (effect s a) b = failure? s b)
    (l : List α) (s : σ) :
    l.foldlM f s = settle (l.findSome? (failure? s)) (l.foldl effect s) := by
  induction l generalizing s with
  | nil => rfl
  | cons a l ih =>
    rw [List.foldlM_cons, List.findSome?_cons, List.foldl_cons, hf]
    cases h : failure? s a with
    | some e => rfl
    | none =>
      have hs : failure? (effect s a) = failure? s := funext fun b => hp s a b h
      change l.foldlM f (effect s a) = _
      rw [ih, hs]

end FirstFailure
end ClusterRig
