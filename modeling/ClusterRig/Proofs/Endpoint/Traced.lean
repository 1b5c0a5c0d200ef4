import ClusterRig.Endpoint.Traced
import Mathlib.Tactic.Common

/-!
# Runs of traced computations

When a traced computation of several steps succeeds, when it fails, and what it has
asked by then.
-/

namespace ClusterRig
namespace Traced

variable {α β : Type}

theorem eq_of_outcome {t : Traced α} {o : Except Failure α} (h : t.outcome = o) :
    t = ⟨t.queries, o⟩ := by
  cases t
  simpa using h

theorem exists_error_iff {t : Traced α} :
    (∃ f, t.outcome = .error f) ↔ ¬ ∃ a, t.outcome = .ok a := by
  cases t.outcome <;> simp

theorem map_id (t : Traced α) : id <$> t = t := by
  obtain ⟨qs, o⟩ := t
  cases o <;> simp [Functor.map, bind]

theorem bind_assoc {γ : Type} (t : Traced α) (f : α → Traced β) (g : β → Traced γ) :
    t >>= f >>= g = t >>= fun a => f a >>= g := by
  obtain ⟨qs, o⟩ := t
  cases o with
  | error e => rfl
  | ok a =>
    have hf : (⟨qs, .ok a⟩ : Traced α) >>= f = ⟨qs ++ (f a).queries, (f a).outcome⟩ :=
      bind_eq_of_ok f rfl
    have hfg : (⟨qs, .ok a⟩ : Traced α) >>= (fun a => f a >>= g) =
        ⟨qs ++ (f a >>= g).queries, (f a >>= g).outcome⟩ := bind_eq_of_ok _ rfl
    rw [hf, hfg]
    cases ho : (f a).outcome with
    | error e => rw [bind_eq_of_error g rfl, bind_eq_of_error g ho]
    | ok b => rw [bind_eq_of_ok g rfl, bind_eq_of_ok g ho, List.append_assoc]

instance : LawfulMonad Traced := LawfulMonad.mk' Traced map_id (fun _ _ => rfl) bind_assoc

theorem ofExcept_eq_iff {r : Except Failure α} {qs : List Query} {o : Except Failure α} :
    ofExcept r = ⟨qs, o⟩ ↔ qs = [] ∧ r = o := by
  rw [ofExcept, mk.injEq, eq_comm (a := [])]

theorem ofExcept_ok_bind (a : α) (f : α → Traced β) : ofExcept (.ok a) >>= f = f a := rfl

/-- Steps that take no query are one step. -/
theorem ofExcept_bind (r : Except Failure α) (f : α → Except Failure β) :
    (ofExcept r >>= fun a => ofExcept (f a)) = ofExcept (r >>= f) := by
  cases r <;> rfl

theorem bind_eq_ok_iff {t : Traced α} {f : α → Traced β} {qs : List Query} {b : β} :
    t >>= f = ⟨qs, .ok b⟩ ↔
      ∃ asked a rest, t = ⟨asked, .ok a⟩ ∧ f a = ⟨rest, .ok b⟩ ∧ qs = asked ++ rest := by
  obtain ⟨asked, o⟩ := t
  cases o with
  | error e =>
    rw [bind_eq_of_error f rfl]
    simp
  | ok a =>
    rw [bind_eq_of_ok f rfl, mk.injEq]
    constructor
    · rintro ⟨rfl, h⟩
      exact ⟨asked, a, (f a).queries, rfl, by rw [← h], rfl⟩
    · rintro ⟨_, _, rest, h, hf, rfl⟩
      obtain ⟨rfl, rfl⟩ : asked = _ ∧ a = _ := by simpa using h
      rw [hf]
      exact ⟨rfl, rfl⟩

theorem bind_eq_error_iff {t : Traced α} {f : α → Traced β} {qs : List Query} {e : Failure} :
    t >>= f = ⟨qs, .error e⟩ ↔ t = ⟨qs, .error e⟩ ∨
      ∃ asked a rest, t = ⟨asked, .ok a⟩ ∧ f a = ⟨rest, .error e⟩ ∧ qs = asked ++ rest := by
  obtain ⟨asked, o⟩ := t
  cases o with
  | error e =>
    rw [bind_eq_of_error f rfl]
    simp
  | ok a =>
    rw [bind_eq_of_ok f rfl, mk.injEq]
    constructor
    · rintro ⟨rfl, h⟩
      exact .inr ⟨asked, a, (f a).queries, rfl, by rw [← h], rfl⟩
    · rintro (h | ⟨_, _, rest, h, hf, rfl⟩)
      · simp at h
      · obtain ⟨rfl, rfl⟩ : asked = _ ∧ a = _ := by simpa using h
        rw [hf]
        exact ⟨rfl, rfl⟩

end Traced
end ClusterRig
