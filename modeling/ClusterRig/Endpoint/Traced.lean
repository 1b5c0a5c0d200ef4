import ClusterRig.Failure

/-!
# Traced computations

A node is asked requests, and which ones were asked is part of a result. A traced
computation carries its queries, in order, whether it fails or not.
-/

namespace ClusterRig

/-- What a node can be asked: the beans of a domain, or an attribute of a bean. -/
inductive Request
  | beans (domain : String)
  | get (bean attr : String)
  deriving DecidableEq, Repr

/-- A request to a node. -/
structure Query where
  node : String
  request : Request
  deriving DecidableEq, Repr

namespace Query

def text (q : Query) : String :=
  match q.request with
  | .beans domain => s!"{q.node}: beans {domain}"
  | .get bean attr => s!"{q.node}: get {bean} {attr}"

end Query

structure Traced (α : Type) where
  queries : List Query
  outcome : Except Failure α

namespace Traced

variable {α β : Type}

/-- An outcome that takes no query. -/
def ofExcept (r : Except Failure α) : Traced α := ⟨[], r⟩

def fail (e : Failure) : Traced α := ofExcept (.error e)

/-- Go on with the value of a computation, if it has one. -/
def bind (t : Traced α) (f : α → Traced β) : Traced β :=
  match t.outcome with
  | .ok a => ⟨t.queries ++ (f a).queries, (f a).outcome⟩
  | .error e => ⟨t.queries, .error e⟩

instance : Monad Traced where
  pure a := ⟨[], .ok a⟩
  bind := bind

/-- The computation that hands over a failure instead of failing. -/
def attempt (t : Traced α) : Traced (Except Failure α) := ⟨t.queries, .ok t.outcome⟩

theorem queries_pure (a : α) : (pure a : Traced α).queries = [] := rfl

theorem outcome_pure (a : α) : (pure a : Traced α).outcome = .ok a := rfl

theorem bind_eq_of_ok {t : Traced α} {a : α} (f : α → Traced β) (h : t.outcome = .ok a) :
    t >>= f = ⟨t.queries ++ (f a).queries, (f a).outcome⟩ := by
  change bind t f = _
  simp [bind, h]

theorem bind_eq_of_error {t : Traced α} {e : Failure} (f : α → Traced β)
    (h : t.outcome = .error e) : t >>= f = ⟨t.queries, .error e⟩ := by
  change bind t f = _
  simp [bind, h]

end Traced
end ClusterRig
