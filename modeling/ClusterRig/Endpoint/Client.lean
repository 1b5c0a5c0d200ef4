import ClusterRig.Endpoint.Resolution
import ClusterRig.Endpoint.Values

/-!
# Clients

A client asks one endpoint, several times if need be. Each of its requests is answered
by the endpoint as the earlier ones have left it.
-/

namespace ClusterRig

/-- What is asked of an endpoint, and what comes of it. -/
def Client (α : Type) : Type := Endpoint → Traced α

namespace Client

variable {α β : Type}

/-- Go on with the endpoint as it is after what has been asked of it. -/
def bind (c : Client α) (f : α → Client β) : Client β := fun e =>
  c e >>= fun a => f a (e.after ((c e).queries.map Query.request))

instance : Monad Client where
  pure a := fun _ => pure a
  bind := bind

/-- An outcome that takes no request. -/
def ofExcept (r : Except Failure α) : Client α := fun _ => .ofExcept r

/-- An outcome that takes no request and names the node. -/
def named (r : String → Except Failure α) : Client α := fun e => .ofExcept (r e.name)

/-- Find a bean, asking the node for those of a domain. -/
def findBean (pattern : String) (without : Option String) (domain : String) : Client String :=
  fun e => e.findBean pattern without domain

/-- Read an attribute of a bean. -/
def values (bean attr : String) : Client Values := fun e => e.values bean attr

theorem named_apply (r : String → Except Failure α) (e : Endpoint) :
    named r e = .ofExcept (r e.name) := rfl

theorem bind_apply (c : Client α) (f : α → Client β) (e : Endpoint) :
    (c >>= f) e = c e >>= fun a => f a (e.after ((c e).queries.map Query.request)) := rfl

end Client
end ClusterRig
