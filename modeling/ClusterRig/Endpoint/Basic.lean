import ClusterRig.Endpoint.Traced

/-!
# Endpoints

An endpoint answers the requests to one node with lines of text. A node goes on
living between two requests, so that the same one may be answered differently the
next time. `Table` is an endpoint held in memory.
-/

namespace ClusterRig

/-- A node that can be asked. The answer to a request may depend on all requests that
were made before it. -/
structure Endpoint where
  name : String
  answerAfter : List Request → Request → Except Failure (List String)

namespace Endpoint

/-- The answer to a request that is made now. -/
def answer (e : Endpoint) (r : Request) : Except Failure (List String) := e.answerAfter [] r

/-- What the endpoint has become once requests have been made. -/
def after (e : Endpoint) (made : List Request) : Endpoint :=
  ⟨e.name, fun earlier => e.answerAfter (made ++ earlier)⟩

@[simp] theorem name_after (e : Endpoint) (made : List Request) : (e.after made).name = e.name :=
  rfl

theorem answer_after (e : Endpoint) (made : List Request) (r : Request) :
    (e.after made).answer r = e.answerAfter made r := by
  change e.answerAfter (made ++ []) r = _
  rw [List.append_nil]

@[simp] theorem after_nil (e : Endpoint) : e.after [] = e := rfl

theorem after_append (e : Endpoint) (made more : List Request) :
    e.after (made ++ more) = (e.after made).after more := by
  simp only [after, List.append_assoc]

/-- Ask the node, leaving a trace of the query. -/
def ask (e : Endpoint) (r : Request) : Traced (List String) := ⟨[⟨e.name, r⟩], e.answer r⟩

/-- The beans of each domain, and the lines of each attribute; either kind of
request can be set up to fail. -/
structure Table where
  beans : List (String × List String) := []
  readings : List ((String × String) × List String) := []
  beansFailure : Option String := none
  readFailure : Option String := none

namespace Table

/-- The lines of the first entry with the key; none without one. -/
def linesOf {κ : Type} [BEq κ] (entries : List (κ × List String)) (key : κ) : List String :=
  (entries.lookup key).getD []

def answer (t : Table) : Request → Except Failure (List String)
  | .beans domain =>
    match t.beansFailure with
    | some text => .error (.endpoint text)
    | none => .ok (linesOf t.beans domain)
  | .get bean attr =>
    match t.readFailure with
    | some text => .error (.endpoint text)
    | none => .ok (linesOf t.readings (bean, attr))

/-- The endpoint whose answers stand in the table, whatever was asked before. -/
def endpoint (t : Table) (name : String) : Endpoint := ⟨name, fun _ => t.answer⟩

end Table
end Endpoint
end ClusterRig
