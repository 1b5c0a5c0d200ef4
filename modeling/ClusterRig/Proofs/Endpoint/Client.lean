import ClusterRig.Endpoint.Client
import ClusterRig.Proofs.Endpoint.Traced

/-!
# Runs of clients

When a client of several steps succeeds and when it fails. A later step meets the endpoint
as the requests of the earlier ones have left it.
-/

namespace ClusterRig
namespace Client

variable {α β : Type} {c : Client α} {f : α → Client β} {e : Endpoint} {qs : List Query}

theorem bind_eq_ok_iff {b : β} :
    (c >>= f) e = ⟨qs, .ok b⟩ ↔ ∃ asked a rest, c e = ⟨asked, .ok a⟩ ∧
      f a (e.after (asked.map Query.request)) = ⟨rest, .ok b⟩ ∧ qs = asked ++ rest := by
  rw [bind_apply, Traced.bind_eq_ok_iff]
  constructor
  · rintro ⟨asked, a, rest, hc, hf, rfl⟩
    rw [hc] at hf
    exact ⟨asked, a, rest, hc, hf, rfl⟩
  · rintro ⟨asked, a, rest, hc, hf, rfl⟩
    refine ⟨asked, a, rest, hc, ?_, rfl⟩
    rwa [hc]

theorem bind_eq_error_iff {g : Failure} :
    (c >>= f) e = ⟨qs, .error g⟩ ↔ c e = ⟨qs, .error g⟩ ∨
      ∃ asked a rest, c e = ⟨asked, .ok a⟩ ∧
        f a (e.after (asked.map Query.request)) = ⟨rest, .error g⟩ ∧ qs = asked ++ rest := by
  rw [bind_apply, Traced.bind_eq_error_iff]
  refine or_congr_right ⟨?_, ?_⟩
  · rintro ⟨asked, a, rest, hc, hf, rfl⟩
    rw [hc] at hf
    exact ⟨asked, a, rest, hc, hf, rfl⟩
  · rintro ⟨asked, a, rest, hc, hf, rfl⟩
    refine ⟨asked, a, rest, hc, ?_, rfl⟩
    rwa [hc]

end Client
end ClusterRig
