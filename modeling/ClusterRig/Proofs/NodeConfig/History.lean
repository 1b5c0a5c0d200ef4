import ClusterRig.NodeConfig.History
import ClusterRig.Proofs.Feature.Effect

/-!
# What counts in a history

Only the steps that succeed count in a history, and each of them has one effect.
Main statement: `run_induction` carries what every such step preserves over a whole
history.
-/

namespace ClusterRig
namespace NodeConfig

open FirstFailure

namespace Step

/-- What a step does when it does not fail. -/
def effect (c : NodeConfig) : Step → NodeConfig
  | .setFrequency millis => c.withMetricsFrequency millis
  | .defaultFrequency millis => c.withDefaultMetricsFrequency millis
  | .exporter b => c.withExporter b
  | .extension e => c.withExtension e
  | .defaultSsl p => c.withDefaultSslParams p
  | .connector k => c.withClientConnector k
  | .feature f g => f.effect g c

theorem eq_effect_of_apply {c c' : NodeConfig} {s : Step} (h : s.apply c = .ok c') :
    c' = s.effect c := by
  cases s with
  | feature f g =>
    rw [apply, Feature.addTo_eq] at h
    exact (settle_eq_ok_iff.mp h).2.symm
  | _ => exact (Except.ok.inj h).symm

@[simp] theorem clientMode_effect (c : NodeConfig) (s : Step) :
    (s.effect c).clientMode = c.clientMode := by
  cases s with
  | extension e => rw [effect, withExtension_eq]
  | feature f g => exact Feature.clientMode_effect g c f
  | _ => rfl

end Step

/-- The steps of a history that do not fail when it is their turn. -/
def succeeding (c : NodeConfig) : List Step → List Step
  | [] => []
  | s :: history =>
    match s.apply c with
    | .ok c' => s :: succeeding c' history
    | .error _ => succeeding c history

@[simp] theorem run_nil (c : NodeConfig) : run c [] = c := rfl

theorem run_cons (c : NodeConfig) (s : Step) (history : List Step) :
    run c (s :: history) = run (after c s) history := rfl

theorem after_of_ok {c c' : NodeConfig} {s : Step} (h : s.apply c = .ok c') : after c s = c' := by
  rw [after, h]

theorem after_of_error {c : NodeConfig} {s : Step} {e : Failure} (h : s.apply c = .error e) :
    after c s = c := by
  rw [after, h]

theorem after_eq_or (c : NodeConfig) (s : Step) : after c s = c ∨ after c s = s.effect c := by
  cases h : s.apply c with
  | error e => exact .inl (after_of_error h)
  | ok c' =>
    rw [after_of_ok h]
    exact .inr (Step.eq_effect_of_apply h)

/-- What holds at the beginning and is preserved by every step that succeeds holds at
the end, of the steps that have succeeded. -/
theorem run_induction {P : List Step → NodeConfig → Prop} {c : NodeConfig} (begins : P [] c)
    (preserved : ∀ done c s, P done c → s.apply c = .ok (s.effect c) →
      P (done ++ [s]) (s.effect c))
    (history : List Step) : P (succeeding c history) (run c history) := by
  -- In the middle of a history, the steps done so far have to be carried along.
  suffices h : ∀ done c, P done c → P (done ++ succeeding c history) (run c history) from
    h [] c begins
  induction history with
  | nil =>
    intro done c h
    simpa [succeeding] using h
  | cons s history ih =>
    intro done c h
    rw [run_cons, succeeding]
    cases hs : s.apply c with
    | ok c' =>
      obtain rfl := Step.eq_effect_of_apply hs
      rw [after_of_ok hs, List.append_cons]
      exact ih _ _ (preserved done c s h hs)
    | error e =>
      rw [after_of_error hs]
      exact ih _ _ h

theorem succeeding_append (c : NodeConfig) (history later : List Step) :
    succeeding c (history ++ later) =
      succeeding c history ++ succeeding (run c history) later := by
  induction history generalizing c with
  | nil => rfl
  | cons s history ih =>
    rw [List.cons_append, succeeding, succeeding, run_cons]
    cases hs : s.apply c with
    | ok c' => simp only [after_of_ok hs, ih, List.cons_append]
    | error e => simp only [after_of_error hs, ih]

theorem succeeding_sublist (c : NodeConfig) (history : List Step) :
    (succeeding c history).Sublist history := by
  induction history generalizing c with
  | nil => exact .slnil
  | cons s history ih =>
    rw [succeeding]
    cases s.apply c with
    | ok c' => exact (ih c').cons_cons s
    | error e => exact (ih c).cons s

/-- Steps that fail count for nothing. -/
theorem run_succeeding (c : NodeConfig) (history : List Step) :
    run c (succeeding c history) = run c history := by
  induction history generalizing c with
  | nil => rfl
  | cons s history ih =>
    rw [succeeding, run_cons]
    cases hs : s.apply c with
    | ok c' =>
      simp only [run_cons, after_of_ok hs]
      exact ih c'
    | error e =>
      simp only [after_of_error hs]
      exact ih c

/-- A step that cannot fail is never left out. -/
theorem mem_succeeding_iff {s : Step} (hs : ∀ c, ∃ c', s.apply c = .ok c') {c : NodeConfig}
    {history : List Step} : s ∈ succeeding c history ↔ s ∈ history := by
  induction history generalizing c with
  | nil => rfl
  | cons t history ih =>
    rw [succeeding]
    cases ht : t.apply c with
    | ok c' => simp only [List.mem_cons, ih]
    | error e =>
      have hne : s ≠ t := by
        rintro rfl
        obtain ⟨c', h⟩ := hs c
        rw [h] at ht
        cases ht
      simp only [List.mem_cons, hne, false_or, ih]

end NodeConfig
end ClusterRig
