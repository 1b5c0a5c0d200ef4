import ClusterRig.Proofs.FirstOfEach
import ClusterRig.Proofs.NodeConfig.History

/-!
# Metrics in a history

What a history makes of the metrics part of a configuration: the mode, the frequency,
the exporters and the extensions. Main statement: `run_metrics` reads all of them off
the steps that succeed, whatever else happens between them.
-/

namespace ClusterRig
namespace NodeConfig

namespace Step

/-- The frequency that a step sets, whatever was there. -/
def setting? : Step → Option UInt64
  | .setFrequency millis => some millis
  | _ => none

/-- The frequency that a step fills in if there is none. -/
def default? : Step → Option UInt64
  | .defaultFrequency millis => some millis
  | .feature .opencensus _ | .feature .jmx _ => some 1000
  | _ => none

/-- The exporter that a step adds. -/
def exporter? : Step → Option Bean
  | .exporter b => some b
  | .feature f g => f.exporter? g
  | _ => none

/-- The extension that a step tries to add. -/
def extension? : Step → Option Extension
  | .extension e => some e
  | .feature .opencensus g => some ⟨Opencensus.template, Opencensus.bundle g⟩
  | _ => none

/-- Whether a step is about encryption or the client connector. -/
def isAboutSsl : Step → Bool
  | .defaultSsl _ | .connector _ | .feature .ssl _ => true
  | _ => false

theorem metricsFrequency_effect (c : NodeConfig) (s : Step) :
    (s.effect c).metricsFrequency = s.setting?.or (c.metricsFrequency.or s.default?) := by
  cases s with
  | extension e => simp [effect, withExtension_eq, setting?, default?]
  | feature f g =>
    rw [effect, Feature.metricsFrequency_effect]
    cases f <;> cases c.metricsFrequency <;> rfl
  | _ => cases h : c.metricsFrequency <;> simp [effect, setting?, default?, h,
      withMetricsFrequency, withDefaultMetricsFrequency, withExporter, withDefaultSslParams,
      withClientConnector]

theorem mem_exporters_effect (c : NodeConfig) (s : Step) (b : Bean) :
    b ∈ (s.effect c).exporters.elements ↔ b ∈ c.exporters.elements ∨ s.exporter? = some b := by
  cases s with
  | exporter a =>
    rw [effect, mem_withExporter_iff, or_comm, exporter?, Option.some.injEq, eq_comm]
  | extension e => simp [effect, withExtension_eq, exporter?]
  | feature f g => exact Feature.mem_exporters_effect g c f b
  | _ => simp [effect, exporter?, withMetricsFrequency, withDefaultMetricsFrequency,
      withDefaultSslParams, withClientConnector]

/-- An extension is added if there is none of its name. -/
theorem extensions_effect (c : NodeConfig) (s : Step) :
    (s.effect c).extensions = c.extensions ++
      s.extension?.toList.filter fun e => !c.hasExtension e.name := by
  cases s with
  | extension e =>
    rw [effect, withExtension_eq]
    cases h : c.hasExtension e.name <;> simp [extension?, h]
  | feature f g =>
    rw [effect, Feature.extensions_effect]
    cases f with
    | opencensus =>
      have hn : (Extension.mk Opencensus.template (Opencensus.bundle g)).name =
        Opencensus.bundleName := rfl
      cases h : c.hasExtension Opencensus.bundleName <;> simp [extension?, hn, h]
    | _ => simp [extension?]
  | _ => simp [effect, extension?, withMetricsFrequency, withDefaultMetricsFrequency,
      withExporter, withDefaultSslParams, withClientConnector]

end Step

theorem hasExtension_iff {c : NodeConfig} {name : String} :
    c.hasExtension name = true ↔ name ∈ c.extensions.map Extension.name := by
  simp [hasExtension]

/-- What the steps that have succeeded make of the metrics part: the last explicit
frequency counts, or else the first default; exporters are collected; of extensions with
one name the first stays. -/
structure MetricsLaw (start : NodeConfig) (steps : List Step) (c : NodeConfig) : Prop where
  clientMode : c.clientMode = start.clientMode
  frequency : c.metricsFrequency =
    (steps.filterMap Step.setting?).getLast?.or (steps.filterMap Step.default?).head?
  exporters : ∀ b, b ∈ c.exporters.elements ↔ ∃ s ∈ steps, s.exporter? = some b
  extensions : c.extensions = firstOfEach Extension.name (steps.filterMap Step.extension?)

theorem metricsLaw_new {start : NodeConfig} (h : start = server ∨ start = client) :
    MetricsLaw start [] start := by
  rcases h with rfl | rfl
  · exact ⟨rfl, rfl, by simp [server, SortedSet.empty], rfl⟩
  · exact ⟨rfl, rfl, by simp [client, SortedSet.empty], rfl⟩

theorem MetricsLaw.effect {start c : NodeConfig} {steps : List Step}
    (h : MetricsLaw start steps c) (s : Step) :
    MetricsLaw start (steps ++ [s]) (s.effect c) where
  clientMode := by rw [Step.clientMode_effect, h.clientMode]
  frequency := by
    rw [Step.metricsFrequency_effect, h.frequency, List.filterMap_append, List.filterMap_append,
      List.getLast?_append, List.head?_append]
    cases hs : s.setting? <;> cases hd : s.default? <;> simp [hs, hd]
  exporters b := by
    rw [Step.mem_exporters_effect, h.exporters]
    simp
  extensions := by
    rw [Step.extensions_effect, h.extensions, List.filterMap_append]
    cases he : s.extension? with
    | none => simp [he]
    | some e =>
      have hn : c.hasExtension e.name = true ↔
          e.name ∈ (steps.filterMap Step.extension?).map Extension.name := by
        rw [hasExtension_iff, h.extensions, mem_map_firstOfEach]
      have hs : [s].filterMap Step.extension? = [e] := by simp [he]
      rw [hs, Option.toList_some, firstOfEach_concat]
      by_cases hm : e.name ∈ (steps.filterMap Step.extension?).map Extension.name
      · rw [if_pos hm]
        simp [hn.mpr hm]
      · rw [if_neg hm]
        simp [mt hn.mp hm]

theorem metricsLaw_run {start : NodeConfig} (h : start = server ∨ start = client)
    (history : List Step) : MetricsLaw start (succeeding start history) (run start history) :=
  run_induction (metricsLaw_new h) (fun _ _ s hlaw _ => hlaw.effect s) history

/-- Steps about encryption leave the metrics part alone. -/
theorem metrics_after_of_isAboutSsl {s : Step} (hs : s.isAboutSsl = true) (c : NodeConfig) :
    (after c s).metricsFrequency = c.metricsFrequency ∧
      (after c s).exporters = c.exporters ∧ (after c s).extensions = c.extensions := by
  rcases after_eq_or c s with h | h
  · rw [h]
    exact ⟨rfl, rfl, rfl⟩
  · rw [h]
    cases s with
    | defaultSsl p => exact ⟨rfl, rfl, rfl⟩
    | connector k => exact ⟨rfl, rfl, rfl⟩
    | feature f g =>
      cases f with
      | ssl => exact ⟨rfl, rfl, rfl⟩
      | _ => cases hs
    | _ => cases hs

/-- The metrics part after any history of a new configuration. -/
theorem run_metrics {start : NodeConfig} (hstart : start = server ∨ start = client)
    (history later : List Step) :
    MetricsLaw start (succeeding start history) (run start history) ∧
    ((run start history).extensions.map Extension.name).Nodup ∧
    (∀ e, e ∈ (run start history).extensions ↔ ∃ before after,
      (succeeding start history).filterMap Step.extension? = before ++ e :: after ∧
        ∀ d ∈ before, d.name ≠ e.name) ∧
    (run start history).extensions <+: (run start (history ++ later)).extensions ∧
    (∀ name, (run start history).hasExtension name = true ↔
      name ∈ ((succeeding start history).filterMap Step.extension?).map Extension.name) ∧
    run start (succeeding start history) = run start history ∧
    ∀ c s, s.isAboutSsl = true → (after c s).metricsFrequency = c.metricsFrequency ∧
      (after c s).exporters = c.exporters ∧ (after c s).extensions = c.extensions := by
  have hlaw := metricsLaw_run hstart
  refine ⟨hlaw history, ?_, fun e => ?_, ?_, fun name => ?_, run_succeeding start history,
    fun c s hs => metrics_after_of_isAboutSsl hs c⟩
  · rw [(hlaw history).extensions]
    exact nodup_map_firstOfEach _
  · rw [(hlaw history).extensions, mem_firstOfEach_iff]
  · rw [(hlaw history).extensions, (hlaw (history ++ later)).extensions, succeeding_append,
      List.filterMap_append]
    exact firstOfEach_prefix _ _
  · rw [hasExtension_iff, (hlaw history).extensions, mem_map_firstOfEach]

theorem run_metrics_interleaved :
    let opencensus (port : UInt64) := Globals.ofTree (.object [("metrics", .object
      [("opencensys", .object [("enabled", .bool true), ("port", .number (.natural port))])])])
    let taken : Extension := ⟨"other.j2", ⟨7, 7, "OpencensysMetrics"⟩⟩
    let history : List Step := [.feature .opencensus (opencensus 70000), .defaultFrequency 250,
      .feature .opencensus (opencensus 9000), .extension taken, .setFrequency 40,
      .feature .jmx Globals.empty, .setFrequency 60, .feature .ssl Globals.empty]
    let steps : List Step := [.defaultFrequency 250, .feature .opencensus (opencensus 9000),
      .extension taken, .setFrequency 40, .feature .jmx Globals.empty, .setFrequency 60]
    succeeding server history = steps ∧ MetricsLaw server steps (run server history) ∧
      (run server history).metricsFrequency = some 60 ∧
      (run server history).extensions = [⟨Opencensus.template, ⟨1000, 9000, "OpencensysMetrics"⟩⟩] ∧
      (after (run server history) (.connector {})).extensions =
        (run server history).extensions := by
  intro opencensus taken history steps
  have hs : succeeding server history = steps := rfl
  obtain ⟨hlaw, -, -, -, -, -, hssl⟩ := run_metrics (.inl rfl) history []
  rw [hs] at hlaw
  exact ⟨hs, hlaw, hlaw.frequency, by decide, (hssl _ (.connector {}) rfl).2.2⟩

end NodeConfig
end ClusterRig
