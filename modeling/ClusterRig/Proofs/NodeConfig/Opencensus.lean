import ClusterRig.Proofs.NodeConfig.Metrics

/-!
# OpenCensus in a history

The record of the parameters is written once and the exporters are collected, so later
parameters may add an exporter but never a record. Main statement: `run_opencensus` says
of every history without extensions of its own that there is at most one record, which
has the parameters of the first addition that succeeded, with the exporter of the period
in the record.
-/

namespace ClusterRig

open FirstFailure

theorem Opencensus.ofGlobals_eq (g : Globals) :
    ofGlobals g =
      if isEnabled g then settle (firstFailure? g keys) (some (bundle g)) else .ok none := by
  rw [ofGlobals, params_eq, settle_map]

theorem Opencensus.ofGlobals_of_addTo {c c' : NodeConfig} {g : Globals}
    (h : addTo c g = .ok c') : ofGlobals g = .ok (some (bundle g)) := by
  rw [addTo_eq] at h
  split at h
  next he =>
    rw [ofGlobals_eq, if_pos he]
    exact settle_eq_ok_iff.mpr ⟨(settle_eq_ok_iff.mp h).1, rfl⟩
  next => cases h

theorem Opencensus.eq_bundle_of_ofGlobals {g : Globals} {p : OpencensusParams}
    (h : ofGlobals g = .ok (some p)) : p = bundle g := by
  rw [ofGlobals_eq] at h
  split at h
  next => exact (Option.some.inj (settle_eq_ok_iff.mp h).2).symm
  next => cases h

namespace NodeConfig

theorem Step.extension?_eq_none {s : Step} (hext : ∀ e, s ≠ .extension e)
    (hother : ∀ g, s ≠ .feature .opencensus g) : s.extension? = none := by
  cases s with
  | extension e => exact absurd rfl (hext e)
  | feature f g =>
    cases f with
    | opencensus => exact absurd rfl (hother g)
    | _ => rfl
  | _ => rfl

/-- What the steps that have succeeded make of OpenCensus: nothing is recorded before the
first addition, whose parameters are recorded and whose exporter stays. -/
inductive OpencensusLaw (steps : List Step) (c : NodeConfig) : Prop
  | absent (never : ∀ g, .feature .opencensus g ∉ steps) (unrecorded : c.extensions = [])
  | recorded (before : List Step) (g : Globals) (after : List Step) (p : OpencensusParams)
      (b : Bean) (steps_eq : steps = before ++ .feature .opencensus g :: after)
      (first : ∀ g', .feature .opencensus g' ∉ before)
      (extracted : Opencensus.ofGlobals g = .ok (some p))
      (record : c.extensions = [⟨Opencensus.template, p⟩])
      (exporter : b ∈ c.exporters.elements)
      (className : b.className = Opencensus.exporterClass)
      (properties : b.properties.entries = [("period", toString p.period.toNat)])

namespace OpencensusLaw

variable {steps : List Step} {c : NodeConfig}

theorem concat_opencensus (h : OpencensusLaw steps c) {g : Globals}
    (hg : Opencensus.ofGlobals g = .ok (some (Opencensus.bundle g))) :
    OpencensusLaw (steps ++ [.feature .opencensus g]) ((Feature.opencensus).effect g c) := by
  have hmem := Feature.mem_exporters_effect g c .opencensus
  have hext := Feature.extensions_effect g c .opencensus
  cases h with
  | absent never unrecorded =>
    refine .recorded steps g [] _ (Opencensus.exporter (Opencensus.bundle g)) rfl never hg ?_
      ((hmem _).mpr (.inr rfl)) rfl rfl
    rw [hext, unrecorded]
    simp [hasExtension, unrecorded]
  | recorded before g' after p b steps_eq first extracted record exporter className properties =>
    subst steps_eq
    refine .recorded before g' (after ++ [.feature .opencensus g]) p b (by simp) first extracted
      ?_ ((hmem b).mpr (.inl exporter)) className properties
    -- The record has the name under which every other one would be written.
    have hname : c.hasExtension Opencensus.bundleName = true := by
      rw [hasExtension_iff, record, Opencensus.eq_bundle_of_ofGlobals extracted]
      exact List.mem_singleton.mpr rfl
    rw [hext, hname, record]
    simp

theorem concat_other (h : OpencensusLaw steps c) {s : Step} (hext : ∀ e, s ≠ .extension e)
    (hother : ∀ g, s ≠ .feature .opencensus g) : OpencensusLaw (steps ++ [s]) (s.effect c) := by
  have hsame : (s.effect c).extensions = c.extensions := by
    rw [Step.extensions_effect, Step.extension?_eq_none hext hother]
    simp
  cases h with
  | absent never unrecorded =>
    exact .absent (by simpa [never] using fun g => (hother g).symm) (hsame.trans unrecorded)
  | recorded before g after p b steps_eq first extracted record exporter className properties =>
    subst steps_eq
    exact .recorded before g (after ++ [s]) p b (by simp) first extracted (hsame.trans record)
      ((Step.mem_exporters_effect c s b).mpr (.inl exporter)) className properties

theorem effect (h : OpencensusLaw steps c) {s : Step} (hs : s.apply c = .ok (s.effect c))
    (hext : ∀ e, s ≠ .extension e) : OpencensusLaw (steps ++ [s]) (s.effect c) := by
  by_cases hoc : ∃ g, s = .feature .opencensus g
  · obtain ⟨g, rfl⟩ := hoc
    exact h.concat_opencensus (Opencensus.ofGlobals_of_addTo hs)
  · exact h.concat_other hext fun g hg => hoc ⟨g, hg⟩

theorem extensions_ne_nil_iff (h : OpencensusLaw steps c) :
    c.extensions ≠ [] ↔ ∃ g, .feature .opencensus g ∈ steps := by
  cases h with
  | absent never unrecorded => simp [never, unrecorded]
  | recorded before g after p b steps_eq first extracted record =>
    exact iff_of_true (by simp [record]) ⟨g, by simp [steps_eq]⟩

theorem length_extensions_le (h : OpencensusLaw steps c) : c.extensions.length ≤ 1 := by
  cases h with
  | absent never unrecorded => simp [unrecorded]
  | recorded before g after p b steps_eq first extracted record => simp [record]

end OpencensusLaw

theorem opencensusLaw_new {start : NodeConfig} (h : start = server ∨ start = client) :
    OpencensusLaw [] start := by
  rcases h with rfl | rfl
  · exact .absent (by simp) rfl
  · exact .absent (by simp) rfl

theorem opencensusLaw_run {start : NodeConfig} (h : start = server ∨ start = client)
    {history : List Step} (hext : ∀ e, .extension e ∉ history) :
    OpencensusLaw (succeeding start history) (run start history) := by
  refine run_induction (P := fun steps c => (∀ e, .extension e ∉ steps) → OpencensusLaw steps c)
    (fun _ => opencensusLaw_new h) (fun steps c s hlaw hs hnone => ?_) history
    fun e he => hext e ((succeeding_sublist start history).subset he)
  refine (hlaw fun e he => hnone e (List.mem_append_left _ he)).effect hs ?_
  rintro e rfl
  exact hnone e (by simp)

/-- Nothing but a step with OpenCensus or one by hand adds an exporter of its class. -/
theorem Step.exporter?_opencensus {s : Step} {b : Bean} (hs : s.exporter? = some b)
    (hclass : b.className = Opencensus.exporterClass) (hhand : s ≠ .exporter b) :
    ∃ g, s = .feature .opencensus g ∧ b = Opencensus.exporter (Opencensus.bundle g) := by
  cases s with
  | exporter a =>
    obtain rfl : a = b := Option.some.inj hs
    exact absurd rfl hhand
  | feature f g =>
    cases f with
    | opencensus => exact ⟨g, rfl, (Option.some.inj hs).symm⟩
    | jmx =>
      obtain rfl : Bean.named Jmx.exporterClass = b := Option.some.inj hs
      exact absurd hclass (by decide)
    | ssl => cases hs
  | _ => cases hs

/-- The record of OpenCensus and its exporter after any history of a new configuration in
which no extension is added by hand. If the parameters are always the same and no exporter
is added by hand either, there is no other exporter of the class. -/
theorem run_opencensus {start : NodeConfig} (hstart : start = server ∨ start = client)
    {history : List Step} (hext : ∀ e, .extension e ∉ history) :
    OpencensusLaw (succeeding start history) (run start history) ∧
    (run start history).extensions.length ≤ 1 ∧
    ((run start history).extensions ≠ [] ↔
      ∃ g, .feature .opencensus g ∈ succeeding start history) ∧
    ∀ g, (∀ g', .feature .opencensus g' ∈ history → g' = g) →
      .feature .opencensus g ∈ succeeding start history → (∀ b, .exporter b ∉ history) →
      ∃! b, b ∈ (run start history).exporters.elements ∧
        b.className = Opencensus.exporterClass := by
  have hlaw := opencensusLaw_run hstart hext
  refine ⟨hlaw, hlaw.length_extensions_le, hlaw.extensions_ne_nil_iff, fun g hsame hg hhand => ?_⟩
  have hmem := (metricsLaw_run hstart history).exporters
  refine ⟨Opencensus.exporter (Opencensus.bundle g), ⟨(hmem _).mpr ⟨_, hg, rfl⟩, rfl⟩, ?_⟩
  rintro b ⟨hb, hclass⟩
  obtain ⟨s, hs, hsb⟩ := (hmem b).mp hb
  have hs : s ∈ history := (succeeding_sublist start history).subset hs
  obtain ⟨g', rfl, rfl⟩ := Step.exporter?_opencensus hsb hclass fun h => hhand b (h ▸ hs)
  rw [hsame g' hs]

theorem run_opencensus_reconfigured :
    let opencensus (period port : UInt64) := Globals.ofTree (.object [("metrics", .object
      [("opencensys", .object [("enabled", .bool true), ("period", .number (.natural period)),
        ("port", .number (.natural port))])])])
    let history : List Step := [.feature .opencensus (opencensus 5 70000),
      .exporter (Bean.named Opencensus.exporterClass), .feature .jmx Globals.empty,
      .feature .opencensus (opencensus 500 9000), .feature .opencensus Globals.empty,
      .setFrequency 60, .feature .opencensus (opencensus 250 9000)]
    let once : List Step := [.feature .jmx Globals.empty, .connector {},
      .feature .opencensus (opencensus 500 9000), .feature .opencensus (opencensus 500 9000)]
    OpencensusLaw (succeeding server history) (run server history) ∧
      (run server history).extensions = [⟨Opencensus.template, ⟨500, 9000, "OpencensysMetrics"⟩⟩] ∧
      (run server history).exporters.elements.length = 4 ∧
      ∃! b, b ∈ (run client once).exporters.elements ∧
        b.className = Opencensus.exporterClass := by
  intro opencensus history once
  obtain ⟨hlaw, -⟩ := run_opencensus (.inl rfl) (show ∀ e, .extension e ∉ history by simp [history])
  obtain ⟨-, -, -, honly⟩ :=
    run_opencensus (.inr rfl) (show ∀ e, .extension e ∉ once by simp [once])
  refine ⟨hlaw, by decide, by decide +kernel, honly (opencensus 500 9000) ?_ ?_ ?_⟩
  · simp [once]
  · exact List.mem_cons_of_mem _ (List.mem_cons_of_mem _ List.mem_cons_self)
  · simp [once]

end NodeConfig
end ClusterRig
