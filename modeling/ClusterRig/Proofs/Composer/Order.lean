import ClusterRig.Proofs.Feature.Effect

/-!
# What the order of features decides

A composer adds its features in the order of a list. Main statements: the failure of a
composition is that of the first feature of the list that fails on the configuration
the composition starts from, whatever is added before it; and that choice among several
failures is all that the order decides, as the result depends on the set of features
alone.
-/

namespace ClusterRig

open FirstFailure

attribute [ext] NodeConfig

namespace Feature

theorem addTo_eq_error_iff {c : NodeConfig} {g : Globals} {f : Feature} {e : Failure} :
    f.addTo c g = .error e ↔ f.failure? g c = some e := by
  rw [addTo_eq, settle_eq_error_iff]

theorem exists_addTo_eq_ok_iff {c : NodeConfig} {g : Globals} {f : Feature} :
    (∃ c', f.addTo c g = .ok c') ↔ f.failure? g c = none := by
  rw [addTo_eq]
  cases f.failure? g c <;> simp

theorem needsEnabling_iff {f : Feature} :
    f.needsEnabling = true ↔ f = .opencensus ∨ f = .ssl := by
  cases f <;> simp [needsEnabling]

/-- Before any parameter is read, the globals have to enable a feature with parameters. -/
theorem failure?_of_disabled {g : Globals} {f : Feature} (hf : f = .opencensus ∨ f = .ssl)
    (h : f.isEnabled g = false) (c : NodeConfig) :
    f.failure? g c = some (.optionDisabled f.key) := by
  simp [failure?, needsEnabling_iff.mpr hf, h]

/-- A feature fails because it is disabled, or because it is enabled and one of its
parameters is malformed. -/
theorem failure?_eq_some {g : Globals} {c : NodeConfig} {f : Feature} {e : Failure}
    (h : f.failure? g c = some e) :
    (f = .opencensus ∨ f = .ssl) ∧
      (f.isEnabled g = false ∧ e = .optionDisabled f.key ∨
        f.isEnabled g = true ∧ ∃ path flaw, e = .invalidGlobal path flaw) := by
  have hf : f = .opencensus ∨ f = .ssl := by
    cases f with
    | opencensus => exact .inl rfl
    | jmx => cases h
    | ssl => exact .inr rfl
  refine ⟨hf, ?_⟩
  cases he : f.isEnabled g with
  | false =>
    rw [failure?_of_disabled hf he] at h
    exact .inl ⟨rfl, (Option.some.inj h).symm⟩
  | true =>
    have hk : firstFailure? g (f.keysFor c) = some e := by simpa [failure?, he] using h
    obtain ⟨_, key, _, v, -, -, -, rfl⟩ := firstFailure?_eq_some_iff.mp hk
    exact .inr ⟨rfl, key.path, key.kind.flaw v, rfl⟩

/-- The effects of a list of features are those of the set of its members. -/
theorem foldl_effect_congr {fs fs' : List Feature} (h : ∀ f, f ∈ fs ↔ f ∈ fs') (g : Globals)
    (c : NodeConfig) : fs.foldl (effect g) c = fs'.foldl (effect g) c := by
  apply NodeConfig.ext
  case clientMode => simp only [clientMode_foldl]
  case metricsFrequency => simp only [metricsFrequency_foldl, h]
  case exporters => exact SortedSet.eq_of_mem_iff fun b => by simp only [mem_exporters_foldl, h]
  case extensions => simp only [extensions_foldl, h]
  case sslParams => simp only [sslParams_foldl, h]
  case clientConnector => simp only [clientConnector_foldl, h]

end Feature

namespace Composer

/-- Of the features of a composer, `f` is the first that fails when it is added to the
configuration `c` itself, and its failure there is `e`. -/
def FirstFailing (m : Composer) (c : NodeConfig) (f : Feature) (e : Failure) : Prop :=
  ∃ before after, m.features = before ++ f :: after ∧
    (∀ f' ∈ before, ∃ c', f'.addTo c m.globals = .ok c') ∧ f.addTo c m.globals = .error e

theorem compose_eq_error_iff {m : Composer} {c : NodeConfig} {e : Failure} :
    m.compose c = .error e ↔ ∃ f, FirstFailing m c f e := by
  rw [compose_eq, settle_eq_error_iff, List.findSome?_eq_some_iff]
  simp only [FirstFailing, Feature.exists_addTo_eq_ok_iff, Feature.addTo_eq_error_iff]
  constructor
  · rintro ⟨before, f, after, hl, hf, hb⟩
    exact ⟨f, before, after, hl, hb, hf⟩
  · rintro ⟨f, before, after, hl, hb, hf⟩
    exact ⟨before, f, after, hl, hf, hb⟩

theorem exists_compose_eq_error_iff {m : Composer} {c : NodeConfig} :
    (∃ e, m.compose c = .error e) ↔ ∃ f ∈ m.features, ∃ e, f.addTo c m.globals = .error e := by
  simp only [compose_eq, settle_eq_error_iff, Feature.addTo_eq_error_iff,
    ← Option.isSome_iff_exists, List.findSome?_isSome_iff]

theorem compose_eq_ok_iff {m : Composer} {c r : NodeConfig} :
    m.compose c = .ok r ↔ (∀ f ∈ m.features, f.failure? m.globals c = none) ∧
      r = m.features.foldl (Feature.effect m.globals) c := by
  rw [compose_eq, settle_eq_ok_iff, List.findSome?_eq_none_iff, eq_comm (a := r)]

/-- Whether a composition fails, and how, is decided on the configuration it starts from.
No feature added earlier brings a failure about or hides one. -/
theorem compose_firstFailing (m : Composer) (c : NodeConfig) :
    ((∃ e, m.compose c = .error e) ↔
      ∃ f ∈ m.features, ∃ e, f.addTo c m.globals = .error e) ∧
    (∀ e, m.compose c = .error e ↔ ∃ f, FirstFailing m c f e) ∧
    (∀ f e, FirstFailing m c f e → (f = .opencensus ∨ f = .ssl) ∧
      (f.isEnabled m.globals = false ∧ e = .optionDisabled f.key ∨
        f.isEnabled m.globals = true ∧ ∃ path flaw, e = .invalidGlobal path flaw)) ∧
    ∀ f : Feature, f = .opencensus ∨ f = .ssl → f.isEnabled m.globals = false →
      f.addTo c m.globals = .error (.optionDisabled f.key) := by
  refine ⟨exists_compose_eq_error_iff, fun e => compose_eq_error_iff, ?_, ?_⟩
  · rintro f e ⟨_, _, -, -, he⟩
    exact Feature.failure?_eq_some (Feature.addTo_eq_error_iff.mp he)
  · intro f hf hd
    exact Feature.addTo_eq_error_iff.mpr (Feature.failure?_of_disabled hf hd c)

theorem compose_firstFailing_connector :
    let m : Composer := ⟨Globals.ofTree (.object
      [("metrics", .object [("opencensys", .object [("period", .text "fast")])]),
        ("ssl", .object [("enabled", .bool true), ("params", .object [("client", .object
          [("trust_store_jks", .number (.natural 5))])])])]), [.jmx, .ssl, .opencensus]⟩
    let c : NodeConfig := { clientConnector := some {} }
    let e : Failure := .invalidGlobal ["ssl", "params", "client", "trust_store_jks"]
      (.notText (.number (.natural 5)))
    FirstFailing m c .ssl e ∧ m.compose c = .error e ∧ Feature.isEnabled m.globals .ssl = true ∧
      Feature.addTo c m.globals .opencensus = .error (.optionDisabled Opencensus.key) := by
  intro m c e
  have h : FirstFailing m c .ssl e := by
    refine ⟨[.jmx], [.opencensus], rfl, ?_, by decide⟩
    simp [Feature.addTo]
  obtain ⟨-, hiff, hcause, hdisabled⟩ := compose_firstFailing m c
  obtain ⟨-, ⟨-, he⟩ | ⟨he, -⟩⟩ := hcause _ _ h
  · exact absurd he (by decide)
  · exact ⟨h, (hiff e).mpr ⟨_, h⟩, he, hdisabled .opencensus (.inl rfl) (by decide)⟩

theorem compose_append (g : Globals) (fs fs' : List Feature) (c : NodeConfig) :
    (⟨g, fs ++ fs'⟩ : Composer).compose c =
      (⟨g, fs⟩ : Composer).compose c >>= (⟨g, fs'⟩ : Composer).compose :=
  List.foldlM_append

theorem compose_congr {fs fs' : List Feature} (h : ∀ f, f ∈ fs ↔ f ∈ fs') (g : Globals)
    (c r : NodeConfig) :
    (⟨g, fs⟩ : Composer).compose c = .ok r ↔ (⟨g, fs'⟩ : Composer).compose c = .ok r := by
  simp only [compose_eq_ok_iff, h, Feature.foldl_effect_congr h]

/-- A composition depends on the set of its features alone: their order and repetitions
change neither whether it succeeds nor its result. So composing once more changes
nothing. -/
theorem compose_set {fs fs' : List Feature} (h : ∀ f, f ∈ fs ↔ f ∈ fs') (g : Globals)
    (c : NodeConfig) :
    (∀ r, (⟨g, fs⟩ : Composer).compose c = .ok r ↔ (⟨g, fs'⟩ : Composer).compose c = .ok r) ∧
    ∀ r, (⟨g, fs⟩ : Composer).compose c = .ok r → (⟨g, fs⟩ : Composer).compose r = .ok r := by
  refine ⟨compose_congr h g c, fun r hr => ?_⟩
  -- Composing twice is composing the doubled list, which has the same members.
  have htwice : (⟨g, fs ++ fs⟩ : Composer).compose c = .ok r :=
    (compose_congr (by simp) g c r).mpr hr
  rw [compose_append, hr] at htwice
  exact htwice

theorem compose_set_shuffled :
    let g := Globals.ofTree (.object
      [("metrics", .object [("opencensys", .object
          [("enabled", .bool true), ("period", .number (.natural 500))])]),
        ("ssl", .object [("enabled", .bool true)])])
    let fs : List Feature := [.ssl, .opencensus, .jmx, .ssl, .opencensus]
    let fs' : List Feature := [.jmx, .opencensus, .ssl]
    let c : NodeConfig :=
      { clientMode := true, metricsFrequency := some 7, clientConnector := some {} }
    (∀ f, f ∈ fs ↔ f ∈ fs') ∧ ∃ r, (⟨g, fs⟩ : Composer).compose c = .ok r ∧
      (⟨g, fs'⟩ : Composer).compose c = .ok r ∧ (⟨g, fs⟩ : Composer).compose r = .ok r := by
  intro g fs fs' c
  have h : ∀ f, f ∈ fs ↔ f ∈ fs' := by
    intro f
    cases f <;> decide
  have hr : (⟨g, fs⟩ : Composer).compose c = .ok (fs.foldl (Feature.effect g) c) :=
    compose_eq_ok_iff.mpr ⟨by decide, rfl⟩
  obtain ⟨hcongr, htwice⟩ := compose_set h g c
  exact ⟨h, _, hr, (hcongr _).mp hr, htwice _ hr⟩

end Composer
end ClusterRig
