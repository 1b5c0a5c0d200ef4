import ClusterRig.Composer
import ClusterRig.Proofs.Globals.Documented
import ClusterRig.Proofs.Sorted

/-!
# What adding a feature does

Adding a feature to a configuration either fails or has an effect, and which of them
is decided by a few keys of the globals. Main statement: `Feature.addTo_eq` splits
every addition into its failure and its effect; `Feature.failure?_effect` says that
an effect changes no later failure.
-/

namespace ClusterRig

open FirstFailure

theorem NodeConfig.withExtension_eq (c : NodeConfig) (e : Extension) :
    c.withExtension e =
      { c with extensions := c.extensions ++ if c.hasExtension e.name then [] else [e] } := by
  rw [withExtension]
  split <;> simp

namespace Opencensus

def keys : List Key :=
  [⟨["metrics", "opencensys", "period"], .unsigned⟩, ⟨["metrics", "opencensys", "port"], .port⟩]

/-- The parameters of the globals, what is not given being filled in. -/
def bundle (g : Globals) : OpencensusParams where
  period := (g.unsignedAt? ["metrics", "opencensys", "period"]).getD 1000
  port := ((g.unsignedAt? ["metrics", "opencensys", "port"]).map UInt64.toUInt16).getD 8082
  name := "OpencensysMetrics"

/-- The configuration after the parameters have been added. -/
def extend (p : OpencensusParams) (c : NodeConfig) : NodeConfig :=
  ((c.withDefaultMetricsFrequency defaultFrequency).withExporter (exporter p)).withExtension
    ⟨template, p⟩

theorem extend_eq (p : OpencensusParams) (c : NodeConfig) :
    extend p c =
      { c with
        metricsFrequency := some (c.metricsFrequency.getD 1000)
        exporters := c.exporters.insert (exporter p)
        extensions :=
          c.extensions ++ if c.hasExtension p.name then [] else [⟨template, p⟩] } := by
  rw [extend, NodeConfig.withExtension_eq]
  rfl

/-- Going on with the port that is given or the usual one. -/
theorem lookupPort_bind {β : Type} (g : Globals) (f : UInt16 → Except Failure β) :
    (g.lookupUnsigned (path "port") >>= fun given =>
      match given with
      | none => pure defaultPort >>= f
      | some n => port n >>= f) =
    settle (Key.failure? g ⟨path "port", .port⟩) (bundle g).port >>= f := by
  have hp : ["metrics", "opencensys", "port"] = path "port" := rfl
  unfold Globals.lookupUnsigned bundle Globals.unsignedAt? Key.failure? Globals.given
  rw [hp]
  cases g.lookup (path "port") with
  | none => rfl
  | some v =>
    cases v with
    | number n =>
      cases n with
      | natural n =>
        by_cases h : n ≤ 65535
        · simp [bind, Except.bind, port, Kind.admits, h]
        · simp [bind, Except.bind, port, Kind.admits, Kind.flaw, h]
      | _ => rfl
    | _ => rfl

theorem params_eq (g : Globals) : params g = settle (firstFailure? g keys) (bundle g) := by
  rw [firstFailure?_eq_foldr, params, Globals.lookupUnsigned_eq]
  refine settle_bind ?_
  refine (lookupPort_bind g _).trans (settle_bind ?_)
  rfl

theorem addTo_eq (c : NodeConfig) (g : Globals) :
    addTo c g =
      if isEnabled g then settle (firstFailure? g keys) (extend (bundle g) c)
      else .error (.optionDisabled key) := by
  unfold addTo ofGlobals
  by_cases h : isEnabled g
  · rw [if_pos h, if_pos h, params_eq, settle_map]
    cases firstFailure? g keys <;> rfl
  · rw [if_neg h, if_neg h]
    rfl

end Opencensus

namespace Ssl

def keys (role : Role) : List Key :=
  ["key_store_jks", "key_store_password", "trust_store_jks", "trust_store_password"].map
    fun name => ⟨["ssl", "params", role.key, name], .text⟩

/-- The stores of the globals, what is not given being filled in. -/
def bundle (g : Globals) (role : Role) : SslParams where
  keyStore := (g.textAt? ["ssl", "params", role.key, "key_store_jks"]).getD role.defaultKeyStore
  keyStorePassword := (g.textAt? ["ssl", "params", role.key, "key_store_password"]).getD "123456"
  trustStore := (g.textAt? ["ssl", "params", role.key, "trust_store_jks"]).getD "truststore.jks"
  trustStorePassword :=
    (g.textAt? ["ssl", "params", role.key, "trust_store_password"]).getD "123456"

/-- Whether there is a client connector without encryption. -/
def lacking (c : NodeConfig) : Bool := c.clientConnector.any fun k => !k.sslEnabled

/-- The keys that count for a configuration: those of its role, and those of the client
role for a connector without encryption. -/
def keysFor (c : NodeConfig) : List Key :=
  keys (roleOf c) ++ if lacking c then keys .client else []

/-- A connector with encryption, which it gets with the client stores if it has none. -/
def connectorWith (g : Globals) (k : ClientConnector) : ClientConnector :=
  if k.sslEnabled then k else { k with sslEnabled := true, sslParams := some (bundle g .client) }

/-- The configuration after the stores have been added. -/
def secure (g : Globals) (c : NodeConfig) : NodeConfig :=
  { c with
    sslParams := some (c.sslParams.getD (bundle g (roleOf c)))
    clientConnector := c.clientConnector.map (connectorWith g) }

theorem field_eq (g : Globals) (role : Role) (name byDefault : String) :
    field g role name byDefault =
      settle (Key.failure? g ⟨path role name, .text⟩)
        ((g.textAt? (path role name)).getD byDefault) := by
  rw [field, Globals.lookupText_eq]
  cases Key.failure? g ⟨path role name, .text⟩ <;> rfl

theorem params_eq (g : Globals) (role : Role) :
    params g role = settle (firstFailure? g (keys role)) (bundle g role) := by
  rw [firstFailure?_eq_foldr, params]
  simp only [field_eq]
  exact settle_bind (settle_bind (settle_bind (settle_bind rfl)))

theorem required_eq (g : Globals) (role : Role) :
    required g role =
      if isEnabled g then settle (firstFailure? g (keys role)) (bundle g role)
      else .error (.optionDisabled key) := by
  unfold required ofGlobals
  by_cases h : isEnabled g
  · rw [if_pos h, if_pos h, params_eq, settle_map]
    cases firstFailure? g (keys role) <;> rfl
  · rw [if_neg h, if_neg h]
    rfl

theorem sslEnabled_connectorWith (g : Globals) (k : ClientConnector) :
    (connectorWith g k).sslEnabled = true := by
  unfold connectorWith
  split
  · assumption
  · rfl

theorem connectorWith_connectorWith (g : Globals) (k : ClientConnector) :
    connectorWith g (connectorWith g k) = connectorWith g k := by
  rw [connectorWith, if_pos (sslEnabled_connectorWith g k)]

theorem keysFor_secure (g : Globals) (c : NodeConfig) : keysFor (secure g c) = keys (roleOf c) := by
  have h : lacking (secure g c) = false := by
    unfold lacking secure
    cases c.clientConnector <;> simp [sslEnabled_connectorWith]
  simp only [keysFor, h, Bool.false_eq_true, ↓reduceIte, List.append_nil]
  rfl

/-- A connector is looked at only after the stores of the node have been found. -/
theorem upgrade_bind (c : NodeConfig) {g : Globals} (h : isEnabled g = true) (p : SslParams) :
    (upgrade g c.clientConnector >>= fun upgraded =>
      match upgraded with
      | none => pure (c.withDefaultSslParams p)
      | some k => pure ((c.withDefaultSslParams p).withClientConnector k)) =
    settle (firstFailure? g (if lacking c then keys .client else []))
      { c with
        sslParams := some (c.sslParams.getD p)
        clientConnector := c.clientConnector.map (connectorWith g) } := by
  obtain ⟨mode, frequency, exporters, extensions, stores, connector⟩ := c
  cases connector with
  | none => rfl
  | some k =>
    cases hk : k.sslEnabled with
    | true =>
      simp only [upgrade, lacking, connectorWith, hk, Option.map_some, ↓reduceIte,
        Bool.false_eq_true, Option.any_some, Bool.not_true]
      rfl
    | false =>
      simp only [upgrade, lacking, connectorWith, hk, required_eq, h, Option.map_some, ↓reduceIte,
        Bool.false_eq_true, Option.any_some, Bool.not_false]
      cases firstFailure? g (keys .client) <;> rfl

theorem addTo_eq (c : NodeConfig) (g : Globals) :
    addTo c g =
      if isEnabled g then settle (firstFailure? g (keysFor c)) (secure g c)
      else .error (.optionDisabled key) := by
  unfold addTo
  rw [required_eq]
  by_cases h : isEnabled g
  · rw [if_pos h, if_pos h, keysFor, firstFailure?_append]
    exact settle_bind (upgrade_bind c h _)
  · rw [if_neg h, if_neg h]
    rfl

end Ssl

namespace Feature

/-- Whether adding the feature is refused unless the globals enable it. -/
def needsEnabling : Feature → Bool
  | .opencensus => true
  | .jmx => false
  | .ssl => true

/-- The keys that are read when the feature is added to a configuration. -/
def keysFor (c : NodeConfig) : Feature → List Key
  | .opencensus => Opencensus.keys
  | .jmx => []
  | .ssl => Ssl.keysFor c

/-- The failure of adding the feature to a configuration, if it fails. -/
def failure? (g : Globals) (c : NodeConfig) (f : Feature) : Option Failure :=
  if f.needsEnabling && !f.isEnabled g then some (.optionDisabled f.key)
  else firstFailure? g (f.keysFor c)

/-- What adding the feature does to a configuration when it does not fail. -/
def effect (g : Globals) (c : NodeConfig) : Feature → NodeConfig
  | .opencensus => Opencensus.extend (Opencensus.bundle g) c
  | .jmx => Jmx.addTo c
  | .ssl => Ssl.secure g c

theorem addTo_eq (c : NodeConfig) (g : Globals) (f : Feature) :
    f.addTo c g = settle (f.failure? g c) (f.effect g c) := by
  cases f with
  | opencensus =>
    rw [addTo, Opencensus.addTo_eq, failure?]
    cases h : Opencensus.isEnabled g <;> simp [isEnabled, h, needsEnabling, key, keysFor, effect]
  | jmx => rfl
  | ssl =>
    rw [addTo, Ssl.addTo_eq, failure?]
    cases h : Ssl.isEnabled g <;> simp [isEnabled, h, needsEnabling, key, keysFor, effect]

/-- The exporter that the feature adds. -/
def exporter? (g : Globals) : Feature → Option Bean
  | .opencensus => some (Opencensus.exporter (Opencensus.bundle g))
  | .jmx => some (Bean.named Jmx.exporterClass)
  | .ssl => none

@[simp] theorem clientMode_effect (g : Globals) (c : NodeConfig) (f : Feature) :
    (f.effect g c).clientMode = c.clientMode := by
  cases f with
  | opencensus => rw [effect, Opencensus.extend_eq]
  | _ => rfl

theorem metricsFrequency_effect (g : Globals) (c : NodeConfig) (f : Feature) :
    (f.effect g c).metricsFrequency =
      if f = .ssl then c.metricsFrequency else some (c.metricsFrequency.getD 1000) := by
  cases f with
  | opencensus => rw [effect, Opencensus.extend_eq]; rfl
  | _ => rfl

theorem mem_exporters_effect (g : Globals) (c : NodeConfig) (f : Feature) (b : Bean) :
    b ∈ (f.effect g c).exporters.elements ↔
      b ∈ c.exporters.elements ∨ f.exporter? g = some b := by
  cases f with
  | opencensus =>
    rw [effect, Opencensus.extend_eq, SortedSet.mem_insert_iff, or_comm, exporter?,
      Option.some.injEq, eq_comm]
  | jmx =>
    rw [effect, Jmx.addTo, NodeConfig.mem_withExporter_iff, or_comm, exporter?,
      Option.some.injEq, eq_comm]
    rfl
  | ssl => simp [effect, Ssl.secure, exporter?]

theorem extensions_effect (g : Globals) (c : NodeConfig) (f : Feature) :
    (f.effect g c).extensions =
      c.extensions ++
        if f = .opencensus ∧ c.hasExtension Opencensus.bundleName = false then
          [⟨Opencensus.template, Opencensus.bundle g⟩]
        else [] := by
  cases f with
  | opencensus =>
    have hn : (Opencensus.bundle g).name = Opencensus.bundleName := rfl
    rw [effect, Opencensus.extend_eq, hn]
    cases c.hasExtension Opencensus.bundleName <;> simp
  | jmx => simp [effect, Jmx.addTo, NodeConfig.withExporter, NodeConfig.withDefaultMetricsFrequency]
  | ssl => simp [effect, Ssl.secure]

theorem hasExtension_effect (g : Globals) (c : NodeConfig) (f : Feature) :
    (f.effect g c).hasExtension Opencensus.bundleName =
      (c.hasExtension Opencensus.bundleName || f = .opencensus) := by
  have hn : (Opencensus.bundle g).name = Opencensus.bundleName := rfl
  unfold NodeConfig.hasExtension
  rw [extensions_effect, List.any_append, NodeConfig.hasExtension]
  by_cases hf : f = .opencensus
  · cases h : c.extensions.any fun e => e.name == Opencensus.bundleName <;>
      simp [hf, Extension.name, hn]
  · simp [hf]

theorem sslParams_effect (g : Globals) (c : NodeConfig) (f : Feature) :
    (f.effect g c).sslParams =
      if f = .ssl then some (c.sslParams.getD (Ssl.bundle g (Ssl.roleOf c)))
      else c.sslParams := by
  cases f with
  | opencensus => rw [effect, Opencensus.extend_eq]; rfl
  | _ => rfl

/-- Only encryption touches the connector. -/
theorem clientConnector_effect (g : Globals) (c : NodeConfig) (f : Feature) :
    (f.effect g c).clientConnector =
      if f = .ssl then c.clientConnector.map (Ssl.connectorWith g) else c.clientConnector := by
  cases f with
  | opencensus => rw [effect, Opencensus.extend_eq]; rfl
  | _ => rfl

theorem roleOf_effect (g : Globals) (c : NodeConfig) (f : Feature) :
    Ssl.roleOf (f.effect g c) = Ssl.roleOf c := by
  simp [Ssl.roleOf]

theorem keysFor_effect_of_ne {f : Feature} (hf : f ≠ .ssl) (g : Globals) (c : NodeConfig)
    (f' : Feature) : f'.keysFor (f.effect g c) = f'.keysFor c := by
  cases f' with
  | ssl =>
    have hc := clientConnector_effect g c f
    rw [if_neg hf] at hc
    simp only [keysFor, Ssl.keysFor, Ssl.lacking, roleOf_effect, hc]
    rfl
  | _ => rfl

/-! Effects of one feature after the other -/

@[simp] theorem clientMode_foldl (g : Globals) (l : List Feature) (c : NodeConfig) :
    (l.foldl (effect g) c).clientMode = c.clientMode := by
  induction l generalizing c with
  | nil => rfl
  | cons f l ih => rw [List.foldl_cons, ih, clientMode_effect]

theorem metricsFrequency_foldl (g : Globals) (l : List Feature) (c : NodeConfig) :
    (l.foldl (effect g) c).metricsFrequency =
      if ∃ f ∈ l, f ≠ .ssl then some (c.metricsFrequency.getD 1000)
      else c.metricsFrequency := by
  induction l generalizing c with
  | nil => simp
  | cons f l ih =>
    rw [List.foldl_cons, ih, metricsFrequency_effect]
    by_cases hf : f = .ssl <;> simp [hf]

theorem mem_exporters_foldl (g : Globals) (l : List Feature) (c : NodeConfig) (b : Bean) :
    b ∈ (l.foldl (effect g) c).exporters.elements ↔
      b ∈ c.exporters.elements ∨ ∃ f ∈ l, f.exporter? g = some b := by
  induction l generalizing c with
  | nil => simp
  | cons f l ih =>
    rw [List.foldl_cons, ih, mem_exporters_effect]
    simp [or_assoc]

theorem extensions_foldl (g : Globals) (l : List Feature) (c : NodeConfig) :
    (l.foldl (effect g) c).extensions =
      c.extensions ++
        if .opencensus ∈ l ∧ c.hasExtension Opencensus.bundleName = false then
          [⟨Opencensus.template, Opencensus.bundle g⟩]
        else [] := by
  induction l generalizing c with
  | nil => simp
  | cons f l ih =>
    rw [List.foldl_cons, ih, extensions_effect, hasExtension_effect]
    by_cases hf : f = .opencensus
    · simp [hf]
    · simp [hf, Ne.symm hf]

theorem sslParams_foldl (g : Globals) (l : List Feature) (c : NodeConfig) :
    (l.foldl (effect g) c).sslParams =
      if .ssl ∈ l then some (c.sslParams.getD (Ssl.bundle g (Ssl.roleOf c)))
      else c.sslParams := by
  induction l generalizing c with
  | nil => simp
  | cons f l ih =>
    rw [List.foldl_cons, ih, sslParams_effect, roleOf_effect]
    by_cases hf : f = .ssl
    · simp [hf]
    · simp [hf, Ne.symm hf]

theorem clientConnector_foldl (g : Globals) (l : List Feature) (c : NodeConfig) :
    (l.foldl (effect g) c).clientConnector =
      if .ssl ∈ l then c.clientConnector.map (Ssl.connectorWith g) else c.clientConnector := by
  induction l generalizing c with
  | nil => simp
  | cons f l ih =>
    rw [List.foldl_cons, ih, clientConnector_effect]
    by_cases hf : f = .ssl
    · simp [hf, Function.comp_def, Ssl.connectorWith_connectorWith]
    · simp [hf, Ne.symm hf]

/-- A feature that does not fail changes no later failure. Encryption leaves fewer keys
to read, and those that it has read are well formed. -/
theorem failure?_effect {g : Globals} {c : NodeConfig} {f : Feature}
    (h : f.failure? g c = none) (f' : Feature) :
    f'.failure? g (f.effect g c) = f'.failure? g c := by
  by_cases hf : f = .ssl
  · subst hf
    cases f' with
    | ssl =>
      rw [h]
      simp only [failure?, keysFor, effect, Ssl.keysFor_secure] at h ⊢
      split at h
      next => cases h
      next he =>
        rw [Ssl.keysFor, firstFailure?_append] at h
        rw [if_neg he]
        exact (Option.or_eq_none_iff.mp h).1
    | _ => rfl
  · simp only [failure?, keysFor_effect_of_ne hf]

end Feature

namespace Composer

/-- A composer fails like the first of its features that fails on the configuration it
is given, and otherwise has all their effects in order. -/
theorem compose_eq (m : Composer) (c : NodeConfig) :
    m.compose c = settle (m.features.findSome? (Feature.failure? m.globals c))
      (m.features.foldl (Feature.effect m.globals) c) :=
  foldlM_eq_settle (fun c f => Feature.addTo_eq c m.globals f)
    (fun _ _ f' h => Feature.failure?_effect h f') m.features c

end Composer
end ClusterRig
