import ClusterRig.Proofs.NodeConfig.History

/-!
# Encryption in a history

The stores of a node stay as they were first offered. The client connector is the one
that was given last, and the first encryption after that secures it if it has no
encryption of its own. Main statement: `run_ssl` says so of every history of a new
configuration.
-/

namespace ClusterRig
namespace NodeConfig

namespace Step

/-- The stores that a step offers to a node of a role. -/
def offer? (role : Ssl.Role) : Step → Option SslParams
  | .defaultSsl p => some p
  | .feature .ssl g => some (Ssl.bundle g role)
  | _ => none

/-- Whether a step may replace or secure the client connector. -/
def touchesConnector : Step → Bool
  | .connector _ | .feature .ssl _ => true
  | _ => false

theorem sslParams_effect (c : NodeConfig) (s : Step) :
    (s.effect c).sslParams = c.sslParams.or (s.offer? (Ssl.roleOf c)) := by
  cases s with
  | extension e => simp [effect, withExtension_eq, offer?]
  | feature f g =>
    rw [effect, Feature.sslParams_effect]
    cases f <;> cases c.sslParams <;> rfl
  | _ => cases h : c.sslParams <;> simp [effect, offer?, h, withMetricsFrequency,
      withDefaultMetricsFrequency, withExporter, withDefaultSslParams, withClientConnector]

theorem clientConnector_effect {s : Step} (hs : s.touchesConnector = false) (c : NodeConfig) :
    (s.effect c).clientConnector = c.clientConnector := by
  cases s with
  | connector k => cases hs
  | extension e => rw [effect, withExtension_eq]
  | feature f g =>
    rw [effect, Feature.clientConnector_effect]
    cases f with
    | ssl => cases hs
    | _ => rfl
  | _ => rfl

end Step

/-- The client connector that steps leave behind which have all succeeded: none if none
was given, and else the one that was given last, secured with the client stores of the
first encryption after it if it has no encryption of its own. -/
inductive ConnectorLaw (steps : List Step) : Option ClientConnector → Prop
  | absent (never : ∀ k, .connector k ∉ steps) : ConnectorLaw steps none
  | kept (before : List Step) (k : ClientConnector) (after : List Step)
      (steps_eq : steps = before ++ .connector k :: after)
      (last : ∀ k', .connector k' ∉ after)
      (spared : k.sslEnabled = true ∨ ∀ g, .feature .ssl g ∉ after) :
      ConnectorLaw steps (some k)
  | secured (before : List Step) (k : ClientConnector) (between : List Step) (g : Globals)
      (after : List Step)
      (steps_eq : steps = before ++ .connector k :: (between ++ .feature .ssl g :: after))
      (last : ∀ k', .connector k' ∉ between ++ after)
      (first : ∀ g', .feature .ssl g' ∉ between) (unsecured : k.sslEnabled = false) :
      ConnectorLaw steps (some
        { port := k.port, sslEnabled := true, sslParams := some (Ssl.bundle g .client) })

namespace ConnectorLaw

variable {steps : List Step} {o : Option ClientConnector}

theorem concat_connector (steps : List Step) (k : ClientConnector) :
    ConnectorLaw (steps ++ [.connector k]) (some k) :=
  .kept steps k [] rfl (by simp) (.inr (by simp))

theorem concat_ssl (h : ConnectorLaw steps o) (g : Globals) :
    ConnectorLaw (steps ++ [.feature .ssl g]) (o.map (Ssl.connectorWith g)) := by
  cases h with
  | absent never => exact .absent (by simpa using never)
  | kept before k after steps_eq last spared =>
    subst steps_eq
    cases hk : k.sslEnabled with
    | true =>
      rw [Option.map_some, Ssl.connectorWith, if_pos hk]
      exact .kept before k (after ++ [.feature .ssl g]) (by simp) (by simpa using last) (.inl hk)
    | false =>
      -- It had been spared, so this is the first encryption after it.
      have hnone : ∀ g', .feature .ssl g' ∉ after := by simpa [hk] using spared
      rw [Option.map_some, Ssl.connectorWith, if_neg (by simp [hk])]
      exact .secured before k after g [] (by simp) (by simpa using last) hnone hk
  | secured before k between g' after steps_eq last first unsecured =>
    subst steps_eq
    exact .secured before k between g' (after ++ [.feature .ssl g]) (by simp)
      (by simpa using last) first unsecured

theorem concat_other (h : ConnectorLaw steps o) {s : Step} (hs : s.touchesConnector = false) :
    ConnectorLaw (steps ++ [s]) o := by
  have hk : ∀ k, Step.connector k ≠ s := by
    rintro k rfl
    cases hs
  have hg : ∀ g, Step.feature .ssl g ≠ s := by
    rintro g rfl
    cases hs
  cases h with
  | absent never => exact .absent (by simpa [hk] using never)
  | kept before k after steps_eq last spared =>
    subst steps_eq
    exact .kept before k (after ++ [s]) (by simp) (by simpa [hk] using last)
      (by simpa [hg] using spared)
  | secured before k between g after steps_eq last first unsecured =>
    subst steps_eq
    exact .secured before k between g (after ++ [s]) (by simp) (by simpa [hk] using last) first
      unsecured

theorem effect {c : NodeConfig} (h : ConnectorLaw steps c.clientConnector) (s : Step) :
    ConnectorLaw (steps ++ [s]) (s.effect c).clientConnector := by
  cases hs : s.touchesConnector with
  | false =>
    rw [Step.clientConnector_effect hs]
    exact h.concat_other hs
  | true =>
    cases s with
    | connector k => exact concat_connector steps k
    | feature f g =>
      cases f with
      | ssl => exact h.concat_ssl g
      | _ => cases hs
    | _ => cases hs

end ConnectorLaw

/-- What the steps that have succeeded make of the encryption of a configuration. -/
structure SslLaw (start : NodeConfig) (steps : List Step) (c : NodeConfig) : Prop where
  clientMode : c.clientMode = start.clientMode
  sslParams : c.sslParams =
    (steps.filterMap (Step.offer? (if start.clientMode then .client else .server))).head?
  clientConnector : ConnectorLaw steps c.clientConnector

theorem SslLaw.effect {start c : NodeConfig} {steps : List Step} (h : SslLaw start steps c)
    (s : Step) : SslLaw start (steps ++ [s]) (s.effect c) where
  clientMode := by rw [Step.clientMode_effect, h.clientMode]
  sslParams := by
    rw [Step.sslParams_effect, h.sslParams, Ssl.roleOf, h.clientMode, List.filterMap_append,
      List.head?_append]
    cases hs : s.offer? (if start.clientMode then .client else .server) <;> simp [hs]
  clientConnector := h.clientConnector.effect s

theorem sslLaw_new {start : NodeConfig} (h : start = server ∨ start = client) :
    SslLaw start [] start := by
  rcases h with rfl | rfl
  · exact ⟨rfl, rfl, .absent (by simp)⟩
  · exact ⟨rfl, rfl, .absent (by simp)⟩

theorem sslLaw_run {start : NodeConfig} (h : start = server ∨ start = client)
    (history : List Step) : SslLaw start (succeeding start history) (run start history) :=
  run_induction (sslLaw_new h) (fun _ _ s hlaw _ => hlaw.effect s) history

theorem ConnectorLaw.eq_none_iff {steps : List Step} {o : Option ClientConnector}
    (h : ConnectorLaw steps o) : o = none ↔ ∀ k, .connector k ∉ steps := by
  cases h with
  | absent never => simpa using never
  | kept before k after steps_eq =>
    exact iff_of_false (by simp) fun never => never k (by simp [steps_eq])
  | secured before k between g after steps_eq =>
    exact iff_of_false (by simp) fun never => never k (by simp [steps_eq])

/-- The metrics features leave encryption alone, whether they can be added or not. -/
theorem ssl_after_of_ne {f : Feature} (hf : f ≠ .ssl) (c : NodeConfig) (g : Globals) :
    (after c (.feature f g)).sslParams = c.sslParams ∧
      (after c (.feature f g)).clientConnector = c.clientConnector := by
  rcases after_eq_or c (.feature f g) with h | h
  · rw [h]
    exact ⟨rfl, rfl⟩
  · rw [h, Step.effect, Feature.sslParams_effect, Feature.clientConnector_effect, if_neg hf,
      if_neg hf]
    exact ⟨rfl, rfl⟩

/-- The encryption of a configuration after any history of a new one. -/
theorem run_ssl {start : NodeConfig} (hstart : start = server ∨ start = client)
    (history later : List Step) :
    SslLaw start (succeeding start history) (run start history) ∧
    (∀ p, (run start history).sslParams = some p →
      (run start (history ++ later)).sslParams = some p) ∧
    ((run start history).clientConnector = none ↔ ∀ k, .connector k ∉ history) ∧
    ∀ c f g, f ≠ .ssl → (after c (.feature f g)).sslParams = c.sslParams ∧
      (after c (.feature f g)).clientConnector = c.clientConnector := by
  have hlaw := sslLaw_run hstart
  refine ⟨hlaw history, fun p hp => ?_, ?_, fun c f g hf => ssl_after_of_ne hf c g⟩
  · rw [(hlaw history).sslParams] at hp
    rw [(hlaw (history ++ later)).sslParams, succeeding_append, List.filterMap_append,
      List.head?_append, hp, Option.some_or]
  · rw [(hlaw history).clientConnector.eq_none_iff]
    have hmem : ∀ k, .connector k ∈ succeeding start history ↔ .connector k ∈ history :=
      fun k => mem_succeeding_iff fun c => ⟨_, rfl⟩
    simp only [hmem]

theorem run_ssl_replaced :
    let enabled (trustStore : String) := Globals.ofTree (.object
      [("ssl", .object [("enabled", .bool true), ("params", .object [("client", .object
        [("trust_store_jks", .text trustStore)])])])])
    let history : List Step := [.feature .ssl Globals.empty, .connector {},
      .feature .ssl (enabled "a.jks"), .connector { port := 5 }, .feature .jmx Globals.empty,
      .feature .ssl (enabled "b.jks"), .feature .ssl (enabled "c.jks")]
    let later : List Step := [.defaultSsl ⟨"k.jks", "x", "t.jks", "y"⟩]
    succeeding client history = history.tail ∧
      SslLaw client history.tail (run client history) ∧
      (run client (history ++ later)).sslParams = some (Ssl.bundle (enabled "a.jks") .client) ∧
      (run client history).clientConnector = some
        ⟨5, true, some ⟨"client.jks", "123456", "b.jks", "123456"⟩⟩ ∧
      (after (run client history) (.feature .jmx Globals.empty)).sslParams =
        (run client history).sslParams := by
  intro enabled history later
  have hs : succeeding client history = history.tail := rfl
  obtain ⟨hlaw, hkept, -, hother⟩ := run_ssl (.inr rfl) history later
  rw [hs] at hlaw
  exact ⟨hs, hlaw, hkept _ (by decide), by decide, (hother _ .jmx _ (by decide)).1⟩

end NodeConfig
end ClusterRig
