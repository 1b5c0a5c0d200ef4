import ClusterRig.Proofs.Composer.Order

/-!
# What a composition reads

Two trees of globals that may differ everywhere but at the documented paths, where they
have the same values if nothing and null count as the same. Main statement: they enable
the same features, and no composition can tell them apart. The stores of a role need not
be the same if the configuration has no use for this role.
-/

namespace ClusterRig
namespace Globals

/-- The globals have the same values at the keys, nothing and null being the same. -/
def AgreeOn (keys : List Key) (g g' : Globals) : Prop :=
  ∀ k ∈ keys, g.given k.path = g'.given k.path

/-- The globals switch the same features on. -/
def SwitchAlike (g g' : Globals) : Prop :=
  ∀ path ∈ [["metrics", "opencensys", "enabled"], ["metrics", "jmx", "enabled"], ["ssl", "enabled"]],
    g.isEnabled path = g'.isEnabled path

instance (keys : List Key) (g g' : Globals) : Decidable (AgreeOn keys g g') :=
  inferInstanceAs (Decidable (∀ k ∈ keys, g.given k.path = g'.given k.path))

instance (g g' : Globals) : Decidable (SwitchAlike g g') :=
  inferInstanceAs (Decidable (∀ path ∈ _, g.isEnabled path = g'.isEnabled path))

variable {g g' : Globals}

theorem unsignedAt?_eq (g : Globals) (path : List String) :
    g.unsignedAt? path = (g.given path).bind fun
      | .number (.natural n) => some n
      | _ => none := by
  unfold unsignedAt? given
  cases g.lookup path with
  | none => rfl
  | some v =>
    cases v with
    | number n => cases n <;> rfl
    | _ => rfl

theorem textAt?_eq (g : Globals) (path : List String) :
    g.textAt? path = (g.given path).bind fun
      | .text s => some s
      | _ => none := by
  unfold textAt? given
  cases g.lookup path with
  | none => rfl
  | some v => cases v <;> rfl

theorem AgreeOn.firstFailure?_eq {keys : List Key} (h : AgreeOn keys g g') :
    firstFailure? g keys = firstFailure? g' keys := by
  refine FirstFailure.findSome?_congr fun k hk => ?_
  rw [Key.failure?, Key.failure?, h k hk]

end Globals

open Globals FirstFailure

variable {g g' : Globals}

theorem Opencensus.bundle_congr (h : AgreeOn Opencensus.keys g g') :
    Opencensus.bundle g = Opencensus.bundle g' := by
  have hperiod : g.given ["metrics", "opencensys", "period"] = _ := h ⟨_, .unsigned⟩ (by simp [keys])
  have hport : g.given ["metrics", "opencensys", "port"] = _ := h ⟨_, .port⟩ (by simp [keys])
  simp only [bundle, unsignedAt?_eq, hperiod, hport]

theorem Ssl.bundle_congr {role : Ssl.Role} (h : AgreeOn (Ssl.keys role) g g') :
    Ssl.bundle g role = Ssl.bundle g' role := by
  have hgiven : ∀ name ∈ ["key_store_jks", "key_store_password", "trust_store_jks",
      "trust_store_password"],
      g.given ["ssl", "params", role.key, name] = g'.given ["ssl", "params", role.key, name] :=
    fun name hn => h ⟨_, .text⟩ (List.mem_map_of_mem hn)
  simp only [List.forall_mem_cons] at hgiven
  obtain ⟨hkey, hkeyPassword, htrust, htrustPassword, -⟩ := hgiven
  simp only [bundle, textAt?_eq, hkey, hkeyPassword, htrust, htrustPassword]

/-- A connector that has encryption does not see the globals. -/
theorem Ssl.map_connectorWith_congr {c : NodeConfig}
    (h : lacking c = true → Ssl.bundle g .client = Ssl.bundle g' .client) :
    c.clientConnector.map (connectorWith g) = c.clientConnector.map (connectorWith g') := by
  refine Option.map_congr fun k hk => ?_
  unfold connectorWith
  split
  next => rfl
  next hs =>
    have hl : lacking c = true := by
      have hk : c.clientConnector = some k := hk
      simp [lacking, hk, hs]
    rw [h hl]

/-- The keys of the client role count twice if a client has a connector that lacks encryption. -/
theorem Ssl.keysFor_agree {c : NodeConfig} (hrole : AgreeOn (Ssl.keys (Ssl.roleOf c)) g g')
    (hclient : lacking c = true → AgreeOn (Ssl.keys .client) g g') :
    AgreeOn (Ssl.keysFor c) g g' := by
  intro k hk
  obtain hk | hk := List.mem_append.mp hk
  · exact hrole k hk
  · split at hk
    next hl => exact hclient hl k hk
    next => exact absurd hk List.not_mem_nil

theorem Ssl.lacking_eq_false {c : NodeConfig}
    (h : ∀ k, c.clientConnector = some k → k.sslEnabled = true) : lacking c = false := by
  cases hc : c.clientConnector with
  | none => simp [lacking, hc]
  | some k => simp [lacking, hc, h k hc]

namespace Feature

theorem isEnabled_congr (h : SwitchAlike g g') (f : Feature) : f.isEnabled g = f.isEnabled g' := by
  cases f with
  | opencensus => exact h ["metrics", "opencensys", "enabled"] (by simp)
  | jmx => exact h ["metrics", "jmx", "enabled"] (by simp)
  | ssl => exact h ["ssl", "enabled"] (by simp)

theorem enabled_congr (h : SwitchAlike g g') : enabled g = enabled g' :=
  congrArg (fun p => all.filter p) (funext (isEnabled_congr h))

theorem failure?_congr {c : NodeConfig} {f : Feature} (hs : SwitchAlike g g')
    (h : AgreeOn (f.keysFor c) g g') : f.failure? g c = f.failure? g' c := by
  rw [failure?, failure?, isEnabled_congr hs, h.firstFailure?_eq]

/-- The effects of features on a configuration come from the parameters that its keys give. -/
theorem foldl_effect_agree {c : NodeConfig} (hoc : AgreeOn Opencensus.keys g g')
    (hssl : AgreeOn (Ssl.keysFor c) g g') (fs : List Feature) :
    fs.foldl (effect g) c = fs.foldl (effect g') c := by
  have hnode : Ssl.bundle g (Ssl.roleOf c) = Ssl.bundle g' (Ssl.roleOf c) :=
    Ssl.bundle_congr fun k hk => hssl k (List.mem_append_left _ hk)
  have hclient : Ssl.lacking c = true → Ssl.bundle g .client = Ssl.bundle g' .client := by
    intro hl
    refine Ssl.bundle_congr fun k hk => hssl k (List.mem_append_right _ ?_)
    rwa [if_pos hl]
  have hexporter : ∀ f : Feature, f.exporter? g = f.exporter? g' := by
    intro f
    cases f with
    | opencensus => rw [exporter?, exporter?, Opencensus.bundle_congr hoc]
    | _ => rfl
  apply NodeConfig.ext
  case clientMode => simp only [clientMode_foldl]
  case metricsFrequency => simp only [metricsFrequency_foldl]
  case exporters =>
    exact SortedSet.eq_of_mem_iff fun b => by simp only [mem_exporters_foldl, hexporter]
  case extensions => simp only [extensions_foldl, Opencensus.bundle_congr hoc]
  case sslParams => simp only [sslParams_foldl, hnode]
  case clientConnector => simp only [clientConnector_foldl, Ssl.map_connectorWith_congr hclient]

end Feature

namespace Composer

theorem compose_agree {c : NodeConfig} (hs : SwitchAlike g g') (hoc : AgreeOn Opencensus.keys g g')
    (hssl : AgreeOn (Ssl.keysFor c) g g') (fs : List Feature) :
    (⟨g, fs⟩ : Composer).compose c = (⟨g', fs⟩ : Composer).compose c := by
  have hf : ∀ f ∈ fs, f.failure? g c = f.failure? g' c := by
    intro f _
    refine Feature.failure?_congr hs ?_
    cases f with
    | opencensus => exact hoc
    | jmx => exact fun k hk => absurd hk List.not_mem_nil
    | ssl => exact hssl
  rw [compose_eq, compose_eq, Feature.foldl_effect_agree hoc hssl, findSome?_congr hf]

/-- A composition reads the globals at the documented paths alone, and of the stores only those
of the roles that the configuration has a use for. -/
theorem compose_documented (hs : SwitchAlike g g') (hoc : AgreeOn Opencensus.keys g g') :
    (enabled g).features = (enabled g').features ∧
    (AgreeOn (Ssl.keys .server) g g' → AgreeOn (Ssl.keys .client) g g' →
      ∀ fs c, (⟨g, fs⟩ : Composer).compose c = (⟨g', fs⟩ : Composer).compose c) ∧
    (AgreeOn (Ssl.keys .server) g g' → ∀ fs (c : NodeConfig), c.clientMode = false →
      (∀ k, c.clientConnector = some k → k.sslEnabled = true) →
        (⟨g, fs⟩ : Composer).compose c = (⟨g', fs⟩ : Composer).compose c) ∧
    (AgreeOn (Ssl.keys .client) g g' → ∀ fs (c : NodeConfig), c.clientMode = true →
      (⟨g, fs⟩ : Composer).compose c = (⟨g', fs⟩ : Composer).compose c) := by
  refine ⟨Feature.enabled_congr hs, ?_, ?_, ?_⟩
  · intro hserver hclient fs c
    have hrole : AgreeOn (Ssl.keys (Ssl.roleOf c)) g g' := by
      cases Ssl.roleOf c with
      | server => exact hserver
      | client => exact hclient
    exact compose_agree hs hoc (Ssl.keysFor_agree hrole fun _ => hclient) fs
  · intro hserver fs c hmode hk
    have hrole : Ssl.roleOf c = .server := by simp [Ssl.roleOf, hmode]
    have hnone : Ssl.lacking c = false := Ssl.lacking_eq_false hk
    exact compose_agree hs hoc
      (Ssl.keysFor_agree (hrole ▸ hserver) fun hl => by simp [hnone] at hl) fs
  · intro hclient fs c hmode
    have hrole : Ssl.roleOf c = .client := by simp [Ssl.roleOf, hmode]
    exact compose_agree hs hoc (Ssl.keysFor_agree (hrole ▸ hclient) fun _ => hclient) fs

theorem compose_documented_reshaped :
    let metrics := fun opencensys => Tree.object [("opencensys", .object opencensys)]
    let before := fun server client => Globals.ofTree (.object
      [("metrics", metrics [("enabled", .number (.natural 1)), ("port", .number (.natural 9))]),
        ("ssl", .object [("enabled", .bool true),
          ("params", .object [("server", server), ("client", client)])])])
    let reshaped := fun server client => Globals.ofTree (.object
      [("jmx", .bool true), ("ssl", .object [("enabled", .text "no"),
          ("params", .object [("client", client), ("server", server), ("peer", .array [])])]),
        ("metrics", metrics [("enabled", .array [.null]), ("period", .null),
          ("port", .number (.natural 9))])])
    let nothing := Tree.object [("trust_store_jks", .null), ("note", .text "none")]
    let broken := Tree.object [("key_store_jks", .bool false)]
    let secured : NodeConfig := { clientConnector := some { sslEnabled := true } }
    (∀ fs c, (⟨before .null broken, fs⟩ : Composer).compose c =
      (⟨reshaped nothing broken, fs⟩ : Composer).compose c) ∧
    (∀ fs, (⟨before .null broken, fs⟩ : Composer).compose secured =
      (⟨reshaped nothing .null, fs⟩ : Composer).compose secured) ∧
    (∀ fs, (⟨before broken nothing, fs⟩ : Composer).compose NodeConfig.client =
      (⟨reshaped .null (.text ""), fs⟩ : Composer).compose NodeConfig.client) := by
  intro metrics before reshaped nothing broken secured
  have hall := compose_documented
    (show SwitchAlike (before .null broken) (reshaped nothing broken) by decide) (by decide)
  have hserver := compose_documented
    (show SwitchAlike (before .null broken) (reshaped nothing .null) by decide) (by decide)
  have hclient := compose_documented
    (show SwitchAlike (before broken nothing) (reshaped .null (.text "")) by decide) (by decide)
  refine ⟨hall.2.1 (by decide) (by decide), fun fs => ?_, fun fs => ?_⟩
  · exact hserver.2.2.1 (by decide) fs secured rfl (by rintro k ⟨⟩; rfl)
  · exact hclient.2.2.2 (by decide) fs NodeConfig.client rfl

end Composer
end ClusterRig
