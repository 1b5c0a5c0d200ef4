import ClusterRig.PeakHeap
import ClusterRig.Proofs.Endpoint.Traced
import ClusterRig.Proofs.FirstFailure
import ClusterRig.Proofs.SortedMap

/-!
# Reading a cluster

What it comes to when endpoints are read in order and their values are kept by name.
Main statement: there is a map exactly if every endpoint can be read; it binds each
name to the value of the last endpoint with that name. Otherwise the first endpoint
that cannot be read gives the failure, and no later one is asked.
-/

namespace ClusterRig
namespace PeakHeap

variable {α β : Type}

/-- Every name of the endpoints, and no other, is bound to the value that the last
endpoint with that name has. -/
def BindsLast (read : Endpoint → Traced α) (endpoints : List Endpoint) (m : SortedMap α) : Prop :=
  ∀ name v, m.get? name = some v ↔
    ∃ e, LastOf Endpoint.name endpoints e ∧ e.name = name ∧ (read e).outcome = .ok v

/-- Every endpoint has a value. -/
def AllRead (read : Endpoint → Traced α) (endpoints : List Endpoint) : Prop :=
  ∀ e ∈ endpoints, ∃ v, (read e).outcome = .ok v

/-- The queries that the endpoints take when they are read one after the other. -/
def queriesOf (read : Endpoint → Traced α) (endpoints : List Endpoint) : List Query :=
  endpoints.flatMap fun e => (read e).queries

variable {read : Endpoint → Traced α} {endpoints : List Endpoint} {m : SortedMap α}

theorem collect_append (read : Endpoint → Traced α) (before after : List Endpoint) :
    collect (before ++ after) read = collect before read >>= fun m =>
      after.foldlM (fun m e => do return m.insert e.name (← read e)) m :=
  List.foldlM_append

theorem bindsLast_nil (read : Endpoint → Traced α) : BindsLast read [] SortedMap.empty := by
  intro name v
  simp [LastOf.not_nil]

/-- One endpoint more: its value takes the place of the one that its name has had. -/
theorem BindsLast.insert (h : BindsLast read endpoints m) {e : Endpoint} {v : α}
    (hv : (read e).outcome = .ok v) : BindsLast read (endpoints ++ [e]) (m.insert e.name v) := by
  intro name w
  rw [SortedMap.get?_insert]
  simp only [LastOf.concat_iff]
  by_cases hn : name = e.name
  · rw [if_pos hn]
    constructor
    · intro hw
      exact ⟨e, .inl rfl, hn.symm, by rw [hv, Option.some.inj hw]⟩
    · rintro ⟨x, rfl | ⟨-, hx⟩, hxn, hw⟩
      · rw [hv] at hw
        rw [Except.ok.inj hw]
      · exact absurd (hn.symm.trans hxn.symm) hx
  · rw [if_neg hn, h name w]
    constructor
    · rintro ⟨x, hx, rfl, hw⟩
      exact ⟨x, .inr ⟨hx, Ne.symm hn⟩, rfl, hw⟩
    · rintro ⟨x, rfl | ⟨hx, -⟩, rfl, hw⟩
      · exact absurd rfl hn
      · exact ⟨x, hx, rfl, hw⟩

theorem collect_of_allRead (h : AllRead read endpoints) :
    ∃ m, collect endpoints read = ⟨queriesOf read endpoints, .ok m⟩ ∧
      BindsLast read endpoints m := by
  induction endpoints using List.reverseRecOn with
  | nil => exact ⟨SortedMap.empty, rfl, bindsLast_nil read⟩
  | append_singleton l e ih =>
    obtain ⟨m, hm, hb⟩ := ih fun x hx => h x (by simp [hx])
    obtain ⟨v, hv⟩ := h e (by simp)
    refine ⟨m.insert e.name v, ?_, hb.insert hv⟩
    rw [collect_append, hm, Traced.bind_eq_of_ok _ rfl, List.foldlM_cons,
      Traced.bind_eq_of_ok _ hv, Traced.bind_eq_of_ok _ rfl]
    simp [queriesOf, Traced.queries_pure, Traced.outcome_pure, List.foldlM_nil]

theorem collect_of_error {before after : List Endpoint} {e : Endpoint} {f : Failure}
    (hb : AllRead read before) (he : (read e).outcome = .error f) :
    collect (before ++ e :: after) read = ⟨queriesOf read (before ++ [e]), .error f⟩ := by
  obtain ⟨m, hm, -⟩ := collect_of_allRead hb
  have hs : (do return m.insert e.name (← read e) : Traced (SortedMap α)) =
      ⟨(read e).queries, .error f⟩ := Traced.bind_eq_of_error _ he
  rw [collect_append, hm, Traced.bind_eq_of_ok _ rfl, List.foldlM_cons, hs,
    Traced.bind_eq_of_error _ rfl]
  simp [queriesOf]

/-- Either every endpoint can be read, or there is a first one that cannot. -/
theorem allRead_or_exists_first (read : Endpoint → Traced α) (endpoints : List Endpoint) :
    AllRead read endpoints ∨ ∃ before e after f, endpoints = before ++ e :: after ∧
      AllRead read before ∧ (read e).outcome = .error f := by
  cases h : endpoints.mapM fun e => (read e).outcome with
  | ok vs => exact .inl (FirstFailure.exists_of_mapM_eq_ok h)
  | error f =>
    obtain ⟨before, e, after, hl, hb, he⟩ := FirstFailure.mapM_eq_error_iff.mp h
    exact .inr ⟨before, e, after, f, hl, hb, he⟩

theorem exists_collect_eq_ok_iff :
    (∃ m, (collect endpoints read).outcome = .ok m) ↔ AllRead read endpoints := by
  constructor
  · rintro ⟨m, hm⟩
    rcases allRead_or_exists_first read endpoints with h | ⟨before, e, after, f, rfl, hb, he⟩
    · exact h
    · rw [collect_of_error hb he] at hm
      cases hm
  · intro h
    obtain ⟨m, hm, -⟩ := collect_of_allRead h
    exact ⟨m, by rw [hm]⟩

theorem collect_eq_ok {qs : List Query} (h : collect endpoints read = ⟨qs, .ok m⟩) :
    AllRead read endpoints ∧ BindsLast read endpoints m ∧ qs = queriesOf read endpoints := by
  have ha : AllRead read endpoints := exists_collect_eq_ok_iff.mp ⟨m, by rw [h]⟩
  obtain ⟨n, hn, hb⟩ := collect_of_allRead ha
  obtain ⟨rfl, hm⟩ := Traced.mk.inj (h.symm.trans hn)
  obtain rfl := Except.ok.inj hm
  exact ⟨ha, hb, rfl⟩

theorem collect_eq_error_iff {qs : List Query} {f : Failure} :
    collect endpoints read = ⟨qs, .error f⟩ ↔ ∃ before e after, endpoints = before ++ e :: after ∧
      AllRead read before ∧ (read e).outcome = .error f ∧ qs = queriesOf read (before ++ [e]) := by
  constructor
  · intro h
    rcases allRead_or_exists_first read endpoints with ha | ⟨before, e, after, g, rfl, hb, he⟩
    · obtain ⟨m, hm, -⟩ := collect_of_allRead ha
      cases congrArg Traced.outcome (h.symm.trans hm)
    · obtain ⟨rfl, hg⟩ := Traced.mk.inj (h.symm.trans (collect_of_error hb he))
      obtain rfl := Except.error.inj hg
      exact ⟨before, e, after, rfl, hb, he, rfl⟩
  · rintro ⟨before, e, after, rfl, hb, he, rfl⟩
    exact collect_of_error hb he

theorem BindsLast.eq {n : SortedMap α} (hm : BindsLast read endpoints m)
    (hn : BindsLast read endpoints n) : m = n := by
  refine SortedMap.ext_get? fun name => Option.ext fun v => ?_
  rw [hm name v, hn name v]

theorem BindsLast.mem_keys_iff (h : BindsLast read endpoints m) (ha : AllRead read endpoints)
    {name : String} : name ∈ m.keys ↔ ∃ e ∈ endpoints, e.name = name := by
  simp only [SortedMap.mem_keys_iff, h name]
  constructor
  · rintro ⟨v, e, he, hn, -⟩
    exact ⟨e, he.mem, hn⟩
  · rintro ⟨e, he, hn⟩
    obtain ⟨x, hx, hxn⟩ := LastOf.exists_of_mem_map (List.mem_map.mpr ⟨e, he, hn⟩)
    obtain ⟨v, hv⟩ := ha x hx.mem
    exact ⟨v, x, hx, hxn, hv⟩

/-- Without repeated names the order of the endpoints does not count. -/
theorem BindsLast.perm {others : List Endpoint} (h : BindsLast read endpoints m)
    (hp : endpoints.Perm others) (hn : (endpoints.map Endpoint.name).Nodup) :
    BindsLast read others m := by
  have hn' : (others.map Endpoint.name).Nodup := (hp.map Endpoint.name).nodup_iff.mp hn
  intro name v
  simp only [h name v, LastOf.iff_mem_of_nodup hn, LastOf.iff_mem_of_nodup hn', hp.mem_iff]

theorem AllRead.perm {others : List Endpoint} (h : AllRead read endpoints)
    (hp : endpoints.Perm others) : AllRead read others :=
  fun e he => h e (hp.mem_iff.mpr he)

/-- What is read can be changed before or after it is collected. -/
theorem collect_map (g : α → β) (endpoints : List Endpoint) (read : Endpoint → Traced α) :
    collect endpoints (fun e => do return g (← read e)) =
      do return (← collect endpoints read).map g := by
  suffices h : ∀ m : SortedMap α,
      endpoints.foldlM (fun n e =>
        (read e >>= fun v => pure (g v)) >>= fun w => pure (n.insert e.name w)) (m.map g) =
      endpoints.foldlM (fun m e => read e >>= fun v => pure (m.insert e.name v)) m >>=
        fun m => pure (m.map g) from h SortedMap.empty
  induction endpoints with
  | nil => intro m; rfl
  | cons e l ih =>
    intro m
    simp only [bind_assoc, pure_bind] at ih
    simp only [List.foldlM_cons, bind_assoc, pure_bind]
    exact bind_congr fun v => SortedMap.map_insert g m e.name v ▸ ih (m.insert e.name v)

/-- Reading a cluster gives a map exactly if every endpoint can be read, and the failure of
the first endpoint that cannot be read otherwise. Reordering endpoints changes neither the map,
if their names are distinct, nor whether there is one. In gibibytes the same is read. -/
theorem collect_outcome (read : Endpoint → Traced α) (endpoints : List Endpoint) :
    ((∃ m, (collect endpoints read).outcome = .ok m) ↔ AllRead read endpoints) ∧
    (∀ qs m, collect endpoints read = ⟨qs, .ok m⟩ →
      (∀ name, name ∈ m.keys ↔ ∃ e ∈ endpoints, e.name = name) ∧
      BindsLast read endpoints m ∧ qs = queriesOf read endpoints) ∧
    (∀ qs f, collect endpoints read = ⟨qs, .error f⟩ ↔
      ∃ before e after, endpoints = before ++ e :: after ∧ AllRead read before ∧
        (read e).outcome = .error f ∧ qs = queriesOf read (before ++ [e])) ∧
    (∀ others, endpoints.Perm others → (endpoints.map Endpoint.name).Nodup →
      ∀ m, (collect endpoints read).outcome = .ok m → (collect others read).outcome = .ok m) ∧
    ((∃ f, (collect endpoints read).outcome = .error f) ↔
      ∀ others, endpoints.Perm others → ∃ f, (collect others read).outcome = .error f) ∧
    cluster endpoints = do return (← collect endpoints nodeBytes).map gibibytes := by
  refine ⟨exists_collect_eq_ok_iff, ?_, fun _ _ => collect_eq_error_iff, ?_, ?_,
    collect_map gibibytes endpoints nodeBytes⟩
  · intro qs m h
    obtain ⟨ha, hb, hq⟩ := collect_eq_ok h
    exact ⟨fun _ => hb.mem_keys_iff ha, hb, hq⟩
  · intro others hp hn m hm
    obtain ⟨ha, hb, -⟩ := collect_eq_ok (Traced.eq_of_outcome hm)
    obtain ⟨n, ho, hbo⟩ := collect_of_allRead (ha.perm hp)
    rw [ho, (hb.perm hp hn).eq hbo]
  · simp only [Traced.exists_error_iff, exists_collect_eq_ok_iff]
    exact ⟨fun h others hp ha => h (ha.perm hp.symm), fun h => h endpoints (.refl _)⟩

/-- Two nodes that are read in either order. -/
theorem collect_outcome_swapped :
    let read : Endpoint → Traced (List String) := fun e => e.ask (.beans "java.lang")
    let a := Endpoint.Table.endpoint { beans := [("java.lang", ["Eden"])] } "server-1"
    let b := Endpoint.Table.endpoint { beans := [] } "client-1"
    let m := SortedMap.ofList [("client-1", []), ("server-1", ["Eden"])]
    [a, b].Perm [b, a] ∧ ([a, b].map Endpoint.name).Nodup ∧
      (collect [a, b] read).outcome = .ok m ∧ (collect [b, a] read).outcome = .ok m := by
  intro read a b m
  have hp : [a, b].Perm [b, a] := List.Perm.swap b a []
  have hn : ([a, b].map Endpoint.name).Nodup := by decide
  have hm : (collect [a, b] read).outcome = .ok m := by decide
  exact ⟨hp, hn, hm, (collect_outcome read [a, b]).2.2.2.1 [b, a] hp hn m hm⟩

end PeakHeap
end ClusterRig
