import ClusterRig.CommandLine.Run
import ClusterRig.Proofs.PeakHeap.Collect
import ClusterRig.Proofs.Session.Script
import ClusterRig.Proofs.Settings.Nodes

/-!
# Reports that cover the settings

A report on the nodes of the settings. Main statement: it has one entry for each name
of the snippets, and what stands there was read in sessions on the host and with the
target that the last snippet with that name gives. A node that another one has replaced
takes no part.
-/

namespace ClusterRig
namespace PeakHeap

open Settings

/-- The report has an entry for each name that was given, and what stands there was read
from the node as it was given last. -/
structure Covers (given : List NodeSnippet) (connect : Node → Endpoint) (nodes : List Node)
    (m : SortedMap Decimal.Magnitude) : Prop where
  size : m.entries.length = nodes.length
  keys : ∀ name, name ∈ m.keys ↔ ∃ x ∈ given, x.name = name
  entry : ∀ x, LastOf NodeSnippet.name given x → ∃ v, m.get? x.name = some v ∧
    (nodeGibibytes (connect x.node)).outcome = .ok v

variable {given : List NodeSnippet} {connect : Node → Endpoint}

theorem map_name_connect (hc : ∀ n, (connect n).name = n.name) (nodes : List Node) :
    (nodes.map connect).map Endpoint.name = nodes.map Node.name := by
  simp [Function.comp_def, hc]

theorem covers_placeAll (hc : ∀ n, (connect n).name = n.name) {qs : List Query}
    {m : SortedMap Decimal.Magnitude}
    (h : cluster ((placeAll given).map connect) = ⟨qs, .ok m⟩) :
    Covers given connect (placeAll given) m := by
  obtain ⟨ha, hb, -⟩ := collect_eq_ok h
  have hnames := map_name_connect hc (placeAll given)
  have hnodup : (((placeAll given).map connect).map Endpoint.name).Nodup :=
    hnames ▸ nodup_name_placeAll given
  have hkeys : ∀ name, name ∈ m.keys ↔ name ∈ ((placeAll given).map connect).map Endpoint.name :=
    fun name => (hb.mem_keys_iff ha).trans List.mem_map.symm
  refine ⟨?_, ?_, ?_⟩
  · have hp : m.keys.Perm (((placeAll given).map connect).map Endpoint.name) :=
      (List.perm_ext_iff_of_nodup m.nodup_keys hnodup).mpr hkeys
    simpa [SortedMap.keys] using hp.length_eq
  · intro name
    rw [hkeys, hnames, mem_name_placeAll_iff]
  · intro x hx
    have he : connect x.node ∈ (placeAll given).map connect :=
      List.mem_map_of_mem (mem_placeAll_iff.mpr ⟨x, hx, rfl⟩)
    obtain ⟨v, hv⟩ := ha _ he
    have hlast : LastOf Endpoint.name ((placeAll given).map connect) (connect x.node) :=
      (LastOf.iff_mem_of_nodup hnodup).mpr he
    exact ⟨v, (hb x.name v).mpr ⟨connect x.node, hlast, hc x.node, hv⟩, hv⟩

/-- What starts a session: the command, which the remote shell brings to the host if both of
them are given. -/
def startedBy (s : SessionSettings) (host : String) : List String :=
  if s.remoteShell ≠ [] ∧ host ≠ "" then s.remoteShell ++ host :: s.command else s.command

/-- What a session is told. -/
def told (target : String) : Request → String
  | .beans domain => "open " ++ target ++ "\nbeans -d " ++ domain ++ "\nclose\n"
  | .get bean attr => "open " ++ target ++ "\nget -b " ++ bean ++ " " ++ attr ++ "\nclose\n"

/-- An endpoint that is reached in sessions on the host of a node. They open its target, and what
they print is the answer, if they end well and leave no more than a buffer of their input. -/
structure ReachedIn (launch : Launcher) (s : SessionSettings) (n : Node) (e : Endpoint) :
    Prop where
  name : e.name = n.name
  lines : ∀ earlier r lines, e.answerAfter earlier r = .ok lines ↔
    ∃ program arguments ended, startedBy s n.host = program :: arguments ∧
      launch ⟨n, earlier⟩ program arguments (Text.Utf8.encode (told n.target r)) = some ended ∧
      ended.status = 0 ∧ ended.unread ≤ 65536 ∧ lines = Session.printed ended.output

theorem commandLine_eq (s : SessionSettings) (n : Node) :
    Session.commandLine s n = startedBy s n.host := by
  unfold Session.commandLine startedBy
  by_cases hs : s.remoteShell = []
  · simp [hs]
  · by_cases hh : n.host = ""
    · simp [hh]
    · simp [hs, hh]

theorem script_eq (n : Node) (r : Request) : Session.script n r = told n.target r := by
  cases r with
  | beans domain =>
    change "open " ++ n.target ++ "\n" ++ ("beans -d " ++ domain) ++ "\nclose\n" = _
    simp only [told, String.append_assoc]
    rfl
  | get bean attr =>
    change "open " ++ n.target ++ "\n" ++ ("get -b " ++ bean ++ " " ++ attr) ++ "\nclose\n" = _
    simp only [told, String.append_assoc]
    rfl

theorem reachedIn_endpoint (launch : Launcher) (s : SessionSettings) (n : Node) :
    ReachedIn launch s n (Session.endpoint launch s n) := by
  refine ⟨rfl, fun earlier r lines => ?_⟩
  change Session.answer (launch ⟨n, earlier⟩) s n r = .ok lines ↔ _
  rw [Session.answer_eq_ok_iff, commandLine_eq, script_eq]
  rfl

/-- Two launchers that answer the sessions of a node alike make the same endpoint of it. -/
theorem endpoint_congr {launch launch' : Launcher} {s : SessionSettings} {n : Node}
    (h : ∀ earlier r program arguments, startedBy s n.host = program :: arguments →
      launch' ⟨n, earlier⟩ program arguments (Text.Utf8.encode (told n.target r)) =
        launch ⟨n, earlier⟩ program arguments (Text.Utf8.encode (told n.target r))) :
    Session.endpoint launch' s n = Session.endpoint launch s n := by
  unfold Session.endpoint
  congr 1
  funext earlier r
  unfold Session.answer
  rw [commandLine_eq, script_eq]
  cases hc : startedBy s n.host with
  | nil => rfl
  | cons program arguments => simp only [h earlier r program arguments hc]

/-- For settings that are accepted the report covers the snippets: each name has one entry,
which was read in sessions on the host and with the target that were given last for it. Nodes
that were replaced take no part, and what their sessions would answer does not count. -/
theorem cluster_ofSnippets {ss : List Snippet} {s : Settings} (hs : ofSnippets ss = .ok s) :
    (∀ n, n ∈ s.nodes ↔ ∃ x, LastOf NodeSnippet.name (nodeSnippets ss) x ∧ n = x.node) ∧
    (∀ connect, (∀ n, (connect n).name = n.name) → ∀ qs m,
      cluster (s.nodes.map connect) = ⟨qs, .ok m⟩ →
        Covers (nodeSnippets ss) connect s.nodes m ∧
          qs = s.nodes.flatMap fun n => (nodeGibibytes (connect n)).queries) ∧
    (∀ launch qs m, cluster (CommandLine.endpoints launch s) = ⟨qs, .ok m⟩ →
      Covers (nodeSnippets ss) (Session.endpoint launch s.session) s.nodes m ∧
      ∀ x, LastOf NodeSnippet.name (nodeSnippets ss) x → ∃ e v,
        ReachedIn launch s.session ⟨x.name, x.host.getD "", x.target.getD ""⟩ e ∧
        m.get? x.name = some v ∧ (nodeGibibytes e).outcome = .ok v) ∧
    ∀ launch launch' : Launcher,
      (∀ x, LastOf NodeSnippet.name (nodeSnippets ss) x → ∀ earlier r program arguments,
        startedBy s.session (x.host.getD "") = program :: arguments →
          launch' ⟨x.node, earlier⟩ program arguments
              (Text.Utf8.encode (told (x.target.getD "") r)) =
            launch ⟨x.node, earlier⟩ program arguments
              (Text.Utf8.encode (told (x.target.getD "") r))) →
      cluster (CommandLine.endpoints launch' s) = cluster (CommandLine.endpoints launch s) := by
  have hnodes : s.nodes = placeAll (nodeSnippets ss) := nodes_of_ofSnippets hs
  simp only [CommandLine.endpoints, hnodes]
  refine ⟨fun n => mem_placeAll_iff, ?_, ?_, ?_⟩
  · intro connect hc qs m h
    obtain ⟨-, -, hq⟩ := collect_eq_ok h
    exact ⟨covers_placeAll hc h, hq.trans (List.flatMap_map ..)⟩
  · intro launch qs m h
    have hcovers := covers_placeAll (fun _ => rfl) h
    refine ⟨hcovers, fun x hx => ?_⟩
    obtain ⟨v, hv, hread⟩ := hcovers.entry x hx
    exact ⟨_, v, reachedIn_endpoint launch s.session x.node, hv, hread⟩
  · intro launch launch' h
    refine congrArg cluster (List.map_congr_left fun n hn => ?_)
    obtain ⟨x, hx, rfl⟩ := mem_placeAll_iff.mp hn
    exact endpoint_congr (h x hx)

/-- Two hosts behind a remote shell, one of which has taken the place of another. The usage that
they show changes between the requests. -/
theorem cluster_ofSnippets_replaced :
    let ss : List Snippet := [
      ⟨some ⟨some ["jmxterm"], some ["ssh", "-q"]⟩,
        some [⟨"server-1", some "ducker01", some "1098"⟩,
          ⟨"server-2", some "ducker02", some "4242"⟩], none⟩,
      ⟨none, some [⟨"server-1", some "ducker09", some "1100"⟩], none⟩]
    let s : Settings := ⟨⟨["jmxterm"], ["ssh", "-q"]⟩,
      [⟨"server-1", "ducker09", "1100"⟩, ⟨"server-2", "ducker02", "4242"⟩], Globals.empty⟩
    let print (text : String) : Option Ended :=
      some ⟨0, Text.Utf8.encode ("\n".intercalate (text :: pools)), [], 0⟩
    let launch : Launcher := fun occasion program arguments input =>
      if program ≠ "ssh" then none
      else if arguments = ["-q", "ducker09", "jmxterm"] ∧
          Text.Utf8.encode "open 1100\n" <+: input then
        print (if occasion.earlier.length < 2 then "1073741824" else "536870912")
      else if arguments = ["-q", "ducker02", "jmxterm"] ∧
          Text.Utf8.encode "open 4242\n" <+: input then
        print (if occasion.earlier.length < 4 then "536870912" else "0")
      else none
    let m := SortedMap.ofList
      [("server-1", gibibytes 2147483648), ("server-2", gibibytes 1073741824)]
    ofSnippets ss = .ok s ∧ (cluster (CommandLine.endpoints launch s)).outcome = .ok m ∧
      Covers (nodeSnippets ss) (Session.endpoint launch s.session) s.nodes m ∧
      ∀ x, LastOf NodeSnippet.name (nodeSnippets ss) x → ∃ e v,
        ReachedIn launch s.session ⟨x.name, x.host.getD "", x.target.getD ""⟩ e ∧
        m.get? x.name = some v ∧ (nodeGibibytes e).outcome = .ok v := by
  intro ss s print launch m
  have hs : ofSnippets ss = .ok s := by decide +kernel
  have hm : (cluster (CommandLine.endpoints launch s)).outcome = .ok m := by decide +kernel
  exact ⟨hs, hm, (cluster_ofSnippets hs).2.2.1 launch _ m (Traced.eq_of_outcome hm)⟩

end PeakHeap
end ClusterRig
