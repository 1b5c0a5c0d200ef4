import ClusterRig.Proofs.Globals.Regroup
import ClusterRig.Proofs.Settings.Nodes
import ClusterRig.Settings.Source

/-!
# Repeating what is read

Sources and directories that are all read a second time, after the first. The second
pass lays lower layers over upper ones and puts earlier nodes in the place of later
ones, and then undoes all of it again. Main statement: it changes nothing.
-/

namespace ClusterRig
namespace Globals

theorem mergeAll_append (g : Globals) (layers more : List Globals) :
    g.mergeAll (layers ++ more) = (g.mergeAll layers).mergeAll more :=
  List.foldl_append

theorem mergeAll_append_self (g : Globals) (layers : List Globals) :
    g.mergeAll (layers ++ layers) = g.mergeAll layers := by
  refine eq_of_root_eq ?_
  rw [mergeAll_append, root_mergeAll, root_mergeAll]
  exact Tree.stack_stack g.canonical canonical_of_mem_map_root

theorem read_append_self (fs : FileSystem) (sources : List String) :
    read fs (sources ++ sources) = read fs sources := by
  rw [read_eq, read_eq, FirstFailure.mapM_append_self]
  cases sources.mapM (readSource fs) with
  | error e => rfl
  | ok layers => exact congrArg Except.ok (mergeAll_append_self empty layers)

end Globals

namespace Settings

theorem lastGiven_append_self {α : Type} (part : Snippet → Option α) (ss : List Snippet) :
    lastGiven part (ss ++ ss) = lastGiven part ss := by
  rw [lastGiven, lastGiven, List.filterMap_append, List.getLast?_append, Option.or_self]

/-- Each name keeps its place, since it has occurred before, and its last node is the same. -/
theorem placeAll_append_self (given : List NodeSnippet) :
    placeAll (given ++ given) = placeAll given := by
  have hnames : (placeAll (given ++ given)).map Node.name = (placeAll given).map Node.name := by
    rw [map_name_placeAll, map_name_placeAll, List.map_append]
    exact firstOfEach_append_of_mem (by simp)
  refine eq_of_map_eq_of_mem (nodup_name_placeAll given) hnames fun n hn => ?_
  obtain ⟨x, hx, rfl⟩ := mem_placeAll_iff.mp hn
  exact mem_placeAll_iff.mpr ⟨x, LastOf.append_self_iff.mp hx, rfl⟩

theorem ofSnippets_append_self (ss : List Snippet) : ofSnippets (ss ++ ss) = ofSnippets ss := by
  have hcommand : commandOf (ss ++ ss) = commandOf ss := by
    rw [commandOf, commandOf, lastGiven_append_self]
  have hshell : remoteShellOf (ss ++ ss) = remoteShellOf ss := by
    rw [remoteShellOf, remoteShellOf, lastGiven_append_self]
  have hnodes : nodesOf (ss ++ ss) = nodesOf ss := by
    have hgiven : nodeSnippets (ss ++ ss) = nodeSnippets ss ++ nodeSnippets ss :=
      List.flatMap_append
    rw [nodesOf_eq, nodesOf_eq, hgiven, placeAll_append_self]
  have hglobals : globalsOf (ss ++ ss) = globalsOf ss := by
    rw [globalsOf, globalsOf, List.filterMap_append, Globals.mergeAll_append_self]
  rw [ofSnippets_eq, ofSnippets_eq, hcommand, hshell, hnodes, hglobals]

theorem read_append_self (fs : FileSystem) (directories : List String) :
    read fs (directories ++ directories) = read fs directories := by
  unfold read snippets
  rw [FirstFailure.mapM_append_self]
  cases directories.mapM (snippetsOf fs) with
  | error e => rfl
  | ok sss =>
    change ofSnippets (sss ++ sss).flatten = ofSnippets sss.flatten
    rw [List.flatten_append, ofSnippets_append_self]

/-- Layers, sources and directories of settings may all be repeated after the first pass: the
globals, the settings and the failures stay what they are. -/
theorem repeated_pass :
    (∀ (g : Globals) (layers : List Globals), g.mergeAll (layers ++ layers) = g.mergeAll layers) ∧
    (∀ fs sources, Globals.read fs (sources ++ sources) = Globals.read fs sources) ∧
    ∀ fs directories, read fs (directories ++ directories) = read fs directories :=
  ⟨Globals.mergeAll_append_self, Globals.read_append_self, read_append_self⟩

end Settings
end ClusterRig
