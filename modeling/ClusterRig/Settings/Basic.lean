import ClusterRig.Session.Basic
import ClusterRig.Settings.Snippet

/-!
# Settings

Settings are put together from snippets, of which the later ones count more. What
comes out is an input, which is completed and checked.
-/

namespace ClusterRig

structure Settings where
  session : SessionSettings
  nodes : List Node
  globals : Globals
  deriving DecidableEq

/-- The node of a snippet; what is left out is empty. -/
def NodeSnippet.node (n : NodeSnippet) : Node := ⟨n.name, n.host.getD "", n.target.getD ""⟩

namespace Settings

/-- How sessions are started unless a snippet says otherwise. -/
def defaultCommand : List String :=
  ["java", "-jar", "/opt/jmxterm/jmxterm.jar", "-v", "silent", "-n"]

/-- The last of the values that the snippets give. -/
def lastGiven {α : Type} (part : Snippet → Option α) (ss : List Snippet) : Option α :=
  (ss.filterMap part).getLast?

/-- The last command and the last remote shell given, each by itself. -/
def sessionOf (ss : List Snippet) : SessionSettings :=
  ⟨(lastGiven (fun s => s.session.bind SessionSnippet.command) ss).getD [],
    (lastGiven (fun s => s.session.bind SessionSnippet.remoteShell) ss).getD []⟩

/-- Put a node in the place of the one with its name, or at the end. -/
def place (n : Node) : List Node → List Node
  | [] => [n]
  | m :: rest => if m.name = n.name then n :: rest else m :: place n rest

/-- The nodes of all snippets: each name once, where it was first seen, with the
node that was last given for it. -/
def nodesOf (ss : List Snippet) : List Node :=
  (ss.flatMap fun s => s.nodes.getD []).foldl (fun nodes n => place n.node nodes) []

/-- Settings as they are given, not yet checked. An empty command stands for the default, and
an array of globals for its items, laid over each other. -/
structure Input where
  session : SessionSettings
  nodes : List Node
  globals : Tree
  deriving DecidableEq

/-- Merge snippets into one input. -/
def mergeSnippets (ss : List Snippet) : Input :=
  ⟨sessionOf ss, nodesOf ss, .array ((ss.filterMap Snippet.globals).map Globals.root)⟩

/-- A node needs a name and a target. -/
def checkNode (n : Node) : Except Failure Node :=
  if n.name.isEmpty then .error .nodeUnnamed
  else if n.target.isEmpty then .error (.nodeWithoutTarget n.name)
  else .ok n

/-- The globals that a tree stands for. -/
def layered : Tree → Globals
  | .array layers => Globals.empty.mergeAll (layers.map Globals.ofTree)
  | other => Globals.ofTree other

/-- Complete and check an input. -/
def ofInput (i : Input) : Except Failure Settings := do
  let command := if i.session.command.isEmpty then defaultCommand else i.session.command
  return ⟨⟨command, i.session.remoteShell⟩, ← i.nodes.mapM checkNode, layered i.globals⟩

def ofSnippets (ss : List Snippet) : Except Failure Settings := ofInput (mergeSnippets ss)

end Settings
end ClusterRig
