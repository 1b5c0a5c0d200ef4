import ClusterRig.CommandLine.Arguments
import ClusterRig.CommandLine.Complaint
import ClusterRig.Composer
import ClusterRig.Globals.Source
import ClusterRig.NodeConfig.Document
import ClusterRig.PeakHeap
import ClusterRig.Session.Basic
import ClusterRig.Settings.Source

/-!
# Running commands

What a command prints, given the files it can read and the programs it can start.
-/

namespace ClusterRig
namespace CommandLine

/-- What a run comes to. Wrong usage has no complaint of its own. -/
structure Report where
  status : Nat
  output : String
  complaint : Option String
  deriving DecidableEq

/-- The given directories, or the usual ones if none is given. -/
def settingsDirectories (given : List String) : List String :=
  if given.isEmpty then Settings.defaultDirectories else given

def readSettings (fs : FileSystem) (directories : List String) : Except Failure Settings :=
  Settings.read fs (settingsDirectories directories)

/-- The composer for the given features, or for those enabled if none is given. -/
def composer (g : Globals) (features : List Feature) : Composer :=
  if features.isEmpty then Composer.enabled g else (Composer.mk g []).withFeatures features

def compose (fs : FileSystem) (sources : List String) (features : List Feature) (client : Bool)
    (directories : List String) : Except Failure NodeConfig := do
  let settings ← readSettings fs directories
  let g := settings.globals.merge (← Globals.read fs sources)
  (composer g features).compose (if client then NodeConfig.client else NodeConfig.server)

/-- The endpoints of the configured nodes. -/
def endpoints (launch : Launcher) (s : Settings) : List Endpoint :=
  s.nodes.map (Session.endpoint launch s.session)

def peakHeap (fs : FileSystem) (launch : Launcher) (directories : List String) :
    Except Failure (SortedMap Decimal.Magnitude) := do
  let settings ← readSettings fs directories
  (PeakHeap.cluster (endpoints launch settings)).outcome

/-- The document of a usage report. -/
def usageDocument (usage : SortedMap Decimal.Magnitude) : Tree :=
  .object (usage.entries.map fun e => (e.1, .number (.double ⟨false, e.2⟩)))

/-- The document that a command prints. -/
def document (fs : FileSystem) (launch : Launcher) : Command → Except Failure Tree
  | .compose sources features client directories =>
    (compose fs sources features client directories).map NodeConfig.document
  | .peakHeap directories => (peakHeap fs launch directories).map usageDocument

def run (fs : FileSystem) (launch : Launcher) (args : List String) : Report :=
  match parse? args with
  | none => ⟨1, "", none⟩
  | some command =>
    match document fs launch command with
    | .ok t => ⟨0, t.toIndentedJson ++ "\n", none⟩
    | .error e => ⟨1, "", some (complaint e)⟩

end CommandLine
end ClusterRig
