import ClusterRig.FileSystem
import ClusterRig.Globals.Basic

/-!
# Sources of globals

A source is the name of a file, or where there is no such file the text itself.
-/

namespace ClusterRig
namespace Globals

/-- The text that a source stands for. The file must be readable, and a text. -/
def sourceText (fs : FileSystem) (source : String) : Except Failure String :=
  if fs.isFile source then
    match fs.file? source >>= Text.Utf8.decode? with
    | some text => .ok (String.ofList text)
    | none => .error (.globalsUnreadable source)
  else .ok source

def readSource (fs : FileSystem) (source : String) : Except Failure Globals := do
  parse (← sourceText fs source)

/-- Read the sources in order and lay each over those before it. -/
def read (fs : FileSystem) (sources : List String) : Except Failure Globals :=
  sources.foldlM (fun g source => do return g.merge (← readSource fs source)) empty

end Globals
end ClusterRig
