import ClusterRig.Settings.Basic

/-!
# Directories of settings

Settings are read from directories, one after the other. The snippets of a directory
are its regular files with the extension `toml`, in ascending order of their names;
what is no directory holds none.
-/

namespace ClusterRig
namespace Settings

/-- The directories that are read unless others are given. -/
def defaultDirectories : List String := ["/usr/lib/ducktests", "/run/ducktests", "/etc/ducktests"]

/-- Whether a file name has something before its extension, which is `toml`. -/
def isSnippetName (name : String) : Bool :=
  let extension := ".toml"
  name.endsWith extension && name != extension

/-- The names in a directory. -/
def listed (fs : FileSystem) (directory : String) : Except Failure (List String) :=
  match fs.entry? directory with
  | some (.directory names) => .ok names
  | some .lockedDirectory => .error (.directoryUnreadable directory)
  | some .brokenDirectory => .error .directoryEntryUnreadable
  | _ => .ok []

/-- The paths of the snippets among the names in a directory. -/
def pathsOf (fs : FileSystem) (directory : String) (names : List String) : List String :=
  let sorted : SortedSet (α := String) compare := SortedSet.ofList (names.filter isSnippetName)
  (sorted.elements.map (FileSystem.join directory)).filter fs.isFile

def readSnippet (fs : FileSystem) (path : String) : Except Failure Snippet :=
  match fs.file? path with
  | none => .error (.snippetUnreadable path)
  | some content =>
    match Snippet.ofBytes? content with
    | some s => .ok s
    | none => .error (.snippetMalformed path)

/-- The snippets of a directory, which is listed before any of them is read. -/
def snippetsOf (fs : FileSystem) (directory : String) : Except Failure (List Snippet) := do
  (pathsOf fs directory (← listed fs directory)).mapM (readSnippet fs)

/-- The snippets of the directories, in order. -/
def snippets (fs : FileSystem) (directories : List String) : Except Failure (List Snippet) := do
  return (← directories.mapM (snippetsOf fs)).flatten

def read (fs : FileSystem) (directories : List String) : Except Failure Settings := do
  ofSnippets (← snippets fs directories)

end Settings
end ClusterRig
