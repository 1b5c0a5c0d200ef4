import ClusterRig.CommandLine.Run
import ClusterRig.Shell.Run

/-!
# The program

The outermost layer: it looks up the files that the arguments name, runs the
command on them and prints what comes out.
-/

namespace ClusterRig
namespace CommandLine

/-- The result of an action, unless it fails. -/
def attempt {α : Type} (act : IO α) : IO (Option α) := do
  try
    return some (← act)
  catch _ =>
    return none

/-- What kind of thing there is at a path. -/
def kind? (path : String) : IO (Option IO.FS.FileType) :=
  attempt do return (← (← IO.FS.realPath path).metadata).type

/-- A regular file, as an entry of a file system. -/
def fileEntry (path : String) : IO (List (String × Entry)) := do
  match ← kind? path with
  | some .file =>
    match ← attempt (IO.FS.readBinFile path) with
    | some content => return [(path, .file content.toList)]
    | none => return [(path, .lockedFile)]
  | _ => return []

/-- A directory and the snippets in it, as entries of a file system. -/
def directoryEntries (path : String) : IO (List (String × Entry)) := do
  match ← kind? path with
  | some .dir =>
    let listing ← attempt do
      return (← (← IO.FS.realPath path).readDir).toList.map (·.fileName)
    match listing with
    | none => return [(path, .lockedDirectory)]
    | some names =>
      let files ← (names.filter Settings.isSnippetName).mapM fun name =>
        fileEntry (FileSystem.join path name)
      return (path, .directory names) :: files.flatten
  | _ => return []

/-- The part of the file system that a command looks at. -/
def snapshot : Command → IO FileSystem
  | .compose sources _ _ directories => do
    let files ← sources.mapM fileEntry
    let settings ← (settingsDirectories directories).mapM directoryEntries
    return .ofList (settings.flatten ++ files.flatten)
  | .peakHeap directories => do
    let settings ← (settingsDirectories directories).mapM directoryEntries
    return .ofList settings.flatten

end CommandLine
end ClusterRig

open ClusterRig in
def main (args : List String) : IO UInt32 := do
  let fs ← match CommandLine.parse? args with
    | some command => CommandLine.snapshot command
    | none => pure (.ofList [])
  let report := CommandLine.run fs (fun _ => Shell.launch fs) args
  IO.print report.output
  match report.complaint with
  | some text => IO.eprintln (CommandLine.mark ++ text)
  | none => if report.status ≠ 0 then IO.eprintln "error: wrong usage"
  return UInt32.ofNat report.status
