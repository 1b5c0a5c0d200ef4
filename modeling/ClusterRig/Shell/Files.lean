import ClusterRig.FileSystem
import ClusterRig.Text.Octets

/-!
# Files as programs see them

Programs name files and fill them with octets. What they have written stands before
what was there.
-/

namespace ClusterRig
namespace Shell

structure Files where
  base : FileSystem
  written : List (List Char × List Char)
  /-- The directory where names begin, if it is another one than at the start. -/
  here : List Char

/-- What is found under a name. -/
inductive Found
  | content (s : List Char)
  | directory
  | nothing

namespace Files

/-- The directories that every system has. -/
def everywhere : List String :=
  ["/", "/bin", "/dev", "/etc", "/home", "/opt", "/root", "/sbin", "/tmp", "/usr", "/usr/bin",
    "/var", "/var/tmp", "."]

/-- A name without the dots it may begin with. -/
def plainName : List Char → List Char
  | '.' :: '/' :: rest => plainName rest
  | name => name

/-- A name as it reads from where the program was started. -/
def resolve (files : Files) (name : List Char) : List Char :=
  let name := plainName name
  if name.head? = some '/' || files.here.isEmpty then name
  else if name = ['.'] then files.here
  else if files.here.getLast? = some '/' then files.here ++ name
  else files.here ++ '/' :: name

/-- The path of a name, if it is one. -/
def path? (name : List Char) : Option String :=
  (Text.Utf8.decode? (Text.toOctets name)).map String.ofList

def look (files : Files) (name : List Char) : Found :=
  let name := files.resolve name
  match files.written.lookup name with
  | some s => .content s
  | none =>
    match path? name with
    | none => .nothing
    | some path =>
      if everywhere.contains path then .directory
      else
        match files.base.entry? path with
        | some (.file content) => .content (Text.ofOctets content)
        | some (.directory _) | some .lockedDirectory | some .brokenDirectory => .directory
        | some .lockedFile | none => .nothing

def content? (files : Files) (name : List Char) : Option (List Char) :=
  match files.look name with
  | .content s => some s
  | _ => none

/-- The names in a directory; the empty name stands for where names begin. -/
def namesIn (files : Files) (place : List Char) : List (List Char) :=
  let place := if place.isEmpty then files.here else files.resolve place
  let path := (String.ofList <$> Text.Utf8.decode? (Text.toOctets place)).getD ""
  let known := (files.base.directory? (if path.isEmpty then "." else path)).getD []
  let start := if place.isEmpty || place.getLast? = some '/' then place else place ++ ['/']
  let added := files.written.filterMap fun (name, _) =>
    let rest := name.drop start.length
    if start.isPrefixOf name && !rest.contains '/' then some rest else none
  (known.map Text.octets ++ added).eraseDups

/-- The directory that a name is in; the empty one is where programs run. -/
def directoryOf (name : List Char) : List Char :=
  match (name.reverse.dropWhile (· != '/')).reverse with
  | [] => []
  | ['/'] => ['/']
  | s => s.dropLast

/-- Whether a file can be written: its directory exists, and it is none itself. -/
def canWrite (files : Files) (name : List Char) : Bool :=
  let place := directoryOf name
  let hasPlace := place.isEmpty || match files.look place with
    | .directory => true
    | _ => false
  hasPlace && match files.look name with
    | .directory => false
    | _ => !name.isEmpty

def write (files : Files) (name s : List Char) : Files :=
  let name := files.resolve name
  { files with written := (name, s) :: files.written.filter (·.1 != name) }

def append (files : Files) (name s : List Char) : Files :=
  files.write name ((files.content? name).getD [] ++ s)

/-- Begin names in another directory. -/
def enter (files : Files) (place : List Char) : Files := { files with here := files.resolve place }

end Files
end Shell
end ClusterRig
