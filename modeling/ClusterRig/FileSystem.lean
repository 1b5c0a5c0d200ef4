import ClusterRig.Text.Utf8

/-!
# Files and directories

A file system answers for every path what is there, if anything. A directory
lists the names in it, in any order. What is there may still be closed to the reader.
`FileTree` is a file system held in memory, with paths relative to its root.
-/

namespace ClusterRig

inductive Entry
  | file (content : List UInt8)
  | directory (names : List String)
  /-- A regular file that cannot be read. -/
  | lockedFile
  /-- A directory that cannot be listed. -/
  | lockedDirectory
  /-- A directory whose list breaks off before its end. -/
  | brokenDirectory
  deriving DecidableEq

structure FileSystem where
  entry? : String → Option Entry

namespace FileSystem

/-- Whether there is a regular file, be it readable or not. -/
def isFile (fs : FileSystem) (path : String) : Bool :=
  match fs.entry? path with
  | some (.file _) | some .lockedFile => true
  | _ => false

/-- The content of a regular file. -/
def file? (fs : FileSystem) (path : String) : Option (List UInt8) :=
  match fs.entry? path with
  | some (.file content) => some content
  | _ => none

/-- The names in a directory. -/
def directory? (fs : FileSystem) (path : String) : Option (List String) :=
  match fs.entry? path with
  | some (.directory names) => some names
  | _ => none

/-- A content is that of a regular file. -/
theorem isFile_of_file? {fs : FileSystem} {path : String} {content : List UInt8}
    (h : fs.file? path = some content) : fs.isFile path = true := by
  unfold file? at h
  unfold isFile
  split at h
  next he => rw [he]
  · cases h

/-- The file system that has only the listed paths. -/
def ofList (entries : List (String × Entry)) : FileSystem := ⟨fun path => entries.lookup path⟩

/-- A name inside a directory; no second slash follows one at the end. -/
def join (directory name : String) : String :=
  if directory.isEmpty || directory.endsWith "/" then directory ++ name
  else directory ++ "/" ++ name

end FileSystem

inductive FileTree
  | file (content : List UInt8)
  | directory (entries : List (String × FileTree))

namespace FileTree

def empty : FileTree := .directory []

mutual

/-- Put a file or an empty directory at a path, making the directories before it.
Where a file is in the way nothing is added; a directory that exists is kept. -/
def add (leaf : FileTree) : List String → FileTree → FileTree
  | [], t =>
    match leaf, t with
    | .directory _, .directory entries => .directory entries
    | _, _ => leaf
  | _ :: _, .file content => .file content
  | name :: path, .directory entries => .directory (addEntry leaf name path entries)
termination_by path _ => (path.length, 0)

def addEntry (leaf : FileTree) (name : String) (path : List String) :
    List (String × FileTree) → List (String × FileTree)
  | [] => [(name, add leaf path empty)]
  | (n, t) :: rest =>
    if n = name then (n, add leaf path t) :: rest
    else (n, t) :: addEntry leaf name path rest
termination_by entries => (path.length, entries.length + 1)

end

/-- The components of a path; empty ones stand for nothing. -/
def components (path : String) : List String :=
  (path.splitOn "/").filter fun c => !c.isEmpty && c != "."

def child? (t : FileTree) (name : String) : Option FileTree :=
  match t with
  | .file _ => none
  | .directory entries => entries.lookup name

/-- Follow components from a directory, whose own parents are given innermost
first. A step up leaves the directory; the root is its own parent. -/
def walk : List FileTree → FileTree → List String → Option FileTree
  | _, t, [] => some t
  | parents, t, name :: path =>
    match t with
    | .file _ => none
    | .directory _ =>
      if name = ".." then
        match parents with
        | [] => walk [] t path
        | p :: rest => walk rest p path
      else
        match t.child? name with
        | some u => walk (t :: parents) u path
        | none => none

/-- What a path leads to. A path that ends in a slash or a dot can only be a
directory; absolute paths lead out of the tree. -/
def resolve? (root : FileTree) (path : String) : Option FileTree :=
  if path.isEmpty || path.startsWith "/" then none
  else
    match walk [] root (components path) with
    | some (.file content) =>
      if path.endsWith "/" || path.endsWith "/." then none else some (.file content)
    | found => found

def entry : FileTree → Entry
  | .file content => .file content
  | .directory entries => .directory (entries.map Prod.fst)

def fileSystem (root : FileTree) : FileSystem := ⟨fun path => (root.resolve? path).map entry⟩

/-- Where following components leads, one after the other, from the place whose own
components are given innermost first. -/
def places : List String → List String → List (List String)
  | _, [] => []
  | here, name :: path =>
    let here := if name = ".." then here.drop 1 else name :: here
    here.reverse :: places here path

/-- Make a directory and those that its path passes through. -/
def addDirectory (root : FileTree) (path : String) : FileTree :=
  (places [] (components path)).foldl (fun root place => add empty place root) root

/-- Write a file, making the directories that its path passes through. -/
def addFile (root : FileTree) (path : String) (content : List UInt8) : FileTree :=
  let places := places [] (components path)
  let root := places.dropLast.foldl (fun root place => add empty place root) root
  add (.file content) (places.getLastD []) root

end FileTree
end ClusterRig
