import ClusterRig.Shell.Sed.Run
import ClusterRig.Shell.Tool.Options

/-!
# The stream editor

The program that edits streams: its options, its scripts and the files whose lines it
reads.
-/

namespace ClusterRig
namespace Shell
namespace Tool
namespace Editor

open Sed

def flags : List Flag :=
  [⟨'n', ["quiet", "silent"], .nothing⟩, ⟨'e', ["expression"], .argument⟩,
    ⟨'f', ["file"], .argument⟩, ⟨'E', ["regexp-extended"], .nothing⟩, ⟨'r', [], .nothing⟩,
    ⟨'l', ["line-length"], .argument⟩, ⟨'s', ["separate"], .nothing⟩,
    ⟨'u', ["unbuffered"], .nothing⟩, ⟨'z', ["null-data", "zero-terminated"], .nothing⟩,
    ⟨'π', ["posix"], .nothing⟩, ⟨'δ', ["debug"], .nothing⟩, ⟨'b', ["binary"], .nothing⟩]

/-- The line that begins the description of the program. -/
def summary (name : Name) : List Char :=
  "Usage: ".toList ++ name
    ++ " [OPTION]... \x7bscript-only-if-no-other-script\x7d [input-file]...".toList

/-- The scripts among the options, with what they are counted as. Files must be there. -/
def scripts (files : Files) : Nat → List Given → Except (List Char) (List (Origin × List Char))
  | _, [] => .ok []
  | n, o :: rest =>
    match o.letter, o.argument with
    | 'e', some s => do return (.expression n, s) :: (← scripts files (n + 1) rest)
    | 'f', some file =>
      match (if file = "/dev/null".toList then some [] else files.content? file) with
      | some s => do
        let s := if s.getLast? = some '\n' then s.dropLast else s
        return (.file file, s) :: (← scripts files n rest)
      | none =>
        .error ("couldn't open file ".toList ++ file ++ ": No such file or directory".toList)
    | _, _ => scripts files n rest

/-- What is in the way of writing a file, if anything is. -/
def obstacle? (files : Files) (name : List Char) : Option String :=
  if ["/dev/stdout", "/dev/stderr", "/dev/null"].contains (String.ofList name) then none
  else if files.canWrite name then none
  else match files.look name with
    | .directory => some "Is a directory"
    | _ => some "No such file or directory"

/-- Inputs are taken in blocks of this size. -/
def block : Nat := 4096

/-- Whether what is wrong with a file ends the run. -/
def isFatal (why : String) : Bool := why = "Is a directory" || why = Process.closed

/-- The lines of all files, and those that cannot be read. -/
def lines (delimiter : Char) (p : Process) : List (List Char) →
    List Line × List (List Char × String) × Process
  | [] => ([], [], p)
  | file :: rest =>
    match p.open_ file with
    | (.ok s, p) =>
      let own := (Machine.textLines delimiter s).zipIdx.map fun (space, n) => ⟨space, file, n == 0⟩
      let (more, missing, p) := lines delimiter p rest
      (own ++ more, missing, p)
    | (.error why, p) =>
      if isFatal why then ([], [(file, why)], p)
      else
        let (more, missing, p) := lines delimiter p rest
        (more, (file, why) :: missing, p)

/-- The files that commands write, which begin empty. -/
def written (commands : List Sed.Command) : List (List Char) :=
  let names := commands.filterMap fun c => match c.action with
    | .write file => some file
    | .writeFirst file => some file
    | .substitute s => s.file
    | _ => none
  names.filter fun name => ! ["/dev/stdout", "/dev/stderr"].contains (String.ofList name)

/-- What is left of the input when only so many lines of it have been read. -/
def unread (input : List Char) (left : List Line) : List Char :=
  let size := (left.filter fun l => l.file = ['-']).foldl (fun n l =>
    n + l.space.text.length + (if l.space.ended then 1 else 0)) 0
  let needed := input.length - size
  input.drop ((needed + block - 1) / block * block)

/-- A machine that has the lines of its files before it. -/
def machine (settings : Settings) (files : Files) (ls : List Line) : Machine :=
  { settings, files
    space := ⟨[], true⟩, held := ⟨[], true⟩, number := 0, file := ['-'], rest := ls
    ranges := [], replaced := false, queue := [], lastUsed := none, output := []
    owed := false, owing := [], errors := [], readers := [], trouble := none }

/-- Report the files that cannot be read. -/
def reportMissing (name : Name) (missing : List (List Char × String)) (p : Process) : Process :=
  missing.foldl (fun q (file, why) =>
    if isFatal why then
      let file := if file = ['-'] then "stdin".toList else file
      report name ("read error on ".toList ++ file ++ ": ".toList ++ why.toList) q
    else report name ("can't read ".toList ++ file ++ ": ".toList ++ why.toList) q) p

/-- Print what a machine has printed, complaints first, and end as it has ended. -/
def conclude (name : Name) (u : Usage) (missing : List (List Char × String)) (m : Machine)
    (status : Nat) (p : Process) : Process :=
  let p := (p.put .errors m.errors.reverse.flatten).print m.output.reverse.flatten
  let expressions := max 1 (u.options.filter (·.letter == 'e')).length
  let p := if p.muted then
      report name ("couldn't close stdout: " ++ Process.closed).toList p
    else p
  match m.trouble with
  | some t =>
    (report name ("-e expression #".toList ++ Text.decimal expressions ++ ", char 0: ".toList
      ++ t.message) p).withStatus t.status
  | none => p.withStatus (if p.muted then 4 else if status ≠ 0 then status
      else if missing.any (isFatal ·.2) then 4
      else if missing.isEmpty then 0 else 2)

/-- Run commands on files. Complaints come before all output, which is held back. -/
def edit (name : Name) (u : Usage) (commands : List Sed.Command) (quiet : Bool)
    (names : List (List Char)) (p : Process) : Process :=
  let delimiter := if u.has 'z' then '\x00' else '\n'
  let files := (written commands).foldl (fun (files : Files) file => files.write file []) p.files
  let width := ((u.argument? 'l').bind fun s => (amount? s)).getD 70
  let (ls, missing, q) := lines delimiter { p with files } names
  let (m, status) :=
    (machine ⟨quiet || u.has 'n', u.has 's', delimiter, width⟩ files ls).cycles commands.toArray
      (Machine.steps + 2 * ls.length) false
  let left := if names.contains ['-'] then unread p.input m.rest else p.input
  conclude name u missing m status (reportMissing name missing { q with
    files := m.files
    input := left })

def program : Program := fun name args p =>
  match usage flags true args with
  | .error what => ((report name what p).complain (summary name)).withStatus 1
  | .ok u =>
    let given := u.options.any fun o => o.letter == 'e' || o.letter == 'f'
    let scripts? := match given, u.operands with
      | true, operands => some (scripts p.files 1 u.options, operands)
      | false, s :: operands => some (.ok [(.expression 1, s)], operands)
      | false, [] => none
    match scripts? with
    | none => (p.complain (summary name)).withStatus 1
    | some (.error what, _) => (report name what p).withStatus 4
    | some (.ok scripts, operands) =>
      match Reader.program (u.has 'E' || u.has 'r') (obstacle? p.files) scripts with
      | .error t => (report name t.message p).withStatus t.status
      | .ok (commands, quiet) =>
        edit name u commands quiet (if operands.isEmpty then [['-']] else operands) p

end Editor
end Tool
end Shell
end ClusterRig
