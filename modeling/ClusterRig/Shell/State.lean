import ClusterRig.Shell.Fields
import ClusterRig.Shell.Integer
import ClusterRig.Shell.Process
import ClusterRig.Shell.Syntax

/-!
# The state of a shell

A shell is a process with variables, functions and options. Descriptors lead to
channels, and those that lead to the same place share it: what one takes is gone for
the others.
-/

namespace ClusterRig
namespace Shell

/-- Where a descriptor leads. -/
inductive Channel
  | input
  | stream (s : Stream)
  /-- A text that commands of the script pass on, by its number. -/
  | text (number : Nat)
  | file (name : List Char)
  | nowhere
  /-- A place that cannot be read. -/
  | directory
  deriving DecidableEq

/-- How a script goes on after a command: with the next one, or after as many of
the loops around it as are left, or behind the function, or not at all. -/
inductive Flow
  | onward
  | leaving (loops : Nat)
  | repeating (loops : Nat)
  | returning
  | ended
  deriving DecidableEq

structure Variable where
  value : Option (List Char)
  exported : Bool
  fixed : Bool

structure State extends Process where
  name : List Char
  arguments : List (List Char)
  bindings : List (List Char × Variable)
  functions : List (List Char × Command)
  /-- The letters of the options that are set. -/
  options : List Char
  line : Nat
  /-- The command of the shell that is running, for its messages. -/
  command : List Char
  descriptors : List (Nat × Channel)
  texts : List (Nat × List Char)
  documents : List (Nat × Word)
  flow : Flow
  /-- The number of loops around the command. -/
  loops : Nat
  /-- The variables that are set aside by each function that is running. The letters of
  the options are kept under a hyphen. -/
  aside : List (List (List Char × Option Variable))
  /-- What is done at the end, and for each signal. -/
  traps : List (List Char × List Char)
  /-- The status of the last command whose output was put into the current one. -/
  answered : Option Nat
  /-- The status of the last command that ran in the background. -/
  background : Nat
  /-- How far `getopts` has come in an argument with several letters. -/
  letterPlace : Nat
  /-- Whether something has been printed where nothing leads. -/
  isLost : Bool

/-- The variables that programs are given. -/
abbrev Environment := List (List Char × List Char)

namespace State

/-- Where the descriptors of a process lead at its start. -/
def startingChannels (p : Process) : List (Nat × Channel) :=
  (if p.blocked = some Process.closed then [] else [(0, .input)])
    ++ (if p.muted then [] else [(1, .stream .output)]) ++ [(2, .stream .errors)]

/-- The variables of a shell at its start. -/
def startingVariables (e : Environment) : List (List Char × Variable) :=
  e.map (fun (name, value) => (name, ⟨some value, true, false⟩))
    ++ [("IFS", " \t\n"), ("OPTIND", "1"), ("PS1", "$ "), ("PS2", "> "), ("PS4", "+ ")].map
      fun (name, value) => (name.toList, ⟨some value.toList, false, false⟩)

def init (p : Process) (e : Environment) (name : List Char) (arguments : List (List Char))
    (options : List Char) : State :=
  { p with
    name, arguments, options
    bindings := startingVariables e
    functions := []
    line := 1
    command := []
    descriptors := startingChannels p
    texts := []
    documents := []
    flow := .onward
    loops := 0
    aside := []
    traps := []
    answered := none
    background := 0
    letterPlace := 0
    isLost := false }

def isOnward (st : State) : Bool := st.flow = .onward

def finish (st : State) (status : Nat) : State := { st with status := status % 256 }

def exit (st : State) (status : Nat) : State := { st.finish status with flow := .ended }

def hasOption (st : State) (letter : Char) : Bool := st.options.contains letter

/-! ## Channels -/

def channel? (st : State) (fd : Nat) : Option Channel := st.descriptors.lookup fd

def setChannel (st : State) (fd : Nat) (c : Channel) : State :=
  { st with descriptors := (fd, c) :: st.descriptors.filter (·.1 != fd) }

def closeChannel (st : State) (fd : Nat) : State :=
  { st with descriptors := st.descriptors.filter (·.1 != fd) }

/-- Let the descriptors of some redirections lead where they led before. -/
def restore (st before : State) (rs : List Redirection) : State :=
  rs.foldl (fun st r =>
    match before.channel? r.descriptor with
    | some c => st.setChannel r.descriptor c
    | none => st.closeChannel r.descriptor) st

def text (st : State) (number : Nat) : List Char := (st.texts.lookup number).getD []

def setText (st : State) (number : Nat) (s : List Char) : State :=
  { st with texts := (number, s) :: st.texts.filter (·.1 != number) }

/-- A number that no text has. -/
def freshText (st : State) : Nat := st.texts.foldl (fun n t => max n (t.1 + 1)) 0

/-- A channel that leads to a new text. -/
def addText (st : State) (s : List Char) : Channel × State :=
  let n := st.freshText
  (.text n, st.setText n s)

/-- What can be read from a descriptor. -/
def readable (st : State) (fd : Nat) : List Char :=
  match st.channel? fd with
  | some .input => st.input
  | some (.text n) => st.text n
  | _ => []

/-- Leave only `rest` to be read from a descriptor. -/
def leave (st : State) (fd : Nat) (rest : List Char) : State :=
  match st.channel? fd with
  | some .input => { st with input := rest }
  | some (.text n) => st.setText n rest
  | _ => st

/-- Print to a descriptor. -/
def write (st : State) (fd : Nat) (s : List Char) : State :=
  match st.channel? fd with
  | some (.stream stream) => { st with toProcess := st.toProcess.put stream s }
  | some (.text n) => st.setText n (st.text n ++ s)
  | some (.file name) => { st with files := st.files.append name s }
  | some _ => st
  | none => { st with isLost := st.isLost || (fd = 1 && !s.isEmpty) }

/-! ## Messages -/

/-- Report a problem with a line of the script. -/
def complain (st : State) (what : List Char) : State :=
  let command := if st.command.isEmpty then [] else st.command ++ [':', ' ']
  st.write 2
    (st.name ++ ": ".toList ++ Text.decimal st.line ++ ": ".toList ++ command ++ what ++ ['\n'])

/-- Commands of the shell whose failure ends it. -/
def isSpecial (command : List Char) : Bool :=
  [".", ":", "break", "continue", "eval", "exec", "exit", "export", "local", "readonly", "return",
    "set", "shift", "times", "trap", "unset"].contains (String.ofList command)

/-- A problem that ends the shell, unless an ordinary command of it is running. -/
def fail (st : State) (what : List Char) : State :=
  let st := (st.complain what).finish 2
  if st.command.isEmpty || isSpecial st.command then { st with flow := .ended } else st

/-! ## Variables -/

def entry? (st : State) (name : List Char) : Option Variable := st.bindings.lookup name

def valueOf? (st : State) (name : List Char) : Option (List Char) := (st.entry? name).bind (·.value)

def setVariable (st : State) (name : List Char) (v : Variable) : State :=
  { st with bindings := (name, v) :: st.bindings.filter (·.1 != name) }

def dropVariable (st : State) (name : List Char) : State :=
  { st with bindings := st.bindings.filter (·.1 != name) }

def isFixed (st : State) (name : List Char) : Bool := (st.entry? name).any (·.fixed)

/-- Set a variable, which must not be fixed. -/
def assign (st : State) (name value : List Char) : State :=
  match st.entry? name with
  | some v =>
    if v.fixed then st.fail (name ++ ": is read only".toList)
    else st.setVariable name ⟨some value, v.exported || st.hasOption 'a', false⟩
  | none => st.setVariable name ⟨some value, st.hasOption 'a', false⟩

/-- The characters that divide fields. -/
def separators (st : State) : List Char :=
  (st.valueOf? "IFS".toList).getD [' ', '\t', '\n']

/-- What stands between the arguments where they are joined. -/
def joint (st : State) : List Char :=
  match st.valueOf? "IFS".toList with
  | some s => s.take 1
  | none => [' ']

def joinedArguments (st : State) : List Char := st.joint.intercalate st.arguments

/-- What programs are given. -/
def environment (st : State) : Environment :=
  st.bindings.filterMap fun (name, v) =>
    if v.exported then v.value.map (name, ·) else none

/-- The value of a parameter other than the list of all arguments. -/
def parameter? (st : State) (name : List Char) : Option (List Char) :=
  match name with
  | ['#'] => some (Text.decimal st.arguments.length)
  | ['?'] => some (Text.decimal st.status)
  | ['-'] => some st.options
  | ['$'] => some ['1']
  | c :: _ =>
    if Text.isDigit c then
      match Text.ofDigits name with
      | 0 => some st.name
      | n + 1 => st.arguments[n]?
    else st.valueOf? name
  | [] => none

def function? (st : State) (name : List Char) : Option Command := st.functions.lookup name

/-- Take back what was set aside by the function that ends. -/
def restoreAside (st : State) : State :=
  match st.aside with
  | [] => st
  | saved :: rest =>
    saved.foldl (fun st (name, v) => match name, v with
      | ['-'], some v => { st with options := v.value.getD [] }
      | name, some v => st.setVariable name v
      | name, none => st.dropVariable name) { st with aside := rest }

end State
end Shell
end ClusterRig
