import ClusterRig.Shell.Files

/-!
# Processes

A process takes from its input and prints on two streams, in an order that can be
seen where both lead to the same place.
-/

namespace ClusterRig
namespace Shell

inductive Stream
  | output
  | errors
  deriving DecidableEq, Repr

/-- A process as it is running. `printed` holds what has been printed so far, the
latest first. -/
structure Process where
  files : Files
  input : List Char
  printed : List (Stream × List Char)
  status : Nat
  /-- Why there is no input, if that is so. -/
  blocked : Option String
  /-- Whether the output is closed. -/
  muted : Bool

namespace Process

def start (files : Files) (input : List Char) : Process := ⟨files, input, [], 0, none, false⟩

/-- What is said of an input that is closed. -/
def closed : String := "Bad file descriptor"

def put (p : Process) (stream : Stream) (s : List Char) : Process :=
  if s.isEmpty then p else { p with printed := (stream, s) :: p.printed }

def print (p : Process) (s : List Char) : Process := p.put .output s

/-- End with a status, of which only the last eight bits count. -/
def withStatus (p : Process) (status : Nat) : Process := { p with status := status % 256 }

/-- All that has been printed on a stream. -/
def on (p : Process) (stream : Stream) : List Char :=
  (p.printed.reverse.filter (·.1 = stream)).flatMap Prod.snd

/-- Print a line on the error stream. -/
def complain (p : Process) (line : List Char) : Process := p.put .errors (line ++ ['\n'])

/-- Take all that is left of the input. -/
def taken (p : Process) : Process := { p with input := [] }

/-- The content of a file that a process opens, or what is wrong with it. A hyphen
stands for the input. -/
def open_ (p : Process) (name : List Char) : Except String (List Char) × Process :=
  match String.ofList name with
  | "-" | "/dev/stdin" | "/dev/fd/0" | "/proc/self/fd/0" =>
    match p.blocked with
    | some why => (.error why, p)
    | none => (.ok p.input, p.taken)
  | "/dev/null" => (.ok [], p)
  | _ =>
    match p.files.look name with
    | .content s => (.ok s, p)
    | .directory => (.error "Is a directory", p)
    | .nothing =>
      (.error (if name.getLast? = some '/' && (p.files.content? name.dropLast).isSome
        then "Not a directory" else "No such file or directory"), p)

end Process
end Shell
end ClusterRig
