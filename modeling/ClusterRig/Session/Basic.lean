import ClusterRig.Endpoint.Basic
import ClusterRig.Text.Blank
import ClusterRig.Text.Line
import ClusterRig.Text.Utf8

/-!
# Sessions

A node can be asked through a session: a program that reads a script of three
lines, which opens the target, makes one request and closes. The program may have
to be started on another host, by a remote shell.
-/

namespace ClusterRig

/-- How sessions are started. -/
structure SessionSettings where
  command : List String
  remoteShell : List String
  deriving DecidableEq

/-- A node: its name, the host to start sessions on, and what they open. -/
structure Node where
  name : String
  host : String
  target : String
  deriving DecidableEq

/-- What a program leaves behind when it has ended. `unread` counts the bytes of
its input that it has not taken. -/
structure Ended where
  status : Nat
  output : List UInt8
  errors : List UInt8
  unread : Nat
  deriving DecidableEq

/-- What comes of starting a program with arguments and an input. There is no answer
when there is no such program. -/
abbrev Programs := String → List String → List UInt8 → Option Ended

/-- When a session is opened: for which node, and after which requests to it. No two
sessions of a run have the same occasion. -/
structure Occasion where
  node : Node
  earlier : List Request
  deriving DecidableEq

/-- What the programs do may be different on each occasion. -/
abbrev Launcher := Occasion → Programs

namespace Session

/-- The program with its arguments, behind the remote shell and the host if both
are given. -/
def commandLine (s : SessionSettings) (n : Node) : List String :=
  if s.remoteShell.isEmpty || n.host.isEmpty then s.command
  else s.remoteShell ++ n.host :: s.command

/-- The line that makes a request. -/
def requestLine : Request → String
  | .beans domain => s!"beans -d {domain}"
  | .get bean attr => s!"get -b {bean} {attr}"

def script (n : Node) (r : Request) : String := s!"open {n.target}\n{requestLine r}\nclose\n"

/-- What a program leaves unread is kept for it up to this number of bytes. -/
def kept : Nat := 65536

/-- The lines that a program has printed. -/
def printed (output : List UInt8) : List String :=
  (Text.lines (Text.Utf8.decodeLossy output)).map String.ofList

def complaint (errors : List UInt8) : String :=
  String.ofList (Text.trim (Text.Utf8.decodeLossy errors))

/-- The lines that a session answers a request with. -/
def answer (programs : Programs) (s : SessionSettings) (n : Node) (r : Request) :
    Except Failure (List String) :=
  match commandLine s n with
  | [] => .error .commandEmpty
  | program :: arguments =>
    match programs program arguments (Text.Utf8.encode (script n r)) with
    | none => .error (.programMissing program)
    | some ended =>
      if kept < ended.unread then .error .scriptUnread
      else if ended.status ≠ 0 then
        .error (.sessionFailed n.name ended.status (complaint ended.errors))
      else .ok (printed ended.output)

/-- The endpoint that opens a session for each request. -/
def endpoint (launch : Launcher) (s : SessionSettings) (n : Node) : Endpoint :=
  ⟨n.name, fun earlier => answer (launch ⟨n, earlier⟩) s n⟩

end Session
end ClusterRig
