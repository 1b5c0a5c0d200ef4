import ClusterRig.Session.Basic
import ClusterRig.Shell.Arithmetic
import ClusterRig.Shell.Builtins
import ClusterRig.Shell.Tool.Cat
import ClusterRig.Shell.Tool.Characters
import ClusterRig.Shell.Tool.Counts
import ClusterRig.Shell.Tool.Ends
import ClusterRig.Shell.Tool.Sed
import ClusterRig.Shell.Tool.Small

/-!
# Running scripts

A shell reads a script one command line at a time and runs what it has read. Words
are expanded, redirections lead descriptors elsewhere for as long as a command runs,
and programs are started in processes of their own. `launch` starts the programs
there are: the shell and the tools. They stand in for those on the hosts of a cluster,
as `cat` does where it gives a session its script back.
-/

namespace ClusterRig
namespace Shell

open Builtin (Args)

/-! ## Expanded words -/

def valuePiece (quoted : Bool) (s : List Char) : Piece := if quoted then .fixed true s else .loose s

/-- The pieces of all arguments. -/
def argumentPieces (quoted : Bool) : Args → List Piece
  | [] => []
  | [a] => [valuePiece quoted a]
  | a :: rest => valuePiece quoted a :: .next :: argumentPieces quoted rest

/-- The pieces of the list of all arguments, with a change to these. Unless it is divided
into fields it is one text. -/
def listPieces (st : State) (divided quoted : Bool) (name : List Char) (change : Args → Args) :
    List Piece :=
  if divided && (name = ['@'] || !quoted) then argumentPieces quoted (change st.arguments)
  else (change [st.joinedArguments]).map (valuePiece quoted)

def isList (name : List Char) : Bool := name = ['@'] || name = ['*']

/-- The value of a parameter. -/
def State.value? (st : State) (name : List Char) : Option (List Char) :=
  if isList name then some st.joinedArguments else st.parameter? name

def State.failUnset (st : State) (name : List Char) : State :=
  st.fail (name ++ ": parameter not set".toList)

/-- What is said where a parameter must be set. -/
def unsetText (colon : Bool) (given : List Char) : List Char :=
  if !given.isEmpty then given
  else ("parameter not set" ++ if colon then " or null" else "").toList

/-- The value of an expression with the variables of a shell. -/
def State.evaluate (st : State) (text : List Char) : List Char × State :=
  let wrong (why : List Char) : List Char × State := ([], st.fail why)
  let (e, mistake) := Arithmetic.parse text
  let malformed :=
    wrong ("arithmetic expression: ".toList ++ (mistake.getD "").toList ++ ": \"".toList ++ text
      ++ ['"'])
  let look (st : State) (name : List Char) := (st.valueOf? name).getD []
  let change (st : State) (name : List Char) (n : Int) := st.assign name (Integer.decimal n)
  match e.eval look change st with
  | .ok (n, st) => if mistake.isSome then malformed else (Integer.decimal n, st)
  | .error .broken => malformed
  | .error .byZero =>
    wrong ("arithmetic expression: division by zero: \"".toList ++ text ++ ['"'])
  | .error (.noNumber value) => wrong ("Illegal number: ".toList ++ value)

/-- The names in a directory that match a pattern, in order. Hidden ones are only found
by a pattern that begins with a dot. -/
def namesIn (files : Files) (place : List Char) (pattern : List Mark) : List (List Char) :=
  let hidden := pattern.head?.any (·.char == '.')
  let found := (files.namesIn place).filter fun name =>
    (hidden || name.head? ≠ some '.') && Glob.accepts (Glob.ofMarks pattern) name
  found.mergeSort fun a b => !decide (b < a)

/-- The paths that a pattern stands for, given its components. -/
def paths (files : Files) : List Char → List (List Mark) → List (List Char)
  | _, [] => []
  | place, [last] =>
    if Glob.isActive last then (namesIn files place last).map (place ++ ·)
    else
      let path := place ++ last.map Mark.char
      match files.look path with
      | .nothing => []
      | _ => [path]
  | place, first :: rest =>
    let names := if Glob.isActive first then namesIn files place first else [first.map Mark.char]
    names.flatMap fun name => paths files (place ++ name ++ ['/']) rest

/-- The fields that a field with patterns stands for: paths, if there are any. -/
def State.globbed (st : State) (field : List Mark) : List (List Char) :=
  let text := field.map Mark.char
  if st.hasOption 'f' || !Glob.isActive field then [text]
  else
    match paths st.files [] (field.splitOnP fun m => m.char == '/') with
    | [] => [text]
    | found => found

/-! ## Redirection -/

/-- Where a name for output or input leads that does not stand for a file. -/
def State.device? (st : State) (name : List Char) : Option Channel :=
  match String.ofList name with
  | "/dev/null" => some .nowhere
  | "/dev/stdin" | "/dev/fd/0" => st.channel? 0
  | "/dev/stdout" | "/dev/fd/1" => st.channel? 1
  | "/dev/stderr" | "/dev/fd/2" => st.channel? 2
  | _ => none

/-- Let a descriptor read from a file. -/
def State.openForReading (st : State) (fd : Nat) (name : List Char) : Except (List Char) State :=
  match st.device? name with
  | some c => .ok (st.setChannel fd c)
  | none =>
    match st.files.look name with
    | .content s =>
      let (c, st) := st.addText s
      .ok (st.setChannel fd c)
    | .directory => .ok (st.setChannel fd .directory)
    | .nothing => .error ("cannot open ".toList ++ name ++ ": No such file".toList)

/-- Let a descriptor write to a file. -/
def State.openForWriting (st : State) (fd : Nat) (how : Writing) (name : List Char) :
    Except (List Char) State :=
  let refuse (why : String) : Except (List Char) State :=
    .error ("cannot create ".toList ++ name ++ ": ".toList ++ why.toList)
  match st.device? name with
  | some c => .ok (st.setChannel fd c)
  | none =>
    match st.files.look name with
    | .directory => refuse "Is a directory"
    | found =>
      let exists_ := match found with
        | .content _ => true
        | _ => false
      if !st.files.canWrite name then refuse "Directory nonexistent"
      else if exists_ && how = .anew && st.hasOption 'C' then refuse "File exists"
      else
        let st := if how = .atEnd then st else { st with files := st.files.write name [] }
        .ok (st.setChannel fd (.file name))

/-- Let a descriptor lead where another one does, or nowhere at all. -/
def State.copyChannel (st : State) (fd : Nat) (source : List Char) : Except (List Char) State :=
  if source = ['-'] then .ok (st.closeChannel fd)
  else
    match Text.natural? source with
    | none => .error "Syntax error: Bad fd number".toList
    | some n =>
      match st.channel? n with
      | some c => .ok (st.setChannel fd c)
      | none => .error (source ++ ": Bad file descriptor".toList)

/-- Whether a redirection lets errors go to another descriptor. If there is none, nothing
can be said of that. -/
def isErrorCopy : Redirection → Bool
  | .copy fd _ => fd = 2
  | _ => false

/-- Whether a redirection is a document, with which nothing can be wrong that ends the
shell. -/
def isHere : Redirection → Bool
  | .here _ _ => true
  | _ => false

/-! ## Programs -/

/-- What a program says whose output is closed. -/
def lostOutput (name : List Char) : List Char :=
  name ++ (": write error: " ++ Process.closed ++ "\n").toList

/-- Run a program that reads from the input of the shell and prints to its outputs. -/
def State.runProcess (st : State) (name : List Char) (run : Process → Process) : State :=
  let blocked := match st.channel? 0 with
    | none => some Process.closed
    | some .directory => some "Is a directory"
    | _ => none
  let muted := (st.channel? 1).isNone
  let p := run { Process.start st.files (st.readable 0) with blocked, muted }
  let p := if muted && p.status ≠ 4 && !(p.on .output).isEmpty then
      (p.put .errors (lostOutput name)).withStatus 1
    else p
  let st := { st with files := p.files }
  let st := p.printed.reverse.foldl (fun st (stream, s) =>
    st.write (if stream = .output then 1 else 2) s) st
  { (st.leave 0 p.input).finish p.status with isLost := false }

/-- The name of a program without the directory where programs are. -/
def baseName (name : List Char) : List Char :=
  match ["/bin/", "/usr/bin/"].find? fun place => place.toList.isPrefixOf name with
  | some place =>
    let base := name.drop place.length
    if base.contains '/' then name else base
  | none => name

/-- The tool with a name. -/
def tool? (name : List Char) : Option Tool.Program :=
  match String.ofList name with
  | "cat" => some Tool.Cat.program
  | "tr" => some Tool.Characters.program
  | "sed" => some Tool.Editor.program
  | "wc" => some Tool.Counts.program
  | "head" => some Tool.Ends.head
  | "tail" => some Tool.Ends.tail
  | "printf" => some Tool.Small.printf
  | "echo" => some Tool.Small.echo
  | "true" => some fun _ _ p => p
  | "false" => some fun _ _ p => p.withStatus 1
  | "sleep" => some Tool.Small.sleep
  | "test" => some Tool.Small.test
  | "[" => some Tool.Small.bracket
  | _ => none

/-- How the shell is called: the letters of its options, and its operands. -/
def shellOptions : Args → State → Except (List Char) (List Char × State × Args)
  | ['-', '-'] :: rest, st => .ok ([], st, rest)
  | ('-' :: c :: s) :: rest, st => do
    let (letters, st, rest) ← shellOptions rest st
    match Builtin.turnAll true ((c :: s).filter fun d => ! ['c', 's', 'l'].contains d) st with
    | .ok st => return (c :: s ++ letters, st, rest)
    | .error what => throw ("Illegal option ".toList ++ what)
  | args, st => .ok ([], st, args)

/-- Settings of variables for a program, before its name. -/
def settings : Args → Environment × Args
  | a :: rest =>
    match Builtin.assignment a with
    | (name, some value) =>
      let (more, rest) := settings rest
      ((name, value) :: more, rest)
    | _ => ([], a :: rest)
  | [] => ([], [])

/-! ## The end of loops and functions -/

/-- The state after one run of the body of a loop, and whether the loop goes on. -/
def State.afterBody (st : State) : State × Bool :=
  match st.flow with
  | .onward => (st, true)
  | .ended => (st, false)
  | .returning => (st, false)
  | .leaving n => ({ st with flow := if n ≤ 1 then .onward else .leaving (n - 1) }, false)
  | .repeating n =>
    if n ≤ 1 then ({ st with flow := .onward }, true)
    else ({ st with flow := .repeating (n - 1) }, false)

/-- End the shell if its commands must succeed and this one, which is not only tested,
has not. -/
def State.checked (st : State) (tested : Bool) : State :=
  if !tested && st.hasOption 'e' && st.status ≠ 0 && st.isOnward then { st with flow := .ended }
  else st

/-- What a shell keeps of another one that ran in its place: what it has taken and
printed, and its status. -/
def State.after (st inner : State) : State :=
  { st with
    files := inner.files
    input := inner.input
    printed := inner.printed
    texts := inner.texts
    status := inner.status }

/-- Report output of a command that was lost. -/
def State.settled (st : State) : State :=
  if st.isLost then
    (({ st with isLost := false }).complain (st.command ++ ": I/O error".toList)).finish
      (if st.status % 2 = 1 then st.status else st.status + 1)
  else st

/-- Commands that take assignments as arguments. -/
def isDeclaration (w : Word) : Bool :=
  match w.plain? with
  | some name => ["export", "readonly", "local"].contains (String.ofList name)
  | none => false

/-- What is shown of a command before it runs, where that is asked for. -/
def traced (assigned : List (List Char × List Char)) (fields : Args) : List Char :=
  [' '].intercalate (assigned.map (fun (name, value) => name ++ '=' :: value) ++ fields)

def State.trace (st : State) (line : List Char) : State :=
  if st.hasOption 'x' then st.write 2 ((st.valueOf? "PS4".toList).getD [] ++ line ++ ['\n']) else st

mutual

/-- The pieces of a part of a word. With `divided` they are for fields; with `loosely`
unquoted text is divided as well. -/
def expandPart : Nat → Bool → Bool → State → Part → State × List Piece
  | 0, _, _, st, _ => (st, [])
  | _, _, loosely, st, .text quoted s =>
    (st, [if loosely && !quoted then .loose s else .fixed quoted s])
  | _, _, _, st, .malformed => (st.fail "Bad substitution".toList, [])
  | fuel + 1, _, _, st, .arithmetic quoted e =>
    let (st, ps) := expandWord fuel false false st e
    if !st.isOnward then (st, [])
    else
      let (s, st) := st.evaluate (Piece.textOf ps)
      (st, [valuePiece quoted s])
  | fuel + 1, _, _, st, .output quoted script =>
    let (s, st) := outputOf fuel script st
    (st, [valuePiece quoted s])
  | fuel + 1, divided, _, st, .parameter quoted name use operand =>
    let value := st.value? name
    let whole : List Piece :=
      if isList name then listPieces st divided quoted name id
      else [valuePiece quoted (value.getD [])]
    let isUnset := value.isNone && st.hasOption 'u' && !isList name
    let isGiven (colon : Bool) : Bool := value.any fun s => !(colon && s.isEmpty)
    match use with
    | .plain => if isUnset then (st.failUnset name, []) else (st, whole)
    | .length =>
      if isUnset then (st.failUnset name, [])
      else (st, [valuePiece quoted (Text.decimal (value.getD []).length)])
    | .orElse colon =>
      if isGiven colon then (st, whole) else expandWord fuel divided (!quoted) st operand
    | .ifSet colon =>
      if isGiven colon then expandWord fuel divided (!quoted) st operand else (st, [])
    | .orAssign colon =>
      if isGiven colon then (st, whole)
      else
        let (st, ps) := expandWord fuel false false st operand
        let s := Piece.textOf ps
        if !st.isOnward then (st, [])
        else if Builtin.isName name then (st.assign name s, [valuePiece quoted s])
        else (Builtin.badName st name, [])
    | .orFail colon =>
      if isGiven colon then (st, whole)
      else
        let (st, ps) := expandWord fuel false false st operand
        (st.fail (name ++ ": ".toList ++ unsetText colon (Piece.textOf ps)), [])
    | .cut atEnd longest =>
      if isUnset then (st.failUnset name, [])
      else
        let (st, ps) := expandWord fuel false false st operand
        let cut := Glob.cutAll (Piece.globOf ps) atEnd longest
        (st, if isList name then listPieces st divided quoted name cut
          else (cut [value.getD []]).map (valuePiece quoted))

def expandWord : Nat → Bool → Bool → State → Word → State × List Piece
  | 0, _, _, st, _ => (st, [])
  | _, _, _, st, [] => (st, [])
  | fuel + 1, divided, loosely, st, p :: rest =>
    let (st, a) := expandPart fuel divided loosely st p
    if !st.isOnward then (st, a)
    else
      let (st, b) := expandWord fuel divided loosely st rest
      (st, a ++ b)

/-- The text of a word that is not divided into fields. -/
def expandText : Nat → State → Word → State × List Char
  | 0, st, _ => (st, [])
  | fuel + 1, st, w =>
    let (st, ps) := expandWord fuel false false st w
    (st, Piece.textOf ps)

/-- The fields of some words. With `declared` assignments among them are not divided. -/
def expandWords : Nat → Bool → State → List Word → State × Args
  | 0, _, st, _ => (st, [])
  | _, _, st, [] => (st, [])
  | fuel + 1, declared, st, w :: rest =>
    let (st, fields) :=
      if declared && (Reader.assignment? w).isSome then
        let (st, s) := expandText fuel st w
        (st, [s])
      else
        let (st, ps) := expandWord fuel true false st w
        (st, (Fields.ofPieces st.separators ps).flatMap st.globbed)
    if !st.isOnward then (st, fields)
    else
      let (st, more) := expandWords fuel declared st rest
      (st, fields ++ more)

/-- The texts of some assignments, each of which knows those before it if `visible`. -/
def expandAssignments : Nat → Bool → State → List (List Char × Word) →
    State × List (List Char × List Char)
  | 0, _, st, _ => (st, [])
  | _, _, st, [] => (st, [])
  | fuel + 1, visible, st, (name, w) :: rest =>
    let (st, s) := expandText fuel st w
    let st := if visible && st.isOnward then st.assign name s else st
    if !st.isOnward then (st, [(name, s)])
    else
      let (st, more) := expandAssignments fuel visible st rest
      (st, (name, s) :: more)

/-- What a command prints, without the line breaks at its end. -/
def outputOf : Nat → Command → State → List Char × State
  | 0, _, st => ([], st)
  | fuel + 1, script, st =>
    let (c, inner) := st.addText []
    let inner := subshell fuel false script (inner.setChannel 1 c)
    let s := match c with
      | .text n => inner.text n
      | _ => []
    let after := st.after inner
    ((s.reverse.dropWhile (· == '\n')).reverse.filter (· != '\x00'),
      { after with status := st.status, answered := some inner.status })

/-- Run a command in a shell of its own, which starts as a copy. -/
def subshell : Nat → Bool → Command → State → State
  | 0, _, _, st => st
  | fuel + 1, tested, c, st =>
    st.after (conclude fuel (eval fuel tested c { st with traps := [] }))

/-- Do what is to be done at the end of a shell. -/
def conclude : Nat → State → State
  | 0, st => st
  | fuel + 1, st =>
    match st.traps.lookup "EXIT".toList with
    | none => st
    | some action =>
      let last := runText fuel action { st with traps := [], flow := .onward, command := [] }
      if last.flow = .ended then last else { last with status := st.status, flow := .ended }

/-- Apply redirections from left to right; what goes wrong is reported, and whether
something has. -/
def redirect : Nat → List Redirection → State → State × Bool
  | 0, _, st => (st, true)
  | _, [], st => (st, true)
  | fuel + 1, r :: rest, st =>
    let (st, opened) : State × Except (List Char) State := match r with
      | .read fd w =>
        let (st, name) := expandText fuel st w
        (st, st.openForReading fd name)
      | .write fd how w =>
        let (st, name) := expandText fuel st w
        (st, st.openForWriting fd how name)
      | .copy fd w =>
        let (st, source) := expandText fuel st w
        (st, st.copyChannel fd source)
      | .here fd number =>
        let (st, s) := expandText fuel st ((st.documents.lookup number).getD [])
        let (c, st) := st.addText s
        (st, .ok (st.setChannel fd c))
    if !st.isOnward then (if isHere r then { st with flow := .onward } else st, false)
    else
      match opened with
      | .ok st => redirect fuel rest st
      | .error what =>
        if what.take 6 = "Syntax".toList then (st.fail what, false)
        else ((if isErrorCopy r then st else st.complain what).finish 2, false)

/-- Run a program in a process of its own; there may be none with its name. -/
def program : Nat → Environment → List Char → Args → Option (Process → Process)
  | 0, _, _, _ => none
  | fuel + 1, e, name, args =>
    match String.ofList (baseName name) with
    | "sh" | "dash" => some (shell fuel e name args)
    | "env" => some (withSettings fuel e name args)
    | _ => (tool? (baseName name)).map fun tool => tool name args

/-- Run a program with some variables set. -/
def withSettings : Nat → Environment → List Char → Args → Process → Process
  | 0, _, _, _, p => p
  | fuel + 1, e, name, args, p =>
    let flags : List Tool.Flag :=
      [⟨'i', ["ignore-environment"], .nothing⟩, ⟨'u', ["unset"], .argument⟩]
    match Tool.usage flags false args with
    | .error what => Tool.misuse name what p 125
    | .ok u =>
      let dropped := u.options.filterMap fun o => if o.letter = 'u' then o.argument else none
      let kept := if u.has 'i' then [] else e.filter fun v => !dropped.contains v.1
      let (set, command) := settings u.operands
      let e := set.reverse ++ kept.filter fun v => (set.lookup v.1).isNone
      match command with
      | [] => p.print (e.reverse.flatMap fun (name, value) => name ++ '=' :: value ++ ['\n'])
      | c :: args =>
        match program fuel e c args with
        | some run => run p
        | none =>
          (Tool.report name (Quoting.text c ++ ": No such file or directory".toList) p).withStatus
            127

/-- Run the shell with arguments: a script, or the name of a file that holds one, and
what the script is given. Without arguments the input is the script. -/
def shell : Nat → Environment → List Char → Args → Process → Process
  | 0, _, _, _, p => p
  | fuel + 1, e, name, args, p =>
    let refuse (why : List Char) : Process :=
      (p.complain (name ++ ": 0: ".toList ++ why)).withStatus 2
    match shellOptions args (State.init p e name [] []) with
    | .error why => refuse why
    | .ok (letters, st, operands) =>
      if letters.contains 'c' then
        match operands with
        | [] => refuse "-c requires an argument".toList
        | [text] => script fuel text st
        | text :: name :: rest => script fuel text { st with name, arguments := rest }
      else if letters.contains 's' || operands.isEmpty then
        script fuel (p.input.take Tool.block)
          { Builtin.turn true 's' st with
            arguments := operands
            input := p.input.drop Tool.block }
      else
        match operands with
        | file :: rest =>
          match p.files.content? file with
          | some text => script fuel text { st with name := file, arguments := rest }
          | none => refuse ("cannot open ".toList ++ file ++ ": No such file".toList)
        | [] => p

/-- Run a script to its end. -/
def script : Nat → List Char → State → Process
  | 0, _, st => st.toProcess
  | fuel + 1, text, st => (conclude fuel (runText fuel text st)).toProcess

/-- Run the commands of a text. -/
def runText : Nat → List Char → State → State
  | 0, _, st => st
  | fuel + 1, text, st =>
    let fresh := st.documents.foldl (fun n d => max n (d.1 + 1)) 0
    runLines fuel { Source.ofScript text with fresh } (st.finish 0)

/-- Run the commands that are left of a text, one line after the other. -/
def runLines : Nat → Source → State → State
  | 0, _, st => st
  | fuel + 1, source, st =>
    match source.commandLine with
    | .error e => { st with line := e.line }.fail ("Syntax error: ".toList ++ e.reason.toList)
    | .ok (none, _) => st
    | .ok (some c, rest) =>
      let known := st.documents.filter fun d => (rest.documents.lookup d.1).isNone
      let st := eval fuel false c { st with documents := rest.documents ++ known }
      if st.isOnward then runLines fuel rest st else st

/-- Run a command of the shell under its name. -/
def builtin : Nat → List Char → Args → State → State
  | 0, _, _, st => st
  | fuel + 1, name, args, st =>
    let named := { st with command := name }
    let after := match String.ofList name with
      | "eval" => runText fuel ([' '].intercalate args) (named.finish 0)
      | "." => source fuel args named
      | "exec" => replace fuel args named
      | _ =>
        match Builtin.named? name with
        | some run => (run args named).settled
        | none => named
    { after with command := st.command }

/-- Run the commands of a file. -/
def source : Nat → Args → State → State
  | 0, _, st => st
  | fuel + 1, args, st =>
    match args with
    | [] => st.finish 0
    | file :: _ =>
      if !file.contains '/' then st.fail (file ++ ": not found".toList)
      else
        match st.files.content? file with
        | none => st.fail ("cannot open ".toList ++ file ++ ": No such file".toList)
        | some text =>
          let after := runText fuel text st
          if after.flow = .returning then { after with flow := .onward } else after

/-- Run a program in place of the shell. -/
def replace : Nat → Args → State → State
  | 0, _, st => st
  | _, [], st => st.finish 0
  | fuel + 1, name :: args, st =>
    match program fuel st.environment name args with
    | some run => { st.runProcess name run with flow := .ended, traps := [] }
    | none =>
      { (st.complain (name ++ ": not found".toList)).finish 127 with flow := .ended }

/-- Run a program for a command. -/
def start : Nat → List Char → Args → State → State
  | 0, _, _, st => st
  | fuel + 1, name, args, st =>
    match program fuel st.environment name args with
    | some run => st.runProcess name run
    | none =>
      let found := if name.contains '/' then st.files.look name else .nothing
      match found with
      | .nothing => (st.complain (name ++ ": not found".toList)).finish 127
      | _ => (st.complain (name ++ ": Permission denied".toList)).finish 126

/-- Run a command without regard to functions, or tell where it is found. -/
def plainly : Nat → Args → State → State
  | 0, _, st => st
  | _, [], st => st.finish 0
  | _, ['-', 'v'] :: name :: _, st => Builtin.locate name st
  | _, ['-', 'V'] :: name :: _, st => Builtin.describe [name] st
  | fuel + 1, ['-', 'p'] :: rest, st => plainly fuel rest st
  | fuel + 1, ['-', '-'] :: rest, st => plainly fuel rest st
  | fuel + 1, name :: args, st =>
    if name = "command".toList then plainly fuel args st
    else if Builtin.isBuiltin name then builtin fuel name args st
    else start fuel name args st

/-- Run a function. -/
def call : Nat → Bool → Command → Args → State → State
  | 0, _, _, _, st => st
  | fuel + 1, tested, body, args, st =>
    let inner := eval fuel tested body { st with arguments := args, loops := 0 }
    let after := { inner with arguments := st.arguments, loops := st.loops }.restoreAside
    if after.flow = .returning then { after with flow := .onward } else after

/-- Run a command given by its fields, with some variables set for it alone. Only
special commands of the shell keep them. -/
def invoke : Nat → Bool → List (List Char × List Char) → List Char → Args → State → State
  | 0, _, _, _, _, st => st
  | fuel + 1, tested, assigned, name, args, st =>
    match st.function? name with
    | some body =>
      let saved := assigned.map fun (name, _) => (name, st.entry? name)
      let st := { st with aside := saved :: st.aside }
      let st := assigned.foldl (fun st (name, value) => st.assign name value) st
      if !st.isOnward then st else call fuel tested body args st
    | none =>
      let set (exported : Bool) (st : State) := assigned.foldl (fun st (name, value) =>
        let st := st.assign name value
        if exported && st.isOnward then st.setVariable name ⟨some value, true, false⟩ else st) st
      let restored (after : State) : State := assigned.foldl (fun after (name, _) =>
        match st.entry? name with
        | some v => after.setVariable name v
        | none => after.dropVariable name) after
      let isSpecial := State.isSpecial name
      let ready := set (!isSpecial || name = "exec".toList) st
      if !ready.isOnward then ready
      else if name = "command".toList then restored (plainly fuel args ready)
      else if Builtin.isBuiltin name then
        let after := builtin fuel name args ready
        if isSpecial then after else restored after
      else restored (start fuel name args ready)

/-- Run the arm of a choice whose pattern matches first. -/
def chooseArm : Nat → Bool → List Char → List (List Word × Command) → State → State
  | 0, _, _, _, st => st
  | _, _, _, [], st => st.finish 0
  | fuel + 1, tested, subject, (patterns, body) :: rest, st =>
    let (st, found) := anyMatches fuel subject patterns st
    if !st.isOnward then st
    else if !found then chooseArm fuel tested subject rest st
    else match body with
      | .nothing => st.finish 0
      | body => eval fuel tested body st

def anyMatches : Nat → List Char → List Word → State → State × Bool
  | 0, _, _, st => (st, false)
  | _, _, [], st => (st, false)
  | fuel + 1, subject, w :: rest, st =>
    let (st, ps) := expandWord fuel false false st w
    if !st.isOnward then (st, false)
    else if Glob.accepts (Piece.globOf ps) subject then (st, true)
    else anyMatches fuel subject rest st

/-- Run a body for each of some values. -/
def forEach : Nat → Bool → List Char → Command → Args → State → State
  | 0, _, _, _, _, st => st
  | _, _, _, _, [], st => st
  | fuel + 1, tested, name, body, v :: rest, st =>
    let st := st.assign name v
    if !st.isOnward then st
    else
      let (st, again) := (eval fuel tested body st).afterBody
      if again then forEach fuel tested name body rest st else st

/-- Run a body as long as a condition holds, or does not. The status is that of the
last run of the body. -/
def repeatWhile : Nat → Bool → Bool → Command → Command → Nat → State → State
  | 0, _, _, _, _, _, st => st
  | fuel + 1, tested, untilTrue, condition, body, status, st =>
    let (st, again) := (eval fuel true condition st).afterBody
    if !again then (if st.isOnward then st.finish status else st)
    else if (st.status = 0) = untilTrue then st.finish status
    else
      let (st, again) := (eval fuel tested body st).afterBody
      if again then repeatWhile fuel tested untilTrue condition body st.status st else st

/-- The state after a command. With `tested` its failure does not end a shell whose
commands must succeed. -/
def eval : Nat → Bool → Command → State → State
  | 0, _, _, st => st
  | _, _, .nothing, st => st
  | fuel + 1, tested, .simple line assignments words redirections, st =>
    let st := { st with line, answered := none }
    let declared := words.head?.any isDeclaration
    let (ready, fields) := expandWords fuel declared st words
    if !ready.isOnward then ready
    else
      let (led, whole) := redirect fuel redirections ready
      let restored (after : State) : State := after.restore ready redirections
      match fields with
      | [] =>
        if !led.isOnward then restored led
        else if !whole then (restored led).checked tested
        else
          let (st, assigned) := expandAssignments fuel true led assignments
          let st := restored st
          let st := if assigned.isEmpty then st else st.trace (traced assigned [])
          if !st.isOnward then st else (st.finish (st.answered.getD 0)).checked tested
      | name :: args =>
        let isSpecial := State.isSpecial name
        if !led.isOnward then restored led
        else if !whole then
          if isSpecial then { restored led with flow := .ended } else (restored led).checked tested
        else
          let (st, assigned) := expandAssignments fuel false led assignments
          if !st.isOnward then restored st
          else
            let shown := (st.restore ready redirections).trace (traced assigned fields)
            let st := { shown with descriptors := st.descriptors }
            let after := invoke fuel tested assigned name args st
            let keeps := name = "exec".toList && args.isEmpty
            (if keeps then after else restored after).checked tested
  | fuel + 1, tested, .redirected line c redirections, st =>
    let (led, whole) := redirect fuel redirections { st with line }
    let after := if whole && led.isOnward then eval fuel tested c led else led
    after.restore st redirections
  | fuel + 1, tested, .pipe a b, st =>
    let (c, st') := st.addText []
    let first := st'.after (subshell fuel tested a (st'.setChannel 1 c))
    let second := subshell fuel tested b (first.setChannel 0 c)
    (st.after second).checked tested
  | fuel + 1, _, .background c, st =>
    let inner := subshell fuel false c (st.setChannel 0 .nowhere)
    { (st.after inner).finish 0 with background := inner.status }
  | fuel + 1, _, .negated c, st =>
    let st := eval fuel true c st
    if !st.isOnward then st else st.finish (if st.status = 0 then 1 else 0)
  | fuel + 1, tested, .both a b, st =>
    let st := eval fuel true a st
    if !st.isOnward || st.status ≠ 0 then st else eval fuel tested b st
  | fuel + 1, tested, .either a b, st =>
    let st := eval fuel true a st
    if !st.isOnward || st.status = 0 then st else eval fuel tested b st
  | fuel + 1, tested, .sequence a b, st =>
    let st := eval fuel tested a st
    if st.isOnward then eval fuel tested b st else st
  | fuel + 1, tested, .subshell c, st => (st.after (subshell fuel tested c st)).checked tested
  | fuel + 1, tested, .branch condition yes no, st =>
    let st := eval fuel true condition st
    if !st.isOnward then st
    else if st.status = 0 then eval fuel tested yes st
    else match no with
      | .nothing => st.finish 0
      | no => eval fuel tested no st
  | fuel + 1, tested, .loop untilTrue condition body, st =>
    let inside := { st with loops := st.loops + 1 }
    let after := repeatWhile fuel tested untilTrue condition body 0 inside
    { after with loops := st.loops }
  | fuel + 1, tested, .each line name words body, st =>
    let (st, values) := expandWords fuel false { st with line } words
    if !st.isOnward then st
    else
      let st := if values.isEmpty then st.finish 0 else st
      let after := forEach fuel tested name body values { st with loops := st.loops + 1 }
      { after with loops := st.loops }
  | fuel + 1, tested, .choose line subject arms, st =>
    let (st, s) := expandText fuel { st with line } subject
    if !st.isOnward then st else chooseArm fuel tested s arms st
  | _, _, .define name body, st =>
    { st.finish 0 with functions := (name, body) :: st.functions.filter (·.1 != name) }

end

/-- The number of nested steps that a script may take. -/
def steps : Nat := 20000

/-- Variables that every program is given. -/
def environment : Environment :=
  [("PATH".toList, "/usr/local/sbin:/usr/local/bin:/usr/sbin:/usr/bin:/sbin:/bin".toList)]

/-- Start a program that can read the files of a file system. Neither its name nor its
arguments may hold a zero byte. -/
def launch (fs : FileSystem) : Programs := fun name args input =>
  let argv := (name :: args).map Text.octets
  if argv.any (·.contains '\x00') then none
  else
    (program steps environment (Text.octets name) (args.map Text.octets)).map fun run =>
      let p := run (Process.start ⟨fs, [], []⟩ (Text.ofOctets input))
      ⟨p.status, Text.toOctets (p.on .output), Text.toOctets (p.on .errors), p.input.length⟩

end Shell
end ClusterRig
