import ClusterRig.Shell.Condition
import ClusterRig.Shell.Printing
import ClusterRig.Shell.Reader
import ClusterRig.Shell.State

/-!
# Commands of the shell

The commands that change the state of the shell or are part of it for speed. Those
that run other commands are where scripts are run.
-/

namespace ClusterRig
namespace Shell
namespace Builtin

abbrev Args := List (List Char)

/-- A number that counts something. -/
def count? (s : List Char) : Option Nat :=
  match Integer.whole? false s with
  | some n => if 0 ≤ n ∧ n ≤ Int32.maxValue.toInt then some n.toNat else none
  | none => none

def illegal (st : State) (s : List Char) : State := st.fail ("Illegal number: ".toList ++ s)

/-- Go on with the number in the first argument, or a default without one. -/
def withCount (args : Args) (byDefault : Nat) (st : State) (next : Nat → State) : State :=
  match args with
  | [] => next byDefault
  | s :: _ =>
    match count? s with
    | some n => next n
    | none => illegal st s

def isName (s : List Char) : Bool := Reader.isName s

/-- The name and the value of an argument that assigns. -/
def assignment (s : List Char) : List Char × Option (List Char) :=
  let name := s.takeWhile (· != '=')
  match s.dropWhile (· != '=') with
  | _ :: value => (name, some value)
  | [] => (name, none)

def badName (st : State) (name : List Char) : State :=
  st.fail (name ++ ": bad variable name".toList)

/-- Do something for each argument as long as nothing is wrong. -/
def forArgs (f : State → List Char → State) (args : Args) (st : State) : State :=
  args.foldl (fun st a => if st.isOnward then f st a else st) st

/-- The letters of options before the operands, and these; a letter that is not known is
given instead. -/
def options (known : List Char) : Args → Except Char (List Char × Args)
  | ['-', '-'] :: rest => .ok ([], rest)
  | ('-' :: c :: s) :: rest => do
    match (c :: s).find? fun d => !known.contains d with
    | some d => throw d
    | none =>
      let (letters, rest) ← options known rest
      return (c :: s ++ letters, rest)
  | args => .ok ([], args)

def illegalOption (st : State) (c : Char) : State := st.fail ("Illegal option -".toList ++ [c])

/-- Go on with the options and operands of a command. -/
def withOptions (known : List Char) (args : Args) (st : State) (next : List Char → Args → State) :
    State :=
  match options known args with
  | .ok (letters, operands) => next letters operands
  | .error c => illegalOption st c

/-! ## Variables -/

/-- A value between quotes as the shell could read it again. -/
def requoted (s : List Char) : List Char :=
  if s.isEmpty then ['\'', '\'']
  else
    (s.splitBy fun a b => (a == '\'') == (b == '\'')).flatMap fun run =>
      let quote := if run.head? = some '\'' then '"' else '\''
      [quote] ++ run ++ [quote]

def listed (what : List Char) (shown : List (List Char × Variable)) : List Char :=
  (shown.mergeSort fun a b => !decide (b.1 < a.1)).flatMap fun (name, v) =>
    what ++ name ++ (match v.value with
      | some s => '=' :: requoted s
      | none => []) ++ ['\n']

/-- Give variables a mark, and a value where there is one. -/
def mark (what : String) (change : Variable → Variable) (isMarked : Variable → Bool) (args : Args)
    (st : State) : State :=
  withOptions ['p'] args st fun letters operands =>
    if !letters.isEmpty || operands.isEmpty then
      let marked := st.bindings.filter fun v => isMarked v.2
      (st.write 1 (listed (what.toList ++ [' ']) marked)).finish 0
    else
      forArgs (fun st a =>
        let (name, value) := assignment a
        if !isName name then badName st name
        else
          let st := match value with
            | some s => st.assign name s
            | none => st
          if !st.isOnward then st
          else st.setVariable name (change ((st.entry? name).getD ⟨none, false, false⟩)))
        operands (st.finish 0)

def unset (args : Args) (st : State) : State :=
  withOptions ['f', 'v'] args st fun letters operands =>
    forArgs (fun st name =>
      if letters.getLast? = some 'f' then
        { st with functions := st.functions.filter (·.1 != name) }
      else if !isName name then badName st name
      else if st.isFixed name then st.fail (name ++ ": is read only".toList)
      else st.dropVariable name) operands (st.finish 0)

def local_ (args : Args) (st : State) : State :=
  match st.aside with
  | [] => st.fail "not in a function".toList
  | _ =>
    forArgs (fun st a =>
      let (name, value) := assignment a
      let saved := st.aside.headD []
      let keep (v : Option Variable) : State :=
        if (saved.lookup name).isSome then st
        else { st with aside := ((name, v) :: saved) :: st.aside.tail }
      if a = ['-'] then keep (some ⟨some st.options, false, false⟩)
      else if !isName name then badName st name
      else
        let st := keep (st.entry? name)
        match value with
        | some s => st.assign name s
        | none => st) args (st.finish 0)

/-- A line of an input: its characters, with those that a backslash quotes, whether
it was complete, and what follows it. -/
def readLine (raw : Bool) : List Char → List Mark × Bool × List Char
  | [] => ([], false, [])
  | '\n' :: rest => ([], true, rest)
  | '\\' :: c :: rest =>
    if raw then
      let (s, whole, rest) := readLine raw (c :: rest)
      (⟨false, '\\'⟩ :: s, whole, rest)
    else
      let (s, whole, rest) := readLine raw rest
      (if c = '\n' then s else ⟨true, c⟩ :: s, whole, rest)
  | c :: rest =>
    let (s, whole, rest) := readLine raw rest
    (⟨false, c⟩ :: s, whole, rest)

/-- The options of `read`: whether backslashes are ordinary, and the names. -/
def readOptions : Args → Except Char (Bool × Args)
  | ['-', '-'] :: rest => .ok (false, rest)
  | ['-', 'p'] :: _ :: rest => readOptions rest
  | ('-' :: 'r' :: []) :: rest => do return (true, (← readOptions rest).2)
  | ('-' :: 'r' :: 'p' :: []) :: _ :: rest => do return (true, (← readOptions rest).2)
  | ('-' :: 'p' :: _) :: rest => readOptions rest
  | ('-' :: c :: _) :: _ => .error c
  | args => .ok (false, args)

def read (args : Args) (st : State) : State :=
  match readOptions args with
  | .error c => illegalOption st c
  | .ok (_, []) => st.fail "arg count".toList
  | .ok (raw, names) =>
    let (line, whole, rest) := readLine raw (st.readable 0)
    let st := (st.leave 0 rest).finish (if whole then 0 else 1)
    (names.zip (Fields.divide st.separators names.length line)).foldl (fun st (name, value) =>
      if st.status = 2 then st
      else if !isName name then badName st name
      else st.assign name value) st

/-! ## Options and arguments -/

def optionNames : List (String × Char) :=
  [("errexit", 'e'), ("noglob", 'f'), ("ignoreeof", 'I'), ("interactive", 'i'), ("monitor", 'm'),
    ("noexec", 'n'), ("stdin", 's'), ("xtrace", 'x'), ("verbose", 'v'), ("vi", 'V'),
    ("emacs", 'E'), ("noclobber", 'C'), ("allexport", 'a'), ("notify", 'b'), ("nounset", 'u'),
    ("nolog", '\x01'), ("debug", '\x02')]

def optionLetters : List Char := (optionNames.map Prod.snd).filter (·.isAlpha)

/-- The options that are set, in their usual order. -/
def ordered (letters : List Char) : List Char :=
  (optionNames.map Prod.snd).reverse.filter letters.contains

def turn (on : Bool) (c : Char) (st : State) : State :=
  let rest := st.options.filter (· != c)
  { st with options := ordered (if on then c :: rest else rest) }

def turnAll (on : Bool) (letters : List Char) (st : State) : Except (List Char) State :=
  letters.foldlM (fun st c =>
    if optionLetters.contains c then .ok (turn on c st) else .error ['-', c]) st

/-- The names of all options and whether they are set. -/
def optionTable (st : State) : List Char :=
  "Current option settings\n".toList ++ optionNames.flatMap fun (name, c) =>
    name.toList ++ List.replicate (16 - name.length) ' '
      ++ (if st.hasOption c then "on" else "off").toList ++ ['\n']

def optionCommands (st : State) : List Char :=
  optionNames.flatMap fun (name, c) =>
    (if st.hasOption c then "set -o " else "set +o ").toList ++ name.toList ++ ['\n']

/-- Set options and say what follows them; what is no option is given instead. The last
part says whether the arguments are replaced even by none. -/
def setOptions : Args → State → Except (List Char) (State × Args × Bool)
  | [], st => .ok (st, [], false)
  | ['-', '-'] :: rest, st => .ok (st, rest, true)
  | ['-'] :: rest, st => .ok (turn false 'x' (turn false 'v' st), rest, false)
  | ['-', 'o'] :: name :: rest, st =>
    match optionNames.lookup (String.ofList name) with
    | some c => setOptions rest (turn true c st)
    | none => .error ("-o ".toList ++ name)
  | ['+', 'o'] :: name :: rest, st =>
    match optionNames.lookup (String.ofList name) with
    | some c => setOptions rest (turn false c st)
    | none => .error ("-o ".toList ++ name)
  | [['-', 'o']], st => .ok (st.write 1 (optionTable st), [], false)
  | [['+', 'o']], st => .ok (st.write 1 (optionCommands st), [], false)
  | ('-' :: c :: s) :: rest, st => do setOptions rest (← turnAll true (c :: s) st)
  | ('+' :: c :: s) :: rest, st => do setOptions rest (← turnAll false (c :: s) st)
  | args, st => .ok (st, args, false)

def set (args : Args) (st : State) : State :=
  if args.isEmpty then
    (st.write 1 (listed [] (st.bindings.filter fun v => v.2.value.isSome))).finish 0
  else
    match setOptions args st with
    | .error what => st.fail ("Illegal option ".toList ++ what)
    | .ok (st, operands, all) =>
      if all || !operands.isEmpty then { st.finish 0 with arguments := operands } else st.finish 0

def shift (args : Args) (st : State) : State :=
  withCount args 1 st fun n =>
    if n ≤ st.arguments.length then { st.finish 0 with arguments := st.arguments.drop n }
    else st.fail "can't shift that many".toList

/-- The next option among some arguments, for a list of letters of which those before a
colon take an argument. -/
def getopts (args : Args) (st : State) : State :=
  match args with
  | letters :: name :: given =>
    let given := if given.isEmpty then st.arguments else given
    let quiet := letters.head? = some ':'
    let place := (((st.valueOf? "OPTIND".toList).bind count?).getD 1) - 1
    let current := given[place]?.getD []
    let offset := if st.letterPlace = 0 then 1 else st.letterPlace
    let tell (st : State) (found : List Char) (argument : Option (List Char)) (place : Nat)
        (offset : Nat) (status : Nat) : State :=
      let st := match argument with
        | some s => st.assign "OPTARG".toList s
        | none => st.dropVariable "OPTARG".toList
      let st := (st.assign "OPTIND".toList (Text.decimal (place + 1))).assign name found
      { st.finish status with letterPlace := offset }
    let say (what : List Char) (st : State) : State :=
      if quiet then st else st.write 2 (what ++ ['\n'])
    if current.head? ≠ some '-' || current.length < 2 then tell st ['?'] none place 0 1
    else if current = ['-', '-'] then tell st ['?'] none (place + 1) 0 1
    else
      match current[offset]? with
      | none => tell st ['?'] none place 0 1
      | some c =>
        let isLast := current.length ≤ offset + 1
        let (place', offset') := if isLast then (place + 1, 0) else (place, offset + 1)
        let after := letters.dropWhile (· != c)
        if c == ':' || after.isEmpty then
          tell (say ("Illegal option -".toList ++ [c]) st) ['?'] (if quiet then some [c] else none)
            place' offset' 0
        else if after[1]? ≠ some ':' then tell st [c] (some []) place' offset' 0
        else if !isLast then tell st [c] (some (current.drop (offset + 1))) (place + 1) 0 0
        else
          match given[place + 1]? with
          | some s => tell st [c] (some s) (place + 2) 0 0
          | none =>
            tell (say ("No arg for -".toList ++ [c] ++ " option".toList) st)
              (if quiet then [':'] else ['?']) (if quiet then some [c] else none) (place + 1) 0 0
  | _ => st.fail "Usage: getopts optstring var [arg...]".toList

/-! ## Flow -/

def leave (flow : Nat → Flow) (args : Args) (st : State) : State :=
  withCount args 1 st fun n =>
    if n = 0 then illegal st ['0']
    else
      let n := min n st.loops
      if n = 0 then st.finish 0 else { st.finish 0 with flow := flow n }

def return_ (args : Args) (st : State) : State :=
  withCount args st.status st fun n => { st.finish n with flow := .returning }

def exit (args : Args) (st : State) : State := withCount args st.status st st.exit

/-! ## Printing and testing -/

def echo (args : Args) (st : State) : State :=
  (st.write 1 (Printing.echo .command args)).finish 0

/-- Messages of a format come before what it prints. -/
def printf (args : Args) (st : State) : State :=
  match options [] args with
  | .error c => illegalOption st c
  | .ok (_, []) => st.fail "usage: printf format [arg ...]".toList
  | .ok (_, format :: args) =>
    let u := Printing.formatted .command format args
    let parts := u.printed.reverse
    let st := parts.foldl (fun st (stream, s) =>
      if stream = .errors then st.complain s else st) st
    let output := parts.flatMap fun (stream, s) => if stream = .output then s else []
    (st.write 1 output).finish u.status

/-- Whether a condition holds, as a status. -/
def decide (words : Args) (st : State) : State :=
  match Condition.evaluate st.files words with
  | .ok holds => st.finish (if holds then 0 else 1)
  | .error what => st.fail what

/-- A condition in brackets. -/
def bracket (args : Args) (st : State) : State :=
  match args.getLast? with
  | some [']'] => decide args.dropLast st
  | _ => st.fail "missing ]".toList

/-! ## The rest -/

def signals : List String :=
  ["EXIT", "HUP", "INT", "QUIT", "ILL", "TRAP", "ABRT", "BUS", "FPE", "KILL", "USR1", "SEGV",
    "USR2", "PIPE", "ALRM", "TERM", "STKFLT", "CHLD", "CONT", "STOP", "TSTP", "TTIN", "TTOU",
    "URG", "XCPU", "XFSZ", "VTALRM", "PROF", "WINCH", "IO", "PWR", "SYS"]

/-- The name of a signal that is given by name or number. -/
def signal? (s : List Char) : Option (List Char) :=
  match count? s with
  | some n => (signals[n]?).map String.toList
  | none => if signals.contains (String.ofList s) then some s else none

def setTrap (action : Option (List Char)) (names : Args) (st : State) : State :=
  names.foldl (fun st s =>
    match signal? s with
    | some name =>
      let rest := st.traps.filter (·.1 != name)
      { st with traps := match action with
          | some a => (name, a) :: rest
          | none => rest }
    | none => (st.write 2 ("trap: ".toList ++ s ++ ": bad trap\n".toList)).finish 1) (st.finish 0)

def trap (args : Args) (st : State) : State :=
  let args := if args.head? = some ['-', '-'] then args.tail else args
  match args with
  | [] =>
    (st.write 1 (signals.flatMap fun name =>
      match st.traps.lookup name.toList with
      | some action => "trap -- ".toList ++ requoted action ++ ' ' :: name.toList ++ ['\n']
      | none => [])).finish 0
  | [name] => setTrap none [name] st
  | action :: names => setTrap (if action = ['-'] then none else some action) names st

/-- Go to another directory, of which only those that exist can be told. -/
def cd (args : Args) (st : State) : State :=
  match args with
  | [] => st.finish 0
  | place :: _ =>
    match st.files.look place with
    | .directory => { st.finish 0 with files := st.files.enter place }
    | _ => st.fail ("can't cd to ".toList ++ place)

def wait (args : Args) (st : State) : State :=
  st.finish (if args.isEmpty then 0 else st.background)

def names : List String :=
  [".", ":", "[", "break", "cd", "chdir", "command", "continue", "echo", "eval", "exec", "exit",
    "export", "false", "getopts", "hash", "local", "printf", "pwd", "read", "readonly", "return",
    "set", "shift", "test", "times", "trap", "true", "type", "umask", "unset", "wait"]

def isBuiltin (name : List Char) : Bool := names.contains (String.ofList name)

/-- The program that a name without a slash stands for. -/
def programs : List String :=
  ["cat", "echo", "env", "false", "head", "printf", "sed", "sh", "sleep", "tail", "test", "tr",
    "true", "wc", "["]

inductive Kind
  | keyword
  | function
  | builtin (isSpecial : Bool)
  | program (path : List Char)
  | unknown

/-- What a name stands for as a command. -/
def kind (st : State) (name : List Char) : Kind :=
  if Reader.keywords.contains (String.ofList name) then .keyword
  else if (st.function? name).isSome then .function
  else if isBuiltin name then .builtin (State.isSpecial name)
  else if name.contains '/' then
    match st.files.look name with
    | .content _ => .program name
    | _ =>
      if programs.any fun p => name = ("/bin/" ++ p).toList || name = ("/usr/bin/" ++ p).toList then
        .program name
      else .unknown
  else if programs.contains (String.ofList name) then .program ("/usr/bin/".toList ++ name)
  else .unknown

/-- Tell in words what names stand for. -/
def describe (args : Args) (st : State) : State :=
  args.foldl (fun st name =>
    let say (what : String) : State := st.write 1 (name ++ ' ' :: what.toList ++ ['\n'])
    match kind st name with
    | .keyword => say "is a shell keyword"
    | .function => say "is a shell function"
    | .builtin true => say "is a special shell builtin"
    | .builtin false => say "is a shell builtin"
    | .program path => st.write 1 (name ++ " is ".toList ++ path ++ ['\n'])
    | .unknown => (st.write 1 (name ++ ": not found\n".toList)).finish 127) (st.finish 0)

/-- Tell where a command is found. -/
def locate (name : List Char) (st : State) : State :=
  match kind st name with
  | .unknown => st.finish 127
  | .program path => (st.write 1 (path ++ ['\n'])).finish 0
  | _ => (st.write 1 (name ++ ['\n'])).finish 0

def hash (args : Args) (st : State) : State :=
  forArgs (fun st name =>
    match kind st name with
    | .unknown => (st.complain (name ++ ": not found".toList)).finish 1
    | _ => st) args (st.finish 0)

/-- The command of the shell with a name, if it runs no others. -/
def named? (name : List Char) : Option (Args → State → State) :=
  match String.ofList name with
  | ":" | "true" => some fun _ st => st.finish 0
  | "false" => some fun _ st => st.finish 1
  | "echo" => some echo
  | "printf" => some printf
  | "test" => some decide
  | "[" => some bracket
  | "read" => some read
  | "export" =>
    some (mark "export" (fun v => { v with exported := true }) (·.exported))
  | "readonly" => some (mark "readonly" (fun v => { v with fixed := true }) (·.fixed))
  | "local" => some local_
  | "unset" => some unset
  | "set" => some set
  | "shift" => some shift
  | "getopts" => some getopts
  | "break" => some (leave .leaving)
  | "continue" => some (leave .repeating)
  | "return" => some return_
  | "exit" => some exit
  | "trap" => some trap
  | "cd" | "chdir" => some cd
  | "pwd" => some fun _ st => (st.write 1 (st.files.here ++ ['\n'])).finish 0
  | "wait" => some wait
  | "type" => some describe
  | "hash" => some hash
  | "umask" =>
    some fun args st => (if args.isEmpty then st.write 1 "0022\n".toList else st).finish 0
  | "times" =>
    let line := "0m0.000000s 0m0.000000s\n".toList
    some fun _ st => (st.write 1 (line ++ line)).finish 0
  | _ => none

end Builtin
end Shell
end ClusterRig
