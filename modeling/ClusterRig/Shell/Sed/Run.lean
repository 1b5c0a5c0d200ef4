import ClusterRig.Shell.Process
import ClusterRig.Shell.Sed.Reader

/-!
# Editing streams

The lines of some files go one by one through a script that changes them. What a line
comes to is printed when the script has ended, and a second space holds text from one
line to the next.
-/

namespace ClusterRig
namespace Shell
namespace Sed

/-- A text that is edited, and whether a line break follows it. -/
structure Space where
  text : List Char
  ended : Bool

/-- How far the range of a command has come: not begun, up to a line or as far as its
second address matches, or over for good. -/
inductive Range
  | idle
  | open_ (last : Option Nat)
  | closed
  deriving DecidableEq

/-- What can be asked of a run. -/
structure Settings where
  quiet : Bool
  separate : Bool
  delimiter : Char
  width : Nat

/-- How the run goes on. -/
inductive Course
  | script
  /-- The script has ended; the space is printed unless `silent`. -/
  | ended (silent : Bool)
  /-- The script begins again with what is in the space. -/
  | again
  | quit (silent : Bool) (status : Nat)
  deriving DecidableEq

/-- A line of the input, and whether it is the first of its file and the last one. -/
structure Line where
  space : Space
  file : List Char
  first : Bool

/-- A run of a script. -/
structure Machine where
  settings : Settings
  space : Space
  held : Space
  number : Nat
  file : List Char
  /-- The lines that have not been read yet. -/
  rest : List Line
  ranges : List (Nat × Range)
  replaced : Bool
  /-- What is printed when the line is done: texts, and files to be read. -/
  queue : List (List Char)
  lastUsed : Option Regex
  /-- What has been printed on the output, the latest first, and whether a line break is
  still owed. -/
  output : List (List Char)
  owed : Bool
  /-- The files that commands write for which a line break is owed. -/
  owing : List (List Char)
  errors : List (List Char)
  files : Files
  /-- Files that are read line by line, with what is left of them. -/
  readers : List (List Char × List (List Char))
  /-- What has gone wrong, which ends the run. -/
  trouble : Option Trouble

namespace Machine

/-! ## Printing -/

/-- The line break that is still owed. -/
def settle (m : Machine) : Machine :=
  if m.owed then { m with output := [m.settings.delimiter] :: m.output, owed := false } else m

def print (m : Machine) (s : List Char) : Machine :=
  let m := m.settle
  { m with output := s :: m.output }

def printSpace (m : Machine) (s : Space) : Machine :=
  let m := m.print s.text
  if s.ended then { m with output := [m.settings.delimiter] :: m.output }
  else { m with owed := true }

/-- Write a line to a file, or to one of the outputs. -/
def writeTo (m : Machine) (file : List Char) (s : Space) : Machine :=
  let ending (present : Bool) : List Char := if present then [m.settings.delimiter] else []
  let line := ending (m.owing.contains file) ++ s.text ++ ending s.ended
  let others := m.owing.filter (· != file)
  let m := { m with owing := if s.ended then others else file :: others }
  match String.ofList file with
  | "/dev/stdout" => { m with output := line :: m.output }
  | "/dev/stderr" => { m with errors := line :: m.errors }
  | "/dev/null" => m
  | _ => { m with files := m.files.append file line }

/-- Print a line of its own. -/
def printLine (m : Machine) (s : List Char) : Machine := m.print (s ++ [m.settings.delimiter])

/-- Print the text of a command, of which the last line ends as all lines do. -/
def printText (m : Machine) (text : List Char) : Machine :=
  if text.isEmpty then m else m.printLine text.dropLast

/-- Print what was kept for the end of the line. -/
def flush (m : Machine) : Machine :=
  { m.queue.reverse.foldl print m with queue := [] }

/-! ## Reading lines -/

/-- Whether the line is the last one. -/
def isLast (m : Machine) : Bool :=
  match m.rest with
  | [] => true
  | l :: _ => m.settings.separate && l.first

/-- Read the next line, to replace the space or, with `more`, to follow it. -/
def advance (m : Machine) (more : Bool) : Machine :=
  let m := m.flush
  match m.rest with
  | [] => m
  | l :: rest =>
    let text := if more then m.space.text ++ m.settings.delimiter :: l.space.text else l.space.text
    { m with
      space := ⟨text, l.space.ended⟩
      number := if m.settings.separate && l.first then 1 else m.number + 1
      file := l.file
      rest
      replaced := false }

/-! ## Selecting -/

/-- Report that there is no last expression. -/
def failPattern (m : Machine) : Machine :=
  { m with trouble := some ⟨"no previous regular expression".toList, 1⟩ }

/-- The expression of a pattern, which becomes the last one that was used. -/
def regex (m : Machine) (p : Pattern) : Option Regex × Machine :=
  match p, m.lastUsed with
  | some r, _ =>
    let r := { r with lines := r.lines && m.settings.delimiter = '\n' }
    (some r, { m with lastUsed := some r })
  | none, some r => (some r, m)
  | none, none => (none, m.failPattern)

/-- Whether the line is at an address. -/
def isAt (m : Machine) : Address → Bool × Machine
  | .line n => (n == m.number, m)
  | .step first by_ => (first ≤ m.number && (m.number - first) % by_ == 0, m)
  | .last => (m.isLast, m)
  | .pattern p =>
    match m.regex p with
    | (some r, m) => ((r.find? m.space.text.toArray 0).isSome, m)
    | (none, m) => (false, m)
  | .plus _ => (false, m)
  | .multiple _ => (false, m)

def range (m : Machine) (place : Nat) (a : Address) : Range :=
  match m.ranges.lookup place, a with
  | some r, _ => r
  | none, .line 0 => .open_ none
  | none, _ => .idle

def setRange (m : Machine) (place : Nat) (r : Range) : Machine :=
  { m with ranges := (place, r) :: m.ranges.filter (·.1 != place) }

/-- The last line of a range that begins here, if it is known. -/
def lastOf (m : Machine) : Address → Option Nat
  | .line n => some n
  | .plus n => some (m.number + n)
  | .multiple n => some (if n = 0 then m.number else m.number - m.number % n + n)
  | _ => none

/-- Whether a range can begin here. A line that has been passed begins it as well. -/
def begins (m : Machine) : Address → Bool × Machine
  | .line n => (n ≤ m.number, m)
  | a => m.isAt a

/-- Whether the line is in the range of the command at a place. Where it begins, only a
pattern is not asked whether it ends there as well. A last line that is given by its
number is the last one even where others have been passed. -/
def inRange (m : Machine) (place : Nat) (a b : Address) : Bool × Machine :=
  match m.range place a with
  | .closed => (false, m)
  | .idle =>
    match m.begins a with
    | (false, m) => (false, m)
    | (true, m) =>
      match m.lastOf b, b with
      | some last, b =>
        if m.number < last then (true, m.setRange place (.open_ (some last)))
        else (byNumber m.number last a b, m.setRange place (after a))
      | none, .pattern _ => (true, m.setRange place (.open_ none))
      | none, b =>
        match m.isAt b with
        | (true, m) => (true, m.setRange place (after a))
        | (false, m) => (true, m.setRange place (.open_ none))
  | .open_ (some last) =>
    let m := if last ≤ m.number then m.setRange place (after a) else m
    match b with
    | .line _ => (m.number ≤ last, m)
    | _ => (true, m)
  | .open_ none =>
    match m.isAt b with
    | (true, m) => (true, m.setRange place (after a))
    | (false, m) => (true, m)
where
  /-- A range that begins at a line is not entered again. -/
  after : Address → Range
    | .line _ => .closed
    | _ => .idle
  /-- Whether a range that ends where it begins has the line. -/
  byNumber (number last : Nat) : Address → Address → Bool
    | .line first, .line _ => number = first || number ≤ last
    | _, _ => true

def selects (m : Machine) (place : Nat) (c : Command) : Bool × Machine :=
  let (selected, m) := match c.selector with
    | .always => (true, m)
    | .one a => m.isAt a
    | .range a b => m.inRange place a b
  (selected != c.negated, m)

/-- Whether the range of a command goes on behind the line. -/
def goesOn (m : Machine) (place : Nat) (c : Command) : Bool :=
  match c.selector with
  | .range a _ =>
    match m.range place a with
    | .open_ _ => true
    | _ => false
  | _ => false

end Machine

/-! ## Substituting -/

/-- A text as it is being put together, with how letters are to be written: all that
follow, and the next one. -/
structure Build where
  text : List Char
  all : Case
  next : Option Case

namespace Build

def cased : Case → Char → Char
  | .upper, c => c.toUpper
  | .nextUpper, c => c.toUpper
  | .lower, c => c.toLower
  | .nextLower, c => c.toLower
  | .asIs, c => c

/-- Add some text; the text so far stands in reverse. -/
def add (b : Build) (s : List Char) : Build :=
  match b.next, s with
  | some c, d :: rest => ⟨(rest.map (cased b.all)).reverse ++ cased c d :: b.text, b.all, none⟩
  | _, s => { b with text := (s.map (cased b.all)).reverse ++ b.text }

def setCase (b : Build) : Case → Build
  | .nextUpper => { b with next := some .nextUpper }
  | .nextLower => { b with next := some .nextLower }
  | c => { b with all := c, next := none }

end Build

/-- What replaces a match. -/
def replacement (text : Array Char) (f : Regex.Found) (ps : List Piece) : List Char :=
  let group (n : Nat) : List Char :=
    if n = 0 then (text.extract f.start f.stop).toList
    else (Regex.held text f.groups n).getD []
  (ps.foldl (fun (b : Build) p => match p with
    | .text s => b.add s
    | .group n => b.add (group n)
    | .case c => b.setCase c) ⟨[], .asIs, none⟩).text.reverse

/-- Replace matches from a place on, the number `count` of which comes next. `previous`
is where the last match has ended. What comes out stands in reverse. -/
def replaceFrom (r : Regex) (s : Substitution) (text : Array Char) :
    Nat → Nat → Option Nat → Nat → List Char → Bool → List Char × Bool
  | 0, _, _, _, out, changed => (out, changed)
  | fuel + 1, place, previous, count, out, changed =>
    let rest (n : Nat) := (text.extract n text.size).toList
    match (if place ≤ text.size then r.find? text place else none) with
    | none => ((rest place).reverse ++ out, changed)
    | some f =>
      let before := (text.extract place f.start).toList.reverse ++ out
      let found := (text.extract f.start f.stop).toList
      if f.start = f.stop && previous = some f.start then
        match text[f.start]? with
        | some c => replaceFrom r s text fuel (f.start + 1) previous count (c :: before) changed
        | none => (before, changed)
      else
        let counts := s.first ≤ count
        let out := (if counts then replacement text f s.pieces else found).reverse ++ before
        if counts && !s.everywhere then ((rest f.stop).reverse ++ out, true)
        else
          let changed := changed || counts
          if f.start = f.stop then
            match text[f.stop]? with
            | some c =>
              replaceFrom r s text fuel (f.stop + 1) (some f.stop) (count + 1) (c :: out) changed
            | none => (out, changed)
          else replaceFrom r s text fuel f.stop (some f.stop) (count + 1) out changed

namespace Machine

def substitute (m : Machine) (s : Substitution) : Machine :=
  match m.regex s.pattern with
  | (none, m) => m
  | (some r, m) =>
    let text := m.space.text.toArray
    let (out, changed) := replaceFrom r s text (2 * text.size + 4) 0 none 1 [] false
    if !changed then m
    else
      let space := { m.space with text := out.reverse }
      let m := { m with space, replaced := true }
      let m := if s.print then m.printSpace space else m
      match s.file with
      | some file => m.writeTo file space
      | none => m

/-! ## Commands -/

/-- A character as `l` shows it. -/
def visible (c : Char) : List Char :=
  match c with
  | '\\' => ['\\', '\\']
  | '\x07' => ['\\', 'a']
  | '\x08' => ['\\', 'b']
  | '\x0c' => ['\\', 'f']
  | '\n' => ['\\', 'n']
  | '\r' => ['\\', 'r']
  | '\t' => ['\\', 't']
  | '\x0b' => ['\\', 'v']
  | c =>
    if c = ' ' || isGraphic c then [c]
    else
      let ds := Nat.toDigits 8 c.toNat
      '\\' :: (List.replicate (3 - ds.length) '0' ++ ds)

/-- The space in visible characters, in lines of a width; zero stands for none. -/
def shown (delimiter : Char) (width : Nat) (s : List Char) : List Char :=
  let (out, _) := s.foldl (fun (out, column) c =>
    let v := visible c
    if 0 < width && width - 1 < column + v.length then
      (v.reverse ++ delimiter :: '\\' :: out, v.length)
    else (v.reverse ++ out, column + v.length)) (([] : List Char), 0)
  out.reverse ++ ['$']

/-- The lines of a text, each with its line break. -/
def textLines (delimiter : Char) (s : List Char) : List Space :=
  let (lines, last) := s.foldr (fun c (lines, last) =>
    if c = delimiter then
      (match last with
        | some t => (⟨t.1, t.2⟩ :: lines, some ([], true))
        | none => (lines, some ([], true)))
    else
      match last with
      | some (t, ended) => (lines, some (c :: t, ended))
      | none => (lines, some ([c], false))) (([] : List Space), (none : Option (List Char × Bool)))
  match last with
  | some (t, ended) => ⟨t, ended⟩ :: lines
  | none => lines

/-- The next line of a file that is read line by line. -/
def nextLine (m : Machine) (file : List Char) : Option (List Char) × Machine :=
  let left := match m.readers.lookup file with
    | some lines => lines
    | none => (textLines '\n' ((m.files.content? file).getD [])).map Space.text
  let set (lines : List (List Char)) : Machine :=
    { m with readers := (file, lines) :: m.readers.filter (·.1 != file) }
  match left with
  | [] => (none, set [])
  | line :: rest => (some line, set rest)

/-- The part of a text before the first delimiter, and what follows that. -/
def divided (delimiter : Char) (s : List Char) : List Char × Option (List Char) :=
  (s.takeWhile (· != delimiter), (s.dropWhile (· != delimiter)).tail?)

/-- The first line of a space. -/
def firstLine (delimiter : Char) (s : Space) : Space :=
  match divided delimiter s.text with
  | (line, some _) => ⟨line, true⟩
  | (line, none) => ⟨line, s.ended⟩

/-- Carry out an action. -/
def act (m : Machine) (place : Nat) (c : Command) : Machine × Course :=
  let delimiter := m.settings.delimiter
  match c.action with
  | .block | .close | .label _ | .branch _ | .branchIf _ _ | .nothing => (m, .script)
  | .append text => ({ m with queue := text :: m.queue }, .script)
  | .insert text => (m.printText text, .script)
  | .change text =>
    (if c.negated || !m.goesOn place c then m.printText text else m, .ended true)
  | .delete => (m, .ended true)
  | .deleteFirst =>
    match divided delimiter m.space.text with
    | (_, some rest) => ({ m with space := { m.space with text := rest } }, .again)
    | (_, none) => (m, .ended true)
  | .print => (m.printSpace m.space, .script)
  | .printFirst => (m.printSpace (firstLine delimiter m.space), .script)
  | .show width =>
    (m.printLine (shown delimiter (width.getD m.settings.width) m.space.text), .script)
  | .number => (m.printLine (Text.decimal m.number), .script)
  | .fileName => (m.printLine m.file, .script)
  | .next =>
    if m.rest.isEmpty then (m, .ended false)
    else
      let m := if m.settings.quiet then m else m.printSpace m.space
      (m.advance false, .script)
  | .appendNext => if m.rest.isEmpty then (m, .ended false) else (m.advance true, .script)
  | .hold => ({ m with held := m.space }, .script)
  | .holdMore =>
    ({ m with held := { m.space with text := m.held.text ++ delimiter :: m.space.text } }, .script)
  | .get => ({ m with space := m.held }, .script)
  | .getMore =>
    ({ m with space := { m.held with text := m.space.text ++ delimiter :: m.held.text } }, .script)
  | .exchange => ({ m with space := m.held, held := m.space }, .script)
  | .clear => ({ m with space := { m.space with text := [] } }, .script)
  | .quit silent status => (m, .quit silent status)
  | .read file => ({ m with queue := (m.files.content? file).getD [] :: m.queue }, .script)
  | .readLine file =>
    match m.nextLine file with
    | (some line, m) => ({ m with queue := (line ++ ['\n']) :: m.queue }, .script)
    | (none, m) => (m, .script)
  | .write file => (m.writeTo file m.space, .script)
  | .writeFirst file => (m.writeTo file (firstLine delimiter m.space), .script)
  | .substitute s => (m.substitute s, .script)
  | .transform pairs =>
    ({ m with space := { m.space with text := m.space.text.map fun c => (pairs.lookup c).getD c } },
      .script)

/-- The place after a command that runs, and the state. -/
def following (m : Machine) (place : Nat) (c : Command) (length : Nat) : Nat × Machine :=
  match c.action with
  | .branch _ => (c.jump.getD length, m)
  | .branchIf changed _ =>
    if m.replaced = changed then (c.jump.getD length, { m with replaced := false })
    else (place + 1, { m with replaced := false })
  | _ => (place + 1, m)

/-- Run the commands from a place on. -/
def run (program : Array Command) : Nat → Nat → Machine → Machine × Course
  | 0, _, m => (m, .ended false)
  | fuel + 1, place, m =>
    match program[place]? with
    | none => (m, .ended false)
    | some c =>
      let (selected, m) := m.selects place c
      if m.trouble.isSome then (m, .ended true)
      else if !selected then
        let next := match c.action, c.jump with
          | .block, some target => target
          | _, _ => place + 1
        run program fuel next m
      else
        match m.act place c with
        | (m, .script) =>
          if m.trouble.isSome then (m, .ended true)
          else
            let (next, m) := m.following place c program.size
            run program fuel next m
        | (m, course) => (m, course)

/-- The number of commands that may run for a line. -/
def steps : Nat := 100000

/-- Run a script on one line after the other, and give the status. With `again` the
next run begins with what is in the space. -/
def cycles (program : Array Command) : Nat → Bool → Machine → Machine × Nat
  | 0, _, m => (m, 0)
  | fuel + 1, again, m =>
    if !again && m.rest.isEmpty then (m, 0)
    else
      let m := if again then m else m.advance false
      let finish (silent : Bool) (m : Machine) : Machine :=
        (if silent || m.settings.quiet then m else m.printSpace m.space).flush
      match m.run program steps 0 with
      | (m, .quit true status) => (m, status)
      | (m, .quit false status) => ((finish false m).settle, status)
      | (m, .again) => cycles program fuel true m.flush
      | (m, .ended silent) =>
        if m.trouble.isSome then (m, 1) else cycles program fuel false (finish silent m)
      | (m, .script) => (m, 0)

end Machine
end Sed
end Shell
end ClusterRig
