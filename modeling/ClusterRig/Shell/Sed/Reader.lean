import ClusterRig.Shell.Files
import ClusterRig.Shell.Sed.Pattern
import ClusterRig.Shell.Sed.Syntax

/-!
# Reading scripts of edits

A script is read command by command. What is wrong with it is told with the place
where the reading has come to. Several scripts can be given one after the other; a
block that one of them opens is closed by another.
-/

namespace ClusterRig
namespace Shell
namespace Sed

/-- Where a script comes from. -/
inductive Origin
  | expression (number : Nat)
  | file (name : List Char)

/-- A script as it is being read: what is left of it, how much has been read, and what
has come of it and of those before it. -/
structure Source where
  origin : Origin
  extended : Bool
  rest : List Char
  taken : Nat
  line : Nat
  /-- The commands that have been read, the latest first. -/
  commands : List Command
  /-- The open blocks by their places and origins, the innermost first. -/
  blocks : List (Nat × Origin)
  /-- Whether the text of the last command is still to come. -/
  pending : Bool
  quiet : Bool
  /-- What is in the way of writing a file, if anything is. -/
  obstacle? : List Char → Option String

/-- What is wrong, and the status it ends in. -/
structure Trouble where
  message : List Char
  status : Nat

abbrev Scan := StateT Source (Except Trouble)

namespace Scan

def place (o : Origin) (taken line : Nat) : List Char :=
  match o with
  | .expression n => "-e expression #".toList ++ Text.decimal n ++ ", char ".toList
      ++ Text.decimal taken
  | .file name => "file ".toList ++ name ++ " line ".toList ++ Text.decimal line

def trouble (o : Origin) (taken line : Nat) (what : List Char) : Trouble :=
  ⟨place o taken line ++ ": ".toList ++ what, 1⟩

def refuse {α : Type} (what : String) : Scan α := fun s =>
  .error (trouble s.origin s.taken s.line what.toList)

/-- The next character. -/
def char : Scan (Option Char) := fun s =>
  match s.rest with
  | [] => .ok (none, s)
  | c :: rest =>
    .ok (some c, { s with
      rest
      taken := s.taken + 1
      line := if c = '\n' then s.line + 1 else s.line })

/-- Put a character back. -/
def unread (c : Option Char) : Scan Unit := fun s =>
  match c with
  | none => .ok ((), s)
  | some c => .ok ((), { s with
      rest := c :: s.rest
      taken := s.taken - 1
      line := if c = '\n' then s.line - 1 else s.line })

def rest : Scan (List Char) := fun s => .ok (s.rest, s)

/-- Pass over some characters. -/
def skip (n : Nat) : Scan Unit := fun s =>
  let passed := s.rest.take n
  .ok ((), { s with
    rest := s.rest.drop n
    taken := s.taken + passed.length
    line := s.line + passed.count '\n' })

/-- The next character that is no blank. -/
def nonblank : Scan (Option Char) := do
  let s ← rest
  skip (s.takeWhile fun c => c == ' ' || c == '\t').length
  char

/-- Characters as long as they have a property. -/
def takeWhile (p : Char → Bool) : Scan (List Char) := do
  let s := (← rest).takeWhile p
  skip s.length
  return s

/-- A number of which the first digit has been read. -/
def number (first : Char) : Scan Nat := do
  return Text.ofDigits (first :: (← takeWhile Text.isDigit))

/-- The end of a command. -/
def endOfCommand : Scan Unit := do
  match ← nonblank with
  | none | some '\n' | some ';' => return ()
  | some c =>
    if c == '\x7d' || c == '#' then unread (some c)
    else refuse "extra characters after command"

end Scan

namespace Reader

open Scan

/-! ## Text between delimiters -/

/-- The length of a set in brackets, from behind the opening one to behind the closing
one, if it is closed on the line. `state` tells of a class that is open inside. -/
def setLength : Nat → Option Char → List Char → Option Nat
  | _, _, [] => none
  | _, _, '\n' :: _ => none
  | state, sign, c :: rest =>
    let more (state : Nat) (sign : Option Char) : Option Nat :=
      (setLength state sign rest).map (· + 1)
    if c == '.' || c == ':' || c == '=' then
      if state = 1 then more 2 (some c)
      else if state = 2 && sign = some c then more 3 sign
      else more (if state = 3 then 2 else state) sign
    else if c == '[' then more (if state = 0 then 1 else if state = 3 then 2 else state) sign
    else if c == ']' then
      if state = 0 || state = 1 then some 1
      else more (if state = 3 then 0 else state) sign
    else more (if state = 1 then 0 else if state = 3 then 2 else state) sign

/-- The text of a set in brackets after the opening one. -/
def bracketed? (s : List Char) : Option (List Char) :=
  let opening : Nat := match s with
    | '^' :: ']' :: _ => 2
    | '^' :: _ => 1
    | ']' :: _ => 1
    | _ => 0
  (setLength 0 none (s.drop opening)).map fun n => s.take (opening + n)

/-- The text up to a delimiter, without the backslashes before delimiters. In an
expression `\n` is a line break, and a set in brackets is taken as a whole. -/
def delimited (delimiter : Char) (regex : Bool) : Nat → Scan (Option (List Char))
  | 0 => return none
  | fuel + 1 => do
    let more (s : List Char) : Scan (Option (List Char)) := do
      return (← delimited delimiter regex fuel).map (s ++ ·)
    match ← char with
    | none => return none
    | some '\n' =>
      unread (some '\n')
      return none
    | some c =>
      if c = delimiter then return some []
      else if c = '\\' then
        match ← char with
        | none => return none
        | some d =>
          if d = 'n' && regex then more ['\n']
          else if d = '\n' then more ['\n']
          else if d = delimiter && (regex || d != '&') then more [d]
          else more ['\\', d]
      else if c = '[' && regex then
        let s ← rest
        match bracketed? s with
        | some set =>
          skip set.length
          more ('[' :: set)
        | none =>
          skip (s.takeWhile (· != '\n')).length
          return none
      else more [c]

def between (delimiter : Char) (regex : Bool) : Scan (Option (List Char)) := do
  delimited delimiter regex ((← rest).length + 1)

/-! ## Escapes -/

/-- The character of an escape after its backslash, and what follows it. -/
def escape? (s : List Char) : Option (Char × List Char) :=
  let coded (base width : Nat) (isDigit : Char → Bool) (rest : List Char) :
      Option (Char × List Char) :=
    let ds := (rest.take width).takeWhile isDigit
    if ds.isEmpty then none
    else some (Char.ofNat (value base ds % 256), rest.drop ds.length)
  match s with
  | 'a' :: rest => some ('\x07', rest)
  | 'f' :: rest => some ('\x0c', rest)
  | 'r' :: rest => some ('\r', rest)
  | 't' :: rest => some ('\t', rest)
  | 'v' :: rest => some ('\x0b', rest)
  | 'c' :: c :: rest => some (Char.ofNat (c.toUpper.toNat ^^^ 64), rest)
  | 'd' :: rest => coded 10 3 Text.isDigit rest
  | 'o' :: rest => coded 8 3 (fun c => '0' ≤ c && c ≤ '7') rest
  | 'x' :: rest => coded 16 2 isHexadecimal rest
  | _ => none
where
  value (base : Nat) (ds : List Char) : Nat :=
    ds.foldl (fun n d => n * base + (if Text.isDigit d then Text.digitValue d
      else d.toLower.toNat - 'a'.toNat + 10)) 0

/-- An expression with its escapes replaced, also those in sets; those that mean more
than a character are left. -/
def resolved : Nat → List Char → List Char
  | 0, s => s
  | _, [] => []
  | fuel + 1, '\\' :: 'n' :: rest => '\n' :: resolved fuel rest
  | fuel + 1, '\\' :: c :: rest =>
    match escape? (c :: rest) with
    | some ('\\', rest) => '\\' :: resolved fuel rest
    | some (d, rest) => d :: resolved fuel rest
    | none => '\\' :: c :: resolved fuel rest
  | fuel + 1, c :: rest => c :: resolved fuel rest

/-- Whether an expression has a set that looks like the name of a class. -/
def hasLoneClass : Nat → List Char → Bool
  | 0, _ => false
  | fuel + 1, s =>
    match s with
    | [] => false
    | '\\' :: _ :: rest => hasLoneClass fuel rest
    | '[' :: rest =>
      match bracketed? rest with
      | some set =>
        let inner := (set.drop 1).dropLast
        set.head? = some ':' && 1 < inner.length && inner.getLast? = some ':'
          || hasLoneClass fuel (rest.drop set.length)
      | none => false
    | _ :: rest => hasLoneClass fuel rest

/-- An expression that may use `groups` in what replaces it. Where nothing is written
it is the one that was used last. -/
def pattern (s : List Char) (anyCase lines : Bool) (groups : Nat) : Scan Pattern := do
  if s.isEmpty then
    if anyCase || lines then refuse "cannot specify modifiers on empty regexp" else return none
  else
    let text := resolved (s.length + 1) s
    if hasLoneClass (text.length + 1) text then
      throw ⟨"character class syntax is [[:space:]], not [:space:]".toList, 4⟩
    match Reading.expression (← get).extended text with
    | .ok (e, n) =>
      if n < groups then
        refuse s!"invalid reference \\{groups} on \x60s' command's RHS"
      else return some ⟨e, anyCase, lines⟩
    | .error why => refuse why

/-- The pieces of a replacement. -/
def pieces : Nat → List Char → List Piece
  | 0, _ => []
  | _, [] => []
  | fuel + 1, '&' :: rest => .group 0 :: pieces fuel rest
  | fuel + 1, '\\' :: c :: rest =>
    match c with
    | 'U' => .case .upper :: pieces fuel rest
    | 'L' => .case .lower :: pieces fuel rest
    | 'u' => .case .nextUpper :: pieces fuel rest
    | 'l' => .case .nextLower :: pieces fuel rest
    | 'E' => .case .asIs :: pieces fuel rest
    | 'n' => .text ['\n'] :: pieces fuel rest
    | c =>
      if Text.isDigit c then .group (Text.digitValue c) :: pieces fuel rest
      else
        match escape? (c :: rest) with
        | some (d, rest) => .text [d] :: pieces fuel rest
        | none => .text [c] :: pieces fuel rest
  | fuel + 1, c :: rest => .text [c] :: pieces fuel rest

def groupsOf (ps : List Piece) : Nat :=
  ps.foldl (fun n p => match p with
    | .group m => max n m
    | _ => n) 0

/-! ## Addresses -/

/-- The modifiers of an expression in an address: without regard to case, and with
lines. -/
def modifiers : Nat → Bool → Bool → Scan (Bool × Bool)
  | 0, anyCase, lines => return (anyCase, lines)
  | fuel + 1, anyCase, lines => do
    match ← nonblank with
    | some 'I' => modifiers fuel true lines
    | some 'M' => modifiers fuel anyCase true
    | c =>
      unread c
      return (anyCase, lines)

/-- The number after a sign. -/
def numberAfter : Scan Nat := do
  match ← nonblank with
  | some c =>
    if Text.isDigit c then number c
    else
      unread (some c)
      return 0
  | none => return 0

/-- The address that begins with a character, if one does. -/
def address (c : Option Char) : Scan (Option Address) := do
  match c with
  | none => return none
  | some c =>
    if c = '/' || c = '\\' then
      let delimiter ← if c = '\\' then char else pure (some c)
      match delimiter with
      | none => refuse "unterminated address regex"
      | some delimiter =>
        match ← between delimiter true with
        | none => refuse "unterminated address regex"
        | some s =>
          let (anyCase, lines) ← modifiers ((← rest).length + 1) false false
          return some (.pattern (← pattern s anyCase lines 0))
    else if Text.isDigit c then
      let n ← number c
      match ← nonblank with
      | some '~' =>
        let step ← numberAfter
        return some (if step = 0 then .line n else .step n step)
      | d =>
        unread d
        return some (.line n)
    else if c = '+' then return some (.plus (← numberAfter))
    else if c = '~' then return some (.multiple (← numberAfter))
    else if c = '$' then return some .last
    else return none

/-- The selector that begins with a character, and the first one after it. -/
def selector (c : Option Char) : Scan (Selector × Option Char) := do
  match ← address c with
  | none => return (.always, c)
  | some a =>
    match a with
    | .plus _ | .multiple _ => refuse "invalid usage of +N or ~N as first address"
    | _ => pure ()
    let c ← nonblank
    let (s, c) ← match c with
      | some ',' =>
        match ← address (← nonblank) with
        | none => refuse "unexpected \x60,'"
        | some b => pure (Selector.range a b, ← nonblank)
      | c => pure (Selector.one a, c)
    match s with
    | .one (.line 0) => refuse "invalid usage of line address 0"
    | .range (.line 0) (.pattern _) => return (s, c)
    | .range (.line 0) _ => refuse "invalid usage of line address 0"
    | s => return (s, c)

/-! ## Commands -/

/-- The rest of the line as the name of a file. -/
def fileName : Scan (List Char) := do
  let c ← nonblank
  unread c
  let s ← takeWhile (· != '\n')
  let _ ← char
  if s.isEmpty then refuse "missing filename in r/R/w/W commands" else return s

/-- The rest of the line as the name of a file that is written. -/
def outputName : Scan (List Char) := do
  let name ← fileName
  match (← get).obstacle? name with
  | some why =>
    throw ⟨"couldn't open file ".toList ++ name ++ ": ".toList ++ why.toList, 4⟩
  | none => return name

def labelName : Scan (List Char) := do
  let c ← nonblank
  unread c
  takeWhile fun c => !(isSpace c || c == ';' || c == '\x7d')

/-- The text of a command up to the end of a line that no backslash continues. -/
def textLines : Nat → Scan (List Char)
  | 0 => return []
  | fuel + 1 => do
    match ← char with
    | none => return ['\n']
    | some '\n' => return ['\n']
    | some '\\' =>
      let s ← rest
      match escape? s with
      | some (c, rest) =>
        skip (s.length - rest.length)
        return c :: (← textLines fuel)
      | none =>
        match ← char with
        | none => return ['\n']
        | some 'n' => return '\n' :: (← textLines fuel)
        | some c => return c :: (← textLines fuel)
    | some c => return c :: (← textLines fuel)

def textToEnd : Scan (List Char) := do textLines ((← rest).length + 1)

/-- The text of a command. Behind a backslash it begins as it stands, on the same line
or the next one, which may be in the next script. -/
def commandText : Scan (List Char) := do
  match ← nonblank with
  | none => refuse "expected \\ after \x60a', \x60c' or \x60i'"
  | some '\\' =>
    match ← char with
    | none =>
      modify fun s => { s with pending := true }
      return []
    | some '\n' =>
      if (← rest).isEmpty then
        modify fun s => { s with pending := true }
        return []
      else textToEnd
    | some c =>
      unread (some c)
      textFrom
  | some c =>
    unread (some c)
    textToEnd
where
  /-- The first character is taken as it is. -/
  textFrom : Scan (List Char) := do
    match ← char with
    | some c => return c :: (← textToEnd)
    | none => return []

/-- The options of a substitution as they are being read. -/
structure Options where
  anyCase : Bool
  lines : Bool
  everywhere : Bool
  first : Option Nat
  print : Bool
  file : Option (List Char)

def substituteOptions : Nat → Options → Scan Options
  | 0, o => return o
  | fuel + 1, o => do
    match ← char with
    | none | some '\n' | some ';' => return o
    | some c =>
      match c with
      | 'i' | 'I' => substituteOptions fuel { o with anyCase := true }
      | 'm' | 'M' => substituteOptions fuel { o with lines := true }
      | 'p' =>
        if o.print then refuse "multiple \x60p' options to \x60s' command"
        else substituteOptions fuel { o with print := true }
      | 'g' =>
        if o.everywhere then refuse "multiple \x60g' options to \x60s' command"
        else substituteOptions fuel { o with everywhere := true }
      | 'w' => return { o with file := some (← outputName) }
      | '\x7d' | '#' =>
        unread (some c)
        return o
      | ' ' | '\t' => substituteOptions fuel o
      | c =>
        if Text.isDigit c then
          if o.first.isSome then refuse "multiple number options to \x60s' command"
          else
            let n ← number c
            if n = 0 then refuse "number option to \x60s' command may not be zero"
            else substituteOptions fuel { o with first := some n }
        else refuse "unknown option to \x60s'"

def substitution : Scan Action := do
  let unterminated {α : Type} : Scan α := refuse "unterminated \x60s' command"
  match ← char with
  | none => unterminated
  | some delimiter =>
    match ← between delimiter true with
    | none => unterminated
    | some regex =>
      match ← between delimiter false with
      | none => unterminated
      | some by_ =>
        let ps := pieces (by_.length + 1) by_
        let o ← substituteOptions ((← rest).length + 1) ⟨false, false, false, none, false, none⟩
        let p ← pattern regex o.anyCase o.lines (groupsOf ps)
        return .substitute ⟨p, ps, o.everywhere, o.first.getD 1, o.print, o.file⟩

/-- The characters of a list that is exchanged. -/
def exchanged : Nat → List Char → List Char
  | 0, _ => []
  | _, [] => []
  | fuel + 1, '\\' :: c :: rest =>
    match c, escape? (c :: rest) with
    | 'n', _ => '\n' :: exchanged fuel rest
    | _, some (d, rest) => d :: exchanged fuel rest
    | c, none => c :: exchanged fuel rest
  | fuel + 1, c :: rest => c :: exchanged fuel rest

def transformation : Scan Action := do
  let unterminated {α : Type} : Scan α := refuse "unterminated \x60y' command"
  match ← char with
  | none => unterminated
  | some delimiter =>
    match ← between delimiter false with
    | none => unterminated
    | some a =>
      match ← between delimiter false with
      | none => unterminated
      | some b =>
        let a := exchanged (a.length + 1) a
        let b := exchanged (b.length + 1) b
        if a.length ≠ b.length then refuse "strings for \x60y' command are different lengths"
        else
          endOfCommand
          return .transform (a.zip b)

/-- The number that a command may be given. -/
def optionalNumber : Scan (Option Nat) := do
  match ← nonblank with
  | some c =>
    if Text.isDigit c then
      let n ← number c
      endOfCommand
      return some n
    else
      unread (some c)
      endOfCommand
      return none
  | none => return none

def hasTwoAddresses : Selector → Bool
  | .range _ _ => true
  | _ => false

def isAlways : Selector → Bool
  | .always => true
  | _ => false

/-- Commands that are a letter alone. -/
def plain? : Char → Option Action
  | '=' => some .number
  | 'd' => some .delete
  | 'D' => some .deleteFirst
  | 'F' => some .fileName
  | 'g' => some .get
  | 'G' => some .getMore
  | 'h' => some .hold
  | 'H' => some .holdMore
  | 'n' => some .next
  | 'N' => some .appendNext
  | 'p' => some .print
  | 'P' => some .printFirst
  | 'z' => some .clear
  | 'x' => some .exchange
  | _ => none

/-- Whether a version is not newer than the one whose commands are known. -/
def isKnown (version : List Char) : Bool :=
  match (version.splitOn '.').mapM Text.natural? with
  | some ns => !decide ([4, 9] < ns)
  | none => version.isEmpty

/-- The action that a letter begins. -/
def action (selector : Selector) (c : Char) : Scan Action := do
  match plain? c with
  | some a =>
    endOfCommand
    return a
  | none =>
    match c with
    | '\x7b' => return .block
    | '\x7d' =>
      if (← get).blocks.isEmpty then refuse "unexpected \x60\x7d'"
      else if !isAlways selector then refuse "\x7d doesn't want any addresses"
      else
        endOfCommand
        return .close
    | 'a' => return .append (← commandText)
    | 'i' => return .insert (← commandText)
    | 'c' => return .change (← commandText)
    | ':' =>
      if !isAlways selector then refuse ": doesn't want any addresses"
      else
        let name ← labelName
        if name.isEmpty then refuse "\":\" lacks a label" else return .label name
    | 'b' => return .branch (← labelName)
    | 't' => return .branchIf true (← labelName)
    | 'T' => return .branchIf false (← labelName)
    | 'q' | 'Q' =>
      if hasTwoAddresses selector then refuse "command only uses one address"
      else return .quit (c == 'Q') ((← optionalNumber).getD 0)
    | 'l' => return .show (← optionalNumber)
    | 'r' => return .read (← fileName)
    | 'R' => return .readLine (← fileName)
    | 'w' => return .write (← outputName)
    | 'W' => return .writeFirst (← outputName)
    | 's' => substitution
    | 'y' => transformation
    | 'v' =>
      if isKnown (← labelName) then return .nothing
      else refuse "expected newer version of sed"
    | c => refuse s!"unknown command: \x60{c}'"

/-- Add a command. -/
def add (c : Command) : Scan Unit := modify fun s => { s with commands := c :: s.commands }

/-- Give a command that has been read the place it jumps to. -/
def setJump (place target : Nat) (commands : List Command) : List Command :=
  let n := commands.length - 1 - place
  commands.modify n fun c => { c with jump := some target }

/-- Fill in the text that the last command waits for. -/
def giveText (text : List Char) : List Command → List Command
  | c :: rest =>
    { c with
      action := match c.action with
        | .append _ => .append text
        | .insert _ => .insert text
        | .change _ => .change text
        | a => a } :: rest
  | [] => []

/-- Read one command after the other. -/
def commands : Nat → Scan Unit
  | 0 => return ()
  | fuel + 1 => do
    let _ ← takeWhile fun c => isSpace c || c == ';'
    match ← char with
    | none => return ()
    | first =>
      let (s, c) ← selector first
      let (negated, c) ← match c with
        | some '!' =>
          match ← nonblank with
          | some '!' => refuse "multiple \x60!'s"
          | c => pure (true, c)
        | c => pure (false, c)
      match c with
      | none => refuse "missing command"
      | some '#' =>
        if !isAlways s then refuse "comments don't accept any addresses"
        else
          let text ← takeWhile (· != '\n')
          let st ← get
          if text = ['n'] && st.taken = 2 && st.commands.isEmpty && isFirst st.origin then
            modify fun s => { s with quiet := true }
          commands fuel
      | some c =>
        let a ← action s c
        let st ← get
        let here := st.commands.length
        add ⟨s, negated, a, none⟩
        match a, st.blocks with
        | .block, _ => modify fun s => { s with blocks := (here, s.origin) :: s.blocks }
        | .close, (place, _) :: more =>
          modify fun s => { s with blocks := more, commands := setJump place here s.commands }
        | _, _ => pure ()
        commands fuel
where
  isFirst : Origin → Bool
    | .expression n => n == 1
    | .file _ => true

/-- Read a script behind those that have been read. -/
def script (origin : Origin) (text : List Char) (s : Source) : Except Trouble Source := do
  let start := { s with origin, rest := text, taken := 0, line := 1 }
  let read : Scan Unit := do
    if s.pending then
      let text ← textToEnd
      modify fun s => { s with pending := false, commands := giveText text s.commands }
    commands (text.length + 1)
  return (← read start).2

/-- The place of a label. -/
def target? (commands : List Command) (name : List Char) : Option Nat :=
  commands.findIdx? fun c => match c.action with
    | .label n => n = name
    | _ => false

/-- Find the places of labels. -/
def linked (commands : List Command) : Except Trouble (List Command) :=
  commands.mapM fun c => do
    let jump (name : List Char) : Except Trouble Command :=
      if name.isEmpty then .ok c
      else
        match target? commands name with
        | some n => .ok { c with jump := some n }
        | none => .error ⟨"can't find label for jump to \x60".toList ++ name ++ ['\''], 4⟩
    match c.action with
    | .branch name => jump name
    | .branchIf _ name => jump name
    | _ => return c

/-- Read all scripts. Whether the first one asks not to print is told as well. -/
def program (extended : Bool) (obstacle? : List Char → Option String)
    (scripts : List (Origin × List Char)) : Except Trouble (List Command × Bool) := do
  let start : Source := ⟨.expression 0, extended, [], 0, 1, [], [], false, false, obstacle?⟩
  let s ← scripts.foldlM (fun s (origin, text) => script origin text s) start
  match s.blocks.head? with
  | some (_, origin) => throw (trouble origin 0 0 "unmatched \x60\x7b'".toList)
  | none => return (← linked s.commands.reverse, s.quiet)

end Reader
end Sed
end Shell
end ClusterRig
