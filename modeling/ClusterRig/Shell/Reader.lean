import ClusterRig.Shell.Syntax
import ClusterRig.Text.Numeral

/-!
# Reading scripts

A script is read one command line at a time, by descent over its tokens. What a
document in the script holds is read when the line that announces it has ended.
Every function takes a bound on its steps. Where the syntax is wrong the reading
ends with the line and what was found there.
-/

namespace ClusterRig
namespace Shell

structure SyntaxError where
  line : Nat
  reason : String

/-- A document that the next line break begins: its number, the line that ends it,
whether its text is taken as it is, and whether tabs before its lines are dropped. -/
structure Announced where
  number : Nat
  delimiter : List Char
  verbatim : Bool
  dropTabs : Bool

inductive Token
  | word (w : Word)
  | redirection (r : Word → Redirection)
  /-- The announcement of a document, with its descriptor. -/
  | document (fd : Nat) (dropTabs : Bool)
  /-- A reserved word or an operator. -/
  | mark (s : String)
  | newline
  | stop

/-- What is left of a script, with the line it begins on, a token that was read ahead,
the documents that wait for the end of the line, and those that have been read. -/
structure Source where
  rest : List Char
  line : Nat
  ahead : Option Token
  announced : List Announced
  documents : List (Nat × Word)
  fresh : Nat

abbrev Reading := StateT Source (Except SyntaxError)

namespace Reading

def refuse {α : Type} (reason : String) : Reading α := fun s => .error ⟨s.line, reason⟩

def rest : Reading (List Char) := fun s => .ok (s.rest, s)

def setRest (cs : List Char) : Reading Unit := fun s => .ok ((), { s with rest := cs })

/-- Pass over characters and count the lines in them. -/
def advance (n : Nat) : Reading Unit := fun s =>
  .ok ((), { s with rest := s.rest.drop n, line := s.line + (s.rest.take n).count '\n' })

/-- Drop continued lines. -/
def unfolded : List Char → List Char
  | '\\' :: '\n' :: rest => unfolded rest
  | s => s

/-- What follows after continued lines are dropped. -/
def look : Reading (List Char) := fun s =>
  let rest := unfolded s.rest
  .ok (rest, { s with rest, line := s.line + (s.rest.length - rest.length) / 2 })

end Reading

namespace Reader

open Reading

def isBlank (c : Char) : Bool := c == ' ' || c == '\t'

/-- Characters that end a word unless quoted. -/
def isMeta (c : Char) : Bool := isBlank c || ['\n', ';', '&', '|', '<', '>', '(', ')'].contains c

def isNameStart (c : Char) : Bool := c.isAlpha || c == '_'

def isNameChar (c : Char) : Bool := c.isAlphanum || c == '_'

def isName (s : List Char) : Bool := s.head?.any isNameStart && s.all isNameChar

/-- A parameter named by one character, other than by a letter. -/
def isSpecial (c : Char) : Bool := Text.isDigit c || ['@', '*', '#', '?', '$', '!', '-'].contains c

def keywords : List String :=
  ["!", "case", "do", "done", "elif", "else", "esac", "fi", "for", "if", "in", "then", "until",
    "while", "\x7b", "\x7d"]

/-- The words and operators after which a list of commands has ended. -/
def closers : List String :=
  [")", ";;", "do", "done", "elif", "else", "esac", "fi", "then", "\x7d"]

/-- How a token is called where it is not expected. -/
def Token.name : Token → String
  | .word _ => "word"
  | .redirection _ | .document _ _ => "redirection"
  | .mark s => "\"" ++ s ++ "\""
  | .newline => "newline"
  | .stop => "end of file"

def unexpected {α : Type} (t : Token) : Reading α := refuse (Token.name t ++ " unexpected")

def unexpectedFor {α : Type} (t : Token) (wanted : String) : Reading α :=
  refuse (Token.name t ++ " unexpected (expecting \"" ++ wanted ++ "\")")

/-- What surrounds the parts of a word. -/
inductive Setting
  | bare
  | quotes
  | document
  /-- After the name of a parameter in braces, which may be in a document. -/
  | braces (within inDocument : Bool)
  /-- In an arithmetic expression, with the number of parentheses that are open. -/
  | arithmetic (depth : Nat)

/-- Whether the text in a setting counts as quoted. -/
def Setting.isQuoted : Setting → Bool
  | .bare => false
  | .quotes => true
  | .document => true
  | .braces within _ => within
  | .arithmetic _ => true

def Setting.isDocument : Setting → Bool
  | .document => true
  | .braces _ inDocument => inDocument
  | _ => false

/-- Characters that a backslash quotes where it is quoted itself. -/
def isQuotable (setting : Setting) (c : Char) : Bool :=
  ['$', '\x60', '\\'].contains c
    || match setting with
      | .document => false
      | .braces _ _ => c == '"' || c == '\x7d'
      | _ => c == '"'

/-- The script between backquotes, up to the closing one. A backslash before a
dollar sign, a backquote or a backslash is left out, within double quotes also one
before these. -/
def backquoted (quoted : Bool) : List Char → Option (List Char × List Char)
  | [] => none
  | '\x60' :: rest => some ([], rest)
  | '\\' :: '\n' :: rest => backquoted quoted rest
  | '\\' :: c :: rest =>
    (backquoted quoted rest).map fun (s, rest) =>
      (if ['$', '\x60', '\\'].contains c || (quoted && c == '"') then c :: s else '\\' :: c :: s,
        rest)
  | c :: rest => (backquoted quoted rest).map fun (s, rest) => (c :: s, rest)

/-- How a parameter in braces is used, and what follows the sign that says so. -/
def use? : List Char → Option (Use × List Char)
  | ':' :: '-' :: s => some (.orElse true, s)
  | ':' :: '=' :: s => some (.orAssign true, s)
  | ':' :: '?' :: s => some (.orFail true, s)
  | ':' :: '+' :: s => some (.ifSet true, s)
  | '-' :: s => some (.orElse false, s)
  | '=' :: s => some (.orAssign false, s)
  | '?' :: s => some (.orFail false, s)
  | '+' :: s => some (.ifSet false, s)
  | '#' :: '#' :: s => some (.cut false true, s)
  | '#' :: s => some (.cut false false, s)
  | '%' :: '%' :: s => some (.cut true true, s)
  | '%' :: s => some (.cut true false, s)
  | _ => none

/-- The name of a parameter in braces, and what follows it. -/
def bracedName (s : List Char) : List Char × List Char :=
  match s with
  | c :: rest =>
    if isNameStart c then (s.takeWhile isNameChar, s.dropWhile isNameChar)
    else if Text.isDigit c then (s.takeWhile Text.isDigit, s.dropWhile Text.isDigit)
    else if isSpecial c then ([c], rest)
    else ([], s)
  | [] => ([], [])

/-- The name of an assignment at the start of a word, and its value. -/
def assignment? (w : Word) : Option (List Char × Word) :=
  match w with
  | .text false s :: rest =>
    let name := s.takeWhile isNameChar
    match s.dropWhile isNameChar with
    | '=' :: more =>
      if isName name then
        some (name, if more.isEmpty then rest else .text false more :: rest)
      else none
    | _ => none
  | _ => none

/-- Put neighbouring texts of a word together. -/
def joinTexts : Word → Word
  | .text a s :: rest =>
    match joinTexts rest with
    | .text b t :: more =>
      if a == b then .text a (s ++ t) :: more else .text a s :: .text b t :: more
    | more => .text a s :: more
  | p :: rest => p :: joinTexts rest
  | [] => []

/-- The parts of a word from between double quotes. They make a word even without any
text, unless they are the list of all arguments alone. -/
def inQuotes (w : Word) : Word :=
  match w with
  | [.parameter true ['@'] .plain []] => w
  | w => .text true [] :: w

/-- A command that gets redirections. Those of a subshell that stands alone between braces
give way to these. -/
def unwrapped : Command → Command
  | .redirected _ (.subshell c) _ => .subshell c
  | c => c

/-- Whether the line break after a line is quoted. -/
def endsQuoted (line : List Char) : Bool :=
  (line.reverse.takeWhile (· == '\\')).length % 2 = 1

/-- The lines of a document, up to the one that ends it, and what follows that. A line
that continues another one does not end it. -/
def documentLines (a : Announced) : Nat → Bool → List Char → List Char × List Char
  | 0, _, s => ([], s)
  | fuel + 1, continued, s =>
    if s.isEmpty then ([], [])
    else
      let s := if a.dropTabs && !continued then s.dropWhile (· == '\t') else s
      let line := s.takeWhile (· != '\n')
      let rest := s.dropWhile (· != '\n')
      if line = a.delimiter && !continued then ([], rest.drop 1)
      else
        let (more, after) := documentLines a fuel (!a.verbatim && endsQuoted line) (rest.drop 1)
        (line ++ rest.take 1 ++ more, after)

/-- A function for writing to the place that a word names. -/
def output (fd : Nat) (how : Writing) (w : Word) : Redirection := .write fd how w

/-- The characters up to a closing single quote. -/
def singleQuoted : Reading (List Char) := do
  let s ← rest
  let inner := s.takeWhile (· != '\'')
  advance inner.length
  match ← rest with
  | _ :: _ =>
    advance 1
    return inner
  | [] => refuse "Unterminated quoted string"

/-- A redirection after its first sign, which stood for input or for output. -/
def direction (fd : Option Nat) (input : Bool) : Reading Token := do
  let s ← look
  if input then
    let fd := fd.getD 0
    match s with
    | '<' :: after =>
      setRest after
      match ← look with
      | '-' :: after =>
        setRest after
        return .document fd true
      | _ => return .document fd false
    | '&' :: after =>
      setRest after
      return .redirection (.copy fd)
    | '>' :: after =>
      setRest after
      return .redirection (.read fd)
    | _ => return .redirection (.read fd)
  else
    let fd := fd.getD 1
    match s with
    | '>' :: after =>
      setRest after
      return .redirection (output fd .atEnd)
    | '|' :: after =>
      setRest after
      return .redirection (output fd .forced)
    | '&' :: after =>
      setRest after
      return .redirection (.copy fd)
    | _ => return .redirection (output fd .anew)

/-- Names of commands that no function can have. -/
def isReservedName (name : List Char) : Bool :=
  [".", ":", "break", "continue", "eval", "exec", "exit", "export", "readonly", "return", "set",
    "shift", "times", "trap", "unset"].contains (String.ofList name)

mutual

/-- What a dollar sign stands for. Alone it stands for itself. -/
def dollar : Nat → Setting → Reading Part
  | 0, _ => refuse "too long"
  | fuel + 1, setting => do
    let quoted := setting.isQuoted
    match ← look with
    | '(' :: rest =>
      setRest rest
      match ← look with
      | '(' :: rest =>
        setRest rest
        let e ← parts fuel (.arithmetic 0)
        return .arithmetic quoted (joinTexts e)
      | _ =>
        let c ← list fuel true
        match ← next fuel false false with
        | .mark ")" => return .output quoted c
        | t => unexpectedFor t ")"
    | '\x7b' :: rest =>
      setRest rest
      braced fuel setting
    | c :: rest =>
      if isNameStart c then
        let s := c :: rest
        setRest (s.dropWhile isNameChar)
        return .parameter quoted (s.takeWhile isNameChar) .plain []
      else if isSpecial c then
        setRest rest
        return .parameter quoted [c] .plain []
      else return .text quoted ['$']
    | [] => return .text quoted ['$']

/-- A parameter in braces, after the opening one. -/
def braced : Nat → Setting → Reading Part
  | 0, _ => refuse "too long"
  | fuel + 1, setting => do
    let quoted := setting.isQuoted
    let finish (name : List Char) (use : Use) (operandQuoted : Bool) : Reading Part := do
      let operand ← parts fuel (.braces operandQuoted setting.isDocument)
      advance 1
      return .parameter quoted name use (joinTexts operand)
    let s ← look
    let length? := match s with
      | '#' :: rest =>
        let (name, after) := bracedName rest
        match after with
        | '\x7d' :: after => if name.isEmpty then none else some (name, after)
        | _ => none
      | _ => none
    match length? with
    | some (name, after) =>
      setRest after
      return .parameter quoted name .length []
    | none =>
      let (name, after) := bracedName s
      match after, use? after with
      | '\x7d' :: after, _ =>
        setRest after
        return if name.isEmpty then .malformed else .parameter quoted name .plain []
      | _, some (use, after) =>
        setRest after
        if name.isEmpty then
          let _ ← finish name use quoted
          return .malformed
        else
          match use with
          | .cut _ _ => finish name use false
          | _ => finish name use quoted
      | _, none =>
        setRest (match after with
          | ':' :: _ :: after => after
          | after => after.drop 1)
        let _ ← finish name .plain quoted
        return .malformed

/-- The output of a script between backquotes, after the first of them. -/
def backquote : Nat → Bool → Reading Part
  | 0, _ => refuse "too long"
  | fuel + 1, quoted => do
    match backquoted quoted (← rest) with
    | none => refuse "EOF in backquote substitution"
    | some (inner, after) =>
      let outer ← get
      set { outer with rest := inner, ahead := none, announced := [] }
      let c ← list fuel true
      match ← next fuel false false with
      | .stop =>
        modify fun s => { s with rest := after, ahead := none, announced := outer.announced }
        return .output quoted c
      | t => unexpectedFor t "\x60"

/-- The parts of a word in a setting, up to what ends them. -/
def parts : Nat → Setting → Reading Word
  | 0, _ => refuse "too long"
  | fuel + 1, setting => do
    let one (n : Nat) (quoted : Bool) (s : List Char) : Reading Word := do
      advance n
      return .text quoted s :: (← parts fuel setting)
    match ← look with
    | [] =>
      match setting with
      | .bare | .document => return []
      | .quotes => refuse "Unterminated quoted string"
      | .braces within inDocument =>
        refuse (if within && !inDocument then "Unterminated quoted string" else "Missing '\x7d'")
      | .arithmetic _ => refuse "Missing '))'"
    | '\\' :: c :: _ =>
      if !setting.isQuoted then one 2 true [c]
      else if isQuotable setting c then one 2 true [c]
      else one 1 true ['\\']
    | '$' :: tail =>
      setRest tail
      let p ← dollar fuel setting
      return p :: (← parts fuel setting)
    | '\x60' :: tail =>
      setRest tail
      let p ← backquote fuel setting.isQuoted
      return p :: (← parts fuel setting)
    | c :: tail =>
      match setting with
      | .bare =>
        if isMeta c then return []
        else if c = '\'' then
          setRest tail
          let s ← singleQuoted
          return .text true s :: (← parts fuel setting)
        else if c = '"' then
          setRest tail
          let w ← parts fuel .quotes
          advance 1
          return inQuotes w ++ (← parts fuel setting)
        else one 1 false [c]
      | .quotes => if c = '"' then return [] else one 1 true [c]
      | .document => one 1 true [c]
      | .braces false _ =>
        if c = '\x7d' then return []
        else if c = '\'' then
          setRest tail
          let s ← singleQuoted
          return .text true s :: (← parts fuel setting)
        else if c = '"' then
          setRest tail
          let w ← parts fuel .quotes
          advance 1
          return inQuotes w ++ (← parts fuel setting)
        else one 1 false [c]
      | .braces true _ =>
        if c = '\x7d' then return []
        else if c = '"' then
          setRest tail
          parts fuel setting
        else one 1 true [c]
      | .arithmetic depth =>
        if c = '(' then
          advance 1
          return .text true [c] :: (← parts fuel (.arithmetic (depth + 1)))
        else if c = ')' then
          advance 1
          if 0 < depth then return .text true [c] :: (← parts fuel (.arithmetic (depth - 1)))
          else
            match ← look with
            | ')' :: after =>
              setRest after
              return []
            | _ => one 0 true [c]
        else if c = '"' then
          advance 1
          parts fuel setting
        else one 1 true [c]

/-- Read the documents that wait for the end of the line. -/
def readDocuments : Nat → Reading Unit
  | 0 => refuse "too long"
  | fuel + 1 => do
    match (← get).announced with
    | [] => return ()
    | a :: more =>
      let s ← rest
      let (text, after) := documentLines a (s.length + 1) false s
      modify fun st => { st with rest := after, announced := more }
      let w ← if a.verbatim then pure [.text true text]
        else do
          let outer ← get
          set { outer with rest := text, announced := [] }
          let w ← parts fuel .document
          modify fun st => { st with rest := after, announced := more, line := outer.line }
          pure (joinTexts w)
      modify fun st =>
        { st with
          documents := (a.number, w) :: st.documents
          line := st.line + s.count '\n' - after.count '\n' }
      readDocuments fuel

/-- The next token from the text. -/
def scan : Nat → Reading Token
  | 0 => refuse "too long"
  | fuel + 1 => do
    let mark (n : Nat) (s : String) : Reading Token := do
      advance n
      return .mark s
    let second : Reading (Option Char) := do
      advance 1
      return (← look).head?
    match ← look with
    | [] =>
      readDocuments fuel
      return .stop
    | '#' :: tail =>
      setRest (tail.dropWhile (· != '\n'))
      scan fuel
    | '\n' :: _ =>
      advance 1
      readDocuments fuel
      return .newline
    | '&' :: _ => if (← second) = some '&' then mark 1 "&&" else mark 0 "&"
    | '|' :: _ => if (← second) = some '|' then mark 1 "||" else mark 0 "|"
    | ';' :: _ => if (← second) = some ';' then mark 1 ";;" else mark 0 ";"
    | '(' :: _ => mark 1 "("
    | ')' :: _ => mark 1 ")"
    | '>' :: _ =>
      advance 1
      direction none false
    | '<' :: _ =>
      advance 1
      direction none true
    | c :: tail =>
      if isBlank c then
        advance 1
        scan fuel
      else
        match Text.isDigit c, unfolded tail with
        | true, '>' :: _ =>
          advance 1
          let _ ← look
          advance 1
          direction (some (Text.digitValue c)) false
        | true, '<' :: _ =>
          advance 1
          let _ ← look
          advance 1
          direction (some (Text.digitValue c)) true
        | _, _ => return .word (joinTexts (← parts fuel .bare))

/-- The next token, after line breaks if `lines`. With `reserved` a plain word that is
reserved becomes a mark. -/
def next : Nat → Bool → Bool → Reading Token
  | 0, _, _ => refuse "too long"
  | fuel + 1, lines, reserved => do
    let t ← match (← get).ahead with
      | some t => do
        modify fun s => { s with ahead := none }
        pure t
      | none => scan fuel
    match t with
    | .newline => if lines then next fuel lines reserved else return t
    | .word w =>
      match reserved, w.plain? with
      | true, some s =>
        let s := String.ofList s
        return if keywords.contains s then .mark s else t
      | _, _ => return t
    | t => return t

/-- The place that a redirection names. -/
def target : Nat → Token → Reading Redirection
  | 0, _ => refuse "too long"
  | fuel + 1, t => do
    match ← next fuel false false with
    | .word w =>
      match t with
      | .redirection r => return r w
      | .document fd dropTabs =>
        let number := (← get).fresh
        modify fun s =>
          { s with
            fresh := number + 1
            announced := s.announced ++ [⟨number, w.literal, w.isQuoted, dropTabs⟩] }
        return .here fd number
      | t => unexpected t
    | t => unexpected t

/-- The redirections after a command. -/
def redirections : Nat → Reading (List Redirection)
  | 0 => refuse "too long"
  | fuel + 1 => do
    match ← next fuel false true with
    | .redirection r => return (← target fuel (.redirection r)) :: (← redirections fuel)
    | .document fd dropTabs =>
      return (← target fuel (.document fd dropTabs)) :: (← redirections fuel)
    | t =>
      modify fun s => { s with ahead := some t }
      return []

/-- The assignments, words and redirections of a simple command, in any order but
that assignments come before words, or the definition of a function. -/
def simple : Nat → Nat → List (List Char × Word) → List Word → List Redirection →
    Reading Command
  | 0, _, _, _, _ => refuse "too long"
  | fuel + 1, line, as, ws, rs => do
    match ← next fuel false false with
    | .word w =>
      match ws, assignment? w with
      | [], some a => simple fuel line (a :: as) ws rs
      | _, _ => simple fuel line as (w :: ws) rs
    | .redirection r => simple fuel line as ws ((← target fuel (.redirection r)) :: rs)
    | .document fd dropTabs =>
      simple fuel line as ws ((← target fuel (.document fd dropTabs)) :: rs)
    | t =>
      match t, as, ws, rs with
      | .mark "(", [], [w], [] =>
        match ← next fuel false false with
        | .mark ")" =>
          match w.plain? with
          | some name =>
            if isName name && !isReservedName name then
              match ← next fuel true true with
              | t =>
                modify fun s => { s with ahead := some t }
                return .define name (← command fuel)
            else refuse "Bad function name"
          | none => refuse "Bad function name"
        | t => unexpectedFor t ")"
      | t, as, ws, rs =>
        modify fun s => { s with ahead := some t }
        return .simple line as.reverse ws.reverse rs.reverse

/-- A mark that must follow. -/
def expect : Nat → String → Reading Unit
  | 0, _ => refuse "too long"
  | fuel + 1, wanted => do
    match ← next fuel false true with
    | .mark s => if s = wanted then return () else unexpectedFor (.mark s) wanted
    | t => unexpectedFor t wanted

/-- What follows the condition of a branch. -/
def branches : Nat → Reading Command
  | 0 => refuse "too long"
  | fuel + 1 => do
    let condition ← list fuel false
    expect fuel "then"
    let yes ← list fuel false
    match ← next fuel false true with
    | .mark "elif" => return .branch condition yes (← branches fuel)
    | .mark "else" =>
      let no ← list fuel false
      expect fuel "fi"
      return .branch condition yes no
    | .mark "fi" => return .branch condition yes .nothing
    | t => unexpectedFor t "fi"

/-- The words of a loop over values. -/
def values : Nat → Reading (List Word)
  | 0 => refuse "too long"
  | fuel + 1 => do
    match ← next fuel false false with
    | .word w => return w :: (← values fuel)
    | .newline | .mark ";" => return []
    | t => unexpected t

/-- The patterns of an arm after the first token, up to its closing parenthesis. -/
def patterns : Nat → Token → Reading (List Word)
  | 0, _ => refuse "too long"
  | fuel + 1, t => do
    let w : Word := match t with
      | .word w => w
      | .mark s => [.text false s.toList]
      | _ => []
    match ← next fuel false false with
    | .mark "|" => return w :: (← patterns fuel (← next fuel false false))
    | .mark ")" => return [w]
    | t => unexpectedFor t ")"

/-- The arms of a choice. -/
def arms : Nat → Reading (List (List Word × Command))
  | 0 => refuse "too long"
  | fuel + 1 => do
    match ← next fuel true true with
    | .mark "esac" => return []
    | t =>
      let first ← match t with
        | .mark "(" => next fuel false false
        | t => pure t
      let ps ← patterns fuel first
      let c ← list fuel true
      match ← next fuel true true with
      | .mark "esac" => return [(ps, c)]
      | .mark ";;" => return (ps, c) :: (← arms fuel)
      | t => unexpectedFor t ";;"

/-- One command with its redirections. -/
def command : Nat → Reading Command
  | 0 => refuse "too long"
  | fuel + 1 => do
    let line := (← get).line
    let t ← next fuel false true
    let body (wanted : String) (c : Command) : Reading (Option Command) := do
      expect fuel wanted
      return some c
    let found ← (match t with
      | .mark "if" => do return some (← branches fuel)
      | .mark "while" | .mark "until" => do
        let condition ← list fuel false
        expect fuel "do"
        let c ← list fuel false
        let untilTrue := match t with
          | .mark "until" => true
          | _ => false
        body "done" (.loop untilTrue condition c)
      | .mark "for" => do
        let name ← match ← next fuel false false with
          | .word w =>
            match w.plain? with
            | some name => if isName name then pure name else refuse "Bad for loop variable"
            | none => refuse "Bad for loop variable"
          | _ => refuse "Bad for loop variable"
        let ws ← match ← next fuel true true with
          | .mark "in" => values fuel
          | .mark ";" => pure [[.parameter true ['@'] .plain []]]
          | t => do
            modify fun s => { s with ahead := some t }
            pure [[.parameter true ['@'] .plain []]]
        match ← next fuel true true with
        | .mark "do" => pure ()
        | t => unexpectedFor t "do"
        let c ← list fuel false
        body "done" (.each line name ws c)
      | .mark "case" => do
        let subject ← match ← next fuel false false with
          | .word w => pure w
          | t => refuse (Token.name t ++ " unexpected (expecting word)")
        match ← next fuel true true with
        | .mark "in" => pure ()
        | t => unexpectedFor t "in"
        return some (.choose line subject (← arms fuel))
      | .mark "(" => do
        let c ← list fuel false
        body ")" (.subshell c)
      | .mark "\x7b" => do
        let c ← list fuel false
        body "\x7d" c
      | .word _ | .redirection _ | .document _ _ => do
        modify fun s => { s with ahead := some t }
        pure none
      | t => unexpected t : Reading (Option Command))
    match found with
    | some c =>
      let rs ← redirections fuel
      return if rs.isEmpty then c else .redirected line (unwrapped c) rs
    | none => simple fuel line [] [] []

/-- Commands with pipes between them, after the first. -/
def piped : Nat → Command → Reading Command
  | 0, _ => refuse "too long"
  | fuel + 1, c => do
    match ← next fuel false false with
    | .mark "|" =>
      let t ← next fuel true true
      modify fun s => { s with ahead := some t }
      let d ← command fuel
      return .pipe c (← piped fuel d)
    | t =>
      modify fun s => { s with ahead := some t }
      return c

def pipeline : Nat → Reading Command
  | 0 => refuse "too long"
  | fuel + 1 => do
    match ← next fuel false true with
    | .mark "!" => do
      let t ← next fuel false true
      modify fun s => { s with ahead := some t }
      return .negated (← piped fuel (← command fuel))
    | t =>
      modify fun s => { s with ahead := some t }
      piped fuel (← command fuel)

/-- Go on after a pipeline with those that depend on how it ends. -/
def chain : Nat → Command → Reading Command
  | 0, _ => refuse "too long"
  | fuel + 1, c => do
    let following : Reading Command := do
      let t ← next fuel true true
      modify fun s => { s with ahead := some t }
      pipeline fuel
    match ← next fuel false false with
    | .mark "&&" => do chain fuel (.both c (← following))
    | .mark "||" => do chain fuel (.either c (← following))
    | t =>
      modify fun s => { s with ahead := some t }
      return c

/-- Commands one after the other, up to what ends them. Unless `maybeNone` there is
at least one. -/
def list : Nat → Bool → Reading Command
  | 0, _ => refuse "too long"
  | fuel + 1, maybeNone => do
    let t ← next fuel true true
    modify fun s => { s with ahead := some t }
    let ends := match t with
      | .stop => true
      | .mark s => maybeNone && closers.contains s
      | _ => false
    if ends then return .nothing
    else
      let c ← chain fuel (← pipeline fuel)
      match ← next fuel false false with
      | .mark "&" => return .join (.background c) (← list fuel true)
      | .mark ";" => return .join c (← list fuel true)
      | .newline => return .join c (← list fuel true)
      | t =>
        modify fun s => { s with ahead := some t }
        return c

/-- The commands of one line of a script; there are none at its end. -/
def line : Nat → Reading (Option Command)
  | 0 => refuse "too long"
  | fuel + 1 => do
    match ← next fuel false true with
    | .newline => return some .nothing
    | .stop => return none
    | t =>
      modify fun s => { s with ahead := some t }
      let c ← chain fuel (← pipeline fuel)
      match ← next fuel false false with
      | .mark "&" => return some (.join (.background c) (← restOfLine fuel))
      | .mark ";" => return some (.join c (← restOfLine fuel))
      | .newline | .stop => return some c
      | t => unexpected t

/-- More commands on the same line. -/
def restOfLine : Nat → Reading Command
  | 0 => refuse "too long"
  | fuel + 1 => do return (← line fuel).getD .nothing

end

end Reader

namespace Source

def ofScript (s : List Char) : Source := ⟨s, 1, none, [], [], 0⟩

/-- The commands of the next line, and what is left after it. -/
def commandLine (s : Source) : Except SyntaxError (Option Command × Source) :=
  Reader.line (20 * s.rest.length + 100) s

end Source
end Shell
end ClusterRig
