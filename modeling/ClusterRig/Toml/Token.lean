import ClusterRig.Text.Numeral

/-!
# Tokens of TOML

A text is cut into tokens before anything else is decided about it. Bare keys,
numbers and dates are all words here. A carriage return counts only before a line
feed, together with which it is one line break.
-/

namespace ClusterRig
namespace Toml

inductive Token
  | newline
  | blank (s : List Char)
  | comment
  | equals
  | period
  | comma
  | colon
  | plus
  | leftBrace
  | rightBrace
  | leftBracket
  | rightBracket
  | word (s : List Char)
  | quoted (s : List Char) (multiline : Bool)
  deriving DecidableEq, Repr

namespace Token

def isBlank (c : Char) : Bool := c == ' ' || c == '\t'

def isWordChar (c : Char) : Bool :=
  ('A' ≤ c && c ≤ 'Z') || ('a' ≤ c && c ≤ 'z') || Text.isDigit c || c == '-' || c == '_'

/-- Comments may hold tabs but no other control characters. -/
def isCommentChar (c : Char) : Bool := c == '\t' || 0x20 ≤ c.toNat

/-- The value of a digit of a radix up to sixteen. -/
def digit? (radix : Nat) (c : Char) : Option Nat :=
  let value :=
    if Text.isDigit c then some (Text.digitValue c)
    else if 'a' ≤ c && c ≤ 'f' then some (c.toNat - 'a'.toNat + 10)
    else if 'A' ≤ c && c ≤ 'F' then some (c.toNat - 'A'.toNat + 10)
    else none
  value.filter (· < radix)

/-- The character with a hexadecimal number; surrogates are none. -/
def ofHex? (digits : List Char) : Option Char := do
  let values ← digits.mapM (digit? 16)
  let n := values.foldl (fun n d => n * 16 + d) 0
  if h : n.isValidChar then some (Char.ofNatAux n h) else none

def escaped? : Char → Option Char
  | '"' => some '"'
  | '\\' => some '\\'
  | 'b' => some '\x08'
  | 'f' => some '\x0c'
  | 'n' => some '\n'
  | 'r' => some '\r'
  | 't' => some '\t'
  | _ => none

/-- How far the reading of a string has gone: all of it so far stands in the text
as it is, or not any more; or a line is to be continued, first up to its end and
then over what is blank before the next one, all of which is left out. -/
inductive Progress
  | verbatim
  | rebuilt
  | ending
  | joining
  deriving DecidableEq

/-- Whether a character may stand in a quoted string as it is. Only single quotes
allow tabs. -/
def isPlain (quote c : Char) : Bool :=
  (0x20 ≤ c.toNat && c != '\x7f') || (c == '\t' && quote != '"')

/-- Two quotes inside a string of several lines. Once the string differs from the
text one of them is lost. -/
def pairOfQuotes (quote : Char) : Progress → List Char
  | .verbatim => [quote, quote]
  | _ => [quote]

/-- After a character that is taken as it stands. -/
def Progress.onward : Progress → Progress
  | .verbatim => .verbatim
  | _ => .rebuilt

/-- Put characters before what has been read. -/
def before (cs : List Char) (r : Option (List Char × List Char)) :
    Option (List Char × List Char) :=
  r.map fun (s, rest) => (cs ++ s, rest)

/-- The rest of a quoted string and what follows it. Only double quotes allow
escapes. Among them, in a string of several lines, is a line break, before which
there may be blanks. -/
def body (quote : Char) (multiline : Bool) : Progress → List Char →
    Option (List Char × List Char)
  | _, [] => none
  | p, c :: rest =>
    if p = .joining ∧ (isBlank c ∨ c = '\n') then body quote multiline .joining rest
    else if p = .ending then
      if isBlank c then body quote multiline .ending rest
      else
        match c, rest with
        | '\n', rest => body quote multiline .joining rest
        | '\r', '\n' :: rest => body quote multiline .joining rest
        | _, _ => none
    else if c = '\r' then
      match rest with
      | '\n' :: rest =>
        if p = .joining then body quote multiline .joining rest
        else if multiline then before ['\n'] (body quote multiline .rebuilt rest)
        else none
      | _ => none
    else if c = '\n' then
      if multiline then before ['\n'] (body quote multiline p.onward rest) else none
    else if c = quote then
      if !multiline then some ([], rest)
      else
        match rest with
        | [] => none
        | d :: tail =>
          if d ≠ quote then before [quote] (body quote multiline p.onward (d :: tail))
          else
            match tail with
            | [] => none
            | e :: last =>
              if e ≠ quote then
                before (pairOfQuotes quote p) (body quote multiline p.onward (e :: last))
              else some ([], last)
    else if c = '\\' ∧ quote = '"' then
      match rest with
      | 'u' :: h1 :: h2 :: h3 :: h4 :: rest =>
        match ofHex? [h1, h2, h3, h4] with
        | some x => before [x] (body quote multiline .rebuilt rest)
        | none => none
      | 'U' :: h1 :: h2 :: h3 :: h4 :: h5 :: h6 :: h7 :: h8 :: rest =>
        match ofHex? [h1, h2, h3, h4, h5, h6, h7, h8] with
        | some x => before [x] (body quote multiline .rebuilt rest)
        | none => none
      | '\n' :: rest => if multiline then body quote multiline .joining rest else none
      | '\r' :: '\n' :: rest => if multiline then body quote multiline .joining rest else none
      | e :: rest =>
        if multiline ∧ isBlank e then body quote multiline .ending rest
        else
          match escaped? e with
          | some x => before [x] (body quote multiline .rebuilt rest)
          | none => none
      | [] => none
    else if isPlain quote c then
      before [c] (body quote multiline p.onward rest)
    else none

/-- The text after a line break at its start, if there is one. -/
def skipBreak : List Char → List Char
  | '\r' :: '\n' :: rest => rest
  | '\n' :: rest => rest
  | s => s

/-- A quoted string after its first quote. Three quotes begin one of several
lines, of which a line break at the start is no part. -/
def quotedAfter (quote : Char) (s : List Char) : Option (Token × List Char) :=
  let some' (multiline : Bool) (r : Option (List Char × List Char)) :=
    r.map fun (t, rest) => (quoted t multiline, rest)
  match s with
  | c :: d :: rest =>
    if c = quote then
      if d = quote then some' true (body quote true .verbatim (skipBreak rest))
      else some (quoted [] false, d :: rest)
    else some' false (body quote false .verbatim s)
  | [c] => if c = quote then some (quoted [] false, []) else none
  | [] => none

/-- The first token of a text. -/
def first? : List Char → Option (Token × List Char)
  | [] => none
  | '\n' :: rest => some (.newline, rest)
  | '\r' :: '\n' :: rest => some (.newline, rest)
  | '#' :: rest => some (.comment, rest.dropWhile isCommentChar)
  | '=' :: rest => some (.equals, rest)
  | '.' :: rest => some (.period, rest)
  | ',' :: rest => some (.comma, rest)
  | ':' :: rest => some (.colon, rest)
  | '+' :: rest => some (.plus, rest)
  | '\x7b' :: rest => some (.leftBrace, rest)
  | '\x7d' :: rest => some (.rightBrace, rest)
  | '[' :: rest => some (.leftBracket, rest)
  | ']' :: rest => some (.rightBracket, rest)
  | '\'' :: rest => quotedAfter '\'' rest
  | '"' :: rest => quotedAfter '"' rest
  | c :: rest =>
    if isBlank c then
      some (.blank (c :: rest.takeWhile isBlank), rest.dropWhile isBlank)
    else if isWordChar c then
      some (.word (c :: rest.takeWhile isWordChar), rest.dropWhile isWordChar)
    else none

/-- The tokens of a text, all of which must be well formed. -/
def scan (s : List Char) : Option (List Token) :=
  if s.isEmpty then some []
  else
    match first? s with
    | none => none
    | some (t, rest) =>
      if rest.length < s.length then (scan rest).map (t :: ·) else none
termination_by s.length

/-- What a token looks like inside a date or a time; other tokens are not found there. -/
def text : Token → List Char
  | .blank s => s
  | .word s => s
  | .colon => [':']
  | .period => ['.']
  | .plus => ['+']
  | _ => []

end Token
end Toml
end ClusterRig
