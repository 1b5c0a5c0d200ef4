import ClusterRig.Shell.Glob

/-!
# Fields

An expanded word consists of pieces. What comes from a parameter or a command
outside of quotes is divided into fields at the separators. Blank separators only
divide what stands between them; every other separator ends a field, even an empty
one, together with the blanks around it.
-/

namespace ClusterRig
namespace Shell

/-- A piece of an expanded word: text that stays together, text that is divided at
separators, or the end of a field. -/
inductive Piece
  | fixed (quoted : Bool) (s : List Char)
  | loose (s : List Char)
  | next

namespace Piece

def marks : Piece → List Mark
  | .fixed quoted s => s.map (Mark.mk quoted)
  | .loose s => s.map (Mark.mk false)
  | .next => []

def text : Piece → List Char
  | .fixed _ s => s
  | .loose s => s
  | .next => []

/-- The text of some pieces that are not divided into fields. -/
def textOf (ps : List Piece) : List Char := ps.flatMap text

/-- The pattern of some pieces. -/
def globOf (ps : List Piece) : List Glob := Glob.ofMarks (ps.flatMap marks)

end Piece

/-- The fields that have been finished, the one that is being read, and whether a
blank has ended the last one. -/
structure Fields where
  finished : List (List Mark)
  current : Option (List Mark)
  blank : Bool

namespace Fields

def empty : Fields := ⟨[], none, false⟩

def extend (f : Fields) (ms : List Mark) : Fields :=
  ⟨f.finished, some (f.current.getD [] ++ ms), false⟩

/-- End the field that is being read, if there is one. -/
def close (f : Fields) : Fields := ⟨f.finished ++ f.current.toList, none, false⟩

def isBlank (c : Char) : Bool := c == ' ' || c == '\t' || c == '\n'

def separate (f : Fields) (c : Char) : Fields :=
  if isBlank c then
    match f.current with
    | some _ => { f.close with blank := true }
    | none => f
  else if f.blank then f.close
  else (f.extend []).close

def add (separators : List Char) (f : Fields) : Piece → Fields
  | .loose s =>
    s.foldl (fun f c => if separators.contains c then f.separate c else f.extend [⟨false, c⟩]) f
  | .next => f.close
  | p => f.extend p.marks

def ofPieces (separators : List Char) (ps : List Piece) : List (List Mark) :=
  (ps.foldl (add separators) empty).close.finished

end Fields

namespace Fields

/-- A character read from an input, and whether a backslash quotes it. -/
abbrev Input := List Mark

def isSeparator (separators : List Char) (m : Mark) : Bool :=
  !m.quoted && separators.contains m.char

def isBlankMark (separators : List Char) (m : Mark) : Bool :=
  isSeparator separators m && isBlank m.char

/-- What follows a field and its separator, with the blanks around that. -/
def afterField (separators : List Char) (s : Input) : Input :=
  let blank := isBlankMark separators
  match s.dropWhile blank with
  | m :: rest => if isSeparator separators m then rest.dropWhile blank else m :: rest
  | [] => []

/-- The last of several variables gets all that is left but for blanks at the end; a
single separator at the end goes as well if it ends the first field of what is left. -/
def lastField (separators : List Char) (s : Input) : Input :=
  let blank := isBlankMark separators
  let trim (s : Input) := (s.reverse.dropWhile blank).reverse
  let first := s.takeWhile (!isSeparator separators ·)
  if (afterField separators (s.drop first.length)).isEmpty then first else trim s

/-- Divide a line among a number of variables. -/
def divide (separators : List Char) : Nat → Input → List (List Char)
  | 0, _ => []
  | 1, s => [(lastField separators (s.dropWhile (isBlankMark separators))).map Mark.char]
  | n + 1, s =>
    let s := s.dropWhile (isBlankMark separators)
    let first := s.takeWhile (!isSeparator separators ·)
    first.map Mark.char :: divide separators n (afterField separators (s.drop first.length))

end Fields
end Shell
end ClusterRig
