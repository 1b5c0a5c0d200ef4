/-!
# Scripts

The syntax of shell scripts: commands made of words, and the ways to combine
commands. A word is a list of parts, and keeps for each whether it was quoted.
-/

namespace ClusterRig
namespace Shell

/-- What is made of the value of a parameter. With `colon` an empty value counts as
one that is not set. -/
inductive Use
  | plain
  | length
  /-- Another word, if it is not set. -/
  | orElse (colon : Bool)
  /-- Another word, which is assigned as well, if it is not set. -/
  | orAssign (colon : Bool)
  /-- An error, if it is not set. -/
  | orFail (colon : Bool)
  /-- Another word, if it is set. -/
  | ifSet (colon : Bool)
  /-- Cut off what matches a pattern, at the start or end, as much or as little. -/
  | cut (atEnd longest : Bool)
  deriving DecidableEq, Repr

/-- How a file is opened for writing: emptied, emptied even where files are kept, or
at its end. -/
inductive Writing
  | anew
  | forced
  | atEnd
  deriving DecidableEq, Repr

mutual

inductive Part
  | text (quoted : Bool) (s : List Char)
  | parameter (quoted : Bool) (name : List Char) (use : Use) (operand : List Part)
  | output (quoted : Bool) (script : Command)
  | arithmetic (quoted : Bool) (expression : List Part)
  /-- A use of a parameter that does not exist. -/
  | malformed

/-- Where a command reads and writes. -/
inductive Redirection
  | read (fd : Nat) (target : List Part)
  | write (fd : Nat) (how : Writing) (target : List Part)
  | copy (fd : Nat) (source : List Part)
  /-- Text that stands in the script, by its number. -/
  | here (fd : Nat) (number : Nat)

inductive Command
  | nothing
  | simple (line : Nat) (assignments : List (List Char × List Part)) (words : List (List Part))
      (redirections : List Redirection)
  | redirected (line : Nat) (c : Command) (redirections : List Redirection)
  | pipe (a b : Command)
  | background (c : Command)
  | negated (c : Command)
  | both (a b : Command)
  | either (a b : Command)
  | sequence (a b : Command)
  | subshell (c : Command)
  | branch (condition yes no : Command)
  | loop (untilTrue : Bool) (condition body : Command)
  | each (line : Nat) (name : List Char) (words : List (List Part)) (body : Command)
  | choose (line : Nat) (subject : List Part) (arms : List (List (List Part) × Command))
  | define (name : List Char) (body : Command)

end

/-- A list of parts. -/
abbrev Word := List Part

/-- The descriptor that a redirection is about. -/
def Redirection.descriptor : Redirection → Nat
  | .read fd _ => fd
  | .write fd _ _ => fd
  | .copy fd _ => fd
  | .here fd _ => fd

namespace Command

def join (a b : Command) : Command :=
  match a, b with
  | .nothing, b => b
  | a, .nothing => a
  | a, b => .sequence a b

end Command

namespace Word

/-- The text of a word in which nothing is quoted or replaced. -/
def plain? : Word → Option (List Char)
  | [] => some []
  | .text false s :: rest => (plain? rest).map (s ++ ·)
  | _ => none

/-- The text of a word whose parts are taken as they are written. -/
def literal : Word → List Char
  | [] => []
  | .text _ s :: rest => s ++ literal rest
  | _ :: rest => literal rest

def isQuoted (w : Word) : Bool :=
  w.any fun
    | .text quoted _ => quoted
    | _ => false

end Word
end Shell
end ClusterRig
