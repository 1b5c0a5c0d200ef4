import ClusterRig.Shell.Sed.Expression

/-!
# Scripts of edits

A script is a sequence of commands, each for the lines that its addresses select.
Blocks and branches are jumps to places in the sequence.
-/

namespace ClusterRig
namespace Shell
namespace Sed

/-- An expression, or none for the one that was used last. -/
abbrev Pattern := Option Regex

inductive Address
  | line (n : Nat)
  /-- Every line from the first on, by steps. -/
  | step (first by_ : Nat)
  | last
  | pattern (p : Pattern)
  /-- So many lines after the first. -/
  | plus (n : Nat)
  /-- The next line after the first with a multiple of a number. -/
  | multiple (n : Nat)

inductive Selector
  | always
  | one (a : Address)
  | range (a b : Address)

/-- How letters that follow are written: all of them, or the next one. -/
inductive Case
  | upper
  | lower
  | nextUpper
  | nextLower
  | asIs
  deriving DecidableEq

inductive Piece
  | text (s : List Char)
  | group (n : Nat)
  | case (c : Case)

structure Substitution where
  pattern : Pattern
  pieces : List Piece
  everywhere : Bool
  /-- The first match that is replaced, counted from one. -/
  first : Nat
  print : Bool
  file : Option (List Char)

inductive Action
  | block
  | close
  | label (name : List Char)
  | branch (target : List Char)
  | branchIf (changed : Bool) (target : List Char)
  | append (text : List Char)
  | insert (text : List Char)
  | change (text : List Char)
  | delete
  | deleteFirst
  | print
  | printFirst
  | show (width : Option Nat)
  | number
  | fileName
  | next
  | appendNext
  | hold
  | holdMore
  | get
  | getMore
  | exchange
  | clear
  | quit (silent : Bool) (status : Nat)
  | read (file : List Char)
  | readLine (file : List Char)
  | write (file : List Char)
  | writeFirst (file : List Char)
  | substitute (s : Substitution)
  | transform (pairs : List (Char × Char))
  | nothing

/-- A command. For a block `jump` is the place of its end, for a branch the place of its
label; a branch without one leads to the end. -/
structure Command where
  selector : Selector
  negated : Bool
  action : Action
  jump : Option Nat

end Sed
end Shell
end ClusterRig
