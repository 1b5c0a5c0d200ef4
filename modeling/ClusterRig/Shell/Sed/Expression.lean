import ClusterRig.Shell.Classes

/-!
# Basic and extended regular expressions

Matching looks for the leftmost place, and there for the longest match. Among the
ways to match as much, the first one counts that tries alternatives from left to right
and repeats as often as it can; it decides what the groups hold.
-/

namespace ClusterRig
namespace Shell
namespace Sed

/-- A condition on a place between characters. -/
inductive Anchor
  | lineStart
  | lineEnd
  | textStart
  | textEnd
  | wordEdge
  | wordInside
  | wordStart
  | wordEnd
  deriving DecidableEq, Repr

inductive Expr
  | empty
  | char (c : Char)
  | any
  | set (negated : Bool) (members : List (Char → Bool))
  | anchor (a : Anchor)
  | group (n : Nat) (e : Expr)
  /-- What the group with a number holds. -/
  | back (n : Nat)
  | both (a b : Expr)
  | either (a b : Expr)
  | repeated (e : Expr) (least : Nat) (most : Option Nat)

namespace Expr

/-- Whether groups are asked for while matching. -/
def looksBack : Expr → Bool
  | .back _ => true
  | .group _ e => e.looksBack
  | .both a b => a.looksBack || b.looksBack
  | .either a b => a.looksBack || b.looksBack
  | .repeated e _ _ => e.looksBack
  | _ => false

end Expr

/-- An expression with the ways to read it: without regard to case, and with lines in
the text. -/
structure Regex where
  expr : Expr
  anyCase : Bool
  lines : Bool

/-- A place in a text that a match has come to, and where its groups begin and end,
the latest first. -/
structure Thread where
  place : Nat
  groups : List (Nat × Nat × Nat)
  deriving DecidableEq

namespace Regex

def isWordChar (c : Char) : Bool := c.isAlphanum || c == '_'

def isWordAt (text : Array Char) (n : Nat) : Bool := (text[n]?).any isWordChar

def isWordBefore (text : Array Char) (n : Nat) : Bool := 0 < n && isWordAt text (n - 1)

/-- Whether an anchor holds at a place. -/
def holds (lines : Bool) (text : Array Char) (n : Nat) : Anchor → Bool
  | .lineStart => n == 0 || (lines && text[n - 1]? == some '\n')
  | .lineEnd => n == text.size || (lines && text[n]? == some '\n')
  | .textStart => n == 0
  | .textEnd => n == text.size
  | .wordEdge => isWordBefore text n != isWordAt text n
  | .wordInside => isWordBefore text n == isWordAt text n
  | .wordStart => !isWordBefore text n && isWordAt text n
  | .wordEnd => isWordBefore text n && !isWordAt text n

/-- The other case of a letter. -/
def otherCase (c : Char) : Char := if c.isUpper then c.toLower else c.toUpper

def equal (anyCase : Bool) (c d : Char) : Bool := c == d || (anyCase && otherCase c == d)

def isMember (r : Regex) (negated : Bool) (members : List (Char → Bool)) (c : Char) : Bool :=
  let inside := members.any fun p => p c || (r.anyCase && p (otherCase c))
  if negated then !inside && !(r.lines && c == '\n') else inside

/-- Drop the threads that have come to the place of one before them; with `exact` only if
their groups are equal as well. -/
def distinct (exact : Bool) (ts : List Thread) : List Thread :=
  (ts.foldl (fun (kept : List Thread) t =>
    if kept.any fun k => if exact then k = t else k.place = t.place then kept
    else t :: kept) []).reverse

/-- The text of a group. -/
def held (text : Array Char) (groups : List (Nat × Nat × Nat)) (n : Nat) : Option (List Char) :=
  (groups.lookup n).map fun (a, b) => (text.extract a b).toList

def isText (anyCase : Bool) (text : Array Char) (n : Nat) : List Char → Bool
  | [] => true
  | c :: rest => (text[n]?).any (equal anyCase c) && isText anyCase text (n + 1) rest

/-- Repeat a step as often as it leads on, and count every place once. The places come in
the order in which they would be tried. -/
def closure (exact : Bool) (step : Thread → List Thread) : Nat → List Thread → Thread →
    List Thread × List Thread
  | 0, seen, _ => ([], seen)
  | fuel + 1, seen, t =>
    let known := seen.any fun s => if exact then s = t else s.place = t.place
    if known then ([], seen)
    else
      let (found, seen) := (step t).foldl (fun (found, seen) next =>
        if next.place = t.place then (found, seen)
        else
          let (more, seen) := closure exact step fuel seen next
          (found ++ more, seen)) (([] : List Thread), t :: seen)
      (found ++ [t], seen)

/-- Take a step so many times. -/
def times (exact : Bool) (step : Thread → List Thread) : Nat → List Thread → List Thread
  | 0, ts => ts
  | n + 1, ts => times exact step n (distinct exact (ts.flatMap step))

/-- Take a step up to so many times, more of them first. -/
def upTo (exact : Bool) (step : Thread → List Thread) : Nat → Thread → List Thread
  | 0, t => [t]
  | n + 1, t =>
    distinct exact (((step t).filter (·.place ≠ t.place)).flatMap (upTo exact step n) ++ [t])

/-- The places where a match from a place can end, in the order in which they are
tried. -/
def ends (r : Regex) (exact : Bool) (text : Array Char) : Expr → Thread → List Thread
  | .empty, t => [t]
  | .char c, t =>
    if (text[t.place]?).any (equal r.anyCase c) then [{ t with place := t.place + 1 }] else []
  | .any, t =>
    if (text[t.place]?).any fun c => !(r.lines && c == '\n') then [{ t with place := t.place + 1 }]
    else []
  | .set negated members, t =>
    if (text[t.place]?).any (isMember r negated members) then [{ t with place := t.place + 1 }]
    else []
  | .anchor a, t => if holds r.lines text t.place a then [t] else []
  | .group n e, t =>
    (ends r exact text e t).map fun u =>
      ⟨u.place, (n, t.place, u.place) :: u.groups.filter (·.1 != n)⟩
  | .back n, t =>
    match held text t.groups n with
    | some s =>
      if isText r.anyCase text t.place s then [{ t with place := t.place + s.length }] else []
    | none => []
  | .both a b, t => distinct exact ((ends r exact text a t).flatMap fun u => ends r exact text b u)
  | .either a b, t => distinct exact (ends r exact text a t ++ ends r exact text b t)
  | .repeated e least most, t =>
    let step (u : Thread) := ends r exact text e u
    let started := times exact step least [t]
    distinct exact (started.flatMap fun u =>
      match most with
      | some most => upTo exact step (most - least) u
      | none => (closure exact step (text.size + 2) [] u).1)

/-- The longest of some matches; the first one among those that are as long. -/
def longest : List Thread → Option Thread
  | [] => none
  | t :: rest =>
    match longest rest with
    | some u => if t.place < u.place then some u else some t
    | none => some t

/-- A match: where it begins and ends, and its groups. -/
structure Found where
  start : Nat
  stop : Nat
  groups : List (Nat × Nat × Nat)

/-- The match that begins at a place or after it. -/
def search (r : Regex) (text : Array Char) : Nat → Nat → Option Found
  | 0, _ => none
  | fuel + 1, n =>
    match longest (r.ends r.expr.looksBack text r.expr ⟨n, []⟩) with
    | some t => some ⟨n, t.place, t.groups⟩
    | none => if n < text.size then search r text fuel (n + 1) else none

/-- The first match at or after a place. -/
def find? (r : Regex) (text : Array Char) (n : Nat) : Option Found :=
  search r text (text.size + 2) n

end Regex
end Sed
end Shell
end ClusterRig
