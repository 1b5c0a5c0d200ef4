import ClusterRig.Pattern.CharSet

/-!
# Regular expressions

Expressions over characters with positions to look at, and the rules by which one
of them is matched. Where an expression leaves a choice the rules list the ways in
the order of preference: the earlier branch first, and one more repetition before
the end of them unless the repetition is lazy.
-/

namespace ClusterRig
namespace Pattern

/-- Conditions on the characters before and after a position. Those about words
count either the ASCII word characters or all of them. -/
inductive Look
  | textStart
  | textEnd
  | lineStart
  | lineEnd
  | crlfStart
  | crlfEnd
  | boundary (ascii : Bool)
  | notBoundary (ascii : Bool)
  | wordStart (ascii : Bool)
  | wordEnd (ascii : Bool)
  | wordStartHalf (ascii : Bool)
  | wordEndHalf (ascii : Bool)
  deriving DecidableEq, Repr

namespace Look

def isWord (ascii : Bool) : Option Char → Bool
  | none => false
  | some c => if ascii then CharSet.asciiWord.has c else CharSet.word.has c

def holds (before after : Option Char) : Look → Bool
  | .textStart => before.isNone
  | .textEnd => after.isNone
  | .lineStart => before.isNone || before == some '\n'
  | .lineEnd => after.isNone || after == some '\n'
  | .crlfStart =>
    before.isNone || before == some '\n' || (before == some '\r' && after != some '\n')
  | .crlfEnd => after.isNone || after == some '\r' || (after == some '\n' && before != some '\r')
  | .boundary ascii => isWord ascii before != isWord ascii after
  | .notBoundary ascii => isWord ascii before == isWord ascii after
  | .wordStart ascii => !isWord ascii before && isWord ascii after
  | .wordEnd ascii => isWord ascii before && !isWord ascii after
  | .wordStartHalf ascii => !isWord ascii before
  | .wordEndHalf ascii => !isWord ascii after

end Look

inductive Regex
  | empty
  | set (s : CharSet)
  | look (l : Look)
  /-- What a group holds whose place in the text is kept. -/
  | group (r : Regex)
  | cat (a b : Regex)
  | alt (a b : Regex)
  /-- From `min` to `max` repetitions, or any number from `min` on. -/
  | rep (r : Regex) (min : Nat) (max : Option Nat) (greedy : Bool)
  /-- After a repetition of which any number may follow: one more, or the end. -/
  | more (r : Regex) (greedy : Bool)
  deriving DecidableEq, Repr

namespace Regex

def literal (c : Char) : Regex := .set (.single c)

def sequence : List Regex → Regex
  | [] => .empty
  | [r] => r
  | r :: rest => .cat r (sequence rest)

def alternatives : List Regex → Regex
  | [] => .empty
  | [r] => r
  | r :: rest => .alt r (alternatives rest)

/-- Whether nothing but the empty text can match. -/
def onlyEmpty : Regex → Bool
  | .empty => true
  | .set _ => false
  | .look _ => true
  | .group r => onlyEmpty r
  | .cat a b => onlyEmpty a && onlyEmpty b
  | .alt a b => onlyEmpty a && onlyEmpty b
  | .rep r _ max _ => onlyEmpty r || max == some 0
  | .more r _ => onlyEmpty r

/-- A repetition; of what is always empty one is enough. -/
def repeated (r : Regex) (min : Nat) (max : Option Nat) (greedy : Bool) : Regex :=
  if r.onlyEmpty then .rep r (Nat.min min 1) (some (Nat.min (max.getD 1) 1)) greedy
  else .rep r min max greedy

/-- The number of places in the expression when every repetition is written out. -/
def weight : Regex → Nat
  | .empty | .set _ | .look _ => 1
  | .group r => weight r + 1
  | .cat a b | .alt a b => weight a + weight b + 1
  | .rep r min none _ => (min + 1) * (weight r + 1) + 2
  | .rep r _ (some max) _ => max * (weight r + 1) + 1
  | .more r _ => weight r + 2

end Regex

/-- What is still to be matched, in order. -/
abbrev State := List Regex

/-- What a state comes to when no more choice is left before the next character. -/
inductive Leaf
  | accept
  | take (s : CharSet) (next : State)

namespace State

def leaf? : State → Option Leaf
  | [] => some .accept
  | .set s :: rest => some (.take s rest)
  | _ => none

/-- Prefer repeating to ending, or the other way round. -/
def choose (greedy : Bool) (again ending : State) : List State :=
  if greedy then [again, ending] else [ending, again]

/-- The states to go on with, in the order of preference. -/
def successors (before after : Option Char) : State → List State
  | [] => []
  | .empty :: k => [k]
  | .set _ :: _ => []
  | .look l :: k => if l.holds before after then [k] else []
  | .group r :: k => [r :: k]
  | .cat a b :: k => [a :: b :: k]
  | .alt a b :: k => [a :: k, b :: k]
  | .more r greedy :: k => choose greedy (r :: .more r greedy :: k) k
  | .rep r 0 none greedy :: k => choose greedy (r :: .more r greedy :: k) k
  | .rep r 1 none greedy :: k => [r :: .more r greedy :: k]
  | .rep r (min + 2) none greedy :: k => [r :: .rep r (min + 1) none greedy :: k]
  | .rep _ 0 (some 0) _ :: k => [k]
  | .rep r 0 (some (max + 1)) greedy :: k => choose greedy (r :: .rep r 0 (some max) greedy :: k) k
  | .rep r (min + 1) (some max) greedy :: k => [r :: .rep r min (some (max - 1)) greedy :: k]

/-- Explore states first to last, each before those after it, and none twice. A
repetition that has matched nothing thus comes to an end. -/
def explore (before after : Option Char) : Nat → List State → List State → List Leaf
  | 0, _, _ => []
  | _ + 1, _, [] => []
  | fuel + 1, seen, st :: rest =>
    if seen.contains st then explore before after fuel seen rest
    else st.leaf?.toList ++
      explore before after fuel (st :: seen) (successors before after st ++ rest)

def weight (st : State) : Nat := (st.map Regex.weight).foldr (· + ·) 0

/-- The leaves of a state, the preferred ones first. -/
def leaves (before after : Option Char) (st : State) : List Leaf :=
  explore before after (4 * st.weight + 4) [] [st]

end State

namespace Leaf

def isAccept : Leaf → Bool
  | .accept => true
  | .take _ _ => false

/-- The state after a character. -/
def after? (c : Char) : Leaf → Option State
  | .accept => none
  | .take s next => if s.has c then some next else none

end Leaf

/-- A way of matching that is under way: the place where it began, and its state. -/
structure Thread where
  start : Nat
  state : State

namespace Thread

def leaves (before after : Option Char) (t : Thread) : List (Nat × Leaf) :=
  (t.state.leaves before after).map fun l => (t.start, l)

/-- The threads after a character, of which the first in each state is kept. -/
def advance (c : Char) (leaves : List (Nat × Leaf)) : List Thread :=
  let next := leaves.filterMap fun l => (l.2.after? c).map (Thread.mk l.1)
  next.eraseDupsBy fun a b => a.state == b.state

end Thread

/-- Where a match begins and ends. -/
structure Span where
  start : Nat
  stop : Nat
  deriving DecidableEq, Repr

/-- Follow threads through a text, the preferred ones first. Unless `fresh` is
empty, new threads begin at every place until a match has been found; those that
come after a finished one are dropped, so that a later find is preferred to the
`best` one so far. -/
def scan (fresh : List State) (best : Option Span) (before : Option Char) (place : Nat)
    (threads : List Thread) (s : List Char) : Option Span :=
  let begun := if best.isNone then fresh.map (Thread.mk place) else []
  let leaves := (threads ++ begun).flatMap (Thread.leaves before s.head?)
  let found := (leaves.find? fun l => l.2.isAccept).map fun l => Span.mk l.1 place
  let best := found.or best
  match s with
  | [] => best
  | c :: rest =>
    let next := Thread.advance c (leaves.takeWhile fun l => !l.2.isAccept)
    if next.isEmpty && (best.isSome || fresh.isEmpty) then best
    else scan fresh best (some c) (place + 1) next rest

/-- The leftmost match in a text. -/
def search (r : Regex) (s : List Char) : Option Span := scan [[r]] none none 0 [] s

/-- The part of a text that a span covers. -/
def Span.of (x : Span) (s : List Char) : List Char := (s.drop x.start).take (x.stop - x.start)

end Pattern
end ClusterRig
