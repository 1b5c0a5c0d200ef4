import ClusterRig.Pattern.Ranges
import ClusterRig.Pattern.Regex
import ClusterRig.Text.Utf8

/-!
# The size of a matcher

A matcher works on octets and takes up room for each of its states, forward as well
as backward. A pattern whose repetitions would take up too much is refused.
-/

namespace ClusterRig
namespace Pattern

/-- The room that a state takes up, with what it holds for its choices. -/
def stateSize : Nat := 32

/-- A state that goes on in one of several ways without reading anything. -/
def choiceSize (ways : Nat) : Nat := stateSize + 4 * ways

/-- A state that reads an octet of one of several ranges. -/
def tableSize (ranges : Nat) : Nat := stateSize + 8 * ranges

/-- The greatest room that a matcher may take up. -/
def maxSize : Nat := 10 * 1024 * 1024

namespace Octets

/-- Where a range of code points has to be cut so that the octets of its parts are
all combinations of a range for each place. -/
def cut? (first last : Nat) : Option Nat :=
  let atLength := [0x7F, 0x7FF, 0xFFFF].find? fun m => first ≤ m && m < last
  let atPlace := [64, 64 * 64, 64 * 64 * 64].findSome? fun block =>
    if first / block = last / block then none
    else if first % block ≠ 0 then some (first / block * block + block - 1)
    else if last % block ≠ block - 1 then some (last / block * block - 1)
    else none
  if last ≤ 0x7F then none else atLength.or atPlace

/-- The parts of a range after cutting it. -/
def parts : Nat → Nat → Nat → List (Nat × Nat)
  | 0, first, last => [(first, last)]
  | fuel + 1, first, last =>
    match cut? first last with
    | some m => parts fuel first m ++ parts fuel (m + 1) last
    | none => [(first, last)]

def encoded (n : Nat) : List Nat :=
  (Text.Utf8.encode (String.singleton (Char.ofNat n))).map UInt8.toNat

/-- The ranges of octets that spell the characters of a set, in ascending order. -/
def sequences (rs : Ranges) : List (List (Nat × Nat)) :=
  (rs.flatMap fun r => parts 32 r.1 r.2).map fun r => (encoded r.1).zip (encoded r.2)

/-- A node of an automaton: the number of the node that each range of octets leads to.
Numbers count from one; zero is the end. -/
abbrev Edges := List ((Nat × Nat) × Nat)

/-- The number of a node, which is added unless there is such a one. The last node
comes first. -/
def intern (nodes : List Edges) (es : Edges) : List Edges × Nat :=
  match nodes.findIdx? (· == es) with
  | some i => (nodes, nodes.length - i)
  | none => (es :: nodes, nodes.length + 1)

/-- Add the nodes that read one of the sequences, of which equal beginnings are next
to each other, and number the first of them. -/
def node : Nat → List Edges → List (List (Nat × Nat)) → List Edges × Nat
  | 0, nodes, _ => (nodes, 0)
  | depth + 1, nodes, sequences =>
    let groups := sequences.splitBy fun a b => a.head? == b.head?
    let step (r : List Edges × Edges) (group : List (List (Nat × Nat))) : List Edges × Edges :=
      match group.head?.bind List.head? with
      | none => r
      | some label =>
        let (nodes, n) := node depth r.1 (group.map List.tail)
        (nodes, (label, n) :: r.2)
    let (nodes, es) := groups.foldl step (nodes, [])
    if es.isEmpty then (nodes, 0) else intern nodes es.reverse

/-- The room for reading one of the sequences from the first octet on. -/
def forwardSize (sequences : List (List (Nat × Nat))) : Nat :=
  ((node 5 [] sequences).1.map fun es => tableSize es.length).foldr (· + ·) stateSize

/-- How many ranges two sequences have in common at their beginning. -/
def common : List (Nat × Nat) → List (Nat × Nat) → Nat
  | a :: as, b :: bs => if a = b then common as bs + 1 else 0
  | _, _ => 0

/-- The number of different beginnings of the sequences. -/
def beginnings : List (Nat × Nat) → List (List (Nat × Nat)) → Nat
  | _, [] => 0
  | last, s :: rest => s.length - common last s + beginnings s rest

/-- The room for reading one of the sequences from the last octet on. -/
def backwardSize (sequences : List (List (Nat × Nat))) : Nat :=
  choiceSize sequences.length + stateSize + stateSize * beginnings [] sequences

/-- The room for reading one of several texts. What follows an octet that some of
them begin with is a choice of its own. -/
def textsSize : Nat → List (List Nat) → Nat
  | 0, _ => 0
  | fuel + 1, texts =>
    let heads := (texts.filterMap List.head?).eraseDups
    let ended := texts.any List.isEmpty
    let rests := heads.map fun h =>
      (texts.filter fun t => t.head? == some h).map List.tail
    let inner := (rests.filter fun r => r.any fun t => !t.isEmpty).map (textsSize fuel)
    let own := if heads.length ≤ 1 then stateSize else tableSize heads.length
    choiceSize (if ended then 2 else 1) + own + inner.foldr (· + ·) 0

end Octets

/-- The room for a set of characters. One character is spelled out. -/
def rangesSize (backward : Bool) (rs : Ranges) : Nat :=
  match rs with
  | [] => stateSize
  | (first, last) :: rest =>
    if first = last ∧ rest.isEmpty then stateSize * (Octets.encoded first).length
    else if rs.all fun r => r.2 ≤ 0x7F then tableSize rs.length + stateSize
    else if backward then Octets.backwardSize (Octets.sequences rs)
    else Octets.forwardSize (Octets.sequences rs)

/-- What counts for the size of an expression as part of a larger one. -/
structure Extent where
  size : Nat
  mayBeEmpty : Bool
  isEmpty : Bool
  /-- The number of branches, and the room for them without a choice between them. -/
  branches : Nat
  branchSize : Nat
  /-- The branches, if each of them is a single character, a set of more than one, or
  a text. -/
  characters : Option Ranges
  sets : Option Ranges
  texts : Option (List (List Nat))

namespace Extent

/-- An expression of which nothing else is known. -/
def plain (size : Nat) (mayBeEmpty : Bool) : Extent :=
  ⟨size, mayBeEmpty, false, 1, size, none, none, none⟩

def empty : Extent := { plain stateSize true with isEmpty := true }

def ofSet (backward : Bool) (s : CharSet) : Extent :=
  let rs := s.ranges
  let e := plain (rangesSize backward rs) false
  match rs with
  | [(first, last)] =>
    if first = last then
      let text := Octets.encoded first
      { e with characters := some rs, texts := some [if backward then text.reverse else text] }
    else { e with sets := some rs }
  | _ => { e with sets := some rs }

/-- The text of an expression that is nothing else. -/
def text? (e : Extent) : Option (List Nat) :=
  match e.texts with
  | some [t] => some t
  | _ => none

def cat (backward : Bool) (a b : Extent) : Extent :=
  if a.isEmpty then b
  else if b.isEmpty then a
  else
    let e := plain (a.size + b.size) (a.mayBeEmpty && b.mayBeEmpty)
    match a.text?, b.text? with
    | some s, some t => { e with texts := some [if backward then t ++ s else s ++ t] }
    | _, _ => e

def both {α : Type} (f : α → α → α) : Option α → Option α → Option α
  | some x, some y => some (f x y)
  | _, _ => none

/-- A choice between branches. One of characters or of sets is a set. -/
def alt (backward : Bool) (a b : Extent) : Extent :=
  let characters := both Ranges.union a.characters b.characters
  let sets := both Ranges.union a.sets b.sets
  let texts := both (· ++ ·) a.texts b.texts
  let branches := a.branches + b.branches
  let branchSize := a.branchSize + b.branchSize
  let size :=
    match characters.or sets, texts with
    | some rs, _ => rangesSize backward rs
    | none, some ts =>
      stateSize + Octets.textsSize ((ts.map List.length).foldl Nat.max 0 + 1) ts
    | none, none => choiceSize branches + stateSize + branchSize
  ⟨size, a.mayBeEmpty || b.mayBeEmpty, false, branches, branchSize, characters, sets, texts⟩

/-- A repetition, for which what is repeated is there as often as it has to be. -/
def rep (e : Extent) (min : Nat) (max : Option Nat) : Extent :=
  let choice := choiceSize 2
  match min, max with
  | 0, some 0 => empty
  | 1, some 1 => e
  | 0, some 1 => plain (choice + e.size + stateSize) true
  | 0, none =>
    plain (if e.mayBeEmpty then e.size + 2 * choice + stateSize else choice + e.size) true
  | n + 1, none => plain ((n + 1) * e.size + choice) e.mayBeEmpty
  | min, some max =>
    let least := if min = 0 then stateSize else min * e.size
    let more := if min = max then 0 else (max - min) * (choice + e.size) + stateSize
    plain (least + more) (min == 0 || e.mayBeEmpty)

end Extent

namespace Regex

def extent (backward : Bool) : Regex → Extent
  | .empty => .empty
  | .set s => .ofSet backward s
  | .look _ => .plain stateSize true
  | .group r =>
    let e := extent backward r
    .plain (e.size + if backward then 0 else 2 * stateSize) e.mayBeEmpty
  | .cat a b => .cat backward (extent backward a) (extent backward b)
  | .alt a b => .alt backward (extent backward a) (extent backward b)
  | .rep r min max _ => (extent backward r).rep min max
  | .more r _ => (extent backward r).rep 0 none

/-- The room for the expression, with what leads up to it and what ends it. -/
def matcherSize (backward : Bool) (r : Regex) : Nat :=
  let lead := choiceSize 2 + tableSize 1 + stateSize
  lead + (extent backward (.group r)).size + stateSize

/-- Whether a matcher for the expression takes up too much room. -/
def isTooLarge (r : Regex) : Bool :=
  maxSize < r.matcherSize false || maxSize < r.matcherSize true

end Regex
end Pattern
end ClusterRig
