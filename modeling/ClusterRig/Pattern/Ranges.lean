import ClusterRig.Pattern.CharSet

/-!
# Ranges of a set

A set of characters as the ranges of code points that it consists of: in ascending
order, with gaps between them and without surrogates.
-/

namespace ClusterRig
namespace Pattern

/-- The first and the last number of each range. -/
abbrev Ranges := List (Nat × Nat)

namespace Ranges

/-- Join ranges that touch, given in ascending order. -/
def join (rs : Ranges) : Ranges :=
  let step (joined : Ranges) (r : Nat × Nat) : Ranges :=
    match joined with
    | [] => [r]
    | (first, last) :: rest =>
      if r.1 ≤ last + 1 then (first, Nat.max last r.2) :: rest else r :: (first, last) :: rest
  (rs.foldl step []).reverse

def union (a b : Ranges) : Ranges := join ((a ++ b).mergeSort fun x y => x.1 ≤ y.1)

/-- What lies between ranges, from a number on. -/
def gaps : Nat → Ranges → Ranges
  | start, [] => if start ≤ 0x10FFFF then [(start, 0x10FFFF)] else []
  | start, (first, last) :: rest =>
    if start < first then (start, first - 1) :: gaps (last + 1) rest else gaps (last + 1) rest

def surrogates : Ranges := [(0xD800, 0xDFFF)]

def complement (a : Ranges) : Ranges := gaps 0 (union a surrogates)

def difference (a b : Ranges) : Ranges := complement (union (complement a) b)

def intersection (a b : Ranges) : Ranges := difference a (complement b)

/-- The ranges as a table to look up. -/
def runs (rs : Ranges) : Unicode.Runs := (rs.map fun r => ⟨r.1, r.2, 1⟩).toArray

end Ranges

/-- The ranges of each category, in the order of the table. -/
def categoryRanges : List ((Nat × Nat) × Unicode.Category) :=
  let zones := Unicode.Category.runs.toList
  let ends := (zones.drop 1).map fun z => z.1 - 1
  (zones.zip (ends ++ [0x10FFFF])).map fun (z, last) => ((z.1, last), z.2)

/-- The ranges of some categories as patterns know them. -/
def rangesOf (cs : List Unicode.Category) : Ranges :=
  let listed := ((categoryRanges.filter fun z => cs.contains z.2).map Prod.fst)
  let known := Ranges.difference (Ranges.join listed) (unknown.ranges ++ [(0x295, 0x295)])
  let known := if cs.contains .ll then known.union [(0x295, 0x295)] else known
  if cs.contains .cn then known.union unknown.ranges else known

/-- The code points that are case variants of each other. -/
def orbits : List (List Nat) :=
  let folded := Unicode.FoldRun.table.flatMap fun r =>
    (List.range ((r.last - r.first) / r.step + 1)).map fun i =>
      let n := r.first + i * r.step
      (Unicode.foldCase n, n)
  let groups := (folded.mergeSort fun x y => x.1 ≤ y.1).splitBy fun x y => x.1 == y.1
  groups.map fun g => (g.head?.map Prod.fst).toList ++ g.map Prod.snd

namespace CharSet

/-- The ranges with those orbits of which they have a part. -/
def withOrbits (orbits : List (List Nat)) (rs : Ranges) : Ranges :=
  let table := rs.runs
  let reached := orbits.filter fun o => o.any fun n => table.has (Char.ofNat n)
  rs.union (reached.flatten.map fun n => (n, n))

def ranges : CharSet → Ranges
  | .empty => []
  | .range first last =>
    if first ≤ last then Ranges.difference [(first.toNat, last.toNat)] Ranges.surrogates else []
  | .categories cs => rangesOf cs
  | .runs r => Ranges.union r.ranges []
  | .complement a => a.ranges.complement
  | .union a b => a.ranges.union b.ranges
  | .intersection a b => a.ranges.intersection b.ranges
  | .difference a b => a.ranges.difference b.ranges
  | .symmetric a b =>
    let x := a.ranges
    let y := b.ranges
    (x.difference y).union (y.difference x)
  | .anyCase a => withOrbits orbits a.ranges
  | .asciiCase a =>
    let letters := (List.range 0x80).filter fun n => (Char.ofNat n).isLower
    withOrbits (letters.map fun n => [n, (swapCase (Char.ofNat n)).toNat]) a.ranges

end CharSet
end Pattern
end ClusterRig
