/-!
# Runs of code points

Sets of code points are listed as runs, in ascending order: the numbers from a
first to a last, or every second or third of them. In the tables a run is written
in hexadecimal as `41`, as `41-5A` or, with its step in decimal, as `100-12E/2`.
-/

namespace ClusterRig
namespace Unicode

structure Run where
  first : Nat
  last : Nat
  step : Nat
  deriving DecidableEq, Repr

/-- A set of code points. -/
abbrev Runs := Array Run

namespace Run

def has (r : Run) (n : Nat) : Bool := r.first ≤ n && n ≤ r.last && (n - r.first) % r.step == 0

/-- The ranges without gaps that a run consists of. -/
def ranges (r : Run) : List (Nat × Nat) :=
  if r.step ≤ 1 then [(r.first, r.last)]
  else
    (List.range ((r.last - r.first) / r.step + 1)).map fun i =>
      (r.first + i * r.step, r.first + i * r.step)

def digitValue (c : Char) : Nat := if c.isDigit then c.toNat - 48 else c.toNat - 55

/-- The number at the start of a text, in the given base, and the text after it. -/
def number (base : Nat) : Nat → List Char → Nat × List Char
  | n, [] => (n, [])
  | n, c :: rest =>
    if c.isDigit || c.isUpper then number base (n * base + digitValue c) rest else (n, c :: rest)

def ofText (s : List Char) : Run :=
  let (first, rest) := number 16 0 s
  match rest with
  | '-' :: rest =>
    let (last, rest) := number 16 0 rest
    match rest with
    | '/' :: rest => ⟨first, last, (number 10 0 rest).1⟩
    | _ => ⟨first, last, 1⟩
  | _ => ⟨first, first, 1⟩

end Run

namespace Runs

def ofLines (lines : List String) : Runs :=
  (lines.flatMap fun line => (line.splitOn " ").map fun w => Run.ofText w.toList).toArray

/-- Whether the last run that starts at or before `n` has it, if that run is at one
of the places from `low` to below `high`. -/
def search (runs : Runs) (n : Nat) : Nat → Nat → Nat → Bool
  | 0, _, _ => false
  | fuel + 1, low, high =>
    if high ≤ low + 1 then (runs[low]?).any (·.has n)
    else
      let middle := (low + high) / 2
      if (runs[middle]?).any (·.first ≤ n) then search runs n fuel middle high
      else search runs n fuel low middle

def has (runs : Runs) (c : Char) : Bool := search runs c.toNat 32 0 runs.size

/-- The ranges of a set, in ascending order. -/
def ranges (runs : Runs) : List (Nat × Nat) := runs.toList.flatMap Run.ranges

end Runs

/-- The set of a property, or of one of the values of a property, and its names in
lower case without underscores. -/
structure Listed where
  names : List String
  lines : List String

namespace Listed

def runs (l : Listed) : Runs := Runs.ofLines l.lines

/-- The entry that goes by a name. -/
def named? (table : List Listed) (name : String) : Option Listed :=
  table.find? fun l => l.names.contains name

end Listed
end Unicode
end ClusterRig
