import ClusterRig.Shell.Classes
import ClusterRig.Shell.Tool.Options

/-!
# Counting

The lines, words and octets of files, and the width of their widest line.
-/

namespace ClusterRig
namespace Shell
namespace Tool
namespace Counts

structure Count where
  lines : Nat
  words : Nat
  octets : Nat
  width : Nat

/-- The counts of several files together. -/
def Count.add (a b : Count) : Count :=
  ⟨a.lines + b.lines, a.words + b.words, a.octets + b.octets, max a.width b.width⟩

/-- The number of words of an input, given how many have begun and whether the last one
goes on. -/
def words (begun : Nat) (inside : Bool) : List Char → Nat
  | [] => begun
  | c :: rest =>
    if isSpace c then words begun false rest
    else words (if inside then begun else begun + 1) true rest

/-- The width of the widest line, given that of what has been seen and the place in
the line. Tabs go on to the next multiple of eight. -/
def width (widest here : Nat) : List Char → Nat
  | [] => max widest here
  | c :: rest =>
    if c = '\n' || c = '\r' || c = '\x0c' then width (max widest here) 0 rest
    else if c = '\t' then width widest (here + 8 - here % 8) rest
    else if c = ' ' || isGraphic c then width widest (here + 1) rest
    else width widest here rest

def count (s : List Char) : Count := ⟨s.count '\n', words 0 false s, s.length, width 0 0 s⟩

def flags : List Flag :=
  [⟨'c', ["bytes"], .nothing⟩, ⟨'m', ["chars"], .nothing⟩, ⟨'l', ["lines"], .nothing⟩,
    ⟨'w', ["words"], .nothing⟩, ⟨'L', ["max-line-length"], .nothing⟩, ⟨'τ', ["total"], .argument⟩]

/-- The numbers that are asked for. -/
def numbers (u : Usage) (c : Count) : List Nat :=
  let all := ! ['l', 'w', 'c', 'm', 'L'].any u.has
  let pick (letter : Char) (n : Nat) : List Nat := if u.has letter || all then [n] else []
  pick 'l' c.lines ++ pick 'w' c.words ++ (if u.has 'm' then [c.octets] else [])
    ++ pick 'c' c.octets ++ (if u.has 'L' then [c.width] else [])

def line (columns : Nat) (ns : List Nat) (name : Option (List Char)) : List Char :=
  let fill (n : Nat) :=
    let ds := Text.decimal n
    List.replicate (columns - ds.length) ' ' ++ ds
  [' '].intercalate (ns.map fill ++ name.toList) ++ ['\n']

/-- The width of the numbers. Where only one is printed, or where the sizes of all
files are known, they are not wider than needed. -/
def columns (u : Usage) (p : Process) : Nat :=
  let single := (numbers u ⟨0, 0, 0, 0⟩).length = 1
  let names := if u.operands.isEmpty then [['-']] else u.operands
  if single && names.length = 1 then 1
  else
    let sizes := names.map fun name =>
      if name = ['-'] then (if p.blocked = some Process.closed then some (0, false) else none)
      else match p.files.look name with
        | .content s => some (s.length, true)
        | .directory => none
        | .nothing => if name = "/dev/null".toList then none else some (0, false)
    let total := sizes.foldl (fun n s => match s with
      | some (m, _) => n + m
      | none => n) 0
    max (Text.decimal total).length (if sizes.any Option.isNone then 7 else 1)

def run (name : Name) (u : Usage) (p : Process) : Process :=
  let totals := String.ofList ((u.argument? 'τ').getD "auto".toList)
  if ! ["auto", "always", "only", "never"].contains totals then
    misuse name ("invalid argument ".toList ++ Quoting.text totals.toList
      ++ " for '--total'\nValid arguments are:".toList
      ++ "\n  - 'auto'\n  - 'always'\n  - 'only'\n  - 'never'".toList) p 1
  else
    let w := if totals = "only" then 1 else columns u p
    let shown (c : Count) (label : Option (List Char)) (p : Process) : Process :=
      if totals = "only" then p else p.print (line w (numbers u c) label)
    let names := if u.operands.isEmpty then [none] else u.operands.map some
    let (sum, p) := names.foldl (fun (sum, p) operand =>
      let file := operand.getD ['-']
      match p.open_ file with
      | (.ok s, p) => (sum.add (count s), shown (count s) operand p)
      | (.error why, p) =>
        let shownName := if operand.isNone || file = ['-'] then "'standard input'".toList
          else Quoting.name file
        let q := failure name (if file.isEmpty then "invalid zero-length file name".toList
          else shownName ++ ": ".toList ++ why.toList) p
        (sum, if why = "Is a directory" || why = Process.closed then shown ⟨0, 0, 0, 0⟩ operand q
          else q))
      ((⟨0, 0, 0, 0⟩ : Count), p)
    let hasTotal : Bool := match totals with
      | "auto" => decide (1 < names.length)
      | "never" => false
      | _ => true
    let p := if hasTotal then
        p.print (line w (numbers u sum) (if totals = "only" then none else some "total".toList))
      else p
    reportClosed name "-" (names.map (·.getD ['-'])) p

def program : Program := Tool.program flags true run

end Counts
end Tool
end Shell
end ClusterRig
