import ClusterRig.Shell.Classes
import ClusterRig.Shell.Tool.Options

/-!
# Putting files together

The files one after the other, where lines can be counted, empty lines that follow
each other left out, and characters made visible.
-/

namespace ClusterRig
namespace Shell
namespace Tool
namespace Cat

structure Style where
  number : Bool
  numberFilled : Bool
  squeeze : Bool
  ends : Bool
  tabs : Bool
  visible : Bool

def style (u : Usage) : Style where
  number := u.has 'n'
  numberFilled := u.has 'b'
  squeeze := u.has 's'
  ends := u.has 'A' || u.has 'e' || u.has 'E'
  tabs := u.has 'A' || u.has 't' || u.has 'T'
  visible := u.has 'A' || u.has 'e' || u.has 't' || u.has 'v'

def flags : List Flag :=
  [⟨'b', ["number-nonblank"], .nothing⟩, ⟨'n', ["number"], .nothing⟩,
    ⟨'s', ["squeeze-blank"], .nothing⟩, ⟨'v', ["show-nonprinting"], .nothing⟩,
    ⟨'E', ["show-ends"], .nothing⟩, ⟨'T', ["show-tabs"], .nothing⟩,
    ⟨'A', ["show-all"], .nothing⟩, ⟨'e', [], .nothing⟩, ⟨'t', [], .nothing⟩, ⟨'u', [], .nothing⟩]

/-- How a character is shown. -/
def shown (st : Style) (c : Char) : List Char :=
  if c = '\t' then (if st.tabs then ['^', 'I'] else [c])
  else if !st.visible then [c]
  else
    let high : List Char := if c.toNat < 128 then [] else ['M', '-']
    let c := Char.ofNat (c.toNat % 128)
    high ++ (if c.toNat < 32 then ['^', Char.ofNat (c.toNat + 64)]
      else if c.toNat = 127 then ['^', '?'] else [c])

/-- Where the output is: the number of the last line that was counted, how many line
breaks have come last, and whether a carriage return waits for one. -/
structure Place where
  counted : Nat
  breaks : Nat
  carriage : Bool

def label (n : Nat) : List Char :=
  let ds := Text.decimal n
  List.replicate (6 - ds.length) ' ' ++ ds ++ ['\t']

def step (st : Style) (place : Place) (c : Char) : Place × List Char :=
  let held : List Char := if place.carriage then ['\r'] else []
  if c = '\n' then
    if st.squeeze && 2 ≤ place.breaks then (place, [])
    else
      let empty := 1 ≤ place.breaks
      let counts := empty && st.number && !st.numberFilled
      let counted := if counts then place.counted + 1 else place.counted
      let before := if counts then label counted else []
      let mark : List Char :=
        if st.ends then (if place.carriage then ['^', 'M', '$'] else ['$']) else held
      (⟨counted, min 2 (place.breaks + 1), false⟩, before ++ mark ++ ['\n'])
  else
    let counts := 1 ≤ place.breaks && (st.number || st.numberFilled)
    let counted := if counts then place.counted + 1 else place.counted
    let before := held ++ if counts then label counted else []
    if c = '\r' && st.ends && !st.visible then (⟨counted, 0, true⟩, before)
    else (⟨counted, 0, false⟩, before ++ shown st c)

def plain (st : Style) : Bool :=
  !(st.number || st.numberFilled || st.squeeze || st.ends || st.tabs || st.visible)

/-- The output for some content, and where it ends. -/
def render (st : Style) (place : Place) (s : List Char) : Place × List Char :=
  if plain st then (place, s)
  else
    let (place, out) := s.foldl (fun (place, out) c =>
      let (place, t) := step st place c
      (place, t :: out)) (place, ([] : List (List Char)))
    (place, out.reverse.flatten)

def run (name : Name) (u : Usage) (p : Process) : Process :=
  if p.muted then failure name ("standard output: " ++ Process.closed).toList p
  else
    let st := style u
    let names := if u.operands.isEmpty then [['-']] else u.operands
    let (place, p) := names.foldl (fun (place, p) file =>
      match p.open_ file with
      | (.ok s, p) =>
        let (place, out) := render st place s
        (place, p.print out)
      | (.error why, p) => (place, failure name (Quoting.name file ++ ": ".toList ++ why.toList) p))
      ((⟨0, 1, false⟩ : Place), p)
    reportClosed name "closing standard input" names (if place.carriage then p.print ['\r'] else p)

def program : Program := Tool.program flags true run

end Cat
end Tool
end Shell
end ClusterRig
