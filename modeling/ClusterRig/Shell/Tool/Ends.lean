import ClusterRig.Shell.Tool.Options
import ClusterRig.Text.Numeral

/-!
# The ends of files

`head` prints the start of files and `tail` their end, measured in lines or octets.
Before each of several files stands its name.
-/

namespace ClusterRig
namespace Shell
namespace Tool
namespace Ends

/-- How much is asked for: lines or octets, and from which end they are counted. -/
structure Extent where
  octets : Bool
  fromOther : Bool
  count : Nat

def pieces (octets : Bool) (delimiter : Char) (s : List Char) : List (List Char) :=
  if octets then s.map ([·]) else linesOf delimiter s

/-- What ends a line. -/
def delimiterOf (u : Usage) : Char := if u.has 'z' then '\x00' else '\n'

/-- The start of a text, or all but so much of its end. -/
def start (e : Extent) (delimiter : Char) (s : List Char) : List Char :=
  let ps := pieces e.octets delimiter s
  (ps.take (if e.fromOther then ps.length - e.count else e.count)).flatten

/-- The end of a text, or what begins at a place that is counted from one. -/
def finish (e : Extent) (delimiter : Char) (s : List Char) : List Char :=
  let ps := pieces e.octets delimiter s
  (ps.drop (if e.fromOther then e.count - 1 else ps.length - e.count)).flatten

/-- The largest number that can be asked for. -/
def greatest : Nat := UInt64.size - 1

/-- The extent that an argument names, where `sign` counts from the other end. -/
def extent (sign : Char) (octets : Bool) (s : List Char) : Except (List Char) Extent :=
  let number := if s.head? = some '-' then s.tail else s
  let refuse (more : String) : Except (List Char) Extent :=
    .error ("invalid number of ".toList ++ (if octets then "bytes" else "lines").toList
      ++ ": ".toList ++ Quoting.text number ++ more.toList)
  match amount? number with
  | some n =>
    if n ≤ greatest then .ok ⟨octets, s.head? = some sign, n⟩
    else refuse ": Value too large for defined data type"
  | none => refuse ""

/-- What is wrong with the options, and whether it is the way they are given. -/
inductive Misuse
  | value (what : List Char)
  | digit (c : Char)

/-- The last extent among some options. With `keeps` all are counted from the other end
after one that is. -/
def extentOf (sign : Char) (keeps : Bool) (u : Usage) : Except Misuse Extent :=
  u.options.foldlM (fun (e : Extent) o =>
    let given (octets : Bool) (s : List Char) : Except Misuse Extent :=
      match extent sign octets s with
      | .ok f => .ok { f with fromOther := f.fromOther || (keeps && e.fromOther) }
      | .error what => .error (.value what)
    match o.letter, o.argument with
    | 'n', some s => given false s
    | 'c', some s => given true s
    | c, _ => if Text.isDigit c then .error (.digit c) else .ok e) ⟨false, false, 10⟩

/-- Digits, which are no options but where they come first. -/
def digits : List Flag := "0123456789".toList.map fun c => ⟨c, [], .maybe⟩

def flags : List Flag :=
  [⟨'c', ["bytes"], .argument⟩, ⟨'n', ["lines"], .argument⟩,
    ⟨'q', ["quiet", "silent"], .nothing⟩, ⟨'v', ["verbose"], .nothing⟩,
    ⟨'z', ["zero-terminated"], .nothing⟩] ++ digits

def tailFlags : List Flag :=
  flags ++ [⟨'f', [], .nothing⟩, ⟨'φ', ["follow"], .maybe⟩, ⟨'F', [], .nothing⟩,
    ⟨'s', ["sleep-interval"], .argument⟩, ⟨'ρ', ["retry"], .nothing⟩]

/-- The line that names a file. -/
def heading (first : Bool) (file : List Char) : List Char :=
  let name := if file = ['-'] then "standard input".toList else file
  (if first then [] else ['\n']) ++ "==> ".toList ++ name ++ " <==\n".toList

/-- Print a part of each file. The part says as well what is left of an input; `closed`
is what fails where that is closed. -/
def printEach (name : Name) (u : Usage) (closed : String)
    (part : List Char → List Char × List Char) (p : Process) : Process :=
  let files := if u.operands.isEmpty then [['-']] else u.operands
  let loudness := (u.options.map (·.letter)).reverse.find? fun c => c == 'q' || c == 'v'
  let headed := loudness = some 'v' || (loudness ≠ some 'q' && 1 < files.length)
  let title (file : List Char) : List Char :=
    Quoting.enclosed (if file = ['-'] then "standard input".toList else file)
  reportClosed name "-" files (files.foldl (fun (first, p) file =>
    let titled (p : Process) := if headed then p.print (heading first file) else p
    match p.open_ file with
    | (.ok s, q) =>
      let (out, left) := part s
      let q := if file = ['-'] then { q with input := left } else q
      (false, (titled q).print out)
    | (.error why, p) =>
      if why = "Is a directory" || file = ['-'] then
        let doing := if why = Process.closed then closed else "error reading"
        (false, failure name (doing.toList ++ ' ' :: title file ++ ": ".toList ++ why.toList)
          (titled p))
      else
        (first, failure name ("cannot open ".toList ++ Quoting.enclosed file
          ++ " for reading: ".toList ++ why.toList) p)) (true, p)).2

/-! ## The start -/

/-- A first argument that is a number after a hyphen, as options. -/
def shortStart : List (List Char) → Except (List Char) (List (List Char))
  | ('-' :: d :: s) :: rest =>
    if Text.isDigit d then
      let ds := (d :: s).takeWhile Text.isDigit
      let suffix := (d :: s).drop ds.length
      match suffix.find? fun c => ! ['c', 'b', 'k', 'm', 'l', 'q', 'v', 'z'].contains c with
      | some c => .error ("invalid trailing option -- ".toList ++ [c])
      | none =>
        let unit := suffix.filter ['b', 'k', 'm'].contains
        let octets := suffix.any ['c', 'b', 'k', 'm'].contains && !suffix.contains 'l'
        let others := suffix.filter ['q', 'v', 'z'].contains
        .ok ((if others.isEmpty then [] else ['-' :: others])
          ++ [['-', if octets then 'c' else 'n'], ds ++ unit] ++ rest)
    else .ok (('-' :: d :: s) :: rest)
  | args => .ok args

def head : Program := fun name args p =>
  match shortStart args with
  | .error what => misuse name what p 1
  | .ok args =>
    Tool.program flags true (fun name u p =>
      match extentOf '-' false u with
      | .error (.digit c) => misuse name ("invalid trailing option -- ".toList ++ [c]) p 1
      | .error (.value what) => failure name what p
      | .ok e =>
        printEach name u "error reading" (fun s =>
          let out := start e (delimiterOf u) s
          (out, if e.fromOther then [] else afterBlocks out.length s)) p) name args p

/-! ## The end -/

/-- A single argument that is a number after a sign, as options. -/
def shortEnd? (args : List (List Char)) : Option (List (List Char)) :=
  let isLast := match args with
    | [_] => true
    | [_, ['-', '-']] => true
    | [_, ['-', '-'], _] => true
    | [_, '-' :: _ :: _] => false
    | [_, _] => true
    | _ => false
  match isLast, args with
  | true, (sign :: s) :: rest =>
    let ds := s.takeWhile Text.isDigit
    let suffix := s.drop ds.length
    let count := if ds.isEmpty then ['1', '0'] else ds
    let known := sign == '+' || (sign == '-' && !s.isEmpty && s != ['c'])
    let from_ : List Char := if sign == '+' then ['+'] else []
    match known, String.ofList suffix with
    | true, "" | true, "l" =>
      if sign == '-' && ds.isEmpty && suffix.isEmpty then none
      else some (['-', 'n'] :: (from_ ++ count) :: rest)
    | true, "c" => some (['-', 'c'] :: (from_ ++ count) :: rest)
    | true, "b" => some (['-', 'c'] :: (from_ ++ count ++ ['b']) :: rest)
    | _, _ => none
  | _, _ => none

def tail : Program := fun name args p =>
  Tool.program tailFlags true (fun name u p =>
    match extentOf '+' true u with
    | .error (.digit c) => failure name ("option used in invalid context -- ".toList ++ [c]) p
    | .error (.value what) => failure name what p
    | .ok e =>
      if e.count = 0 && !e.fromOther then p
      else printEach name u "cannot fstat" (fun s => (finish e (delimiterOf u) s, [])) p)
    name ((shortEnd? args).getD args) p

end Ends
end Tool
end Shell
end ClusterRig
