import ClusterRig.Shell.Process
import ClusterRig.Shell.Quoting

/-!
# Options of programs

An option is a letter after a hyphen or a word after two, and may take an argument.
Letters can stand together, and a word can be cut short as long as it is clear which
one is meant. Everything after two hyphens is an operand.
-/

namespace ClusterRig
namespace Shell
namespace Tool

inductive Need
  | nothing
  | argument
  /-- An argument that is part of the same word. -/
  | maybe
  deriving DecidableEq

/-- An option: its letter, or a sign that is no octet if it has none, the words that
stand for it, and whether it takes an argument. -/
structure Flag where
  letter : Char
  words : List String
  need : Need

/-- An option that was given, with its argument. -/
structure Given where
  letter : Char
  argument : Option (List Char)

/-- The options and operands of a program. -/
structure Usage where
  options : List Given
  operands : List (List Char)

namespace Usage

def has (u : Usage) (letter : Char) : Bool := u.options.any (·.letter == letter)

/-- The argument of the last option with a letter. -/
def argument? (u : Usage) (letter : Char) : Option (List Char) :=
  (u.options.reverse.find? (·.letter == letter)).bind (·.argument)

def withOptions (options : List Given) (u : Usage) : Usage :=
  ⟨options ++ u.options, u.operands⟩

end Usage

/-- The operands of `u` come after another one. -/
def Usage.withOperand (operand : List Char) (u : Usage) : Usage :=
  ⟨u.options, operand :: u.operands⟩

/-- What is wrong with a usage. -/
abbrev Complaint := List Char

/-- The options of letters that stand together, and whether the last one takes the next
word. -/
def letters (flags : List Flag) : List Char → Except Complaint (List Given × Option Char)
  | [] => .ok ([], none)
  | c :: rest =>
    match flags.find? (·.letter == c) with
    | none => .error ("invalid option -- '".toList ++ [c, '\''])
    | some flag =>
      match flag.need with
      | .nothing => do
        let (options, open_) ← letters flags rest
        return (⟨c, none⟩ :: options, open_)
      | .argument => .ok (if rest.isEmpty then ([], some c) else ([⟨c, some rest⟩], none))
      | .maybe => .ok ([⟨c, if rest.isEmpty then none else some rest⟩], none)

/-- The words that a word can be short for, with their options. -/
def candidates (flags : List Flag) (word : List Char) : List (Flag × String) :=
  let all := flags.flatMap fun f => f.words.map fun w => (f, w)
  match all.filter fun p => p.2.toList = word with
  | [] => all.filter fun p => word.isPrefixOf p.2.toList
  | exact => exact

/-- The option of a word, with an argument behind an equals sign. The third part is the
word if its argument is still missing. -/
def long (flags : List Flag) (s : List Char) :
    Except Complaint (List Given × Option (Char × String)) :=
  let word := s.takeWhile (· != '=')
  let argument := match s.dropWhile (· != '=') with
    | _ :: argument => some argument
    | [] => none
  let called (w : String) : List Char := "option '--".toList ++ w.toList ++ ['\'']
  match candidates flags word with
  | [] => .error ("unrecognized option '--".toList ++ s ++ ['\''])
  | (flag, w) :: more =>
    if more.all (·.1.letter == flag.letter) then
      match flag.need, argument with
      | .nothing, some _ => .error (called w ++ " doesn't allow an argument".toList)
      | .argument, none => .ok ([], some (flag.letter, w))
      | _, argument => .ok ([⟨flag.letter, argument⟩], none)
    else
      .error ("option '--".toList ++ s ++ "' is ambiguous; possibilities:".toList
        ++ ((flag, w) :: more).flatMap fun p => " '--".toList ++ p.2.toList ++ ['\''])

/-- The options and operands among some words. Unless `permuted` the first operand
ends the options. -/
def usage (flags : List Flag) (permuted : Bool) : List (List Char) → Except Complaint Usage
  | [] => .ok ⟨[], []⟩
  | ['-', '-'] :: rest => .ok ⟨[], rest⟩
  | ('-' :: '-' :: s) :: rest => do
    match ← long flags s, rest with
    | (options, none), rest => return (← usage flags permuted rest).withOptions options
    | (_, some (letter, _)), argument :: rest =>
      return (← usage flags permuted rest).withOptions [⟨letter, some argument⟩]
    | (_, some (_, w)), [] =>
      throw ("option '--".toList ++ w.toList ++ "' requires an argument".toList)
  | ('-' :: c :: s) :: rest => do
    match ← letters flags (c :: s), rest with
    | (options, none), rest => return (← usage flags permuted rest).withOptions options
    | (options, some letter), argument :: rest =>
      return (← usage flags permuted rest).withOptions (options ++ [⟨letter, some argument⟩])
    | (_, some letter), [] =>
      throw ("option requires an argument -- '".toList ++ [letter, '\''])
  | operand :: rest =>
    if permuted then do return (← usage flags permuted rest).withOperand operand
    else .ok ⟨[], operand :: rest⟩

/-- How a program is called, which stands before what it reports. -/
abbrev Name := List Char

/-- Report something. -/
def report (name : Name) (what : List Char) (p : Process) : Process :=
  p.complain (name ++ ": ".toList ++ what)

/-- Report something that makes the program fail. -/
def failure (name : Name) (what : List Char) (p : Process) : Process :=
  (report name what p).withStatus 1

/-- Report something if the input is closed and one of some files stands for it. -/
def reportClosed (name : Name) (what : String) (files : List (List Char)) (p : Process) : Process :=
  if p.blocked = some Process.closed && files.contains ['-'] then
    failure name (what.toList ++ ": ".toList ++ Process.closed.toList) p
  else p

/-- Report wrong usage. -/
def misuse (name : Name) (what : List Char) (p : Process) (status : Nat) : Process :=
  ((report name what p).complain
    ("Try '".toList ++ name ++ " --help' for more information.".toList)).withStatus status

/-- A program: what becomes of a process, given how it is called and its arguments. -/
abbrev Program := Name → List (List Char) → Process → Process

/-- A program with options, which come before or among its operands. -/
def program (flags : List Flag) (permuted : Bool) (run : Name → Usage → Process → Process) :
    Program := fun name args p =>
  match usage flags permuted args with
  | .ok u => run name u p
  | .error what => misuse name what p 1

/-- A number that ends with an optional unit, as a count of lines or octets. -/
def amount? (s : List Char) : Option Nat :=
  let s := s.dropWhile isSpace
  let s := if s.head? = some '+' then s.tail else s
  let ds := s.takeWhile Char.isDigit
  let unit? : Option Nat := match String.ofList (s.drop ds.length) with
    | "" => some 1
    | "b" => some 512
    | "k" | "K" | "KiB" => some 1024
    | "kB" | "KB" => some 1000
    | "m" | "M" | "MiB" => some (1024 * 1024)
    | "MB" => some (1000 * 1000)
    | "G" | "GiB" => some (1024 * 1024 * 1024)
    | "GB" => some (1000 * 1000 * 1000)
    | _ => none
  if ds.isEmpty then none
  else unit?.map fun unit => ds.foldl (fun n d => n * 10 + (d.toNat - '0'.toNat)) 0 * unit

/-- The lines of a text, each with the delimiter that ends it if one does. -/
def linesOf (delimiter : Char) (s : List Char) : List (List Char) :=
  let (lines, open_) := s.foldr (fun c (lines, open_) =>
    if c = delimiter then ((if open_.isEmpty then lines else open_ :: lines), [c])
    else (lines, c :: open_)) (([] : List (List Char)), ([] : List Char))
  if open_.isEmpty then lines else open_ :: lines

/-- Inputs are taken in blocks of this size. -/
def block : Nat := 8192

/-- What is left of an input of which some octets were needed. -/
def afterBlocks (needed : Nat) (input : List Char) : List Char :=
  input.drop ((needed + block - 1) / block * block)

end Tool
end Shell
end ClusterRig
