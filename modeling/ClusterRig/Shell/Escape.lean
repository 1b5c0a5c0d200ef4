import ClusterRig.Shell.Integer

/-!
# Escapes

The escapes that the printing commands know: letters for control characters and
numbers for octets. The commands of the shell and the programs of the same names
differ in what they know.
-/

namespace ClusterRig
namespace Shell

/-- Who prints: a command of the shell, or the program of the same name. -/
inductive Printer
  | command
  | program
  deriving DecidableEq, Repr

namespace Escape

def isOctal (c : Char) : Bool := '0' ≤ c && c ≤ '7'

/-- The octet of some digits. -/
def octet (base : Nat) (ds : List Char) : Char := Char.ofNat (Integer.ofDigits base ds % 256)

/-- The character of an escape by letter. -/
def ofLetter? : Char → Option Char
  | 'a' => some '\x07'
  | 'b' => some '\x08'
  | 'e' => some '\x1b'
  | 'f' => some '\x0c'
  | 'n' => some '\n'
  | 'r' => some '\r'
  | 't' => some '\t'
  | 'v' => some '\x0b'
  | '\\' => some '\\'
  | _ => none

/-- What becomes of an escape. -/
inductive Meaning
  /-- Characters, and the text after the escape. -/
  | chars (s rest : List Char)
  /-- Nothing more is printed. -/
  | stop
  /-- There is no number where one must be. -/
  | noNumber

/-- The meaning of an escape given what follows its backslash. In arguments the octal
digits may follow a zero. -/
def meaning (printer : Printer) (inArgument : Bool) (s : List Char) : Meaning :=
  match s with
  | [] => .chars ['\\'] []
  | c :: rest =>
    match ofLetter? c with
    | some d => .chars [d] rest
    | none =>
      if isOctal c then
        let s := if inArgument && c == '0' then rest else s
        let ds := (s.take 3).takeWhile isOctal
        .chars [octet 8 ds] (s.drop ds.length)
      else
        match printer, c with
        | .command, 'c' => if inArgument then .stop else .chars ['\\'] s
        | .command, _ => .chars ['\\'] s
        | .program, 'c' => .stop
        | .program, '"' => .chars ['"'] rest
        | .program, 'x' =>
          let ds := (rest.take 2).takeWhile isHexadecimal
          if ds.isEmpty then .noNumber else .chars [octet 16 ds] (rest.drop ds.length)
        | .program, _ => .chars ['\\', c] rest

/-- How a text that is printed ends. -/
inductive Ending
  | complete
  | stopped
  | noNumber
  deriving DecidableEq

/-- A text with its escapes replaced. -/
def expand (printer : Printer) : Nat → List Char → List Char × Ending
  | 0, _ => ([], .complete)
  | _, [] => ([], .complete)
  | fuel + 1, '\\' :: rest =>
    match meaning printer true rest with
    | .chars s rest =>
      let (t, ending) := expand printer fuel rest
      (s ++ t, ending)
    | .stop => ([], .stopped)
    | .noNumber => ([], .noNumber)
  | fuel + 1, c :: rest =>
    let (s, ending) := expand printer fuel rest
    (c :: s, ending)

/-- An argument with its escapes replaced. -/
def argument (printer : Printer) (s : List Char) : List Char × Ending :=
  expand printer (s.length + 1) s

end Escape
end Shell
end ClusterRig
