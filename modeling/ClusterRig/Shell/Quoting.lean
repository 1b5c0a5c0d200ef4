import ClusterRig.Shell.Classes
import ClusterRig.Text.Numeral

/-!
# Quoted names in messages

Messages show a name so that all of it can be seen: between quotes with escapes, or as
a word that a shell would take for the name.
-/

namespace ClusterRig
namespace Shell
namespace Quoting

/-- The letter of a control character that has one. -/
def letter? : Char → Option Char
  | '\x07' => some 'a'
  | '\x08' => some 'b'
  | '\x0c' => some 'f'
  | '\n' => some 'n'
  | '\r' => some 'r'
  | '\t' => some 't'
  | '\x0b' => some 'v'
  | _ => none

/-- Three octal digits. -/
def octal (c : Char) : List Char :=
  let ds := Nat.toDigits 8 c.toNat
  List.replicate (3 - ds.length) '0' ++ ds

/-- Whether a character can be seen as it is. -/
def isVisible (c : Char) : Bool := c = ' ' || isGraphic c

/-- The escape of a character that cannot be seen, without its backslash. -/
def escape? (c : Char) : Option (List Char) :=
  match letter? c with
  | some l => some [l]
  | none => if isVisible c then none else some (octal c)

/-- A text with escapes. -/
def escaped (s : List Char) : List Char :=
  s.flatMap fun c =>
    match escape? c with
    | some e => '\\' :: e
    | none => if c = '\\' then ['\\', c] else [c]

/-- A text between quotes. -/
def text (s : List Char) : List Char :=
  ['\''] ++ (escaped s).flatMap (fun c => if c = '\'' then ['\\', c] else [c]) ++ ['\'']

def isPlain (c : Char) : Bool :=
  c.isAlphanum || ['%', '+', ',', '-', '.', '/', '@', ']', '_'].contains c

/-- Whether a shell takes a text for itself. -/
def isWord (s : List Char) : Bool :=
  !s.isEmpty && s != ['\x7b'] && s != ['\x7d']
    && s.zipIdx.all fun (c, n) =>
      isPlain c || [':', '\x7b', '\x7d'].contains c || (0 < n && (c = '#' || c = '~'))

/-- Whether a shell takes a text for itself, and a message can end it with a colon. -/
def isName (s : List Char) : Bool := isWord s && !s.contains ':'

/-- Whether a text can stand between double quotes as it is. -/
def isPhrase (s : List Char) : Bool :=
  s.zipIdx.all fun (c, n) =>
    isPlain c || [' ', '\'', ':'].contains c || (n = 0 && (c = '#' || c = '~'))

/-- The inside of a word between single quotes. `open_` tells whether escapes have come
last, which stand between quotes of their own. -/
def inside (open_ : Bool) : List Char → List Char
  | [] => []
  | '\'' :: rest => "'\\''".toList ++ inside false rest
  | c :: rest =>
    match escape? c with
    | some e => (if open_ then [] else "'$'".toList) ++ '\\' :: e ++ inside true rest
    | none => (if open_ then "''".toList else []) ++ c :: inside false rest

/-- A text between the quotes that make it a word for a shell. -/
def enclosed (s : List Char) : List Char :=
  if s.contains '\'' && isPhrase s then ['"'] ++ s ++ ['"'] else ['\''] ++ inside false s ++ ['\'']

/-- A text as a word for a shell, with quotes if it needs them. -/
def word (s : List Char) : List Char := if isWord s then s else enclosed s

/-- A text as a word before a colon. -/
def name (s : List Char) : List Char := if isName s then s else enclosed s

end Quoting
end Shell
end ClusterRig
