import ClusterRig.Decimal.Layout
import ClusterRig.Tree.Basic

/-!
# Writing trees as JSON

The compact form has no blanks; the indented form puts each item and each entry
on a line of its own, two blanks further in than what holds it. Entries are
written in the order in which the object has them.
-/

namespace ClusterRig
namespace Tree

def numberText : Number → List Char
  | .natural n => Nat.toDigits 10 n.toNat
  | .negative n => (toString n.toInt).toList
  | .double x => Decimal.Layout.document.write x

def hexDigits : Nat → List Char
  | n => [Nat.digitChar (n / 16), Nat.digitChar (n % 16)]

/-- A character inside quotes. Only the quote, the backslash and the control
characters below U+0020 are escaped. -/
def quotedChar (c : Char) : List Char :=
  match c with
  | '"' => ['\\', '"']
  | '\\' => ['\\', '\\']
  | '\x08' => ['\\', 'b']
  | '\x0c' => ['\\', 'f']
  | '\n' => ['\\', 'n']
  | '\r' => ['\\', 'r']
  | '\t' => ['\\', 't']
  | c => if c.toNat < 0x20 then '\\' :: 'u' :: '0' :: '0' :: hexDigits c.toNat else [c]

def quoted (s : String) : List Char := '"' :: (s.toList.flatMap quotedChar ++ ['"'])

mutual

def compact : Tree → List Char
  | .null => ['n', 'u', 'l', 'l']
  | .bool true => ['t', 'r', 'u', 'e']
  | .bool false => ['f', 'a', 'l', 's', 'e']
  | .number n => numberText n
  | .text s => quoted s
  | .array items => '[' :: compactItems items
  | .object entries => '\x7b' :: compactEntries entries

/-- The items of an array and its closing bracket. -/
def compactItems : List Tree → List Char
  | [] => [']']
  | [t] => compact t ++ [']']
  | t :: rest => compact t ++ ',' :: compactItems rest

/-- The entries of an object and its closing brace. -/
def compactEntries : List (String × Tree) → List Char
  | [] => ['\x7d']
  | [(key, t)] => quoted key ++ ':' :: (compact t ++ ['\x7d'])
  | (key, t) :: rest => quoted key ++ ':' :: (compact t ++ ',' :: compactEntries rest)

end

/-- A line break and the indentation of the next line. -/
def newline (level : Nat) : List Char := '\n' :: List.replicate (2 * level) ' '

mutual

/-- The indented form of a value that stands `level` levels deep. -/
def indented (level : Nat) : Tree → List Char
  | .null => ['n', 'u', 'l', 'l']
  | .bool true => ['t', 'r', 'u', 'e']
  | .bool false => ['f', 'a', 'l', 's', 'e']
  | .number n => numberText n
  | .text s => quoted s
  | .array [] => ['[', ']']
  | .array items => '[' :: indentedItems level items
  | .object [] => ['\x7b', '\x7d']
  | .object entries => '\x7b' :: indentedEntries level entries

def indentedItems (level : Nat) : List Tree → List Char
  | [] => newline level ++ [']']
  | [t] => newline (level + 1) ++ (indented (level + 1) t ++ (newline level ++ [']']))
  | t :: rest => newline (level + 1) ++ (indented (level + 1) t ++ ',' :: indentedItems level rest)

def indentedEntries (level : Nat) : List (String × Tree) → List Char
  | [] => newline level ++ ['\x7d']
  | [(key, t)] =>
    newline (level + 1) ++
      (quoted key ++ ':' :: ' ' :: (indented (level + 1) t ++ (newline level ++ ['\x7d'])))
  | (key, t) :: rest =>
    newline (level + 1) ++
      (quoted key ++ ':' :: ' ' :: (indented (level + 1) t ++ ',' :: indentedEntries level rest))

end

/-- The compact form as a string. -/
def toJson (t : Tree) : String := String.ofList (compact t)

/-- The indented form as a string. -/
def toIndentedJson (t : Tree) : String := String.ofList (indented 0 t)

end Tree
end ClusterRig
