import ClusterRig.Text.Numeral

/-!
# Named classes of characters

The classes that patterns and character sets name, such as `alpha`. Only ASCII
characters are in one.
-/

namespace ClusterRig
namespace Shell

def isSpace (c : Char) : Bool := c == ' ' || (0x9 ≤ c.toNat && c.toNat ≤ 0xD)

def isGraphic (c : Char) : Bool := 0x21 ≤ c.toNat && c.toNat ≤ 0x7E

def isControl (c : Char) : Bool := c.toNat < 0x20 || c.toNat == 0x7F

def isHexadecimal (c : Char) : Bool :=
  Text.isDigit c || ('a' ≤ c && c ≤ 'f') || ('A' ≤ c && c ≤ 'F')

/-- The members of the class with a name. -/
def namedClass? (name : List Char) : Option (Char → Bool) :=
  match String.ofList name with
  | "alnum" => some Char.isAlphanum
  | "alpha" => some Char.isAlpha
  | "blank" => some fun c => c == ' ' || c == '\t'
  | "cntrl" => some isControl
  | "digit" => some Text.isDigit
  | "graph" => some isGraphic
  | "lower" => some Char.isLower
  | "print" => some fun c => c == ' ' || isGraphic c
  | "punct" => some fun c => isGraphic c && !c.isAlphanum
  | "space" => some isSpace
  | "upper" => some Char.isUpper
  | "xdigit" => some isHexadecimal
  | _ => none

/-- What stands between `opening` at the start of a text and the nearest `closing`,
and what follows that. -/
def enclosed? (opening closing : List Char) (s : List Char) : Option (List Char × List Char) :=
  if opening.isPrefixOf s then go [] (s.drop opening.length) else none
where
  go (passed : List Char) : List Char → Option (List Char × List Char)
    | [] => none
    | c :: rest =>
      if closing.isPrefixOf (c :: rest) then
        some (passed.reverse, (c :: rest).drop closing.length)
      else go (c :: passed) rest

end Shell
end ClusterRig
