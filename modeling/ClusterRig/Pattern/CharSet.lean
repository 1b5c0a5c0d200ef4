import ClusterRig.Unicode.Age
import ClusterRig.Unicode.Folding
import ClusterRig.Unicode.Letter
import ClusterRig.Unicode.Property

/-!
# Sets of characters

The sets that a pattern can name, built from ranges and tables by the operations
on sets. Patterns know the characters of version 16 of Unicode; to them later ones
are unassigned.
-/

namespace ClusterRig
namespace Pattern

open Unicode (Category Runs)

/-- The characters that patterns do not know. -/
def unknown : Runs := Unicode.Edition.after 16

/-- The category of a character as patterns know it. One letter had a case before it
became one of a pair with newer letters. -/
def category (c : Char) : Category :=
  if unknown.has c then .cn else if c == '\u0295' then .ll else Unicode.category c

inductive CharSet
  | empty
  | range (first last : Char)
  | categories (cs : List Category)
  | runs (r : Runs)
  | complement (a : CharSet)
  | union (a b : CharSet)
  | intersection (a b : CharSet)
  | difference (a b : CharSet)
  | symmetric (a b : CharSet)
  /-- The characters that have a case variant in the set. -/
  | anyCase (a : CharSet)
  /-- The same with the case of ASCII letters alone. -/
  | asciiCase (a : CharSet)
  deriving DecidableEq, Repr

namespace CharSet

def any : CharSet := .complement .empty

def single (c : Char) : CharSet := .range c c

def unions (sets : List CharSet) : CharSet := sets.foldr .union .empty

/-- A letter of ASCII in its other case. -/
def swapCase (c : Char) : Char := if c.isUpper then c.toLower else c.toUpper

def has (c : Char) : CharSet → Bool
  | .empty => false
  | .range first last => first ≤ c && c ≤ last
  | .categories cs => cs.contains (category c)
  | .runs r => r.has c
  | .complement a => !has c a
  | .union a b => has c a || has c b
  | .intersection a b => has c a && has c b
  | .difference a b => has c a && !has c b
  | .symmetric a b => has c a != has c b
  | .anyCase a => (Unicode.caseVariants c).any fun d => has d a
  | .asciiCase a => has c a || has (swapCase c) a

def marks : List Category := [.mn, .mc, .me]

/-- The characters of a listed property. -/
def listed (name : String) : CharSet := .runs (Unicode.Property.runs name)

def alphabetic : CharSet :=
  .union (.categories (Unicode.letters ++ [.nl])) (listed "otheralphabetic")

/-- Alphabetic characters, marks, decimal digits, connectors and the two joiners. -/
def word : CharSet :=
  unions [.categories (marks ++ [.nd, .pc]), alphabetic, .range '\u200c' '\u200d']

def digit : CharSet := .categories [.nd]

def blank : CharSet :=
  .runs (Runs.ofLines ["9-D 20 85 A0 1680 2000-200A 2028-2029 202F 205F 3000"])

def asciiDigit : CharSet := .range '0' '9'

def asciiUpper : CharSet := .range 'A' 'Z'

def asciiLower : CharSet := .range 'a' 'z'

def asciiAlpha : CharSet := .union asciiUpper asciiLower

def asciiAlnum : CharSet := .union asciiDigit asciiAlpha

def asciiWord : CharSet := .union asciiAlnum (single '_')

def asciiBlank : CharSet := .union (.range '\t' '\r') (single ' ')

/-- The ASCII class of a name between `[:` and `:]`. -/
def ofAsciiName? : String → Option CharSet
  | "alnum" => some asciiAlnum
  | "alpha" => some asciiAlpha
  | "ascii" => some (.range '\x00' '\x7f')
  | "blank" => some (.union (single '\t') (single ' '))
  | "cntrl" => some (.union (.range '\x00' '\x1f') (single '\x7f'))
  | "digit" => some asciiDigit
  | "graph" => some (.range '!' '~')
  | "lower" => some asciiLower
  | "print" => some (.range ' ' '~')
  | "punct" => some (.difference (.range '!' '~') asciiAlnum)
  | "space" => some asciiBlank
  | "upper" => some asciiUpper
  | "word" => some asciiWord
  | "xdigit" => some (unions [asciiDigit, .range 'A' 'F', .range 'a' 'f'])
  | _ => none

end CharSet
end Pattern
end ClusterRig
