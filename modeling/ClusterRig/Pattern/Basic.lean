import ClusterRig.Pattern.Reader
import ClusterRig.Pattern.Size

/-!
# Patterns

A pattern is its text with the expression that it stands for. A text is no pattern if
it is malformed, if it is nested too deeply, or if its repetitions make it too large.
-/

namespace ClusterRig

structure Pattern where
  text : String
  regex : Pattern.Regex

namespace Pattern

/-- How many levels deep a pattern may be nested. -/
def maxDepth : Nat := 250

/-- The expression of a pattern, if it is well formed and not too deep or too large. -/
def parse? (pattern : List Char) : Option Regex :=
  match Reader.expression? pattern with
  | none => none
  | some e =>
    if maxDepth < e.depth then none
    else
      match e.regex? {} with
      | none => none
      | some (r, _) => if e.counts && r.isTooLarge then none else some r

def compile? (text : String) : Option Pattern := (parse? text.toList).map fun r => ⟨text, r⟩

/-- The leftmost match in a text. -/
def find? (p : Pattern) (s : List Char) : Option (List Char) :=
  (search p.regex s).map fun x => x.of s

def matchesIn (p : Pattern) (s : List Char) : Bool := (p.find? s).isSome

end Pattern
end ClusterRig
