import ClusterRig.Endpoint.Basic
import ClusterRig.Text.Blank
import ClusterRig.Text.Start

/-!
# Values of an attribute

The answer to reading an attribute is a list of lines, some of which carry a
value: `attribute = value;`, or the value alone. `Values` takes them one by one.
-/

namespace ClusterRig

/-- What follows the equals sign, if the line begins with the attribute and one. -/
def assigned? (attr line : List Char) : Option (List Char) :=
  match (Text.after? attr line).map Text.trimStart with
  | some ('=' :: rest) => some rest
  | _ => none

/-- The value that a line carries; blanks and semicolons at its end are no part
of it, and an empty value is none. -/
def valueOf? (attr line : List Char) : Option (List Char) :=
  let line := Text.trim line
  let raw := match assigned? attr line with
    | some rest => Text.trim rest
    | none => line
  let value := Text.trim (Text.dropWhileEnd (· == ';') raw)
  if value.isEmpty then none else some value

/-- The lines of an answer that have not been looked at yet. -/
structure Values where
  bean : String
  attr : String
  lines : List String

namespace Values

def value? (v : Values) (line : String) : Option String :=
  (valueOf? v.attr.toList line.toList).map String.ofList

/-- The first value that the lines carry, and the lines after it. -/
def takeFrom (v : Values) : List String → Option String × List String
  | [] => (none, [])
  | line :: rest =>
    match v.value? line with
    | some value => (some value, rest)
    | none => takeFrom v rest

/-- The next value and what is left after it. -/
def next (v : Values) : Option String × Values :=
  let (value, rest) := v.takeFrom v.lines
  (value, { v with lines := rest })

/-- Take `n` values, absent ones included. -/
def take (v : Values) : Nat → List (Option String) × Values
  | 0 => ([], v)
  | n + 1 =>
    let (value, rest) := v.next
    let (values, rest) := take rest n
    (value :: values, rest)

/-- The next value, of which there must be one. -/
def first (v : Values) : Except Failure String :=
  match v.next.1 with
  | some value => .ok value
  | none => .error (.valueMissing v.bean v.attr)

/-- All values that are left. -/
def toList (v : Values) : List String := v.lines.filterMap v.value?

end Values

namespace Endpoint

/-- Read an attribute of a bean. -/
def values (e : Endpoint) (bean attr : String) : Traced Values := do
  return ⟨bean, attr, ← e.ask (.get bean attr)⟩

end Endpoint
end ClusterRig
