import ClusterRig.Toml.Moment
import ClusterRig.Toml.Number
import ClusterRig.Tree.Basic

/-!
# TOML values

Values as written. A table keeps its entries in order, with repeated keys;
whether these matter is decided where the table is used.
-/

namespace ClusterRig
namespace Toml

/-- A `float` without a number is infinite or undefined. A `table` is `dotted` if
it exists only because of keys with dots, which may go on adding to it. -/
inductive Value
  | text (s : String)
  | integer (n : Int64)
  | float (x : Option Decimal.Binary64)
  | bool (b : Bool)
  | moment (written : List Char)
  | array (items : List Value)
  | table (dotted : Bool) (entries : List (String × Value))

/-- The entries of a table, in the order of the document. -/
abbrev Entries := List (String × Value)

namespace Value

inductive Kind
  | text
  | integer
  | float
  | bool
  | moment
  | array
  | table
  deriving DecidableEq

def kind : Value → Kind
  | .text _ => .text
  | .integer _ => .integer
  | .float _ => .float
  | .bool _ => .bool
  | .moment _ => .moment
  | .array _ => .array
  | .table _ _ => .table

end Value

namespace Entries

/-- Give the first entry of a key another value. -/
def replace (key : String) (v : Value) : Entries → Entries
  | [] => []
  | (k, w) :: rest => if k = key then (k, v) :: rest else (k, w) :: replace key v rest

/-- Add a value under a path of keys. Tables on the way are made as needed; one
that was written out can not be added to. -/
def add : List String → Value → Entries → Option Entries
  | [], _, es => some es
  | [key], v, es => some (es ++ [(key, v)])
  | key :: k :: path, v, es =>
    match es.lookup key with
    | some (.table true inner) =>
      (add (k :: path) v inner).map fun inner => replace key (.table true inner) es
    | some _ => none
    | none => (add (k :: path) v []).map fun inner => es ++ [(key, .table true inner)]

end Entries

/-- The key under which the tree of a moment has its text. -/
def momentKey : String := "$__toml_private_datetime"

/-- The tree of a moment, given as it was written. -/
def momentTree (written : List Char) : Option Tree :=
  (Moment.ofText? written).map fun m => .object [(momentKey, .text (String.ofList m.text))]

mutual

/-- The value as a tree. Keys may not be repeated. A table whose first key is that
of moments is a moment. -/
def Value.tree? : Value → Option Tree
  | .text s => some (.text s)
  | .integer n => some (.number (.ofInt64 n))
  | .float (some x) => some (.number (.double x))
  | .float none => some .null
  | .bool b => some (.bool b)
  | .moment written => momentTree written
  | .array items => (treeItems? items).map .array
  | .table _ entries =>
    match entries with
    | [] => some (.object [])
    | (key, v) :: rest =>
      if key = momentKey then
        match v with
        | .text s => momentTree s.toList
        | _ => none
      else
        match Value.tree? v, treeEntries? [key] rest with
        | some t, some ts => some (.object ((key, t) :: ts))
        | _, _ => none

def treeItems? : List Value → Option (List Tree)
  | [] => some []
  | v :: rest =>
    match Value.tree? v, treeItems? rest with
    | some t, some ts => some (t :: ts)
    | _, _ => none

/-- The entries of a table in which the keys `used` have come before. -/
def treeEntries? (used : List String) : List (String × Value) → Option (List (String × Tree))
  | [] => some []
  | (key, v) :: rest =>
    if used.contains key then none
    else
      match Value.tree? v, treeEntries? (key :: used) rest with
      | some t, some ts => some ((key, t) :: ts)
      | _, _ => none

end
end Toml
end ClusterRig
