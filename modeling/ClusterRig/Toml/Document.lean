import ClusterRig.Toml.Statement

/-!
# Documents

A document is cut into sections, each with the path in its header and the entries
below it, and the sections are put together into one table. A section is taken
up once. That a header is repeated, or is used both for a table and for elements
of an array, is found out on the way; it may be repeated after a longer one.

Below some keys of the document any value will do, and there a table whose first
key is that of moments ends with it: its other entries are lost, and the sections
of its inner tables are left for the table around it, which has its key twice then.
-/

namespace ClusterRig
namespace Toml

/-- The entries are gone once they have been taken up. -/
structure Section where
  path : List String
  element : Bool
  entries : Option Entries

namespace Section

/-- Close the section being read, and begin one for what has no header. -/
def rest (current : Option Section) : List Statement → Option (List Section)
  | [] => some current.toList
  | .header path element :: ss =>
    (rest (some ⟨path, element, some []⟩) ss).map (current.toList ++ ·)
  | .binding path v :: ss =>
    let s := current.getD ⟨[], false, some []⟩
    match (s.entries.getD []).add path v with
    | none => none
    | some es => rest (some { s with entries := some es }) ss

def ofStatements (ss : List Statement) : Option (List Section) := rest none ss

end Section

namespace Assembly

/-- Where a table is being put together: from sections that agree with the section
`parent` in the first `depth` keys, at the places from `start` to below `limit`.
`free` says that the table may hold anything, `fresh` that nothing is in it yet. -/
structure Window where
  depth : Nat
  parent : Nat
  start : Nat
  limit : Nat
  free : Bool
  fresh : Bool

/-- Whether a table ends with the first of these entries. -/
def Window.endsIn (w : Window) (es : Entries) : Bool :=
  w.free && w.fresh && (es.head?.map Prod.fst) == some momentKey

def pathAt (sections : List Section) (i : Nat) : List String :=
  ((sections[i]?).map Section.path).getD []

/-- The first section in a window that has not been taken up. -/
def next? (sections : List Section) (w : Window) : Option Nat :=
  let start := (pathAt sections w.parent).take w.depth
  (List.range' w.start (w.limit - w.start)).find? fun i =>
    match sections[i]? with
    | some s =>
      s.entries.isSome && w.depth ≤ s.path.length && s.path.take w.depth = start
    | none => false

/-- The next element of the array of tables that `parent` is an element of. -/
def nextElement (sections : List Section) (parent limit : Nat) : Nat :=
  let found := (List.range' (parent + 1) (limit - (parent + 1))).find? fun i =>
    match sections[i]? with
    | some s => s.element && s.path = pathAt sections parent
    | none => false
  found.getD limit

/-- Mark a section as taken up. -/
def take (sections : List Section) (i : Nat) : List Section :=
  sections.modify i fun s => { s with entries := none }

mutual

/-- The entries of the table of a window, and the sections after that. The values
of the keys `anything` of the document are free. -/
def table (anything : List String) : Nat → List Section → Window →
    Option (Entries × List Section)
  | 0, _, _ => none
  | fuel + 1, sections, w =>
    match next? sections w with
    | none => some ([], sections)
    | some i =>
      match sections[i]? with
      | none => none
      | some s =>
        if i ≠ w.parent ∧ s.path = pathAt sections w.parent then none
        else
          match s.path[w.depth]? with
          | none =>
            if s.element then none
            else
              let own := s.entries.getD []
              if w.endsIn own then some (own.take 1, take sections i)
              else
                let w := { w with start := i, fresh := w.fresh && own.isEmpty }
                (table anything fuel (take sections i) w).map
                  fun (es, sections) => (own ++ es, sections)
          | some key =>
            let free := w.free || (w.depth == 0 && anything.contains key)
            let inner :=
              if s.element ∧ w.depth + 1 = s.path.length then
                (elements anything free fuel sections w.depth i w.limit).map
                  fun (vs, sections) => (Value.array vs, sections)
              else
                (table anything fuel sections ⟨w.depth + 1, i, 0, w.limit, free, true⟩).map
                  fun (es, sections) => (Value.table false es, sections)
            match inner with
            | none => none
            | some (v, sections) =>
              (table anything fuel sections { w with start := i + 1, fresh := false }).map
                fun (es, sections) => ((key, v) :: es, sections)

/-- The elements of an array of tables from the section `parent` on. -/
def elements (anything : List String) (free : Bool) : Nat → List Section → Nat → Nat → Nat →
    Option (List Value × List Section)
  | 0, _, _, _, _ => none
  | fuel + 1, sections, depth, parent, limit =>
    if parent = limit then some ([], sections)
    else
      let next := nextElement sections parent limit
      match sections[parent]?.bind Section.entries with
      | none => none
      | some own =>
        let w : Window := ⟨depth + 1, parent, 0, next, free, own.isEmpty⟩
        let rest :=
          if { w with fresh := true }.endsIn own then some (own.take 1, take sections parent)
          else
            (table anything fuel (take sections parent) w).map
              fun (es, sections) => (own ++ es, sections)
        match rest with
        | none => none
        | some (es, sections) =>
          (elements anything free fuel sections depth next limit).map
            fun (vs, sections) => (Value.table false es :: vs, sections)

end

/-- Enough steps for putting sections together: each step takes one up or goes
down one key. -/
def steps (sections : List Section) : Nat :=
  4 * (sections.map fun s => s.path.length + 1).foldr (· + ·) 0 + 4

def run (anything : List String) (sections : List Section) : Option Entries :=
  (table anything (steps sections) sections ⟨0, 0, 0, sections.length, false, true⟩).map Prod.fst

end Assembly

/-- A mark at the start of a text that says it is Unicode. -/
def skipMark : List Char → List Char
  | '\uFEFF' :: s => s
  | s => s

/-- The entries of a document, in which any value will do for the keys `anything`. -/
def parse? (anything : List String) (s : List Char) : Option Entries := do
  let ts ← Token.scan (skipMark s)
  let ss ← Statement.all ts
  Assembly.run anything (← Section.ofStatements ss)

end Toml
end ClusterRig
