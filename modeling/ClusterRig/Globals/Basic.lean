import ClusterRig.Failure
import ClusterRig.Tree.Reader

/-!
# Globals

The settings that are shared by all nodes: a canonical tree, with lookups that
follow a path of keys. A path that is absent and one that leads to null are the
same to the lookups with a type; anything else of the wrong type is a failure.
-/

namespace ClusterRig

structure Globals where
  root : Tree
  canonical : root.Canonical
  deriving DecidableEq

namespace Globals

def ofTree (t : Tree) : Globals := ⟨t.canon, t.canonical_canon⟩

/-- No settings at all. -/
def empty : Globals := ⟨.object [], by simp [Tree.Canonical, Tree.CanonicalEntries, Ascending]⟩

instance : Inhabited Globals := ⟨empty⟩

def parse (text : String) : Except Failure Globals :=
  match Tree.parse? text with
  | some t => .ok (ofTree t)
  | none => .error .globalsMalformed

/-- Lay `upper` over `base`. -/
def merge (base upper : Globals) : Globals :=
  ⟨base.root.merge upper.root, Tree.canonical_merge base.canonical upper.root upper.canonical⟩

/-- Lay the layers over each other, the later ones above. -/
def mergeAll (base : Globals) (layers : List Globals) : Globals := layers.foldl merge base

def lookup (g : Globals) (path : List String) : Option Tree := g.root.lookup path

def isEnabled (g : Globals) (path : List String) : Bool :=
  ((g.lookup path).map Tree.isTruthy).getD false

/-- The value at a path, null counting as absent. -/
def given (g : Globals) (path : List String) : Option Tree :=
  match g.lookup path with
  | some .null => none
  | found => found

def lookupUnsigned (g : Globals) (path : List String) : Except Failure (Option UInt64) :=
  match g.given path with
  | none => .ok none
  | some (.number (.natural n)) => .ok (some n)
  | some found => .error (.invalidGlobal path (.notUnsigned found))

def lookupText (g : Globals) (path : List String) : Except Failure (Option String) :=
  match g.given path with
  | none => .ok none
  | some (.text s) => .ok (some s)
  | some found => .error (.invalidGlobal path (.notText found))

end Globals
end ClusterRig
