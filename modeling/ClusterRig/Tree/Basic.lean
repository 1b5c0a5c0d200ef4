import ClusterRig.Decimal.Binary64
import ClusterRig.Sorted

/-!
# Trees of settings

A tree is null, a truth value, a number, a text, an array or an object. Objects
are lists of entries; a tree is canonical when the keys of every object ascend
strictly, and then each object has one representation. `canon` brings every tree
into that form, the last of several entries with one key staying.
-/

namespace ClusterRig

/-- Whole numbers of 64 bits are kept exactly; all others are floating point. -/
inductive Number
  | natural (n : UInt64)
  | negative (n : Int64)
  | double (x : Decimal.Binary64)
  deriving DecidableEq

namespace Number

def isZero : Number → Bool
  | .natural n => n == 0
  | .negative n => n == 0
  | .double x => x.isZero

/-- The number of a signed word. -/
def ofInt64 (n : Int64) : Number :=
  if n < 0 then .negative n else .natural n.toUInt64

end Number

inductive Tree
  | null
  | bool (b : Bool)
  | number (n : Number)
  | text (s : String)
  | array (items : List Tree)
  | object (entries : List (String × Tree))

namespace Tree

instance : Inhabited Tree := ⟨null⟩

mutual

def decEq : (a b : Tree) → Decidable (a = b)
  | .null, .null => isTrue rfl
  | .bool a, .bool b => decidable_of_iff (a = b) (by simp)
  | .number a, .number b => decidable_of_iff (a = b) (by simp)
  | .text a, .text b => decidable_of_iff (a = b) (by simp)
  | .array a, .array b =>
    match decEqItems a b with
    | isTrue h => isTrue (h ▸ rfl)
    | isFalse h => isFalse (by simpa using h)
  | .object a, .object b =>
    match decEqEntries a b with
    | isTrue h => isTrue (h ▸ rfl)
    | isFalse h => isFalse (by simpa using h)
  | .null, .bool _ | .null, .number _ | .null, .text _ | .null, .array _ | .null, .object _
  | .bool _, .null | .bool _, .number _ | .bool _, .text _ | .bool _, .array _ | .bool _, .object _
  | .number _, .null | .number _, .bool _ | .number _, .text _ | .number _, .array _
  | .number _, .object _
  | .text _, .null | .text _, .bool _ | .text _, .number _ | .text _, .array _ | .text _, .object _
  | .array _, .null | .array _, .bool _ | .array _, .number _ | .array _, .text _
  | .array _, .object _
  | .object _, .null | .object _, .bool _ | .object _, .number _ | .object _, .text _
  | .object _, .array _ => isFalse (by simp)

def decEqItems : (a b : List Tree) → Decidable (a = b)
  | [], [] => isTrue rfl
  | [], _ :: _ | _ :: _, [] => isFalse (by simp)
  | a :: as, b :: bs =>
    match decEq a b with
    | isFalse h => isFalse (by simp [h])
    | isTrue h =>
      match decEqItems as bs with
      | isFalse hs => isFalse (by simp [hs])
      | isTrue hs => isTrue (by rw [h, hs])

def decEqEntries : (a b : List (String × Tree)) → Decidable (a = b)
  | [], [] => isTrue rfl
  | [], _ :: _ | _ :: _, [] => isFalse (by simp)
  | (k, a) :: as, (l, b) :: bs =>
    if hk : k = l then
      match decEq a b with
      | isFalse h => isFalse (by simp [h])
      | isTrue h =>
        match decEqEntries as bs with
        | isFalse hs => isFalse (by simp [hs])
        | isTrue hs => isTrue (by rw [hk, h, hs])
    else isFalse (by simp [hk])

end

instance : DecidableEq Tree := decEq

mutual

/-- In every object of the tree the keys ascend strictly. -/
def Canonical : Tree → Prop
  | .array items => CanonicalItems items
  | .object entries => Ascending compareKeys entries ∧ CanonicalEntries entries
  | .null | .bool _ | .number _ | .text _ => True

def CanonicalItems : List Tree → Prop
  | [] => True
  | t :: rest => Canonical t ∧ CanonicalItems rest

def CanonicalEntries : List (String × Tree) → Prop
  | [] => True
  | (_, t) :: rest => Canonical t ∧ CanonicalEntries rest

end

/-- Bind a key among the entries of an object. -/
def put (key : String) (value : Tree) (entries : List (String × Tree)) : List (String × Tree) :=
  Ascending.insert compareKeys (key, value) entries

mutual

def canon : Tree → Tree
  | .array items => .array (canonItems items)
  | .object entries => .object (canonEntries entries)
  | .null => .null
  | .bool b => .bool b
  | .number n => .number n
  | .text s => .text s

def canonItems : List Tree → List Tree
  | [] => []
  | t :: rest => canon t :: canonItems rest

def canonEntries : List (String × Tree) → List (String × Tree)
  | [] => []
  | (key, t) :: rest =>
    let later := canonEntries rest
    if (later.lookup key).isSome then later else put key (canon t) later

end

theorem canonicalEntries_put {key : String} {value : Tree} {entries : List (String × Tree)}
    (hv : Canonical value) (he : CanonicalEntries entries) :
    CanonicalEntries (put key value entries) := by
  induction entries with
  | nil => exact ⟨hv, trivial⟩
  | cons e rest ih =>
    obtain ⟨k, t⟩ := e
    simp only [put, Ascending.insert]
    split
    · exact ⟨hv, he⟩
    · exact ⟨hv, he.2⟩
    · exact ⟨he.1, ih he.2⟩

theorem put_ascending (key : String) (value : Tree) {entries : List (String × Tree)}
    (h : Ascending compareKeys entries) : Ascending compareKeys (put key value entries) :=
  Ascending.insert_ascending compareKeys (key, value) h

mutual

theorem canonical_canon : (t : Tree) → Canonical (canon t)
  | .array items => by
    simp only [canon, Canonical]
    exact canonical_canonItems items
  | .object entries => by
    simp only [canon, Canonical]
    exact canonical_canonEntries entries
  | .null | .bool _ | .number _ | .text _ => trivial

theorem canonical_canonItems : (items : List Tree) → CanonicalItems (canonItems items)
  | [] => trivial
  | t :: rest => ⟨canonical_canon t, canonical_canonItems rest⟩

theorem canonical_canonEntries : (entries : List (String × Tree)) →
    Ascending compareKeys (canonEntries entries) ∧ CanonicalEntries (canonEntries entries)
  | [] => ⟨List.Pairwise.nil, trivial⟩
  | (key, t) :: rest => by
    have ih := canonical_canonEntries rest
    simp only [canonEntries]
    split
    · exact ih
    · exact ⟨put_ascending key _ ih.1, canonicalEntries_put (canonical_canon t) ih.2⟩

end

/-- The value at a path of keys; only objects have entries. -/
def lookup : List String → Tree → Option Tree
  | [], t => some t
  | key :: path, .object entries => (entries.lookup key).bind (lookup path)
  | _ :: _, _ => none

mutual

/-- Lay one tree over another: objects are merged key by key, and everything else
replaces what is below it. -/
def merge (base : Tree) : Tree → Tree
  | .object upper =>
    match base with
    | .object entries => .object (mergeEntries entries upper)
    | _ => .object upper
  | .null => .null
  | .bool b => .bool b
  | .number n => .number n
  | .text s => .text s
  | .array items => .array items

def mergeEntries (entries : List (String × Tree)) :
    List (String × Tree) → List (String × Tree)
  | [] => entries
  | (key, t) :: rest =>
    mergeEntries (put key (merge ((entries.lookup key).getD .null) t) entries) rest

end

theorem canonical_of_lookup {key : String} {t : Tree} {entries : List (String × Tree)}
    (he : CanonicalEntries entries) (h : entries.lookup key = some t) : Canonical t := by
  induction entries with
  | nil => simp at h
  | cons e rest ih =>
    obtain ⟨k, u⟩ := e
    rw [List.lookup_cons] at h
    split at h
    · obtain rfl := Option.some.inj h
      exact he.1
    · exact ih he.2 h

mutual

theorem canonical_merge {base : Tree} (hb : Canonical base) :
    (upper : Tree) → Canonical upper → Canonical (merge base upper)
  | .object upper, ho => by
    simp only [merge]
    cases base with
    | object entries =>
      simp only [Canonical] at hb ho ⊢
      exact canonical_mergeEntries hb.1 hb.2 upper ho.2
    | _ => exact ho
  | .array _, ho => ho
  | .null, _ | .bool _, _ | .number _, _ | .text _, _ => trivial

theorem canonical_mergeEntries {entries : List (String × Tree)}
    (ha : Ascending compareKeys entries) (hc : CanonicalEntries entries) :
    (upper : List (String × Tree)) → CanonicalEntries upper →
      Ascending compareKeys (mergeEntries entries upper) ∧
        CanonicalEntries (mergeEntries entries upper)
  | [], _ => ⟨ha, hc⟩
  | (key, t) :: rest, ho => by
    have hbase : Canonical ((entries.lookup key).getD .null) := by
      cases h : entries.lookup key with
      | none => trivial
      | some u => exact canonical_of_lookup hc h
    exact canonical_mergeEntries (put_ascending key _ ha)
      (canonicalEntries_put (canonical_merge hbase t ho.1) hc) rest ho.2

end

/-- Whether a value counts as set: not null, false, zero or empty. -/
def isTruthy : Tree → Bool
  | .null => false
  | .bool b => b
  | .number n => !n.isZero
  | .text s => !s.isEmpty
  | .array items => !items.isEmpty
  | .object entries => !entries.isEmpty

end Tree
end ClusterRig
