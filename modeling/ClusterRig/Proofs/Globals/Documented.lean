import ClusterRig.Globals.Basic
import ClusterRig.Proofs.FirstFailure

/-!
# Documented values of the globals

A key is a path of the globals with the kind of value that may stand there. Nothing
and null are always admitted; any other value that is not of the kind is a failure
that names the path. Main statement: a list of keys fails like its first malformed one.
-/

namespace ClusterRig

open FirstFailure

/-- What a value in the globals may be. -/
inductive Kind
  | unsigned
  | port
  | text
  deriving DecidableEq

structure Key where
  path : List String
  kind : Kind
  deriving DecidableEq

namespace Kind

def admits : Kind → Tree → Bool
  | .unsigned, .number (.natural _) => true
  | .port, .number (.natural n) => n ≤ 65535
  | .text, .text _ => true
  | _, _ => false

/-- What is wrong with a value that is not admitted. -/
def flaw : Kind → Tree → Flaw
  | .port, .number (.natural n) => .portOutOfRange n
  | .unsigned, v | .port, v => .notUnsigned v
  | .text, v => .notText v

end Kind

namespace Key

/-- There is a value at the path, it is not null, and it is not admitted. -/
def Malformed (g : Globals) (k : Key) (v : Tree) : Prop :=
  g.lookup k.path = some v ∧ v ≠ .null ∧ k.kind.admits v = false

/-- The failure that reading the key comes to, if it is malformed. -/
def failure? (g : Globals) (k : Key) : Option Failure :=
  (g.given k.path).bind fun v =>
    if k.kind.admits v then none else some (.invalidGlobal k.path (k.kind.flaw v))

theorem given_eq_some_iff {g : Globals} {path : List String} {v : Tree} :
    g.given path = some v ↔ g.lookup path = some v ∧ v ≠ .null := by
  unfold Globals.given
  cases h : g.lookup path with
  | none => simp
  | some w => cases w <;> grind

theorem failure?_eq_some_iff {g : Globals} {k : Key} {e : Failure} :
    k.failure? g = some e ↔
      ∃ v, k.Malformed g v ∧ e = .invalidGlobal k.path (k.kind.flaw v) := by
  unfold failure? Malformed
  rw [Option.bind_eq_some_iff]
  constructor
  · rintro ⟨v, hv, h⟩
    obtain ⟨hl, hn⟩ := given_eq_some_iff.mp hv
    split_ifs at h with ha
    exact ⟨v, ⟨hl, hn, by simpa using ha⟩, (Option.some.inj h).symm⟩
  · rintro ⟨v, ⟨hl, hn, ha⟩, rfl⟩
    exact ⟨v, given_eq_some_iff.mpr ⟨hl, hn⟩, by simp [ha]⟩

theorem failure?_eq_none_iff {g : Globals} {k : Key} :
    k.failure? g = none ↔ ∀ v, ¬ k.Malformed g v := by
  rw [← not_iff_not, ← ne_eq, Option.ne_none_iff_exists']
  simp only [failure?_eq_some_iff, not_forall, not_not]
  constructor
  · rintro ⟨_, v, hv, -⟩
    exact ⟨v, hv⟩
  · rintro ⟨v, hv⟩
    exact ⟨_, v, hv, rfl⟩

end Key

/-- The failure of the first malformed key. -/
def firstFailure? (g : Globals) (keys : List Key) : Option Failure :=
  keys.findSome? (Key.failure? g)

theorem firstFailure?_eq_some_iff {g : Globals} {keys : List Key} {e : Failure} :
    firstFailure? g keys = some e ↔ ∃ before key after v, keys = before ++ key :: after ∧
      (∀ k ∈ before, ∀ w, ¬ k.Malformed g w) ∧ key.Malformed g v ∧
      e = .invalidGlobal key.path (key.kind.flaw v) := by
  unfold firstFailure?
  simp only [List.findSome?_eq_some_iff, Key.failure?_eq_none_iff, Key.failure?_eq_some_iff]
  constructor
  · rintro ⟨before, key, after, rfl, ⟨v, hv, he⟩, hb⟩
    exact ⟨before, key, after, v, rfl, hb, hv, he⟩
  · rintro ⟨before, key, after, v, rfl, hb, hv, he⟩
    exact ⟨before, key, after, rfl, ⟨v, hv, he⟩, hb⟩

theorem firstFailure?_eq_foldr (g : Globals) (keys : List Key) :
    firstFailure? g keys = (keys.map (Key.failure? g)).foldr Option.or none := by
  induction keys with
  | nil => rfl
  | cons k keys ih =>
    rw [firstFailure?, List.findSome?_cons, List.map_cons, List.foldr_cons, ← ih]
    cases k.failure? g <;> rfl

theorem firstFailure?_append (g : Globals) (keys more : List Key) :
    firstFailure? g (keys ++ more) = (firstFailure? g keys).or (firstFailure? g more) :=
  List.findSome?_append

namespace Globals

/-- The unsigned number at a path, if there is one. -/
def unsignedAt? (g : Globals) (path : List String) : Option UInt64 :=
  match g.lookup path with
  | some (.number (.natural n)) => some n
  | _ => none

/-- The text at a path, if there is one. -/
def textAt? (g : Globals) (path : List String) : Option String :=
  match g.lookup path with
  | some (.text s) => some s
  | _ => none

theorem lookupUnsigned_eq (g : Globals) (path : List String) :
    g.lookupUnsigned path =
      settle (Key.failure? g ⟨path, .unsigned⟩) (g.unsignedAt? path) := by
  unfold lookupUnsigned unsignedAt? Key.failure? given
  cases g.lookup path with
  | none => rfl
  | some v =>
    cases v with
    | number n => cases n <;> rfl
    | _ => rfl

theorem lookupText_eq (g : Globals) (path : List String) :
    g.lookupText path = settle (Key.failure? g ⟨path, .text⟩) (g.textAt? path) := by
  unfold lookupText textAt? Key.failure? given
  cases g.lookup path with
  | none => rfl
  | some v => cases v <;> rfl

end Globals
end ClusterRig
