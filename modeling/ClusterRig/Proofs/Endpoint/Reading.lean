import ClusterRig.Proofs.Endpoint.Traced
import ClusterRig.Proofs.Endpoint.Values

/-!
# Readings of an attribute

An attribute is read, some of its values are taken one by one, and then the next one is
asked for. Main statement: what is taken are the values that the lines carry, in order and
from the first one on, for each reading anew. Each reading is one query, and nothing is
asked while values are taken.
-/

namespace ClusterRig

/-- Steps of which each succeeds ask the queries of all of them, in order. -/
theorem Traced.mapM_eq_of_forall {α β : Type} {f : α → Traced β} {asked : α → List Query}
    {value : α → β} {l : List α} (h : ∀ a ∈ l, f a = ⟨asked a, .ok (value a)⟩) :
    l.mapM f = ⟨l.flatMap asked, .ok (l.map value)⟩ := by
  induction l with
  | nil => rfl
  | cons a l ih =>
    obtain ⟨ha, hl⟩ := List.forall_mem_cons.mp h
    rw [List.mapM_cons, ha, ih hl, bind_eq_of_ok _ rfl, bind_eq_of_ok _ rfl]
    simp [queries_pure, outcome_pure]

namespace Values

variable {v w : Values} {value : String}

theorem takeFrom_append {skipped rest : List String} {line : String}
    (hs : ∀ l ∈ skipped, v.value? l = none) (hv : v.value? line = some value) :
    v.takeFrom (skipped ++ line :: rest) = (some value, rest) := by
  induction skipped with
  | nil => rw [List.nil_append, takeFrom, hv]
  | cons l skipped ih =>
    obtain ⟨hl, hs⟩ := List.forall_mem_cons.mp hs
    rw [List.cons_append, takeFrom, hl]
    exact ih hs

theorem exists_of_takeFrom_eq {lines rest : List String}
    (h : v.takeFrom lines = (some value, rest)) :
    ∃ skipped line, lines = skipped ++ line :: rest ∧ (∀ l ∈ skipped, v.value? l = none) ∧
      v.value? line = some value := by
  induction lines with
  | nil => simp [takeFrom] at h
  | cons l lines ih =>
    rw [takeFrom] at h
    cases hl : v.value? l with
    | none =>
      rw [hl] at h
      obtain ⟨skipped, line, rfl, hs, hv⟩ := ih h
      exact ⟨l :: skipped, line, rfl, List.forall_mem_cons.mpr ⟨hl, hs⟩, hv⟩
    | some carried =>
      rw [hl] at h
      obtain ⟨rfl, rfl⟩ : carried = value ∧ lines = rest := by simpa using h
      exact ⟨[], l, rfl, by simp, hl⟩

/-- Taking a value uses up the line that carries it and the lines before it that carry none. -/
theorem next_eq_some_iff : v.next = (some value, w) ↔
    (∃ skipped line, v.lines = skipped ++ line :: w.lines ∧
      (∀ l ∈ skipped, v.value? l = none) ∧ v.value? line = some value) ∧
    w.bean = v.bean ∧ w.attr = v.attr := by
  have hn : v.next = ((v.takeFrom v.lines).1, { v with lines := (v.takeFrom v.lines).2 }) := rfl
  rw [hn]
  constructor
  · intro h
    obtain ⟨hv, rfl⟩ := Prod.mk.inj h
    exact ⟨exists_of_takeFrom_eq (Prod.ext hv rfl), rfl, rfl⟩
  · rintro ⟨⟨skipped, line, hl, hs, hv⟩, hb, ha⟩
    rw [hl, takeFrom_append hs hv, ← hb, ← ha]

theorem take_succ (v : Values) (n : Nat) :
    v.take (n + 1) = (v.next.1 :: (v.next.2.take n).1, (v.next.2.take n).2) := rfl

/-- What is left after taking values still tells which attribute they are of. -/
theorem take_names (v : Values) (n : Nat) :
    (v.take n).2.bean = v.bean ∧ (v.take n).2.attr = v.attr := by
  induction n generalizing v with
  | zero => exact ⟨rfl, rfl⟩
  | succ n ih => exact ih v.next.2

theorem toList_take (v : Values) (n : Nat) : (v.take n).2.toList = v.toList.drop n := by
  induction n generalizing v with
  | zero => rfl
  | succ n ih => rw [take_succ, ih, toList_next, List.drop_tail]

theorem first_eq (v : Values) :
    v.first = v.toList.head?.elim (.error (.valueMissing v.bean v.attr)) .ok := by
  rw [first, next_fst]
  cases v.toList.head? <;> rfl

theorem first_take (v : Values) (n : Nat) :
    (v.take n).2.first = v.toList[n]?.elim (.error (.valueMissing v.bean v.attr)) .ok := by
  obtain ⟨hb, ha⟩ := v.take_names n
  rw [first_eq, toList_take, List.head?_drop, hb, ha]

end Values

/-- A reading of an attribute, with the lines that it is answered with, and how many of its
values are taken before the next one is asked for. -/
structure Reading where
  endpoint : Endpoint
  bean : String
  attr : String
  lines : List String
  answered : endpoint.answer (.get bean attr) = .ok lines
  count : Nat

namespace Reading

/-- The values that the lines carry. -/
def carried (r : Reading) : List String :=
  r.lines.filterMap fun line => (valueOf? r.attr.toList line.toList).map String.ofList

/-- Read the attribute, take the values, and ask for the next one. -/
def run (r : Reading) : Traced (List (Option String) × Except Failure String) := do
  let values ← r.endpoint.values r.bean r.attr
  let (taken, rest) := values.take r.count
  return (taken, rest.first)

theorem values_eq (r : Reading) : r.endpoint.values r.bean r.attr =
    ⟨[⟨r.endpoint.name, .get r.bean r.attr⟩], .ok ⟨r.bean, r.attr, r.lines⟩⟩ := by
  unfold Endpoint.values
  rw [Traced.bind_eq_of_ok _ r.answered]
  rfl

theorem run_eq (r : Reading) : r.run =
    ⟨[⟨r.endpoint.name, .get r.bean r.attr⟩],
      .ok ((List.range r.count).map fun i => r.carried[i]?,
        r.carried[r.count]?.elim (.error (.valueMissing r.bean r.attr)) .ok)⟩ := by
  have hv : (⟨r.bean, r.attr, r.lines⟩ : Values).toList = r.carried := rfl
  unfold run
  rw [r.values_eq, Traced.bind_eq_of_ok _ rfl, Traced.queries_pure, Traced.outcome_pure,
    Values.take_fst, Values.first_take, hv]
  rfl

/-- Each reading asks one query, however many values are taken of it. The values are those
that its own lines carry, from the first one on, whatever was read before. Behind the last
of them there is none for good, and asking for one is a failure that names the bean and the
attribute of the reading. -/
theorem mapM_run (readings : List Reading) :
    readings.mapM run =
      ⟨readings.map fun r => ⟨r.endpoint.name, .get r.bean r.attr⟩,
        .ok (readings.map fun r =>
          ((List.range r.count).map fun i => r.carried[i]?,
            r.carried[r.count]?.elim (.error (.valueMissing r.bean r.attr)) .ok))⟩ := by
  rw [Traced.mapM_eq_of_forall fun r _ => r.run_eq, ← List.map_eq_flatMap]

/-- Two values between lines without one, read up to each of them and beyond. -/
theorem mapM_run_partial :
    let t : Endpoint.Table := { readings := [(("b", "a"), ["", "a = 1;", " a = ;", "2", ";"])] }
    let reading (k : Nat) : Reading := ⟨t.endpoint "n", "b", "a", _, rfl, k⟩
    ([2, 0, 1, 3].map reading).mapM run =
      ⟨List.replicate 4 ⟨"n", .get "b" "a"⟩,
        .ok [([some "1", some "2"], .error (.valueMissing "b" "a")),
          ([], .ok "1"),
          ([some "1"], .ok "2"),
          ([some "1", some "2", none], .error (.valueMissing "b" "a"))]⟩ := by
  intro t reading
  have h : (reading 0).carried = ["1", "2"] := by decide +kernel
  have hc : ∀ k, (reading k).carried = ["1", "2"] := fun _ => h
  rw [mapM_run]
  simp only [List.map_cons, List.map_nil, hc]
  rfl

end Reading
end ClusterRig
