import ClusterRig.Proofs.Pattern.Literal
import Mathlib.Data.List.Infix
import Mathlib.Data.List.TakeWhile

/-!
# The last occurrence of a text

What the pattern of a point, a star and a text finds. Threads that follow the text are
known by what they still have to match. Main statement: in a line the pattern finds all
up to the end of the last occurrence of the text, and nothing if there is none.
-/

namespace ClusterRig
namespace Pattern

/-- The state in which a text is still to be matched. -/
def rest : List Char → State
  | [] => []
  | c :: k => [spelling (c :: k)]

/-- The choice in that state. -/
def leafOf : List Char → Leaf
  | [] => .accept
  | c :: k => .take (.single c) (rest k)

/-- The state in which any characters may come before the text. -/
def again (l : List Char) : State := [.more (.set dot) true, spelling l]

theorem spelling_cons_cons (c d : Char) (k : List Char) :
    spelling (c :: d :: k) = .cat (.literal c) (spelling (d :: k)) := rfl

theorem leaves_rest (before after : Option Char) (k : List Char) :
    (rest k).leaves before after = [leafOf k] := by
  match k with
  | [] => rfl
  | [c] => rfl
  | c :: d :: k =>
    obtain ⟨n, hn⟩ : ∃ n, 4 * State.weight (rest (c :: d :: k)) + 4 = n + 4 := ⟨_, rfl⟩
    rw [State.leaves, hn]
    simp [State.explore, rest, spelling_cons_cons, State.leaf?, State.successors, leafOf,
      Regex.literal]

theorem exists_fuel {st : State} (h : 0 < st.weight) : ∃ n, 4 * st.weight + 4 = n + 8 :=
  ⟨4 * st.weight - 4, by omega⟩

theorem leaves_again (before after : Option Char) {l : List Char} (hl : l ≠ []) :
    (again l).leaves before after = [.take dot (again l), leafOf l] := by
  have hw : 0 < (again l).weight := by
    simp only [State.weight, again, Regex.weight, List.map_cons, List.foldr_cons]
    omega
  obtain ⟨n, hn⟩ := exists_fuel hw
  rw [State.leaves, hn]
  match l with
  | [] => exact absurd rfl hl
  | [c] =>
    simp [State.explore, again, spelling, State.leaf?, State.successors, State.choose, leafOf,
      Regex.literal, Regex.sequence, rest]
  | c :: d :: k =>
    simp [State.explore, again, spelling_cons_cons, State.leaf?, State.successors, State.choose,
      leafOf, Regex.literal, rest]

theorem leaves_anyThen (before after : Option Char) {l : List Char} (hl : l ≠ []) :
    State.leaves before after [anyThen l] = [.take dot (again l), leafOf l] := by
  have hw : 0 < State.weight [anyThen l] := by
    simp only [State.weight, anyThen, Regex.weight, List.map_cons, List.foldr_cons]
    omega
  obtain ⟨n, hn⟩ := exists_fuel hw
  rw [State.leaves, hn]
  match l with
  | [] => exact absurd rfl hl
  | [c] =>
    simp [State.explore, anyThen, again, spelling, State.leaf?, State.successors, State.choose,
      leafOf, Regex.literal, Regex.sequence, rest]
  | c :: d :: k =>
    simp [State.explore, anyThen, again, spelling_cons_cons, State.leaf?, State.successors,
      State.choose, leafOf, Regex.literal, rest]

theorem literal_injective {c d : Char} (h : Regex.literal c = Regex.literal d) : c = d := by
  have hs : CharSet.single c = CharSet.single d := Regex.set.inj h
  exact (CharSet.range.inj hs).1

theorem spelling_injective {k k' : List Char} (h : spelling k = spelling k') : k = k' := by
  induction k generalizing k' with
  | nil =>
    rcases k' with _ | ⟨d, _ | ⟨f, k'⟩⟩
    · rfl
    · cases h
    · cases h
  | cons c k ih =>
    rcases k with _ | ⟨e, k⟩ <;> rcases k' with _ | ⟨d, _ | ⟨f, k'⟩⟩
    · cases h
    · exact congrArg (fun c => [c]) (literal_injective h)
    · cases h
    · cases h
    · cases h
    · obtain ⟨hc, hk⟩ := Regex.cat.inj h
      rw [literal_injective hc, ih hk]

theorem rest_injective {k k' : List Char} (h : rest k = rest k') : k = k' := by
  cases k <;> cases k' <;> simp only [rest, List.cons.injEq, reduceCtorEq, and_true] at h
  · rfl
  · exact spelling_injective h

theorem rest_ne_again (k l : List Char) : rest k ≠ again l := by
  cases k <;> simp [rest, again]

/-- What is still to be matched after a character. -/
def consume (c : Char) : List Char → Option (List Char)
  | [] => none
  | d :: k => if d = c then some k else none

theorem consume_eq_some_iff {c : Char} {k k' : List Char} :
    consume c k = some k' ↔ k = c :: k' := by
  cases k with
  | nil => simp [consume]
  | cons d k => by_cases h : d = c <;> simp [consume, h]

theorem has_single {c d : Char} : CharSet.has c (.single d) = true ↔ d = c := by
  have h : CharSet.has c (.single d) = (decide (d ≤ c) && decide (c ≤ d)) := rfl
  rw [h, Bool.and_eq_true, decide_eq_true_iff, decide_eq_true_iff]
  exact ⟨fun h => Char.le_antisymm h.1 h.2, fun h => h ▸ ⟨Char.le_refl _, Char.le_refl _⟩⟩

theorem has_dot {c : Char} (h : c ≠ '\n') : CharSet.has c dot = true := by
  have hs : CharSet.has c (.single '\n') = false := by
    rw [Bool.eq_false_iff, ne_eq, has_single]
    exact h.symm
  have hd : CharSet.has c dot = !CharSet.has c (.single '\n') := rfl
  rw [hd, hs]
  rfl

theorem after?_leafOf (c : Char) (k : List Char) :
    (leafOf k).after? c = (consume c k).map rest := by
  cases k with
  | nil => rfl
  | cons d k =>
    simp only [leafOf, Leaf.after?, consume, has_single]
    split_ifs <;> rfl

/-- The thread that may take any characters, and one for each way to go on with the
text, the one with the most to match first. -/
def threads (l : List Char) (ks : List (List Char)) : List Thread :=
  ⟨0, again l⟩ :: ks.map fun k => ⟨0, rest k⟩

/-- Each text is shorter than those before it. -/
def Shrinking (ks : List (List Char)) : Prop := ks.Pairwise fun a b => b.length < a.length

theorem Shrinking.filterMap {ks : List (List Char)} (h : Shrinking ks) (c : Char) :
    Shrinking (ks.filterMap (consume c)) := by
  refine List.pairwise_filterMap.mpr (h.imp ?_)
  intro k k' hlt a ha b hb
  obtain rfl := consume_eq_some_iff.mp ha
  obtain rfl := consume_eq_some_iff.mp hb
  simpa using hlt

/-- Of elements that are alike only the first stays. -/
theorem eraseDupsBy_append {α : Type} {r : α → α → Bool} {xs ys : List α}
    (hx : xs.Pairwise fun a b => r b a = false) (hy : ∀ y ∈ ys, ∃ x ∈ xs, r y x = true) :
    (xs ++ ys).eraseDupsBy r = xs := by
  induction xs generalizing ys with
  | nil =>
    cases ys with
    | nil => rfl
    | cons y ys => simpa using hy y List.mem_cons_self
  | cons x xs ih =>
    obtain ⟨hx, hxs⟩ := List.pairwise_cons.mp hx
    rw [List.cons_append, List.eraseDupsBy_cons, List.filter_append,
      List.filter_eq_self.mpr (by simpa using hx), ih hxs]
    intro y hm
    obtain ⟨hm, hr⟩ := List.mem_filter.mp hm
    obtain ⟨z, hz, hyz⟩ := hy y hm
    rcases List.mem_cons.mp hz with rfl | hz
    · simp [hyz] at hr
    · exact ⟨z, hz, hyz⟩

/-- The choices of these threads. -/
def choices (l : List Char) (ks : List (List Char)) : List (Nat × Leaf) :=
  (0, .take dot (again l)) :: (l :: ks).map fun k => (0, leafOf k)

theorem leaves_threads (before after : Option Char) {l : List Char} (hl : l ≠ [])
    (ks : List (List Char)) :
    (threads l ks).flatMap (Thread.leaves before after) = choices l ks := by
  have h : (ks.map fun k => Thread.mk 0 (rest k)).flatMap (Thread.leaves before after) =
      ks.map fun k => (0, leafOf k) := by
    induction ks with
    | nil => rfl
    | cons k ks ih =>
      rw [List.map_cons, List.flatMap_cons, ih, Thread.leaves, leaves_rest]
      rfl
  rw [threads, List.flatMap_cons, h, Thread.leaves, leaves_again before after hl]
  rfl

/-- New threads have no choice that the old ones do not have. -/
theorem leaves_begun (before after : Option Char) {l : List Char} (hl : l ≠ [])
    (best : Option Span) (place : Nat) :
    ∀ x ∈ (if best.isNone then [[anyThen l]].map (Thread.mk place) else []).flatMap
      (Thread.leaves before after), x.2 = .take dot (again l) ∨ x.2 = leafOf l := by
  intro x hx
  split_ifs at hx
  · have hx : x = (place, .take dot (again l)) ∨ x = (place, leafOf l) := by
      simpa [Thread.leaves, leaves_anyThen before after hl] using hx
    rcases hx with rfl | rfl
    · exact .inl rfl
    · exact .inr rfl
  · cases hx

theorem isAccept_leafOf {k : List Char} : (leafOf k).isAccept = true ↔ k = [] := by
  cases k <;> simp [leafOf, Leaf.isAccept]

theorem not_accept_choices {l : List Char} (hl : l ≠ []) {ks : List (List Char)} (hk : [] ∉ ks) :
    ∀ x ∈ choices l ks, x.2.isAccept = false := by
  intro x hx
  rcases List.mem_cons.mp hx with rfl | hx
  · rfl
  · obtain ⟨k, hm, rfl⟩ := List.mem_map.mp hx
    rw [Bool.eq_false_iff, ne_eq, isAccept_leafOf]
    rintro rfl
    rcases List.mem_cons.mp hm with h | h
    · exact hl h.symm
    · exact hk h

theorem not_accept_more {l : List Char} (hl : l ≠ []) {more : List (Nat × Leaf)}
    (hm : ∀ x ∈ more, x.2 = .take dot (again l) ∨ x.2 = leafOf l) :
    ∀ x ∈ more, x.2.isAccept = false := by
  intro x hx
  rcases hm x hx with h | h
  · rw [h]
    rfl
  · rw [h, Bool.eq_false_iff, ne_eq, isAccept_leafOf]
    exact hl

/-- Only the last of the texts can be matched completely. -/
theorem Shrinking.eq_append {ks : List (List Char)} (h : Shrinking ks) (hk : [] ∈ ks) :
    ∃ ks', ks = ks' ++ [[]] ∧ [] ∉ ks' := by
  obtain ⟨a, b, rfl⟩ := List.append_of_mem hk
  obtain ⟨-, hb, ha⟩ := List.pairwise_append.mp h
  have hb : b = [] := by
    refine List.eq_nil_iff_forall_not_mem.mpr fun x hx => ?_
    simpa using (List.pairwise_cons.mp hb).1 x hx
  subst hb
  refine ⟨a, rfl, fun hm => ?_⟩
  simpa using ha [] hm [] List.mem_cons_self

theorem advance_choices {c : Char} (hc : c ≠ '\n') {l : List Char} {ks : List (List Char)}
    (hs : Shrinking (l :: ks)) {more : List (Nat × Leaf)}
    (hm : ∀ x ∈ more, x.2 = .take dot (again l) ∨ x.2 = leafOf l) :
    Thread.advance c (choices l ks ++ more) = threads l ((l :: ks).filterMap (consume c)) := by
  have hf : (choices l ks).filterMap (fun x => (x.2.after? c).map (Thread.mk x.1)) =
      threads l ((l :: ks).filterMap (consume c)) := by
    have hd : Leaf.after? c (.take dot (again l)) = some (again l) := if_pos (has_dot hc)
    rw [choices, List.filterMap_cons, hd, List.filterMap_map, threads, List.map_filterMap]
    simp only [Function.comp_def, after?_leafOf, Option.map_some, Option.map_map]
  rw [Thread.advance, List.filterMap_append, hf]
  refine eraseDupsBy_append ?_ ?_
  · refine List.pairwise_cons.mpr ⟨?_, List.pairwise_map.mpr ?_⟩
    · intro t ht
      obtain ⟨k, -, rfl⟩ := List.mem_map.mp ht
      exact beq_eq_false_iff_ne.mpr (rest_ne_again k l)
    · refine (hs.filterMap c).imp fun hlt => beq_eq_false_iff_ne.mpr fun h => ?_
      rw [rest_injective h] at hlt
      exact absurd hlt (Nat.lt_irrefl _)
  · intro t ht
    obtain ⟨x, hx, ht⟩ := List.mem_filterMap.mp ht
    obtain ⟨st, hst, rfl⟩ := Option.map_eq_some_iff.mp ht
    rcases hm x hx with h | h
    · rw [h, Leaf.after?, if_pos (has_dot hc)] at hst
      exact ⟨⟨0, again l⟩, List.mem_cons_self, by simpa using hst.symm⟩
    · rw [h, after?_leafOf] at hst
      obtain ⟨k, hk, rfl⟩ := Option.map_eq_some_iff.mp hst
      refine ⟨⟨0, rest k⟩, List.mem_cons_of_mem _ (List.mem_map.mpr ⟨k, ?_, rfl⟩), by simp⟩
      exact List.mem_filterMap.mpr ⟨l, List.mem_cons_self, hk⟩

theorem choices_concat_nil (l : List Char) (ks : List (List Char)) :
    choices l (ks ++ [[]]) = choices l ks ++ [(0, .accept)] := by
  simp [choices, leafOf]

theorem find?_choices {l : List Char} (hl : l ≠ []) {ks : List (List Char)}
    (hs : Shrinking (l :: ks)) {more : List (Nat × Leaf)}
    (hm : ∀ x ∈ more, x.2 = .take dot (again l) ∨ x.2 = leafOf l) :
    ((choices l ks ++ more).find? fun x => x.2.isAccept) =
      if [] ∈ ks then some (0, .accept) else none := by
  by_cases hk : [] ∈ ks
  · obtain ⟨ks', rfl, hk'⟩ := Shrinking.eq_append (List.pairwise_cons.mp hs).2 hk
    have hn : (choices l ks').find? (fun x => x.2.isAccept) = none :=
      List.find?_eq_none.mpr fun x hx => by simp [not_accept_choices hl hk' x hx]
    rw [if_pos hk, choices_concat_nil, List.append_assoc, List.find?_append, hn]
    rfl
  · have hn : (choices l ks).find? (fun x => x.2.isAccept) = none :=
      List.find?_eq_none.mpr fun x hx => by simp [not_accept_choices hl hk x hx]
    rw [if_neg hk, List.find?_append, hn]
    exact List.find?_eq_none.mpr fun x hx => by simp [not_accept_more hl hm x hx]

theorem advance_takeWhile {c : Char} (hc : c ≠ '\n') {l : List Char} (hl : l ≠ [])
    {ks : List (List Char)} (hs : Shrinking (l :: ks)) {more : List (Nat × Leaf)}
    (hm : ∀ x ∈ more, x.2 = .take dot (again l) ∨ x.2 = leafOf l) :
    Thread.advance c ((choices l ks ++ more).takeWhile fun x => !x.2.isAccept) =
      threads l ((l :: ks).filterMap (consume c)) := by
  by_cases hk : [] ∈ ks
  · obtain ⟨ks', rfl, hk'⟩ := Shrinking.eq_append (List.pairwise_cons.mp hs).2 hk
    have hs' : Shrinking (l :: ks') := hs.sublist (by simp)
    have ht : (choices l (ks' ++ [[]]) ++ more).takeWhile (fun x => !x.2.isAccept) =
        choices l ks' ++ [] := by
      rw [choices_concat_nil, List.append_assoc, List.takeWhile_append_of_pos fun x hx => by
        simp [not_accept_choices hl hk' x hx]]
      rfl
    have hf : (l :: (ks' ++ [[]])).filterMap (consume c) = (l :: ks').filterMap (consume c) := by
      rw [← List.cons_append, List.filterMap_append]
      exact List.append_nil _
    rw [ht, advance_choices hc hs' (by simp), hf]
  · have ht : (choices l ks ++ more).takeWhile (fun x => !x.2.isAccept) = choices l ks ++ more := by
      refine List.takeWhile_eq_self_iff.mpr fun x hx => ?_
      rcases List.mem_append.mp hx with hx | hx
      · simp [not_accept_choices hl hk x hx]
      · simp [not_accept_more hl hm x hx]
    rw [ht, advance_choices hc hs hm]

/-- What is found at a place, if the text ends there. -/
def foundAt (ks : List (List Char)) (place : Nat) : Option Span :=
  if [] ∈ ks then some ⟨0, place⟩ else none

theorem scan_threads_nil {l : List Char} (hl : l ≠ []) {ks : List (List Char)}
    (hs : Shrinking (l :: ks)) (best : Option Span) (before : Option Char) (place : Nat) :
    scan [[anyThen l]] best before place (threads l ks) [] = (foundAt ks place).or best := by
  rw [scan, List.flatMap_append, leaves_threads _ _ hl,
    find?_choices hl hs (leaves_begun _ _ hl best place), foundAt]
  split_ifs <;> rfl

theorem scan_threads_cons {l : List Char} (hl : l ≠ []) {ks : List (List Char)}
    (hs : Shrinking (l :: ks)) (best : Option Span) (before : Option Char) (place : Nat)
    {c : Char} (hc : c ≠ '\n') (v : List Char) :
    scan [[anyThen l]] best before place (threads l ks) (c :: v) =
      scan [[anyThen l]] ((foundAt ks place).or best) (some c) (place + 1)
        (threads l ((l :: ks).filterMap (consume c))) v := by
  have hb := leaves_begun before (some c) hl best place
  rw [scan, List.flatMap_append, List.head?_cons, leaves_threads _ _ hl, find?_choices hl hs hb,
    foundAt, advance_takeWhile hc hl hs hb]
  have he : (threads l ((l :: ks).filterMap (consume c))).isEmpty = false := rfl
  simp only [he, Bool.false_and, Bool.false_eq_true, ↓reduceIte]
  split_ifs <;> rfl

/-- Before anything has been read the only threads are those that have just begun. -/
theorem leaves_first (after : Option Char) {l : List Char} (hl : l ≠ []) :
    ([] ++ if (none : Option Span).isNone then [[anyThen l]].map (Thread.mk 0) else []).flatMap
      (Thread.leaves none after) = choices l [] ++ [] := by
  simp [Thread.leaves, leaves_anyThen none after hl, choices]

theorem search_nil {l : List Char} (hl : l ≠ []) : search (anyThen l) [] = none := by
  have hs : Shrinking [l] := List.pairwise_singleton _ l
  rw [search, scan, List.head?_nil, leaves_first none hl, find?_choices hl hs (by simp)]
  rfl

theorem search_cons {l : List Char} (hl : l ≠ []) {c : Char} (hc : c ≠ '\n') (v : List Char) :
    search (anyThen l) (c :: v) =
      scan [[anyThen l]] none (some c) 1 (threads l ([l].filterMap (consume c))) v := by
  have hs : Shrinking [l] := List.pairwise_singleton _ l
  have he : (threads l ([l].filterMap (consume c))).isEmpty = false := rfl
  rw [search, scan, List.head?_cons, leaves_first (some c) hl, find?_choices hl hs (by simp),
    advance_takeWhile hc hl hs (by simp)]
  simp only [he, Bool.false_and, Bool.false_eq_true, ↓reduceIte]
  rfl

/-- The texts that the threads have still to match: for each beginning of the text that
has just been read, what comes after it. -/
structure Partial (l u : List Char) (ks : List (List Char)) : Prop where
  shrinking : Shrinking (l :: ks)
  mem_iff : ∀ k, k ∈ ks ↔ ∃ p, p ≠ [] ∧ l = p ++ k ∧ p <:+ u

theorem Partial.nil (l : List Char) : Partial l [] [] := by
  refine ⟨List.pairwise_singleton _ l, fun k => ⟨fun h => absurd h List.not_mem_nil, ?_⟩⟩
  rintro ⟨p, hp, -, hs⟩
  exact absurd (List.suffix_nil.mp hs) hp

theorem Partial.consume {l u : List Char} {ks : List (List Char)} (h : Partial l u ks) (c : Char) :
    Partial l (u ++ [c]) ((l :: ks).filterMap (consume c)) := by
  refine ⟨List.pairwise_cons.mpr ⟨?_, h.shrinking.filterMap c⟩, ?_⟩
  · intro k' hk'
    obtain ⟨k, hk, hc⟩ := List.mem_filterMap.mp hk'
    obtain rfl := consume_eq_some_iff.mp hc
    rcases List.mem_cons.mp hk with rfl | hk
    · simp
    · have hlt := (List.pairwise_cons.mp h.shrinking).1 _ hk
      rw [List.length_cons] at hlt
      omega
  · intro k'
    rw [List.mem_filterMap]
    constructor
    · rintro ⟨k, hk, hc⟩
      obtain rfl := consume_eq_some_iff.mp hc
      rcases List.mem_cons.mp hk with rfl | hk
      · exact ⟨[c], by simp, rfl, List.suffix_append u [c]⟩
      · obtain ⟨p, hp, rfl, hs⟩ := (h.mem_iff _).mp hk
        exact ⟨p ++ [c], by simp, by simp, List.suffix_concat_iff.mpr (.inr ⟨p, rfl, hs⟩)⟩
    · rintro ⟨p, hp, hk, hs⟩
      rcases List.suffix_concat_iff.mp hs with rfl | ⟨q, rfl, hq⟩
      · exact absurd rfl hp
      · refine ⟨c :: k', ?_, consume_eq_some_iff.mpr rfl⟩
        cases q with
        | nil => exact List.mem_cons.mpr (.inl (by simpa using hk.symm))
        | cons d q =>
          refine List.mem_cons_of_mem l ((h.mem_iff _).mpr ⟨d :: q, by simp, ?_, hq⟩)
          simpa using hk

theorem Partial.nil_mem_iff {l u : List Char} {ks : List (List Char)} (h : Partial l u ks)
    (hl : l ≠ []) : [] ∈ ks ↔ l <:+ u := by
  rw [h.mem_iff]
  constructor
  · rintro ⟨p, -, rfl, hs⟩
    rwa [List.append_nil]
  · intro hs
    exact ⟨l, hl, (List.append_nil l).symm, hs⟩

/-- The longest of the beginnings of a text that end with `l`. -/
def IsLast (l u : List Char) : Option Span → Prop
  | none => ∀ t, t <+: u → ¬ l <:+ t
  | some x => ∃ t, x = ⟨0, t.length⟩ ∧ t <+: u ∧ l <:+ t ∧ ∀ t', t' <+: u → l <:+ t' → t' <+: t

theorem IsLast.concat {l u : List Char} {c : Char} {best : Option Span} (h : IsLast l u best)
    {ks : List (List Char)} (hk : [] ∈ ks ↔ l <:+ u ++ [c]) :
    IsLast l (u ++ [c]) ((foundAt ks (u.length + 1)).or best) := by
  unfold foundAt
  split_ifs with hm
  · exact ⟨u ++ [c], by simp, List.prefix_rfl, hk.mp hm, fun t' ht' _ => ht'⟩
  · have hn : ∀ t, t <+: u ++ [c] → l <:+ t → t <+: u := by
      intro t ht hlt
      rcases List.prefix_concat_iff.mp ht with rfl | ht
      · exact absurd (hk.mpr hlt) hm
      · exact ht
    cases best with
    | none => exact fun t ht hlt => h t (hn t ht hlt) hlt
    | some x =>
      obtain ⟨t, rfl, ht, hlt, hmax⟩ := h
      exact ⟨t, rfl, ht.trans (List.prefix_append u [c]), hlt,
        fun t' ht' hlt' => hmax t' (hn t' ht' hlt') hlt'⟩

theorem scan_threads {l : List Char} (hl : l ≠ []) {v : List Char} (hv : '\n' ∉ v)
    {u : List Char} {ks : List (List Char)} (h : Partial l u ks) {best : Option Span}
    (hb : IsLast l u ((foundAt ks u.length).or best)) (before : Option Char) :
    IsLast l (u ++ v) (scan [[anyThen l]] best before u.length (threads l ks) v) := by
  induction v generalizing u ks best before with
  | nil =>
    rw [scan_threads_nil hl h.shrinking, List.append_nil]
    exact hb
  | cons c v ih =>
    have hc : '\n' ≠ c := List.ne_of_not_mem_cons hv
    have hv : '\n' ∉ v := List.not_mem_of_not_mem_cons hv
    have h' := h.consume c
    have hl' := h'.nil_mem_iff hl
    have hlen : (u ++ [c]).length = u.length + 1 := by simp
    rw [scan_threads_cons hl h.shrinking _ _ _ (Ne.symm hc), List.append_cons, ← hlen]
    refine ih hv h' ?_ _
    rw [hlen]
    exact hb.concat hl'

theorem isLast_search {l : List Char} (hl : l ≠ []) {s : List Char} (hs : '\n' ∉ s) :
    IsLast l s (search (anyThen l) s) := by
  have h0 : IsLast l [] none := by
    intro t ht hlt
    rw [List.prefix_nil.mp ht, List.suffix_nil] at hlt
    exact hl hlt
  cases s with
  | nil =>
    rw [search_nil hl]
    exact h0
  | cons c v =>
    have hc : '\n' ≠ c := List.ne_of_not_mem_cons hs
    have hv : '\n' ∉ v := List.not_mem_of_not_mem_cons hs
    have h := (Partial.nil l).consume c
    rw [search_cons hl (Ne.symm hc)]
    exact scan_threads hl hv h (h0.concat (h.nil_mem_iff hl)) _

/-- The pattern of a point, a star and a text finds all up to the last occurrence. -/
theorem find?_anyThen_eq_some_iff {l s t : List Char} (hl : l ≠ []) (hs : '\n' ∉ s)
    {text : String} :
    find? ⟨text, anyThen l⟩ s = some t ↔
      t <+: s ∧ l <:+ t ∧ ∀ t', t' <+: s → l <:+ t' → t' <+: t := by
  have h := isLast_search hl hs
  rw [find?]
  cases hx : search (anyThen l) s with
  | none =>
    rw [hx] at h
    refine ⟨fun hf => (nomatch hf), ?_⟩
    rintro ⟨ht, hlt, -⟩
    exact absurd hlt (h t ht)
  | some x =>
    rw [hx] at h
    obtain ⟨u, rfl, hu, hlu, hmax⟩ := h
    have ho : Span.of ⟨0, u.length⟩ s = u := (List.prefix_iff_eq_take.mp hu).symm
    rw [Option.map_some, ho, Option.some.injEq]
    constructor
    · rintro rfl
      exact ⟨hu, hlu, hmax⟩
    · rintro ⟨ht, hlt, hmax'⟩
      exact (hmax' u hu hlu).eq_of_length_le (hmax t ht hlt).length_le

/-- What is left of `s` when it is cut off behind the last place where `l` stands in it. -/
def CutBehindLast (l s t : List Char) : Prop :=
  ∃ u w, s = u ++ l ++ w ∧ t = u ++ l ∧ ∀ u' w', s = u' ++ l ++ w' → u'.length ≤ u.length

theorem cutBehindLast_iff {l s t : List Char} :
    CutBehindLast l s t ↔ t <+: s ∧ l <:+ t ∧ ∀ t', t' <+: s → l <:+ t' → t' <+: t := by
  constructor
  · rintro ⟨u, w, rfl, rfl, hmax⟩
    refine ⟨List.prefix_append _ w, List.suffix_append u l, ?_⟩
    rintro t' ⟨w', hw'⟩ ⟨u', rfl⟩
    have hlen : u'.length ≤ u.length := hmax u' w' hw'.symm
    refine List.prefix_of_prefix_length_le ⟨w', hw'⟩ (List.prefix_append (u ++ l) w) ?_
    rw [List.length_append, List.length_append]
    omega
  · rintro ⟨⟨w, hw⟩, ⟨u, rfl⟩, hmax⟩
    refine ⟨u, w, hw.symm, rfl, fun u' w' hs' => ?_⟩
    have hp : u' ++ l <+: u ++ l := hmax _ ⟨w', hs'.symm⟩ (List.suffix_append u' l)
    have hlen := hp.length_le
    rw [List.length_append, List.length_append] at hlen
    omega

instance (l s t : List Char) : Decidable (CutBehindLast l s t) :=
  decidable_of_iff (t <+: s ∧ l <:+ t ∧ ∀ t' ∈ s.inits, l <:+ t' → t' <+: t) (by
    simp only [List.mem_inits, cutBehindLast_iff])

theorem find?_anyThen_cut {l s t : List Char} (hl : l ≠ []) (hs : '\n' ∉ s) {text : String} :
    find? ⟨text, anyThen l⟩ s = some t ↔ CutBehindLast l s t :=
  (find?_anyThen_eq_some_iff hl hs).trans cutBehindLast_iff.symm

theorem find?_anyThen_eq_none_iff {l s : List Char} (hl : l ≠ []) (hs : '\n' ∉ s)
    {text : String} : find? ⟨text, anyThen l⟩ s = none ↔ ¬ l <:+: s := by
  have h := isLast_search hl hs
  rw [find?, List.infix_iff_suffix_prefix]
  cases hx : search (anyThen l) s with
  | none =>
    rw [hx] at h
    refine ⟨fun _ => ?_, fun _ => rfl⟩
    rintro ⟨t, hlt, ht⟩
    exact h t ht hlt
  | some x =>
    rw [hx] at h
    obtain ⟨t, rfl, ht, hlt, -⟩ := h
    exact ⟨fun hf => (nomatch hf), fun hn => absurd ⟨t, hlt, ht⟩ hn⟩

end Pattern
end ClusterRig
