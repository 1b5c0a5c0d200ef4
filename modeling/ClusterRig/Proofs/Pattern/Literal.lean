import ClusterRig.Pattern.Basic
import Mathlib.Tactic.Common

/-!
# Patterns of literal texts

What a pattern of a point, a star and a literal text stands for. Main statement: such a
pattern always compiles, to any number of characters followed by the text.
-/

namespace ClusterRig
namespace Pattern

/-- A text of characters without a meaning of their own. -/
def Plain (l : List Char) : Prop := ∀ c ∈ l, Reader.isMeta c = false

/-- Any character but a line feed. -/
def dot : CharSet := .complement (.single '\n')

/-- The expression of a text. -/
def spelling (l : List Char) : Regex := .sequence (l.map .literal)

/-- Any number of characters, as many as possible, and a text after them. -/
def anyThen (l : List Char) : Regex := .cat (.rep (.set dot) 0 none true) (spelling l)

namespace Reader

def literals (l : List Char) : List Expr := l.map fun c => .literal c false

/-- A character without a meaning is read as itself. -/
theorem pieces_cons {c : Char} (hc : isMeta c = false) (fuel : Nat) (names : List (List Char))
    (items before : List Expr) (rest : List Char) :
    pieces (fuel + 1) false names items before (c :: rest) =
      pieces fuel false names (.literal c false :: items) before rest := by
  have hn : ∀ d r, isMeta d = true → c :: rest ≠ d :: r := by
    intro d r hd h
    obtain ⟨rfl, -⟩ := List.cons.inj h
    exact absurd (hd.symm.trans hc) (by simp)
  rw [pieces]
  simp only [skip, Bool.false_eq_true, ↓reduceIte]
  split <;> rename_i h
  case h_1 => cases h
  case h_14 =>
    obtain ⟨rfl, rfl⟩ := List.cons.inj h
    rfl
  all_goals exact absurd h (hn _ _ (by decide))

theorem pieces_plain {l : List Char} (hl : Plain l) (fuel : Nat) (names : List (List Char))
    (items before : List Expr) :
    pieces (l.length + 1 + fuel) false names items before l =
      some (branches ((literals l).reverse ++ items) before, names, []) := by
  induction l generalizing items with
  | nil =>
    rw [List.length_nil, Nat.zero_add, Nat.add_comm, pieces]
    rfl
  | cons c l ih =>
    have hc : isMeta c = false := hl c List.mem_cons_self
    have hf : (c :: l).length + 1 + fuel = l.length + 1 + fuel + 1 := by
      rw [List.length_cons]
      omega
    rw [hf, pieces_cons hc, ih fun d hd => hl d (List.mem_cons_of_mem c hd)]
    simp [literals]

theorem expression?_anyThen {l : List Char} (hl : Plain l) (hne : l ≠ []) :
    expression? ('.' :: '*' :: l) = some (.cat (.rep .point 0 none true :: literals l)) := by
  have hg : greed l = (true, l) := by
    obtain ⟨c, l, rfl⟩ := List.exists_cons_of_ne_nil hne
    have hc : isMeta c = false := hl c List.mem_cons_self
    unfold greed
    split <;> rename_i h
    · obtain ⟨rfl, -⟩ := List.cons.inj h
      exact absurd hc (by decide)
    · rfl
  have hp : pieces (l.length + 1 + 2) false [] [] [] ('.' :: '*' :: l) =
      pieces (l.length + 1) false [] [.rep .point 0 none (greed l).1] [] (greed l).2 :=
    rfl
  have hf : ('.' :: '*' :: l).length + 1 = l.length + 1 + 2 := rfl
  rw [expression?, hf, hp, hg, ← Nat.add_zero (l.length + 1), pieces_plain hl]
  simp [branches, literals, Expr.ofBranches, Expr.ofItems, hne]

end Reader

theorem depths_literals (l : List Char) : Expr.depths (Reader.literals l) = 0 := by
  induction l with
  | nil => rfl
  | cons c l ih =>
    change Nat.max 0 (Expr.depths (Reader.literals l)) = 0
    rw [ih]
    rfl

theorem anyCounts_literals (l : List Char) : Expr.anyCounts (Reader.literals l) = false := by
  induction l with
  | nil => rfl
  | cons c l ih => exact ih

theorem regexes?_literals (l : List Char) :
    Expr.regexes? {} (Reader.literals l) = some (l.map Regex.literal, {}) := by
  induction l with
  | nil => rfl
  | cons c l ih =>
    change (Expr.regexes? {} (Reader.literals l)).map
      (fun r => (Regex.literal c :: r.1, r.2)) = some (Regex.literal c :: l.map Regex.literal, {})
    rw [ih]
    rfl

theorem parse?_anyThen {l : List Char} (hl : Plain l) (hne : l ≠ []) :
    parse? ('.' :: '*' :: l) = some (anyThen l) := by
  have hd : (Expr.cat (.rep .point 0 none true :: Reader.literals l)).depth = 2 := by
    change Nat.max 1 (Expr.depths (Reader.literals l)) + 1 = 2
    rw [depths_literals]
    rfl
  have hc : (Expr.cat (.rep .point 0 none true :: Reader.literals l)).counts = false :=
    anyCounts_literals l
  have hr : (Expr.cat (.rep .point 0 none true :: Reader.literals l)).regex? {} =
      some (anyThen l, {}) := by
    obtain ⟨c, l, rfl⟩ := List.exists_cons_of_ne_nil hne
    change ((Expr.regexes? {} (Reader.literals (c :: l))).map
      (fun r => (Regex.rep (.set dot) 0 none true :: r.1, r.2))).map
        (fun r => (Regex.sequence r.1, r.2)) = _
    rw [regexes?_literals]
    rfl
  rw [parse?, Reader.expression?_anyThen hl hne]
  simp [hd, hc, hr, maxDepth]

/-- A point, a star and a plain text are a pattern. -/
theorem compile?_anyThen {text : String} (hl : Plain text.toList) (hne : text.toList ≠ []) :
    compile? (".*" ++ text) = some ⟨".*" ++ text, anyThen text.toList⟩ := by
  have hs : (".*" ++ text).toList = '.' :: '*' :: text.toList := by
    rw [String.toList_append]
    rfl
  rw [compile?, hs, parse?_anyThen hl hne]
  rfl

end Pattern
end ClusterRig
