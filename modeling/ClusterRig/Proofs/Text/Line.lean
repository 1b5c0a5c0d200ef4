import ClusterRig.Text.Line
import Mathlib.Tactic.Common

/-!
# Lines of a text

A line consists of characters of the text, and no line has a line feed. A text that is
ended by a line feed is a line of its own.
-/

namespace ClusterRig
namespace Text

theorem mem_of_mem_finishLine {c : Char} {reversed : List Char} (h : c ∈ finishLine reversed) :
    c ∈ reversed := by
  unfold finishLine at h
  split at h
  · exact List.mem_cons_of_mem _ (List.mem_reverse.mp h)
  · exact List.mem_reverse.mp h

theorem lineFeed_not_mem_linesFrom {reversed s : List Char} (hr : '\n' ∉ reversed) :
    ∀ line ∈ linesFrom reversed s, '\n' ∉ line := by
  induction s generalizing reversed with
  | nil =>
    intro line hl
    rw [linesFrom] at hl
    split at hl
    · cases hl
    · rw [List.mem_singleton.mp hl, List.mem_reverse]
      exact hr
  | cons c rest ih =>
    intro line hl
    rw [linesFrom] at hl
    split at hl
    next hc =>
      rcases List.mem_cons.mp hl with rfl | hl
      · exact fun h => hr (mem_of_mem_finishLine h)
      · exact ih List.not_mem_nil line hl
    next hc =>
      refine ih (fun h => ?_) line hl
      rcases List.mem_cons.mp h with h | h
      · exact hc h.symm
      · exact hr h

theorem lineFeed_not_mem_lines {s line : List Char} (h : line ∈ lines s) : '\n' ∉ line :=
  lineFeed_not_mem_linesFrom List.not_mem_nil line h

theorem linesFrom_append {reversed s : List Char} (hs : '\n' ∉ s) (rest : List Char) :
    linesFrom reversed (s ++ rest) = linesFrom (s.reverse ++ reversed) rest := by
  induction s generalizing reversed with
  | nil => rfl
  | cons c s ih =>
    have hc : c ≠ '\n' := fun h => hs (h ▸ List.mem_cons_self)
    have htail : '\n' ∉ s := fun h => hs (List.mem_cons_of_mem _ h)
    rw [List.cons_append, linesFrom, if_neg hc, ih htail, List.reverse_cons, List.append_assoc,
      List.singleton_append]

/-- A text that is one line as it stands. -/
def IsLine (s : List Char) : Prop := '\n' ∉ s ∧ s.getLast? ≠ some '\r'

instance (s : List Char) : Decidable (IsLine s) := inferInstanceAs (Decidable (_ ∧ _))

/-- What stands before a line feed is a line of its own. -/
theorem lines_cons {s : List Char} (hs : IsLine s) (rest : List Char) :
    lines (s ++ '\n' :: rest) = s :: lines rest := by
  have hfinish : finishLine s.reverse = s := by
    unfold finishLine
    split
    next left hleft =>
      have hlast : s.getLast? = some '\r' := by
        rw [← List.head?_reverse, hleft, List.head?_cons]
      exact absurd hlast hs.2
    · exact List.reverse_reverse s
  rw [lines, linesFrom_append hs.1, linesFrom, if_pos rfl, List.append_nil, hfinish, lines]

end Text
end ClusterRig
