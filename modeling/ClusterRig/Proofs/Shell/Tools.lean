import ClusterRig.Proofs.Shell.Becomes
import ClusterRig.Shell.Tool.Cat
import ClusterRig.Shell.Tool.Characters
import ClusterRig.Shell.Tool.Counts
import ClusterRig.Shell.Tool.Ends
import ClusterRig.Shell.Tool.Sed
import ClusterRig.Shell.Tool.Small

/-!
# Tools are orderly

Each tool opens its files one after the other, prints and ends with a status.
-/

namespace ClusterRig
namespace Shell

variable {p q : Process}

namespace Process.Becomes

theorem report (h : p.Becomes q) (name : Tool.Name) (what : List Char) :
    p.Becomes (Tool.report name what q) :=
  h.complainLine _

theorem failure (h : p.Becomes q) (name : Tool.Name) (what : List Char) :
    p.Becomes (Tool.failure name what q) :=
  (h.report name what).withStatus 1

theorem misuse (h : p.Becomes q) (name : Tool.Name) (what : List Char) (status : Nat) :
    p.Becomes (Tool.misuse name what q status) :=
  ((h.report name what).complainLine _).withStatus status

theorem reportClosed (h : p.Becomes q) (name : Tool.Name) (what : String)
    (files : List (List Char)) : p.Becomes (Tool.reportClosed name what files q) := by
  unfold Tool.reportClosed
  split
  · exact h.failure name _
  · exact h

end Process.Becomes

namespace Tool

theorem orderly_program {flags : List Flag} {permuted : Bool}
    {run : Name → Usage → Process → Process} (hrun : ∀ name u, Orderly (run name u)) (name : Name)
    (args : List (List Char)) : Orderly (program flags permuted run name args) := by
  intro p
  unfold program
  split
  · exact hrun name _ p
  · exact (Process.Becomes.refl p).misuse name _ 1

theorem afterBlocks_suffix (needed : Nat) (input : List Char) :
    afterBlocks needed input <:+ input :=
  List.drop_suffix _ _

theorem Cat.orderly (name : Name) (u : Usage) : Orderly (run name u) := by
  intro p
  unfold run
  dsimp only
  split
  · exact (Process.Becomes.refl p).failure name _
  · generalize hfold : List.foldl _ _ _ = c
    have hc : p.Becomes c.2 := by
      apply Process.Becomes.of_foldl hfold
      intro b file
      split
      · exact (Process.Becomes.of_open_ ‹_›).print _
      · exact (Process.Becomes.of_open_ ‹_›).failure name _
    apply Process.Becomes.reportClosed
    split
    · exact hc.print _
    · exact hc

theorem Characters.orderly (name : Name) (u : Usage) : Orderly (run name u) := by
  intro p
  unfold run
  split
  · exact (Process.Becomes.refl p).misuse name _ 1
  · dsimp only
    generalize hfold : List.foldl _ _ _ = q
    have hq : p.Becomes q := by
      rw [← hfold]
      apply Process.Becomes.foldl id
      intro b what
      exact (Process.Becomes.refl b).report name _
    split
    · exact hq.failure name _
    · split
      · exact hq.failure name _
      · exact hq.taken.print _

theorem Counts.orderly (name : Name) (u : Usage) : Orderly (run name u) := by
  intro p
  unfold run
  dsimp only
  split
  · exact (Process.Becomes.refl p).misuse name _ 1
  · generalize hfold : List.foldl _ _ _ = c
    have hc : p.Becomes c.2 := by
      apply Process.Becomes.of_foldl hfold
      intro b operand
      split
      · have hopened := Process.Becomes.of_open_ ‹_›
        exact .ite (fun _ => hopened) (fun _ => hopened.print _)
      · have hfailed := fun what => (Process.Becomes.of_open_ ‹_›).failure name what
        exact .ite (fun _ => .ite (fun _ => hfailed _) (fun _ => (hfailed _).print _))
          (fun _ => hfailed _)
    apply Process.Becomes.reportClosed
    exact .ite (fun _ => hc.print _) (fun _ => hc)

namespace Ends

/-- A hyphen opens the input itself. -/
theorem eq_input_of_open_ {p q : Process} {s : List Char} (h : p.open_ ['-'] = (.ok s, q)) :
    s = p.input := by
  have hhyphen : String.ofList ['-'] = "-" := by decide
  simp only [Process.open_, hhyphen] at h
  split at h
  · cases h
  · cases h
    rfl

/-- The parts of files can be printed if what they leave is an end of the file. -/
theorem orderly_printEach (name : Name) (u : Usage) (closed : String)
    {part : List Char → List Char × List Char} (hpart : ∀ s, (part s).2 <:+ s) :
    Orderly (printEach name u closed part) := by
  intro p
  unfold printEach
  dsimp only
  apply Process.Becomes.reportClosed
  generalize hfold : List.foldl _ _ _ = c
  apply Process.Becomes.of_foldl (b := (true, p)) hfold
  intro b file
  split
  next s q hopen =>
    have hopened := Process.Becomes.of_open_ hopen
    have hleft : b.2.Becomes (if file = ['-'] then { q with input := (part s).2 } else q) := by
      split
      · subst file
        rw [eq_input_of_open_ hopen]
        exact hopened.withInput (hpart _)
      · exact hopened
    exact (Process.Becomes.ite (fun _ => hleft.print _) (fun _ => hleft)).print _
  next why q hopen =>
    have hopened := Process.Becomes.of_open_ hopen
    split
    · exact (Process.Becomes.ite (fun _ => hopened.print _) (fun _ => hopened)).failure name _
    · exact hopened.failure name _

theorem orderly_head (name : Name) (args : List (List Char)) : Orderly (head name args) := by
  intro p
  unfold head
  split
  · exact (Process.Becomes.refl p).misuse name _ 1
  · apply orderly_program
    intro name u p
    split
    · exact (Process.Becomes.refl p).misuse name _ 1
    · exact (Process.Becomes.refl p).failure name _
    · apply orderly_printEach
      intro s
      dsimp only
      split
      · exact List.nil_suffix
      · exact afterBlocks_suffix _ s

theorem orderly_tail (name : Name) (args : List (List Char)) : Orderly (tail name args) := by
  intro p
  unfold tail
  apply orderly_program
  intro name u p
  split
  · exact (Process.Becomes.refl p).failure name _
  · exact (Process.Becomes.refl p).failure name _
  · split
    · exact Process.Becomes.refl p
    · exact orderly_printEach name u _ (fun _ => List.nil_suffix) p

end Ends

namespace Small

theorem orderly_echo (name : Name) (args : List (List Char)) : Orderly (echo name args) := by
  intro p
  unfold echo
  dsimp only
  split
  · split
    · exact (Process.Becomes.refl p).print _
    · exact (Process.Becomes.refl p).print _
  · exact (Process.Becomes.refl p).print _

theorem orderly_printf (name : Name) (args : List (List Char)) : Orderly (printf name args) := by
  intro p
  unfold printf
  dsimp only
  split
  · exact (Process.Becomes.refl p).misuse name _ 1
  · apply Process.Becomes.withStatus
    apply Process.Becomes.foldl id
    intro q printed
    exact .ite (fun _ => (Process.Becomes.refl q).report name _)
      (fun _ => (Process.Becomes.refl q).print _)

theorem orderly_sleep (name : Name) (args : List (List Char)) : Orderly (sleep name args) := by
  apply orderly_program
  intro name u p
  split
  · exact (Process.Becomes.refl p).misuse name _ 1
  · split
    · exact Process.Becomes.refl p
    · apply Process.Becomes.misuse
      apply Process.Becomes.foldl id
      intro q s
      exact (Process.Becomes.refl q).report name _

theorem orderly_test (name : Name) (args : List (List Char)) : Orderly (test name args) := by
  intro p
  unfold test
  split
  · exact (Process.Becomes.refl p).withStatus _
  · exact ((Process.Becomes.refl p).report name _).withStatus 2

theorem orderly_bracket (name : Name) (args : List (List Char)) : Orderly (bracket name args) := by
  intro p
  unfold bracket
  split
  · exact orderly_test name _ p
  · exact ((Process.Becomes.refl p).report name _).withStatus 2

end Small

namespace Editor

theorem becomes_lines (delimiter : Char) (files : List (List Char)) (p : Process) :
    p.Becomes (lines delimiter p files).2.2 := by
  induction files generalizing p with
  | nil => exact Process.Becomes.refl p
  | cons file rest ih =>
    unfold lines
    split
    · exact (Process.Becomes.of_open_ ‹_›).trans (ih _)
    · have hopened := Process.Becomes.of_open_ ‹_›
      split
      · exact hopened
      · exact hopened.trans (ih _)

theorem unread_suffix (input : List Char) (left : List Sed.Line) : unread input left <:+ input :=
  List.drop_suffix _ _

theorem orderly_reportMissing (name : Name) (missing : List (List Char × String)) :
    Orderly (reportMissing name missing) := by
  intro p
  apply Process.Becomes.foldl id
  intro q missing
  exact .ite (fun _ => (Process.Becomes.refl q).report name _)
    (fun _ => (Process.Becomes.refl q).report name _)

theorem orderly_conclude (name : Name) (u : Usage) (missing : List (List Char × String))
    (m : Sed.Machine) (status : Nat) : Orderly (conclude name u missing m status) := by
  intro p
  unfold conclude
  extract_lets printed expressions closed
  have hprinted : p.Becomes printed := ((Process.Becomes.refl p).put .errors _).print _
  have hclosed : p.Becomes closed := .ite (fun _ => hprinted.report name _) (fun _ => hprinted)
  split
  · exact (hclosed.report name _).withStatus _
  · exact hclosed.withStatus _

theorem orderly_edit (name : Name) (u : Usage) (commands : List Sed.Command) (quiet : Bool)
    (names : List (List Char)) : Orderly (edit name u commands quiet names) := by
  intro p
  unfold edit
  extract_lets delimiter files width
  split
  next ls missing read hlines =>
    have hread := becomes_lines delimiter names { p with files }
    rw [hlines] at hread
    split
    next m status _ =>
      extract_lets left
      have hinput : left <:+ p.input := by
        simp only [left]
        split
        · exact unread_suffix _ _
        · exact List.suffix_rfl
      have hleft : p.Becomes { read with files := m.files, input := left } :=
        ⟨hinput, hread.printed, hread.status⟩
      exact (hleft.trans (orderly_reportMissing name missing _)).trans
        (orderly_conclude name u missing m status _)

theorem orderly (name : Name) (args : List (List Char)) : Orderly (program name args) := by
  intro p
  have hp := Process.Becomes.refl p
  unfold program
  split
  · exact ((hp.report name _).complainLine _).withStatus 1
  · dsimp only
    split
    · exact (hp.complainLine _).withStatus 1
    · exact (hp.report name _).withStatus 4
    · split
      · exact (hp.report name _).withStatus _
      · exact orderly_edit name _ _ _ _ p

end Editor

end Tool
end Shell
end ClusterRig
