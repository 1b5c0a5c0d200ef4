import ClusterRig.Proofs.FirstFailure
import ClusterRig.Proofs.Shell.Builtins
import ClusterRig.Proofs.Shell.Tools
import ClusterRig.Shell.Run

/-!
# The parts of a script are orderly

What a command does beside running others: its expressions, its redirections, the programs
it starts, and what is kept or restored when it has ended.
-/

namespace ClusterRig
namespace Shell

open Builtin (Args)
open FirstFailure (bind_eq_ok_iff)

variable {p : Process} {st inner : State}

/-- What each change of a variable keeps, an expression keeps. -/
theorem Arithmetic.Expr.eval_induction {σ : Type} {look : σ → List Char → List Char}
    {change : σ → List Char → Int → σ} {motive : σ → Prop}
    (hchange : ∀ s name n, motive s → motive (change s name n)) (e : Expr) {s s' : σ} {n : Int}
    (hs : motive s) (h : e.eval look change s = .ok (n, s')) : motive s' := by
  induction e generalizing s s' n with
  | number m =>
    cases h
    exact hs
  | «variable» name =>
    unfold eval at h
    split at h
    · cases h
      exact hs
    · cases h
  | unary op a iha =>
    unfold eval at h
    obtain ⟨⟨m, s₁⟩, ha, h⟩ := bind_eq_ok_iff.1 h
    cases h
    exact iha hs ha
  | binary op a b iha ihb =>
    unfold eval at h
    obtain ⟨⟨m, s₁⟩, ha, h⟩ := bind_eq_ok_iff.1 h
    obtain ⟨⟨k, s₂⟩, hb, h⟩ := bind_eq_ok_iff.1 h
    have hs₂ := ihb (iha hs ha) hb
    dsimp only at h
    split at h
    · cases h
      exact hs₂
    · cases h
  | both a b iha ihb =>
    unfold eval at h
    obtain ⟨⟨m, s₁⟩, ha, h⟩ := bind_eq_ok_iff.1 h
    dsimp only at h
    split at h
    · cases h
      exact iha hs ha
    · obtain ⟨⟨k, s₂⟩, hb, h⟩ := bind_eq_ok_iff.1 h
      cases h
      exact ihb (iha hs ha) hb
  | either a b iha ihb =>
    unfold eval at h
    obtain ⟨⟨m, s₁⟩, ha, h⟩ := bind_eq_ok_iff.1 h
    dsimp only at h
    split at h
    · cases h
      exact iha hs ha
    · obtain ⟨⟨k, s₂⟩, hb, h⟩ := bind_eq_ok_iff.1 h
      cases h
      exact ihb (iha hs ha) hb
  | choice a b c iha ihb ihc =>
    unfold eval at h
    obtain ⟨⟨m, s₁⟩, ha, h⟩ := bind_eq_ok_iff.1 h
    dsimp only at h
    split at h
    · exact ihb (iha hs ha) h
    · exact ihc (iha hs ha) h
  | broken a iha =>
    unfold eval at h
    obtain ⟨_, _, h⟩ := bind_eq_ok_iff.1 h
    cases h
  | assign name op a iha =>
    unfold eval at h
    obtain ⟨⟨k, s₁⟩, ha, h⟩ := bind_eq_ok_iff.1 h
    have hs₁ := iha hs ha
    dsimp only at h
    split at h
    · cases h
      exact hchange _ _ _ hs₁
    · split at h
      · cases h
      · split at h
        · cases h
          exact hchange _ _ _ hs₁
        · cases h

theorem State.input_write (st : State) (fd : Nat) (s : List Char) :
    (st.write fd s).input = st.input := by
  unfold State.write
  split
  · exact Process.input_put _ _ _
  all_goals rfl

theorem State.descriptors_write (st : State) (fd : Nat) (s : List Char) :
    (st.write fd s).descriptors = st.descriptors := by
  unfold State.write
  split
  all_goals rfl

namespace Process.Becomes

theorem after (h : p.Becomes inner.toProcess) (st : State) :
    p.Becomes (st.after inner).toProcess :=
  ⟨h.input, h.printed, h.status⟩

theorem restore (h : p.Becomes st.toProcess) (before : State) (rs : List Redirection) :
    p.Becomes (st.restore before rs).toProcess := by
  refine h.trans (foldl State.toProcess ?_ rs st)
  intro st r
  split
  · exact refl _
  · exact refl _

theorem restoreAside (h : p.Becomes st.toProcess) : p.Becomes st.restoreAside.toProcess := by
  unfold State.restoreAside
  split
  · exact h
  next saved rest _ =>
    refine h.trans (foldl State.toProcess ?_ saved { st with aside := rest })
    intro st v
    dsimp only
    split
    · exact refl _
    · exact refl _
    · exact refl _

theorem checked (h : p.Becomes st.toProcess) (tested : Bool) :
    p.Becomes (st.checked tested).toProcess := by
  unfold State.checked
  split
  · exact h
  · exact h

theorem settled (h : p.Becomes st.toProcess) : p.Becomes st.settled.toProcess := by
  unfold State.settled
  split
  · apply Process.Becomes.finish
    apply Process.Becomes.complain
    exact h
  · exact h

theorem trace (h : p.Becomes st.toProcess) (line : List Char) :
    p.Becomes (st.trace line).toProcess := by
  unfold State.trace
  split
  · exact h.write 2 _
  · exact h

theorem afterBody (h : p.Becomes st.toProcess) : p.Becomes st.afterBody.1.toProcess := by
  unfold State.afterBody
  split
  · exact h
  · exact h
  · exact h
  · exact h
  · split
    · exact h
    · exact h

theorem evaluate (h : p.Becomes st.toProcess) (text : List Char) :
    p.Becomes (st.evaluate text).2.toProcess := by
  unfold State.evaluate
  dsimp only
  split
  next n st' heval =>
    have hst' : p.Becomes st'.toProcess :=
      Arithmetic.Expr.eval_induction (motive := fun st : State => p.Becomes st.toProcess)
        (fun _ _ _ hkept => hkept.assign _ _) _ h heval
    split
    · exact h.fail _
    · exact hst'
  · exact h.fail _
  · exact h.fail _
  · exact h.fail _

theorem openForReading {fd : Nat} {name : List Char} {st' : State} (h : p.Becomes st.toProcess)
    (hopen : st.openForReading fd name = .ok st') : p.Becomes st'.toProcess := by
  unfold State.openForReading at hopen
  split at hopen
  · cases hopen
    exact h
  · split at hopen
    · cases hopen
      exact h
    · cases hopen
      exact h
    · cases hopen

theorem openForWriting {fd : Nat} {how : Writing} {name : List Char} {st' : State}
    (h : p.Becomes st.toProcess) (hopen : st.openForWriting fd how name = .ok st') :
    p.Becomes st'.toProcess := by
  unfold State.openForWriting at hopen
  dsimp only at hopen
  split at hopen
  · cases hopen
    exact h
  · split at hopen
    · cases hopen
    · split_ifs at hopen
      · cases hopen
        exact h
      · cases hopen
        exact h.withFiles _

theorem copyChannel {fd : Nat} {source : List Char} {st' : State} (h : p.Becomes st.toProcess)
    (hcopy : st.copyChannel fd source = .ok st') : p.Becomes st'.toProcess := by
  unfold State.copyChannel at hcopy
  split at hcopy
  · cases hcopy
    exact h
  · split at hcopy
    · cases hcopy
    · split at hcopy
      · cases hcopy
        exact h
      · cases hcopy

theorem runProcess (h : p.Becomes st.toProcess) (name : List Char) {run : Process → Process}
    (hrun : Orderly run) : p.Becomes (st.runProcess name run).toProcess := by
  unfold State.runProcess
  extract_lets blocked muted started ended reported filed shown
  have hended : ended.input <:+ st.readable 0 := (hrun _).input
  have hreported : reported.input = ended.input := by
    simp only [reported]
    split
    · exact Process.input_put _ _ _
    · rfl
  have hshown : p.Becomes shown.toProcess := by
    refine (h.withFiles reported.files).trans (foldl State.toProcess ?_ _ filed)
    intro st printed
    exact (refl _).write _ _
  have hkept : shown.input = st.input ∧ shown.descriptors = st.descriptors := by
    refine List.foldlRecOn (motive := fun st' : State =>
      st'.input = st.input ∧ st'.descriptors = st.descriptors) _ _ ⟨rfl, rfl⟩ ?_
    rintro st' ⟨hinput, hdescriptors⟩ printed _
    exact ⟨(st'.input_write _ _).trans hinput, (st'.descriptors_write _ _).trans hdescriptors⟩
  apply Process.Becomes.finish
  apply hshown.leave
  intro hchannel
  have hreadable : st.readable 0 = st.input := by
    rw [State.channel?, hkept.2] at hchannel
    simp only [State.readable, State.channel?, hchannel]
  rw [hkept.1, hreported, ← hreadable]
  exact hended

end Process.Becomes

theorem toProcess_shellOptions {args operands : Args} {st st' : State} {letters : List Char}
    (h : shellOptions args st = .ok (letters, st', operands)) : st'.toProcess = st.toProcess := by
  fun_induction shellOptions args st generalizing letters st' operands with
  | case1 | case3 =>
    cases h
    rfl
  | case2 c s rest st _ ih =>
    obtain ⟨⟨letters₁, st₁, rest₁⟩, hrest, h⟩ := bind_eq_ok_iff.1 h
    dsimp only at h
    split at h
    · cases h
      exact (Builtin.toProcess_turnAll ‹_›).trans (ih hrest)
    · cases h

/-- Every tool is orderly. -/
theorem orderly_of_tool? {name : List Char} {tool : Tool.Program} (h : tool? name = some tool)
    (called : Tool.Name) (args : List (List Char)) : Orderly (tool called args) := by
  unfold tool? at h
  split at h
  all_goals cases h
  case h_1 => exact Tool.orderly_program Tool.Cat.orderly called args
  case h_2 => exact Tool.orderly_program Tool.Characters.orderly called args
  case h_3 => exact Tool.Editor.orderly called args
  case h_4 => exact Tool.orderly_program Tool.Counts.orderly called args
  case h_5 => exact Tool.Ends.orderly_head called args
  case h_6 => exact Tool.Ends.orderly_tail called args
  case h_7 => exact Tool.Small.orderly_printf called args
  case h_8 => exact Tool.Small.orderly_echo called args
  case h_9 => exact Process.Becomes.refl
  case h_10 => exact fun p => (Process.Becomes.refl p).withStatus 1
  case h_11 => exact Tool.Small.orderly_sleep called args
  case h_12 => exact Tool.Small.orderly_test called args
  case h_13 => exact Tool.Small.orderly_bracket called args

end Shell
end ClusterRig
