import ClusterRig.Proofs.Shell.Becomes
import ClusterRig.Shell.Builtins

/-!
# Commands of the shell are orderly

Of these only `read` takes from an input: the line that it reads.
-/

namespace ClusterRig
namespace Shell

open Builtin (Args)

variable {p : Process} {st : State}

namespace Process.Becomes

theorem withCount (h : p.Becomes st.toProcess) (args : Args) (byDefault : Nat)
    {next : Nat → State} (hnext : ∀ n, p.Becomes (next n).toProcess) :
    p.Becomes (Builtin.withCount args byDefault st next).toProcess := by
  unfold Builtin.withCount
  split
  · exact hnext _
  · split
    · exact hnext _
    · exact h.fail _

theorem forArgs (h : p.Becomes st.toProcess) {f : State → List Char → State}
    (hf : ∀ (st : State) a, st.toProcess.Becomes (f st a).toProcess) (args : Args) :
    p.Becomes (Builtin.forArgs f args st).toProcess := by
  apply h.trans
  apply Process.Becomes.foldl State.toProcess
  intro st a
  split
  · exact hf st a
  · exact refl _

theorem withOptions (h : p.Becomes st.toProcess) (known : List Char) (args : Args)
    {next : List Char → Args → State}
    (hnext : ∀ letters args, p.Becomes (next letters args).toProcess) :
    p.Becomes (Builtin.withOptions known args st next).toProcess := by
  unfold Builtin.withOptions
  split
  · exact hnext _ _
  · exact h.fail _

end Process.Becomes

namespace Builtin

theorem becomes_mark (what : String) (change : Variable → Variable) (isMarked : Variable → Bool)
    (args : Args) (st : State) :
    st.toProcess.Becomes (mark what change isMarked args st).toProcess := by
  have hst := Process.Becomes.refl st.toProcess
  apply hst.withOptions
  intro letters operands
  split
  · exact (hst.write 1 _).finish 0
  · apply (hst.finish 0).forArgs
    intro st a
    have hst := Process.Becomes.refl st.toProcess
    dsimp only
    split
    · exact hst.fail _
    · split
      · split
        · exact hst.assign _ _
        · exact hst.assign _ _
      · split
        · exact hst
        · exact hst

theorem becomes_unset (args : Args) (st : State) :
    st.toProcess.Becomes (unset args st).toProcess := by
  have hst := Process.Becomes.refl st.toProcess
  apply hst.withOptions
  intro letters operands
  apply (hst.finish 0).forArgs
  intro st name
  have hst := Process.Becomes.refl st.toProcess
  split
  · exact hst
  · split
    · exact hst.fail _
    · split
      · exact hst.fail _
      · exact hst

theorem becomes_local (args : Args) (st : State) :
    st.toProcess.Becomes (local_ args st).toProcess := by
  unfold local_
  split
  · exact (Process.Becomes.refl _).fail _
  · apply ((Process.Becomes.refl _).finish 0).forArgs
    intro st a
    have hst := Process.Becomes.refl st.toProcess
    dsimp only
    split
    · split
      · exact hst
      · exact hst
    · split
      · exact hst.fail _
      · split
        · apply Process.Becomes.assign
          split
          · exact hst
          · exact hst
        · split
          · exact hst
          · exact hst

theorem readLine_suffix (raw : Bool) (s : List Char) : (readLine raw s).2.2 <:+ s := by
  fun_induction readLine raw s with
  | case1 => exact List.suffix_rfl
  | case2 rest => exact List.suffix_cons _ _
  | case3 c rest hraw line whole left hline ih =>
    rw [hline] at ih
    exact ih.trans (List.suffix_cons _ _)
  | case4 c rest hraw line whole left hline ih =>
    rw [hline] at ih
    exact (ih.trans (List.suffix_cons _ _)).trans (List.suffix_cons _ _)
  | case5 c rest hbreak hquote line whole left hline ih =>
    rw [hline] at ih
    exact ih.trans (List.suffix_cons _ _)

theorem becomes_read (args : Args) (st : State) :
    st.toProcess.Becomes (read args st).toProcess := by
  have hst := Process.Becomes.refl st.toProcess
  unfold read
  split
  · exact hst.fail _
  · exact hst.fail _
  next raw names _ hoptions =>
    have hread : st.toProcess.Becomes
        (st.leave 0 (readLine raw (st.readable 0)).2.2).toProcess := by
      apply hst.leave
      intro hinput
      have hreadable : st.readable 0 = st.input := by
        simp only [State.readable, hinput]
      rw [hreadable]
      exact readLine_suffix raw st.input
    dsimp only
    refine (hread.finish _).trans (Process.Becomes.foldl State.toProcess ?_ _ _)
    intro st named
    have hst := Process.Becomes.refl st.toProcess
    split
    · exact hst
    · split
      · exact hst.fail _
      · exact hst.assign _ _

theorem toProcess_turnAll {on : Bool} {letters : List Char} {st st' : State}
    (h : turnAll on letters st = .ok st') : st'.toProcess = st.toProcess := by
  unfold turnAll at h
  induction letters generalizing st with
  | nil =>
    cases h
    rfl
  | cons c letters ih =>
    rw [List.foldlM_cons] at h
    split at h
    · exact @ih (turn on c st) h
    · cases h

theorem becomes_setOptions {args rest : Args} {st st' : State} {all : Bool}
    (h : setOptions args st = .ok (st', rest, all)) : st.toProcess.Becomes st'.toProcess := by
  have turned {on : Bool} {letters : List Char} {st : State} {rest' : Args}
      (ih : ∀ st₁, setOptions rest' st₁ = .ok (st', rest, all) →
        st₁.toProcess.Becomes st'.toProcess)
      (h : (turnAll on letters st >>= setOptions rest') = .ok (st', rest, all)) :
      st.toProcess.Becomes st'.toProcess := by
    cases hturn : turnAll on letters st with
    | error what =>
      rw [hturn] at h
      cases h
    | ok st₁ =>
      rw [hturn] at h
      rw [← toProcess_turnAll hturn]
      exact ih st₁ h
  fun_induction setOptions args st with
  | case1 | case2 | case3 | case12 =>
    cases h
    exact Process.Becomes.refl _
  | case4 _ _ _ _ _ ih | case6 _ _ _ _ _ ih => exact ih h
  | case5 | case7 => cases h
  | case8 | case9 =>
    cases h
    exact (Process.Becomes.refl _).write 1 _
  | case10 _ _ _ _ _ _ _ ih | case11 _ _ _ _ _ _ ih => exact turned ih h

theorem becomes_set (args : Args) (st : State) :
    st.toProcess.Becomes (set args st).toProcess := by
  have hst := Process.Becomes.refl st.toProcess
  unfold set
  split
  · exact (hst.write 1 _).finish 0
  · split
    · exact hst.fail _
    · have hset := becomes_setOptions ‹_›
      split
      · exact hset.finish 0
      · exact hset.finish 0

theorem becomes_shift (args : Args) (st : State) :
    st.toProcess.Becomes (shift args st).toProcess := by
  have hst := Process.Becomes.refl st.toProcess
  apply hst.withCount
  intro n
  split
  · exact hst.finish 0
  · exact hst.fail _

theorem becomes_getopts (args : Args) (st : State) :
    st.toProcess.Becomes (getopts args st).toProcess := by
  have hst := Process.Becomes.refl st.toProcess
  unfold getopts
  split
  next letters name given =>
    extract_lets given quiet place current offset tell say
    have htell (st' : State) (found : List Char) (argument : Option (List Char))
        (place offset status : Nat) (h : st.toProcess.Becomes st'.toProcess) :
        st.toProcess.Becomes (tell st' found argument place offset status).toProcess := by
      simp only [tell]
      apply Process.Becomes.finish
      apply Process.Becomes.assign
      apply Process.Becomes.assign
      split
      · exact h.assign _ _
      · exact h
    have hsay (what : List Char) : st.toProcess.Becomes (say what st).toProcess := by
      simp only [say]
      split
      · exact hst
      · exact hst.write 2 _
    clear_value tell say
    split
    · exact htell _ _ _ _ _ _ hst
    · split
      · exact htell _ _ _ _ _ _ hst
      · split
        · exact htell _ _ _ _ _ _ hst
        · dsimp only
          split
          · exact htell _ _ _ _ _ _ (hsay _)
          · split
            · exact htell _ _ _ _ _ _ hst
            · split
              · exact htell _ _ _ _ _ _ hst
              · split
                · exact htell _ _ _ _ _ _ hst
                · exact htell _ _ _ _ _ _ (hsay _)
  · exact hst.fail _

theorem becomes_leave (flow : Nat → Flow) (args : Args) (st : State) :
    st.toProcess.Becomes (leave flow args st).toProcess := by
  have hst := Process.Becomes.refl st.toProcess
  apply hst.withCount
  intro n
  split
  · exact hst.fail _
  · dsimp only
    split
    · exact hst.finish 0
    · exact hst.finish 0

theorem becomes_return (args : Args) (st : State) :
    st.toProcess.Becomes (return_ args st).toProcess :=
  (Process.Becomes.refl _).withCount args _ fun n => (Process.Becomes.refl _).finish n

theorem becomes_exit (args : Args) (st : State) :
    st.toProcess.Becomes (exit args st).toProcess :=
  (Process.Becomes.refl _).withCount args _ fun n => (Process.Becomes.refl _).exit n

theorem becomes_echo (args : Args) (st : State) :
    st.toProcess.Becomes (echo args st).toProcess :=
  ((Process.Becomes.refl _).write 1 _).finish 0

theorem becomes_printf (args : Args) (st : State) :
    st.toProcess.Becomes (printf args st).toProcess := by
  have hst := Process.Becomes.refl st.toProcess
  unfold printf
  split
  · exact hst.fail _
  · exact hst.fail _
  · dsimp only
    apply Process.Becomes.finish
    apply Process.Becomes.write
    apply Process.Becomes.foldl State.toProcess
    intro st printed
    have hst := Process.Becomes.refl st.toProcess
    split
    · exact hst.complain _
    · exact hst

theorem becomes_decide (words : Args) (st : State) :
    st.toProcess.Becomes (Builtin.decide words st).toProcess := by
  have hst := Process.Becomes.refl st.toProcess
  unfold Builtin.decide
  split
  · exact hst.finish _
  · exact hst.fail _

theorem becomes_bracket (args : Args) (st : State) :
    st.toProcess.Becomes (bracket args st).toProcess := by
  unfold bracket
  split
  · exact becomes_decide _ st
  · exact (Process.Becomes.refl _).fail _

theorem becomes_setTrap (action : Option (List Char)) (names : Args) (st : State) :
    st.toProcess.Becomes (setTrap action names st).toProcess := by
  have hst := (Process.Becomes.refl st.toProcess).finish 0
  refine hst.trans (Process.Becomes.foldl State.toProcess ?_ _ _)
  intro st s
  have hst := Process.Becomes.refl st.toProcess
  split
  · exact hst
  · exact (hst.write 2 _).finish 1

theorem becomes_trap (args : Args) (st : State) :
    st.toProcess.Becomes (trap args st).toProcess := by
  unfold trap
  dsimp only
  split
  · exact ((Process.Becomes.refl _).write 1 _).finish 0
  · exact becomes_setTrap none _ st
  · exact becomes_setTrap _ _ st

theorem becomes_cd (args : Args) (st : State) :
    st.toProcess.Becomes (cd args st).toProcess := by
  have hst := Process.Becomes.refl st.toProcess
  unfold cd
  split
  · exact hst.finish 0
  · split
    · exact (hst.finish 0).withFiles _
    · exact hst.fail _

theorem becomes_describe (args : Args) (st : State) :
    st.toProcess.Becomes (describe args st).toProcess := by
  have hst := (Process.Becomes.refl st.toProcess).finish 0
  refine hst.trans (Process.Becomes.foldl State.toProcess ?_ _ _)
  intro st name
  have hst := Process.Becomes.refl st.toProcess
  dsimp only
  split
  · exact hst.write 1 _
  · exact hst.write 1 _
  · exact hst.write 1 _
  · exact hst.write 1 _
  · exact hst.write 1 _
  · exact (hst.write 1 _).finish 127

theorem becomes_locate (name : List Char) (st : State) :
    st.toProcess.Becomes (locate name st).toProcess := by
  have hst := Process.Becomes.refl st.toProcess
  unfold locate
  split
  · exact hst.finish 127
  · exact (hst.write 1 _).finish 0
  · exact (hst.write 1 _).finish 0

theorem becomes_hash (args : Args) (st : State) :
    st.toProcess.Becomes (hash args st).toProcess := by
  apply ((Process.Becomes.refl _).finish 0).forArgs
  intro st name
  have hst := Process.Becomes.refl st.toProcess
  split
  · exact (hst.complain _).finish 1
  · exact hst

/-- Every command that runs no others is orderly. -/
theorem becomes_of_named? {name : List Char} {run : Args → State → State}
    (h : named? name = some run) (args : Args) (st : State) :
    st.toProcess.Becomes (run args st).toProcess := by
  have hst := Process.Becomes.refl st.toProcess
  unfold named? at h
  split at h
  all_goals cases h
  case h_1 | h_2 => exact hst.finish 0
  case h_3 => exact hst.finish 1
  case h_4 => exact becomes_echo args st
  case h_5 => exact becomes_printf args st
  case h_6 => exact becomes_decide args st
  case h_7 => exact becomes_bracket args st
  case h_8 => exact becomes_read args st
  case h_9 | h_10 => exact becomes_mark _ _ _ args st
  case h_11 => exact becomes_local args st
  case h_12 => exact becomes_unset args st
  case h_13 => exact becomes_set args st
  case h_14 => exact becomes_shift args st
  case h_15 => exact becomes_getopts args st
  case h_16 | h_17 => exact becomes_leave _ args st
  case h_18 => exact becomes_return args st
  case h_19 => exact becomes_exit args st
  case h_20 => exact becomes_trap args st
  case h_21 | h_22 => exact becomes_cd args st
  case h_23 => exact (hst.write 1 _).finish 0
  case h_24 => exact hst.finish _
  case h_25 => exact becomes_describe args st
  case h_26 => exact becomes_hash args st
  case h_27 =>
    apply Process.Becomes.finish
    split
    · exact hst.write 1 _
    · exact hst
  case h_28 => exact (hst.write 1 _).finish 0

end Builtin
end Shell
end ClusterRig
