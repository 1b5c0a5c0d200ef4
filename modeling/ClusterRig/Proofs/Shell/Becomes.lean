import ClusterRig.Shell.State
import Mathlib.Data.List.Infix

/-!
# What a process may become

Whatever programs do, they take from the front of their input, what they have printed
stays printed, and they end with a status of eight bits. Here this is shown for the
parts that programs are made of.
-/

namespace ClusterRig
namespace Shell

namespace Process

theorem input_put (p : Process) (stream : Stream) (s : List Char) :
    (p.put stream s).input = p.input := by
  unfold put
  split
  · rfl
  · rfl

theorem status_put (p : Process) (stream : Stream) (s : List Char) :
    (p.put stream s).status = p.status := by
  unfold put
  split
  · rfl
  · rfl

theorem blocked_put (p : Process) (stream : Stream) (s : List Char) :
    (p.put stream s).blocked = p.blocked := by
  unfold put
  split
  · rfl
  · rfl

/-- What is printed comes behind what has been printed on the same stream. -/
theorem on_put (p : Process) (stream other : Stream) (s : List Char) :
    (p.put stream s).on other = p.on other ++ if stream = other then s else [] := by
  unfold put
  split
  next h =>
    rw [List.isEmpty_iff.1 h, ite_self, List.append_nil]
  · unfold on
    by_cases h : stream = other
    · simp [h]
    · simp [h]

end Process

/-- What may become of a process. The latest printed text comes first, so that earlier
texts are an end of the list. -/
structure Process.Becomes (p q : Process) : Prop where
  input : q.input <:+ p.input
  printed : p.printed <:+ q.printed
  status : p.status < 256 → q.status < 256

namespace Process.Becomes

variable {p q r : Process} {st : State}

theorem refl (p : Process) : p.Becomes p :=
  ⟨List.suffix_rfl, List.suffix_rfl, id⟩

theorem trans (hpq : p.Becomes q) (hqr : q.Becomes r) : p.Becomes r :=
  ⟨hqr.input.trans hpq.input, hpq.printed.trans hqr.printed, hqr.status ∘ hpq.status⟩

/-- A choice between two ways to go on. -/
theorem ite {c : Prop} [Decidable c] (hq : c → p.Becomes q) (hr : ¬ c → p.Becomes r) :
    p.Becomes (if c then q else r) := by
  split
  · exact hq ‹_›
  · exact hr ‹_›

/-- A step that is taken for each of some values. The rest of what the loop keeps does
not matter. -/
theorem foldl {α β : Type} (place : β → Process) {step : β → α → β}
    (hstep : ∀ b a, (place b).Becomes (place (step b a))) (as : List α) (b : β) :
    (place b).Becomes (place (as.foldl step b)) := by
  induction as generalizing b with
  | nil => exact refl _
  | cons a as ih => exact (hstep b a).trans (ih (step b a))

/-- A loop that keeps something beside the process. -/
theorem of_foldl {α γ : Type} {step : γ × Process → α → γ × Process} {as : List α}
    {b c : γ × Process} (h : as.foldl step b = c)
    (hstep : ∀ (b : γ × Process) a, b.2.Becomes (step b a).2) : b.2.Becomes c.2 :=
  h ▸ foldl Prod.snd hstep as b

/-- What has been printed on a stream stays at its beginning. -/
theorem on (h : p.Becomes q) (stream : Stream) : p.on stream <+: q.on stream := by
  obtain ⟨later, hlater⟩ := h.printed
  unfold Process.on
  rw [← hlater, List.reverse_append, List.filter_append, List.flatMap_append]
  exact List.prefix_append _ _

/-! ## Processes -/

theorem put (h : p.Becomes q) (stream : Stream) (s : List Char) : p.Becomes (q.put stream s) := by
  unfold Process.put
  split
  · exact h
  · exact ⟨h.input, h.printed.trans (List.suffix_cons _ _), h.status⟩

theorem print (h : p.Becomes q) (s : List Char) : p.Becomes (q.print s) := h.put .output s

theorem complainLine (h : p.Becomes q) (line : List Char) : p.Becomes (q.complain line) :=
  h.put .errors _

theorem withStatus (h : p.Becomes q) (status : Nat) : p.Becomes (q.withStatus status) :=
  ⟨h.input, h.printed, fun _ => Nat.mod_lt _ (by decide : 0 < 256)⟩

theorem withInput (h : p.Becomes q) {rest : List Char} (hrest : rest <:+ p.input) :
    p.Becomes { q with input := rest } :=
  ⟨hrest, h.printed, h.status⟩

theorem taken (h : p.Becomes q) : p.Becomes q.taken := h.withInput List.nil_suffix

theorem open_ (h : p.Becomes q) (name : List Char) : p.Becomes (q.open_ name).2 := by
  unfold Process.open_
  split
  case h_1 | h_2 | h_3 | h_4 =>
    split
    · exact h
    · exact h.taken
  case h_5 => exact h
  case h_6 =>
    split
    · exact h
    · exact h
    · exact h

/-- A process after it has opened a file. -/
theorem of_open_ {name : List Char} {opened : Except String (List Char)}
    (h : q.open_ name = (opened, r)) : q.Becomes r := by
  have hr := (refl q).open_ name
  rwa [h] at hr

/-! ## States of a shell -/

theorem finish (h : p.Becomes st.toProcess) (status : Nat) :
    p.Becomes (st.finish status).toProcess :=
  h.withStatus status

theorem exit (h : p.Becomes st.toProcess) (status : Nat) :
    p.Becomes (st.exit status).toProcess :=
  h.withStatus status

theorem withFiles (h : p.Becomes st.toProcess) (files : Files) :
    p.Becomes { st with files }.toProcess :=
  ⟨h.input, h.printed, h.status⟩

/-- What is left of a channel is a matter of the process only where the channel leads to
its input. -/
theorem leave (h : p.Becomes st.toProcess) {fd : Nat} {rest : List Char}
    (hrest : st.channel? fd = some .input → rest <:+ st.input) :
    p.Becomes (st.leave fd rest).toProcess := by
  unfold State.leave
  split
  · exact h.withInput ((hrest ‹_›).trans h.input)
  · exact h
  · exact h

theorem write (h : p.Becomes st.toProcess) (fd : Nat) (s : List Char) :
    p.Becomes (st.write fd s).toProcess := by
  unfold State.write
  split
  · exact h.put _ s
  · exact h
  · exact h.withFiles _
  · exact h
  · exact h

theorem complain (h : p.Becomes st.toProcess) (what : List Char) :
    p.Becomes (st.complain what).toProcess :=
  h.write 2 _

theorem fail (h : p.Becomes st.toProcess) (what : List Char) :
    p.Becomes (st.fail what).toProcess := by
  have hfinished := (h.complain what).finish 2
  unfold State.fail
  dsimp only
  split
  · exact hfinished
  · exact hfinished

theorem assign (h : p.Becomes st.toProcess) (name value : List Char) :
    p.Becomes (st.assign name value).toProcess := by
  unfold State.assign
  split
  · split
    · exact h.fail _
    · exact h
  · exact h

end Process.Becomes

/-- A program that keeps to what a process may become. -/
def Orderly (run : Process → Process) : Prop := ∀ p : Process, p.Becomes (run p)

end Shell
end ClusterRig
