import ClusterRig.Proofs.Shell.Parts

/-!
# Running scripts is orderly

The functions that run scripts call each other, with less fuel each time. `OrderlyWith` says
of all of them at once that they are orderly with some fuel. Each has a lemma for one more
step, so that by induction they are orderly with any.
-/

namespace ClusterRig
namespace Shell

open Builtin (Args)

/-- That all functions that run scripts are orderly with some fuel. -/
structure OrderlyWith (fuel : Nat) : Prop where
  expandPart (divided loosely : Bool) (st : State) (part : Part) :
    st.toProcess.Becomes (expandPart fuel divided loosely st part).1.toProcess
  expandWord (divided loosely : Bool) (st : State) (w : Word) :
    st.toProcess.Becomes (expandWord fuel divided loosely st w).1.toProcess
  expandText (st : State) (w : Word) :
    st.toProcess.Becomes (expandText fuel st w).1.toProcess
  expandWords (declared : Bool) (st : State) (ws : List Word) :
    st.toProcess.Becomes (expandWords fuel declared st ws).1.toProcess
  expandAssignments (visible : Bool) (st : State) (assignments : List (List Char × Word)) :
    st.toProcess.Becomes (expandAssignments fuel visible st assignments).1.toProcess
  outputOf (script : Command) (st : State) :
    st.toProcess.Becomes (outputOf fuel script st).2.toProcess
  subshell (tested : Bool) (c : Command) (st : State) :
    st.toProcess.Becomes (subshell fuel tested c st).toProcess
  conclude (st : State) : st.toProcess.Becomes (conclude fuel st).toProcess
  redirect (rs : List Redirection) (st : State) :
    st.toProcess.Becomes (redirect fuel rs st).1.toProcess
  program (e : Environment) (name : List Char) (args : Args) {run : Process → Process}
    (h : program fuel e name args = some run) : Orderly run
  withSettings (e : Environment) (name : List Char) (args : Args) :
    Orderly (withSettings fuel e name args)
  shell (e : Environment) (name : List Char) (args : Args) : Orderly (shell fuel e name args)
  script (text : List Char) (st : State) : st.toProcess.Becomes (script fuel text st)
  runText (text : List Char) (st : State) :
    st.toProcess.Becomes (runText fuel text st).toProcess
  runLines (source : Source) (st : State) :
    st.toProcess.Becomes (runLines fuel source st).toProcess
  builtin (name : List Char) (args : Args) (st : State) :
    st.toProcess.Becomes (builtin fuel name args st).toProcess
  source (args : Args) (st : State) : st.toProcess.Becomes (source fuel args st).toProcess
  replace (args : Args) (st : State) : st.toProcess.Becomes (replace fuel args st).toProcess
  start (name : List Char) (args : Args) (st : State) :
    st.toProcess.Becomes (start fuel name args st).toProcess
  plainly (args : Args) (st : State) : st.toProcess.Becomes (plainly fuel args st).toProcess
  call (tested : Bool) (body : Command) (args : Args) (st : State) :
    st.toProcess.Becomes (call fuel tested body args st).toProcess
  invoke (tested : Bool) (assigned : List (List Char × List Char)) (name : List Char) (args : Args)
    (st : State) : st.toProcess.Becomes (invoke fuel tested assigned name args st).toProcess
  chooseArm (tested : Bool) (subject : List Char) (arms : List (List Word × Command))
    (st : State) : st.toProcess.Becomes (chooseArm fuel tested subject arms st).toProcess
  anyMatches (subject : List Char) (patterns : List Word) (st : State) :
    st.toProcess.Becomes (anyMatches fuel subject patterns st).1.toProcess
  forEach (tested : Bool) (name : List Char) (body : Command) (values : Args) (st : State) :
    st.toProcess.Becomes (forEach fuel tested name body values st).toProcess
  repeatWhile (tested untilTrue : Bool) (condition body : Command) (status : Nat) (st : State) :
    st.toProcess.Becomes
      (repeatWhile fuel tested untilTrue condition body status st).toProcess
  eval (tested : Bool) (c : Command) (st : State) :
    st.toProcess.Becomes (eval fuel tested c st).toProcess

/-- Without fuel nothing happens. -/
theorem orderlyWith_zero : OrderlyWith 0 where
  expandPart _ _ _ _ := Process.Becomes.refl _
  expandWord _ _ _ _ := Process.Becomes.refl _
  expandText _ _ := Process.Becomes.refl _
  expandWords _ _ _ := Process.Becomes.refl _
  expandAssignments _ _ _ := Process.Becomes.refl _
  outputOf _ _ := Process.Becomes.refl _
  subshell _ _ _ := Process.Becomes.refl _
  conclude _ := Process.Becomes.refl _
  redirect _ _ := Process.Becomes.refl _
  program _ _ _ _ h := by cases h
  withSettings _ _ _ p := Process.Becomes.refl p
  shell _ _ _ p := Process.Becomes.refl p
  script _ _ := Process.Becomes.refl _
  runText _ _ := Process.Becomes.refl _
  runLines _ _ := Process.Becomes.refl _
  builtin _ _ _ := Process.Becomes.refl _
  source _ _ := Process.Becomes.refl _
  replace _ _ := Process.Becomes.refl _
  start _ _ _ := Process.Becomes.refl _
  plainly _ _ := Process.Becomes.refl _
  call _ _ _ _ := Process.Becomes.refl _
  invoke _ _ _ _ _ := Process.Becomes.refl _
  chooseArm _ _ _ _ := Process.Becomes.refl _
  anyMatches _ _ _ := Process.Becomes.refl _
  forEach _ _ _ _ _ := Process.Becomes.refl _
  repeatWhile _ _ _ _ _ _ := Process.Becomes.refl _
  eval _ _ _ := Process.Becomes.refl _

section

variable {fuel : Nat} (ih : OrderlyWith fuel)
include ih

theorem expandPart_step (divided loosely : Bool) (st : State) (part : Part) :
    st.toProcess.Becomes (expandPart (fuel + 1) divided loosely st part).1.toProcess := by
  have hst := Process.Becomes.refl st.toProcess
  cases part with
  | text quoted s =>
    unfold expandPart
    exact hst
  | malformed =>
    unfold expandPart
    exact hst.fail _
  | arithmetic quoted e =>
    have hword := ih.expandWord false false st e
    unfold expandPart
    dsimp only
    split
    · exact hword
    · exact hword.evaluate _
  | output quoted script =>
    unfold expandPart
    exact ih.outputOf script st
  | parameter quoted name use operand =>
    have hword := fun divided loosely => ih.expandWord divided loosely st operand
    unfold expandPart
    dsimp only
    cases use with
    | plain =>
      dsimp only
      split
      · exact hst.fail _
      · exact hst
    | length =>
      dsimp only
      split
      · exact hst.fail _
      · exact hst
    | orElse colon =>
      dsimp only
      split
      · exact hst
      · exact hword _ _
    | ifSet colon =>
      dsimp only
      split
      · exact hword _ _
      · exact hst
    | orAssign colon =>
      dsimp only
      split
      · exact hst
      · split
        · exact hword _ _
        · split
          · exact (hword _ _).assign _ _
          · exact (hword _ _).fail _
    | orFail colon =>
      dsimp only
      split
      · exact hst
      · exact (hword _ _).fail _
    | cut atEnd longest =>
      dsimp only
      split
      · exact hst.fail _
      · exact hword _ _

theorem expandWord_step (divided loosely : Bool) (st : State) (w : Word) :
    st.toProcess.Becomes (expandWord (fuel + 1) divided loosely st w).1.toProcess := by
  cases w with
  | nil =>
    unfold expandWord
    exact Process.Becomes.refl _
  | cons part rest =>
    have hpart := ih.expandPart divided loosely st part
    unfold expandWord
    dsimp only
    split
    · exact hpart
    · exact hpart.trans (ih.expandWord _ _ _ _)

theorem expandText_step (st : State) (w : Word) :
    st.toProcess.Becomes (expandText (fuel + 1) st w).1.toProcess := by
  unfold expandText
  exact ih.expandWord false false st w

theorem expandWords_step (declared : Bool) (st : State) (ws : List Word) :
    st.toProcess.Becomes (expandWords (fuel + 1) declared st ws).1.toProcess := by
  cases ws with
  | nil =>
    unfold expandWords
    exact Process.Becomes.refl _
  | cons w rest =>
    unfold expandWords
    dsimp only
    split
    · have hw := ih.expandText st w
      split
      · exact hw
      · exact hw.trans (ih.expandWords _ _ _)
    · have hw := ih.expandWord true false st w
      split
      · exact hw
      · exact hw.trans (ih.expandWords _ _ _)

theorem expandAssignments_step (visible : Bool) (st : State)
    (assignments : List (List Char × Word)) :
    st.toProcess.Becomes (expandAssignments (fuel + 1) visible st assignments).1.toProcess := by
  rcases assignments with _ | ⟨⟨name, w⟩, rest⟩
  · unfold expandAssignments
    exact Process.Becomes.refl _
  · have hw := ih.expandText st w
    unfold expandAssignments
    dsimp only
    split
    · split
      · exact hw.assign _ _
      · exact (hw.assign _ _).trans (ih.expandAssignments _ _ _)
    · split
      · exact hw
      · exact hw.trans (ih.expandAssignments _ _ _)

theorem outputOf_step (script : Command) (st : State) :
    st.toProcess.Becomes (outputOf (fuel + 1) script st).2.toProcess := by
  have hinner := ih.subshell false script ((st.addText []).2.setChannel 1 (st.addText []).1)
  unfold outputOf
  exact ⟨hinner.input, hinner.printed, id⟩

theorem subshell_step (tested : Bool) (c : Command) (st : State) :
    st.toProcess.Becomes (subshell (fuel + 1) tested c st).toProcess := by
  have heval := ih.eval tested c { st with traps := [] }
  unfold subshell
  exact (heval.trans (ih.conclude _)).after st

theorem conclude_step (st : State) :
    st.toProcess.Becomes (conclude (fuel + 1) st).toProcess := by
  unfold conclude
  split
  · exact Process.Becomes.refl _
  next action _ =>
    have hlast := ih.runText action { st with traps := [], flow := .onward, command := [] }
    dsimp only
    split
    · exact hlast
    · exact ⟨hlast.input, hlast.printed, id⟩

theorem redirect_step (rs : List Redirection) (st : State) :
    st.toProcess.Becomes (redirect (fuel + 1) rs st).1.toProcess := by
  cases rs with
  | nil =>
    unfold redirect
    exact Process.Becomes.refl _
  | cons r rest =>
    unfold redirect
    split
    next st' opened hopen =>
      have hopened : st.toProcess.Becomes st'.toProcess ∧
          ∀ st'', opened = .ok st'' → st.toProcess.Becomes st''.toProcess := by
        cases r with
        | read fd w =>
          cases hopen
          exact ⟨ih.expandText st w, fun _ h => (ih.expandText st w).openForReading h⟩
        | write fd how w =>
          cases hopen
          exact ⟨ih.expandText st w, fun _ h => (ih.expandText st w).openForWriting h⟩
        | copy fd w =>
          cases hopen
          exact ⟨ih.expandText st w, fun _ h => (ih.expandText st w).copyChannel h⟩
        | here fd number =>
          have hw := ih.expandText st ((st.documents.lookup number).getD [])
          cases hopen
          refine ⟨hw, fun _ h => ?_⟩
          cases h
          exact hw
      split
      · dsimp only
        split
        · exact hopened.1
        · exact hopened.1
      · split
        · exact (hopened.2 _ rfl).trans (ih.redirect _ _)
        · split
          · exact hopened.1.fail _
          · apply Process.Becomes.finish
            split
            · exact hopened.1
            · exact hopened.1.complain _

theorem program_step (e : Environment) (name : List Char) (args : Args)
    {run : Process → Process} (h : program (fuel + 1) e name args = some run) : Orderly run := by
  unfold program at h
  split at h
  · cases h
    exact ih.shell e name args
  · cases h
    exact ih.shell e name args
  · cases h
    exact ih.withSettings e name args
  · obtain ⟨tool, htool, rfl⟩ := Option.map_eq_some_iff.1 h
    exact orderly_of_tool? htool name args

theorem withSettings_step (e : Environment) (name : List Char) (args : Args) :
    Orderly (withSettings (fuel + 1) e name args) := by
  intro p
  have hp := Process.Becomes.refl p
  unfold withSettings
  dsimp only
  split
  · exact hp.misuse name _ 125
  · split
    · exact hp.print _
    · split
      · exact ih.program _ _ _ ‹_› p
      · exact (hp.report name _).withStatus 127

theorem shell_step (e : Environment) (name : List Char) (args : Args) :
    Orderly (shell (fuel + 1) e name args) := by
  intro p
  have hp := Process.Becomes.refl p
  have hrefuse (why : List Char) : p.Becomes ((p.complain why).withStatus 2) :=
    (hp.complainLine why).withStatus 2
  unfold shell
  dsimp only
  split
  · exact hrefuse _
  next letters st operands hoptions =>
    have hst : p.Becomes st.toProcess := by
      rw [toProcess_shellOptions hoptions]
      exact hp
    have hscript (text : List Char) (st' : State) (hst' : p.Becomes st'.toProcess) :
        p.Becomes (script fuel text st') := hst'.trans (ih.script text st')
    split
    · split
      · exact hrefuse _
      · exact hscript _ _ hst
      · exact hscript _ _ hst
    · split
      · exact hscript _ _ (hst.withInput (List.drop_suffix _ _))
      · split
        · split
          · exact hscript _ _ hst
          · exact hrefuse _
        · exact hp

theorem script_step (text : List Char) (st : State) :
    st.toProcess.Becomes (script (fuel + 1) text st) := by
  unfold script
  exact (ih.runText text st).trans (ih.conclude _)

theorem runText_step (text : List Char) (st : State) :
    st.toProcess.Becomes (runText (fuel + 1) text st).toProcess := by
  unfold runText
  exact ((Process.Becomes.refl _).finish 0).trans (ih.runLines _ _)

theorem runLines_step (source : Source) (st : State) :
    st.toProcess.Becomes (runLines (fuel + 1) source st).toProcess := by
  have hst := Process.Becomes.refl st.toProcess
  unfold runLines
  split
  · apply Process.Becomes.fail
    exact hst
  · exact hst
  next c rest _ =>
    dsimp only
    have heval := ih.eval false c { st with
      documents := rest.documents
        ++ st.documents.filter fun d => (rest.documents.lookup d.1).isNone }
    split
    · exact heval.trans (ih.runLines _ _)
    · exact heval

theorem builtin_step (name : List Char) (args : Args) (st : State) :
    st.toProcess.Becomes (builtin (fuel + 1) name args st).toProcess := by
  have hst := Process.Becomes.refl st.toProcess
  unfold builtin
  dsimp only
  split
  · have hnamed : st.toProcess.Becomes ({ st with command := name }.finish 0).toProcess :=
      hst.finish 0
    exact hnamed.trans (ih.runText _ _)
  · exact ih.source args { st with command := name }
  · exact ih.replace args { st with command := name }
  · split
    · exact (Builtin.becomes_of_named? ‹_› args { st with command := name }).settled
    · exact hst

theorem source_step (args : Args) (st : State) :
    st.toProcess.Becomes (source (fuel + 1) args st).toProcess := by
  have hst := Process.Becomes.refl st.toProcess
  unfold source
  split
  · exact hst.finish 0
  · split
    · exact hst.fail _
    · split
      · exact hst.fail _
      next text _ =>
        have htext := ih.runText text st
        dsimp only
        split
        · exact htext
        · exact htext

theorem replace_step (args : Args) (st : State) :
    st.toProcess.Becomes (replace (fuel + 1) args st).toProcess := by
  have hst := Process.Becomes.refl st.toProcess
  cases args with
  | nil =>
    unfold replace
    exact hst.finish 0
  | cons name args =>
    unfold replace
    dsimp only
    split
    · exact hst.runProcess name (ih.program _ _ _ ‹_›)
    · exact (hst.complain _).finish 127

theorem start_step (name : List Char) (args : Args) (st : State) :
    st.toProcess.Becomes (start (fuel + 1) name args st).toProcess := by
  have hst := Process.Becomes.refl st.toProcess
  unfold start
  split
  · exact hst.runProcess name (ih.program _ _ _ ‹_›)
  · dsimp only
    split
    · exact (hst.complain _).finish 127
    · exact (hst.complain _).finish 126

theorem plainly_step (args : Args) (st : State) :
    st.toProcess.Becomes (plainly (fuel + 1) args st).toProcess := by
  have hst := Process.Becomes.refl st.toProcess
  unfold plainly
  split
  · exact hst
  · exact hst.finish 0
  · exact Builtin.becomes_locate _ _
  · exact Builtin.becomes_describe _ _
  next hfuel =>
    cases hfuel
    exact ih.plainly _ _
  next hfuel =>
    cases hfuel
    exact ih.plainly _ _
  next hfuel =>
    cases hfuel
    split
    · exact ih.plainly _ _
    · split
      · exact ih.builtin _ _ _
      · exact ih.start _ _ _

theorem call_step (tested : Bool) (body : Command) (args : Args) (st : State) :
    st.toProcess.Becomes (call (fuel + 1) tested body args st).toProcess := by
  unfold call
  extract_lets inner after
  have hinner : st.toProcess.Becomes inner.toProcess :=
    ih.eval tested body { st with arguments := args, loops := 0 }
  have hafter : st.toProcess.Becomes after.toProcess := by
    apply Process.Becomes.restoreAside
    exact hinner
  split
  · exact hafter
  · exact hafter

theorem invoke_step (tested : Bool) (assigned : List (List Char × List Char)) (name : List Char)
    (args : Args) (st : State) :
    st.toProcess.Becomes (invoke (fuel + 1) tested assigned name args st).toProcess := by
  unfold invoke
  split
  next body _ =>
    extract_lets saved shaded ready
    have hready : st.toProcess.Becomes ready.toProcess := by
      refine Process.Becomes.foldl State.toProcess ?_ assigned shaded
      rintro st' ⟨name, value⟩
      exact (Process.Becomes.refl _).assign name value
    split
    · exact hready
    · exact hready.trans (ih.call _ _ _ _)
  · extract_lets set restored isSpecial ready
    have hready : st.toProcess.Becomes ready.toProcess := by
      refine Process.Becomes.foldl State.toProcess ?_ assigned st
      rintro st' ⟨name, value⟩
      have hassigned := (Process.Becomes.refl st'.toProcess).assign name value
      dsimp only
      split
      · exact hassigned
      · exact hassigned
    have hrestored (after : State) (h : st.toProcess.Becomes after.toProcess) :
        st.toProcess.Becomes (restored after).toProcess := by
      refine h.trans (Process.Becomes.foldl State.toProcess ?_ assigned after)
      rintro st' ⟨name, value⟩
      dsimp only
      split
      · exact Process.Becomes.refl _
      · exact Process.Becomes.refl _
    clear_value ready
    clear_value restored
    split
    · exact hready
    · split
      · exact hrestored _ (hready.trans (ih.plainly _ _))
      · split
        · have hbuiltin := hready.trans (ih.builtin name args ready)
          split
          · exact hbuiltin
          · exact hrestored _ hbuiltin
        · exact hrestored _ (hready.trans (ih.start _ _ _))

theorem chooseArm_step (tested : Bool) (subject : List Char)
    (arms : List (List Word × Command)) (st : State) :
    st.toProcess.Becomes (chooseArm (fuel + 1) tested subject arms st).toProcess := by
  rcases arms with _ | ⟨⟨patterns, body⟩, rest⟩
  · unfold chooseArm
    exact (Process.Becomes.refl _).finish 0
  · have hmatches := ih.anyMatches subject patterns st
    unfold chooseArm
    dsimp only
    split
    · exact hmatches
    · split
      · exact hmatches.trans (ih.chooseArm _ _ _ _)
      · split
        · exact hmatches.finish 0
        · exact hmatches.trans (ih.eval _ _ _)

theorem anyMatches_step (subject : List Char) (patterns : List Word) (st : State) :
    st.toProcess.Becomes (anyMatches (fuel + 1) subject patterns st).1.toProcess := by
  cases patterns with
  | nil =>
    unfold anyMatches
    exact Process.Becomes.refl _
  | cons w rest =>
    have hw := ih.expandWord false false st w
    unfold anyMatches
    dsimp only
    split
    · exact hw
    · split
      · exact hw
      · exact hw.trans (ih.anyMatches _ _ _)

theorem forEach_step (tested : Bool) (name : List Char) (body : Command) (values : Args)
    (st : State) :
    st.toProcess.Becomes (forEach (fuel + 1) tested name body values st).toProcess := by
  cases values with
  | nil =>
    unfold forEach
    exact Process.Becomes.refl _
  | cons v rest =>
    have hassigned := (Process.Becomes.refl st.toProcess).assign name v
    have hbody := (hassigned.trans (ih.eval tested body _)).afterBody
    unfold forEach
    dsimp only
    split
    · exact hassigned
    · split
      · exact hbody.trans (ih.forEach _ _ _ _ _)
      · exact hbody

theorem repeatWhile_step (tested untilTrue : Bool) (condition body : Command) (status : Nat)
    (st : State) :
    st.toProcess.Becomes
      (repeatWhile (fuel + 1) tested untilTrue condition body status st).toProcess := by
  have hcondition := (ih.eval true condition st).afterBody
  have hbody := (hcondition.trans (ih.eval tested body _)).afterBody
  unfold repeatWhile
  dsimp only
  split
  · split
    · exact hcondition.finish _
    · exact hcondition
  · split
    · exact hcondition.finish _
    · split
      · exact hbody.trans (ih.repeatWhile _ _ _ _ _ _)
      · exact hbody

/-- A simple command: its words are expanded, its redirections made, its assignments
expanded, and if there is a name it is invoked under it. -/
theorem eval_simple_step (tested : Bool) (line : Nat) (assignments : List (List Char × Word))
    (words : List Word) (redirections : List Redirection) (st : State) :
    st.toProcess.Becomes
      (eval (fuel + 1) tested (.simple line assignments words redirections) st).toProcess := by
  unfold eval
  extract_lets started declared
  split
  next ready fields hwords =>
    have hready : st.toProcess.Becomes ready.toProcess := by
      have hexpanded := ih.expandWords declared started words
      rwa [hwords] at hexpanded
    split
    · exact hready
    · split
      next led whole hredirect =>
        have hled : st.toProcess.Becomes led.toProcess := by
          have hredirected := ih.redirect redirections ready
          rw [hredirect] at hredirected
          exact hready.trans hredirected
        extract_lets restored
        have hrestored (after : State) (h : st.toProcess.Becomes after.toProcess) :
            st.toProcess.Becomes (restored after).toProcess :=
          h.restore ready redirections
        have hassigned (visible : Bool) {st' : State} {assigned : List (List Char × List Char)}
            (h : expandAssignments fuel visible led assignments = (st', assigned)) :
            st.toProcess.Becomes st'.toProcess := by
          have hexpanded := ih.expandAssignments visible led assignments
          rw [h] at hexpanded
          exact hled.trans hexpanded
        clear_value restored
        split
        · split
          · exact hrestored _ hled
          · split
            · exact (hrestored _ hled).checked tested
            · split
              next st' assigned hexpanded =>
                have hback := hrestored _ (hassigned true hexpanded)
                extract_lets back shown
                have hshown : st.toProcess.Becomes shown.toProcess := by
                  simp only [shown]
                  split
                  · exact hback
                  · exact hback.trace _
                split
                · exact hshown
                · exact (hshown.finish _).checked tested
        · extract_lets isSpecial
          split
          · exact hrestored _ hled
          · split
            · split
              · exact hrestored _ hled
              · exact (hrestored _ hled).checked tested
            · split
              next st' assigned hexpanded =>
                have hst' := hassigned false hexpanded
                split
                · exact hrestored _ hst'
                · extract_lets shown ready' after
                  have hafter : st.toProcess.Becomes after.toProcess :=
                    ((hst'.restore ready redirections).trace _).trans (ih.invoke _ _ _ _ ready')
                  apply Process.Becomes.checked
                  split
                  · exact hafter
                  · exact hrestored _ hafter

theorem eval_step (tested : Bool) (c : Command) (st : State) :
    st.toProcess.Becomes (eval (fuel + 1) tested c st).toProcess := by
  have hst := Process.Becomes.refl st.toProcess
  cases c with
  | nothing =>
    unfold eval
    exact hst
  | simple line assignments words redirections =>
    exact eval_simple_step ih tested line assignments words redirections st
  | redirected line c redirections =>
    have hled := ih.redirect redirections { st with line }
    unfold eval
    dsimp only
    apply Process.Becomes.restore
    split
    · exact hled.trans (ih.eval _ _ _)
    · exact hled
  | pipe a b =>
    unfold eval
    split
    next c st' htext =>
      have hst' : st.toProcess.Becomes st'.toProcess := by
        cases htext
        exact hst
      extract_lets first second
      have hfirst : st.toProcess.Becomes first.toProcess :=
        (hst'.trans (ih.subshell tested a (st'.setChannel 1 c))).after st'
      have hsecond := hfirst.trans (ih.subshell tested b (first.setChannel 0 c))
      exact (hsecond.after st).checked tested
  | background c =>
    have hinner := ih.subshell false c (st.setChannel 0 .nowhere)
    unfold eval
    exact (hinner.after st).finish 0
  | negated c =>
    have hc := ih.eval true c st
    unfold eval
    dsimp only
    split
    · exact hc
    · exact hc.finish _
  | both a b =>
    have ha := ih.eval true a st
    unfold eval
    dsimp only
    split
    · exact ha
    · exact ha.trans (ih.eval _ _ _)
  | either a b =>
    have ha := ih.eval true a st
    unfold eval
    dsimp only
    split
    · exact ha
    · exact ha.trans (ih.eval _ _ _)
  | sequence a b =>
    have ha := ih.eval tested a st
    unfold eval
    dsimp only
    split
    · exact ha.trans (ih.eval _ _ _)
    · exact ha
  | subshell c =>
    unfold eval
    exact ((ih.subshell tested c st).after st).checked tested
  | branch condition yes no =>
    have hcondition := ih.eval true condition st
    unfold eval
    dsimp only
    split
    · exact hcondition
    · split
      · exact hcondition.trans (ih.eval _ _ _)
      · split
        · exact hcondition.finish 0
        · exact hcondition.trans (ih.eval _ _ _)
  | loop untilTrue condition body =>
    unfold eval
    exact ih.repeatWhile tested untilTrue condition body 0 { st with loops := st.loops + 1 }
  | each line name words body =>
    unfold eval
    split
    next st' values hwords =>
      have hst' : st.toProcess.Becomes st'.toProcess := by
        have hexpanded := ih.expandWords false { st with line } words
        rwa [hwords] at hexpanded
      split
      · exact hst'
      · extract_lets started after
        have hstarted : st.toProcess.Becomes started.toProcess := by
          simp only [started]
          split
          · exact hst'.finish 0
          · exact hst'
        exact hstarted.trans
          (ih.forEach tested name body values { started with loops := started.loops + 1 })
  | choose line subject arms =>
    have hsubject := ih.expandText { st with line } subject
    unfold eval
    dsimp only
    split
    · exact hsubject
    · exact hsubject.trans (ih.chooseArm _ _ _ _)
  | define name body =>
    unfold eval
    exact hst.finish 0

theorem orderlyWith_succ : OrderlyWith (fuel + 1) where
  expandPart := expandPart_step ih
  expandWord := expandWord_step ih
  expandText := expandText_step ih
  expandWords := expandWords_step ih
  expandAssignments := expandAssignments_step ih
  outputOf := outputOf_step ih
  subshell := subshell_step ih
  conclude := conclude_step ih
  redirect := redirect_step ih
  program := program_step ih
  withSettings := withSettings_step ih
  shell := shell_step ih
  script := script_step ih
  runText := runText_step ih
  runLines := runLines_step ih
  builtin := builtin_step ih
  source := source_step ih
  replace := replace_step ih
  start := start_step ih
  plainly := plainly_step ih
  call := call_step ih
  invoke := invoke_step ih
  chooseArm := chooseArm_step ih
  anyMatches := anyMatches_step ih
  forEach := forEach_step ih
  repeatWhile := repeatWhile_step ih
  eval := eval_step ih

end

/-- Whatever fuel there is, running scripts is orderly. -/
theorem orderlyWith (fuel : Nat) : OrderlyWith fuel := by
  induction fuel with
  | zero => exact orderlyWith_zero
  | succ fuel ih => exact orderlyWith_succ ih

/-- A script takes the beginning of the input, and it prints behind what has been printed. -/
theorem runText_outcome (fuel : Nat) (text : List Char) (st : State) :
    (∃ taken, st.input = taken ++ (runText fuel text st).input) ∧
      ∀ stream, st.on stream <+: (runText fuel text st).on stream := by
  have hbecomes := (orderlyWith fuel).runText text st
  obtain ⟨taken, htaken⟩ := hbecomes.input
  exact ⟨⟨taken, htaken.symm⟩, hbecomes.on⟩

end Shell
end ClusterRig
