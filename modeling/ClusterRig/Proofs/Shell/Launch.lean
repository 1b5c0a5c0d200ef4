import ClusterRig.Proofs.Session.Script
import ClusterRig.Proofs.Shell.Run

/-!
# Programs that stand in for others

The programs that can be launched stand in for those on the hosts of a cluster. Whatever
they are asked to do, they end with a status of eight bits and leave an end of their
input; `cat` gives a script back as it was sent.
-/

namespace ClusterRig

namespace Text

theorem toOctets_ofOctets (bytes : List UInt8) : toOctets (ofOctets bytes) = bytes := by
  have hbyte (b : UInt8) : UInt8.ofNat (Char.ofNat b.toNat).toNat = b := by
    have hb : b.toNat.isValidChar := Or.inl (b.toNat_lt.trans (by decide))
    have hchar : (Char.ofNat b.toNat).toNat = b.toNat := by
      rw [Char.ofNat, dif_pos hb]
      rfl
    rw [hchar, UInt8.ofNat_toNat]
  rw [toOctets, ofOctets, List.map_map]
  exact (List.map_congr_left fun b _ => hbyte b).trans (List.map_id _)

theorem length_ofOctets (bytes : List UInt8) : (ofOctets bytes).length = bytes.length :=
  List.length_map _

end Text

namespace Shell

variable {fs : FileSystem} {name : String} {args : List String} {input : List UInt8}
  {ended : Ended}

/-- What is left of a program when it has ended is what may become of it. -/
theorem exists_becomes_of_launch (h : launch fs name args input = some ended) :
    ∃ q, (Process.start ⟨fs, [], []⟩ (Text.ofOctets input)).Becomes q ∧
      ended = ⟨q.status, Text.toOctets (q.on .output), Text.toOctets (q.on .errors),
        q.input.length⟩ := by
  unfold launch at h
  dsimp only at h
  split at h
  · cases h
  · obtain ⟨run, hrun, rfl⟩ := Option.map_eq_some_iff.1 h
    exact ⟨_, (orderlyWith steps).program _ _ _ hrun _, rfl⟩

theorem status_lt_of_launch (h : launch fs name args input = some ended) : ended.status < 256 := by
  obtain ⟨q, hq, rfl⟩ := exists_becomes_of_launch h
  exact hq.status (by decide : (0 : Nat) < 256)

theorem unread_le_of_launch (h : launch fs name args input = some ended) :
    ended.unread ≤ input.length := by
  obtain ⟨q, hq, rfl⟩ := exists_becomes_of_launch h
  exact hq.input.length_le.trans_eq (Text.length_ofOctets input)

theorem program_of_tool? {e : Environment} {name : List Char} {args : Builtin.Args}
    {tool : Tool.Program} (h : tool? (baseName name) = some tool) (fuel : Nat) :
    program (fuel + 1) e name args = some (tool name args) := by
  unfold program
  split
  next hname => simp [tool?, hname] at h
  next hname => simp [tool?, hname] at h
  next hname => simp [tool?, hname] at h
  next => rw [h, Option.map_some]

/-- A tool that is launched without arguments. -/
theorem launch_of_tool? {tool : Tool.Program} {called : List Char}
    (hname : Text.octets name = called) (htool : tool? (baseName called) = some tool)
    (hzero : '\x00' ∉ called) (fs : FileSystem) (input : List UInt8) :
    let q := tool called [] (Process.start ⟨fs, [], []⟩ (Text.ofOctets input))
    launch fs name [] input = some ⟨q.status, Text.toOctets (q.on .output),
      Text.toOctets (q.on .errors), q.input.length⟩ := by
  have hprogram : program steps environment called [] = some (tool called []) :=
    program_of_tool? htool 19999
  have hargv : ¬ ([called].any (·.contains '\x00') = true) := by
    simpa using hzero
  unfold launch
  simp only [List.map_cons, List.map_nil, hname, hprogram, if_neg hargv, Option.map_some]

/-- Without arguments `cat` prints its input. -/
theorem Tool.Cat.program_nil (name : Name) {p : Process} (hmuted : p.muted = false)
    (hblocked : p.blocked = none) : program name [] p = p.taken.print p.input := by
  have hhyphen : String.ofList ['-'] = "-" := by decide
  have hopen : p.open_ ['-'] = (.ok p.input, p.taken) := by
    simp only [Process.open_, hhyphen, hblocked]
  have hplain : plain (style ⟨[], []⟩) = true := by decide
  have hrender (place : Place) : render (style ⟨[], []⟩) place p.input = (place, p.input) := by
    rw [render, if_pos hplain]
  have hprinted : (p.taken.print p.input).blocked = none :=
    (Process.blocked_put _ _ _).trans hblocked
  have husage : usage flags true [] = .ok ⟨[], []⟩ := rfl
  simp [program, Tool.program, husage, run, hmuted, hopen, hrender, reportClosed, hprinted]

/-- Without arguments `cat` gives its input back. -/
theorem launch_cat (fs : FileSystem) (input : List UInt8) :
    launch fs "cat" [] input = some ⟨0, input, [], 0⟩ := by
  have hname : Text.octets "cat" = ['c', 'a', 't'] := by decide +kernel
  have hbase : baseName ['c', 'a', 't'] = ['c', 'a', 't'] := by decide +kernel
  have htool : tool? (baseName ['c', 'a', 't']) = some Tool.Cat.program := by
    rw [hbase]
    rfl
  rw [launch_of_tool? hname htool (by decide), Tool.Cat.program_nil _ rfl rfl]
  have hnothing (stream : Stream) :
      (Process.start ⟨fs, [], []⟩ (Text.ofOctets input)).taken.on stream = [] := rfl
  simp only [Process.print, Process.on_put, Process.input_put, Process.status_put, hnothing]
  simp [Process.taken, Process.start, Text.toOctets_ofOctets]
  rfl

/-- Without arguments `false` fails and leaves its input. -/
theorem launch_false (fs : FileSystem) (input : List UInt8) :
    launch fs "false" [] input = some ⟨1, [], [], input.length⟩ := by
  have hname : Text.octets "false" = ['f', 'a', 'l', 's', 'e'] := by decide +kernel
  have hbase : baseName ['f', 'a', 'l', 's', 'e'] = ['f', 'a', 'l', 's', 'e'] := by decide +kernel
  have htool : tool? (baseName ['f', 'a', 'l', 's', 'e']) =
      some fun _ _ p => p.withStatus 1 := by
    rw [hbase]
    rfl
  rw [launch_of_tool? hname htool (by decide)]
  simp [Process.withStatus, Process.start, Process.on, Text.toOctets, Text.ofOctets]

end Shell

namespace Session

variable {fs : FileSystem} {s : SessionSettings} {n : Node} {r : Request}

/-- A session fails if there is no command or no program for it, if the program leaves more
than is kept of a script that is longer than that, or if it ends with one of the statuses that
tell of a failure. -/
theorem answer_launch_eq_error {e : Failure} (h : answer (Shell.launch fs) s n r = .error e) :
    commandLine s n = [] ∧ e = .commandEmpty ∨
      ∃ program arguments, commandLine s n = program :: arguments ∧
        (e = .programMissing program ∨
          kept < (Text.Utf8.encode (script n r)).length ∧ e = .scriptUnread ∨
          ∃ status complaint, 0 < status ∧ status < 256 ∧
            e = .sessionFailed n.name status complaint) := by
  unfold answer at h
  cases hc : commandLine s n with
  | nil =>
    rw [hc] at h
    cases h
    exact .inl ⟨rfl, rfl⟩
  | cons program arguments =>
    refine .inr ⟨program, arguments, rfl, ?_⟩
    simp only [hc] at h
    split at h
    · cases h
      exact .inl rfl
    next ended hended =>
      have hunread := Shell.unread_le_of_launch hended
      have hstatus := Shell.status_lt_of_launch hended
      split_ifs at h with hkept hzero
      · cases h
        exact .inr (.inl ⟨by omega, rfl⟩)
      · cases h
        exact .inr (.inr ⟨ended.status, _, by omega, hstatus, rfl⟩)

example : answer (Shell.launch (.ofList []))
    ⟨["cat"], ["sh", "-c", "echo $0: no route >&2; exit 7"]⟩
    ⟨"server-1", "ducker01", "localhost:1098"⟩ (.beans "java.lang") =
      .error (.sessionFailed "server-1" 7 "ducker01: no route") := by
  decide +kernel

/-- Where `cat` stands in for the program that asks a node, the answer to each request is the
script itself. -/
theorem answer_cat (hcommand : commandLine s n = ["cat"])
    (htarget : Text.IsLine ("open " ++ n.target).toList)
    (hrequest : Text.IsLine (requestLine r).toList) :
    answer (Shell.launch fs) s n r = .ok ["open " ++ n.target, requestLine r, "close"] := by
  unfold answer
  simp only [hcommand, Shell.launch_cat, printed, Text.Utf8.decodeLossy_encode]
  rw [lines_script htarget hrequest]
  rfl

example : answer (Shell.launch (.ofList [])) ⟨["cat"], []⟩ ⟨"server-1", "", "localhost:1098"⟩
    (.beans "java.lang") = .ok ["open localhost:1098", "beans -d java.lang", "close"] := by
  decide +kernel

/-- Where `false` does, every request fails. -/
theorem answer_false (hcommand : commandLine s n = ["false"])
    (hkept : (Text.Utf8.encode (script n r)).length ≤ kept) :
    answer (Shell.launch fs) s n r = .error (.sessionFailed n.name 1 "") := by
  unfold answer
  simp only [hcommand, Shell.launch_false]
  rw [if_neg (by omega), if_pos (by decide)]
  rfl

end Session
end ClusterRig
