import ClusterRig.Proofs.Endpoint.Resolution
import ClusterRig.Proofs.Text.Line
import ClusterRig.Proofs.Text.Utf8
import ClusterRig.Session.Basic

/-!
# Scripts of sessions

A script has three lines, whatever a session has printed before. Main statement: the name
of a bean that was found in the output of a session has no line feed, so that the script
that reads an attribute of it opens the target, makes this one request and closes.
-/

namespace ClusterRig
namespace Session

variable {launch : Launcher} {programs : Programs} {s : SessionSettings} {n : Node} {r : Request}

theorem lineFeed_not_mem_printed {output : List UInt8} {line : String}
    (h : line ∈ printed output) : '\n' ∉ line.toList := by
  obtain ⟨l, hl, rfl⟩ := List.mem_map.mp h
  rw [String.toList_ofList]
  exact Text.lineFeed_not_mem_lines hl

/-- Lines are only given by a program that has ended well and has taken its script, and they
are what it has printed. -/
theorem answer_eq_ok_iff {lines : List String} :
    answer programs s n r = .ok lines ↔ ∃ program arguments ended,
      commandLine s n = program :: arguments ∧
      programs program arguments (Text.Utf8.encode (script n r)) = some ended ∧
      ended.status = 0 ∧ ended.unread ≤ kept ∧ lines = printed ended.output := by
  unfold answer
  cases hc : commandLine s n with
  | nil => simp
  | cons program arguments =>
    cases hl : programs program arguments (Text.Utf8.encode (script n r)) with
    | none => simp [hl]
    | some ended =>
      by_cases hu : kept < ended.unread
      · simp [hl, hu, Nat.not_le.mpr hu]
      · by_cases hs : ended.status = 0
        · simp [hl, hu, hs, Nat.not_lt.mp hu, eq_comm]
        · simp [hl, hu, hs]

theorem lineFeed_not_mem_of_findBean {pattern domain name : String} {without : Option String}
    (h : ((endpoint launch s n).findBean pattern without domain).outcome = .ok name) :
    '\n' ∉ name.toList := by
  obtain ⟨_, _, lines, line, ha, hl, hc⟩ := Endpoint.exists_candidate?_of_findBean h
  obtain ⟨_, _, ended, -, -, -, -, rfl⟩ := answer_eq_ok_iff.mp ha
  exact fun hn => lineFeed_not_mem_printed hl ((Endpoint.candidate?_infix hc).mem hn)

theorem script_apply (n : Node) (r : Request) :
    script n r = "open " ++ n.target ++ "\n" ++ requestLine r ++ "\n" ++ "close" ++ "\n" := by
  have hclose : "\nclose\n" = "\n" ++ "close" ++ "\n" := by decide
  change "open " ++ n.target ++ "\n" ++ requestLine r ++ "\nclose\n" = _
  rw [hclose]
  simp only [String.append_assoc]

theorem toList_script (n : Node) (r : Request) :
    (script n r).toList = ("open " ++ n.target).toList ++ ['\n'] ++ (requestLine r).toList ++
      ['\n'] ++ "close".toList ++ ['\n'] := by
  have hn : "\n".toList = ['\n'] := rfl
  simp only [script_apply, String.toList_append, hn]

theorem encode_script (n : Node) (r : Request) :
    Text.Utf8.encode (script n r) = Text.Utf8.encode ("open " ++ n.target) ++ [10] ++
      Text.Utf8.encode (requestLine r) ++ [10] ++ Text.Utf8.encode "close" ++ [10] := by
  simp only [script_apply, Text.Utf8.encode_append, Text.Utf8.encode_lineFeed]

/-- Three texts that are each ended by `x` are what stands between the ends. -/
theorem splitOn_ended {α : Type} [BEq α] [LawfulBEq α] {x : α} {a b c : List α} (ha : x ∉ a)
    (hb : x ∉ b) (hc : x ∉ c) :
    (a ++ [x] ++ b ++ [x] ++ c ++ [x]).splitOn x = [a, b, c, []] := by
  have hl : ∀ l ∈ [a, b, c, []], x ∉ l := by simp [ha, hb, hc]
  have h := List.splitOn_intercalate x hl (by simp)
  simpa [List.intercalate] using h

/-- The lines of a script, where what it opens and asks for are lines. -/
theorem lines_script (htarget : Text.IsLine ("open " ++ n.target).toList)
    (hrequest : Text.IsLine (requestLine r).toList) :
    (Text.lines (script n r).toList).map String.ofList =
      ["open " ++ n.target, requestLine r, "close"] := by
  have hscript : (script n r).toList = ("open " ++ n.target).toList ++ '\n' ::
      ((requestLine r).toList ++ '\n' :: ("close".toList ++ '\n' :: [])) := by
    simp only [toList_script, List.append_assoc, List.cons_append, List.nil_append]
  rw [hscript, Text.lines_cons htarget, Text.lines_cons hrequest, Text.lines_cons (by decide)]
  simp only [List.map_cons, String.ofList_toList]
  rfl

/-- What a session has printed adds no line to a later script: the name of a bean that was found
in it has no line feed, and reading an attribute of this bean takes a script of three lines, as
characters and as the bytes that are sent. -/
theorem script_findBean {pattern domain name : String} {without : Option String}
    (h : ((endpoint launch s n).findBean pattern without domain).outcome = .ok name) :
    '\n' ∉ name.toList ∧ ∀ attr : String, '\n' ∉ n.target.toList → '\n' ∉ attr.toList →
      (script n (.get name attr)).toList.splitOn '\n' =
        [("open " ++ n.target).toList, ("get -b " ++ name ++ " " ++ attr).toList,
          "close".toList, []] ∧
      (Text.Utf8.encode (script n (.get name attr))).splitOn 10 =
        [Text.Utf8.encode ("open " ++ n.target),
          Text.Utf8.encode ("get -b " ++ name ++ " " ++ attr), Text.Utf8.encode "close", []] := by
  have hname : '\n' ∉ name.toList := lineFeed_not_mem_of_findBean h
  refine ⟨hname, fun attr ht ha => ?_⟩
  have hopen : '\n' ∉ ("open " ++ n.target).toList := by simp [ht]
  have hget : '\n' ∉ ("get -b " ++ name ++ " " ++ attr).toList := by simp [hname, ha]
  have hclose : '\n' ∉ "close".toList := by decide
  constructor
  · rw [toList_script]
    exact splitOn_ended hopen hget hclose
  · rw [encode_script]
    exact splitOn_ended (mt Text.Utf8.lineFeed_mem_encode_iff.mp hopen)
      (mt Text.Utf8.lineFeed_mem_encode_iff.mp hget)
      (mt Text.Utf8.lineFeed_mem_encode_iff.mp hclose)

/-- A session that prints bytes that are no text, and a pattern that matches line feeds. -/
theorem script_findBean_lossy :
    let launch : Launcher := fun _ _ _ _ =>
      some ⟨0, Text.Utf8.encode " name=" ++ [0xC3, 0x28, 0x0D, 0x0A] ++ Text.Utf8.encode "close\n",
        [], 0⟩
    let n : Node := ⟨"server-1", "", "1098"⟩
    let name := "name=\uFFFD("
    ((endpoint launch ⟨["jmxterm"], []⟩ n).findBean "(?s)n[^,]*" (some "Mem") "java.lang").outcome =
        .ok name ∧
      '\n' ∉ n.target.toList ∧ '\n' ∉ "Count".toList ∧ '\n' ∉ name.toList ∧
      (script n (.get name "Count")).toList.splitOn '\n' =
        ["open 1098".toList, "get -b name=\uFFFD( Count".toList, "close".toList, []] := by
  intro launch n name
  have h : ((endpoint launch ⟨["jmxterm"], []⟩ n).findBean "(?s)n[^,]*" (some "Mem")
      "java.lang").outcome = .ok name := by
    decide +kernel
  have ht : '\n' ∉ n.target.toList := by decide
  have ha : '\n' ∉ "Count".toList := by decide
  obtain ⟨hname, hscript⟩ := script_findBean h
  exact ⟨h, ht, ha, hname, (hscript "Count" ht ha).1⟩

end Session
end ClusterRig
