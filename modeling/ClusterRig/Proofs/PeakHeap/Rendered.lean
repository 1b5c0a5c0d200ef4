import ClusterRig.Proofs.PeakHeap.Outcome

/-!
# Peak heap of rendered answers

Reading back numbers that a node shows. Main statement: when the first line for each
pool ends with it, and the answers for that bean begin with a rendering of a number,
the peak usage of the node is the sum of the three numbers, whatever else is listed.
-/

namespace ClusterRig
namespace PeakHeap

open Text

/-- Among the lines of the beans the first one with the name of the pool ends with it,
and every answer for this bean is a rendering of `n` after any blank lines. -/
def Shows (e : Endpoint) (lines : List String) (pool : String) (n : Nat) : Prop :=
  ∃ before line after, lines = before ++ line :: after ∧
    (∀ l ∈ before, ¬ pool.toList <:+: l.toList) ∧ pool.toList <:+ trim line.toList ∧
    ∀ earlier, ∃ blanks rendered more,
      e.answerAfter earlier (.get (trimmed line) attr) = .ok (blanks ++ rendered :: more) ∧
      (∀ l ∈ blanks, Blank l.toList) ∧
      Rendering attr.toList (decimal n) rendered.toList

theorem isBlank_of_isDigit {c : Char} (h : isDigit c = true) : isBlank c = false := by
  have hc : 48 ≤ c.toNat ∧ c.toNat ≤ 57 := by
    simpa [isDigit, Char.le_def, UInt32.le_iff_toNat_le] using h
  rw [Bool.eq_false_iff]
  simp only [isBlank, ne_eq, Bool.or_eq_true, Bool.and_eq_true, decide_eq_true_eq, beq_iff_eq]
  omega

theorem readable_decimal (n : Nat) : Readable (decimal n) := by
  have hd : ∀ c ∈ decimal n, isDigit c = true := fun _ => isDigit_of_mem_decimal
  refine ⟨decimal_ne_nil n, ⟨?_, ?_⟩, ?_⟩
  · intro c hc
    exact isBlank_of_isDigit (hd c (List.mem_of_mem_head? hc))
  · intro c hc
    exact isBlank_of_isDigit (hd c (List.mem_of_getLast? hc))
  · rintro c hc rfl
    exact absurd (hd _ (List.mem_of_getLast? hc)) (by decide)

theorem valueOf?_rendered {n : Nat} {line : List Char}
    (h : Rendering attr.toList (decimal n) line) :
    valueOf? attr.toList line = some (decimal n) := by
  refine valueOf?_rendering (by simp [attr, isBlank]) (readable_decimal n) ?_ h
  intro w rest _ he
  have hm : '=' ∈ decimal n := by
    rw [he]
    simp
  exact absurd (isDigit_of_mem_decimal hm) (by decide)

/-- The match reaches to the end of a line that ends with the text. -/
theorem find?_of_suffix_trim {l line : List Char} (hl : l ≠ [])
    (hb : ∀ c ∈ l.getLast?, isBlank c = false) (hf : '\n' ∉ line) (h : l <:+ trim line)
    {text : String} :
    ∃ found, Pattern.find? ⟨text, Pattern.anyThen l⟩ line = some found ∧
      trim found = trim line := by
  obtain ⟨w, w', hs, hw, hw', ht⟩ := exists_trim line
  generalize trim line = u at h hs ht ⊢
  refine ⟨w ++ u, ?_, ?_⟩
  · have hp : w ++ u <+: line := ⟨w', hs.symm⟩
    refine (Pattern.find?_anyThen_eq_some_iff hl hf).mpr
      ⟨hp, h.trans (List.suffix_append w u), ?_⟩
    intro t htl hlt
    rcases List.prefix_or_prefix_of_prefix htl hp with hx | ⟨x, rfl⟩
    · exact hx
    · have hx : x <+: w' := by
        rw [hs] at htl
        exact (List.prefix_append_right_inj _).mp htl
      -- a match that reaches further would end with a blank
      rcases List.eq_nil_or_concat x with rfl | ⟨x, c, rfl⟩
      · rw [List.append_nil]
      · have hc : isBlank c = true := hw' c (hx.subset (by simp))
        rw [List.concat_eq_append, ← List.append_assoc] at hlt
        rcases List.suffix_concat_iff.mp hlt with rfl | ⟨q, rfl, -⟩
        · exact absurd rfl hl
        · exact absurd hc (by simp [hb c (by simp)])
  · refine trim_eq_iff.mpr ⟨ht, w, [], ?_, hw, blank_nil⟩
    rw [List.append_nil]

variable {e : Endpoint} {lines : List String}

theorem pools_end : ∀ pool ∈ pools, pool.toList ≠ [] ∧
    ∀ c ∈ pool.toList.getLast?, isBlank c = false := by
  simp [pools, isBlank]

/-- What is shown at every time is shown after some requests. -/
theorem Shows.after {pool : String} {n : Nat} (h : Shows e lines pool n) (made : List Request) :
    Shows (e.after made) lines pool n := by
  obtain ⟨before, line, after, hl, hb, hs, ha⟩ := h
  exact ⟨before, line, after, hl, hb, hs, fun earlier => ha (made ++ earlier)⟩

theorem listed_after (hl : ∀ earlier, e.answerAfter earlier (.beans domain) = .ok lines)
    (made earlier : List Request) :
    (e.after made).answerAfter earlier (.beans domain) = .ok lines :=
  hl (made ++ earlier)

theorem Shows.reads (hl : ∀ earlier, e.answerAfter earlier (.beans domain) = .ok lines)
    (hf : ∀ l ∈ lines, '\n' ∉ l.toList) {pool : String} (hp : pool ∈ pools) {n : Nat}
    (h : Shows e lines pool n) (hn : n < UInt64.size) : ∃ bean, Reads e pool ⟨bean, n⟩ := by
  obtain ⟨before, line, after, rfl, hb, hs, ha⟩ := h
  obtain ⟨blanks, rendered, more, ha, hblank, hr⟩ := ha [.beans domain]
  obtain ⟨hne, hlast⟩ := pools_end pool hp
  obtain ⟨found, hfound, htrim⟩ := find?_of_suffix_trim hne hlast (hf line (by simp)) hs
  have hnone : ∀ l ∈ before, Pattern.find? ⟨pattern pool, Pattern.anyThen pool.toList⟩ l.toList =
      none :=
    fun l hm => (Pattern.find?_anyThen_eq_none_iff hne (hf l (by simp [hm]))).mpr (hb l hm)
  have hraw : Carries (blanks ++ rendered :: more) (String.ofList (decimal n)) := by
    refine ⟨blanks, rendered, more, rfl, ?_, fun l hm => valueOf?_blank (hblank l hm)⟩
    change valueOf? attr.toList _ = _
    rw [String.toList_ofList]
    exact valueOf?_rendered hr
  refine ⟨trimmed line, ⟨_, before, line, after, found, compile?_pattern hp, hl [], hfound, hnone,
    ?_⟩, _, _, ha, hraw, ?_, hn⟩
  · rw [htrim]
    rfl
  · rw [String.toList_ofList]
    exact denotes_decimal n

/-- The peak usage of a node that shows a number for each of its pools. -/
theorem nodeBytes_shown {eden old survivor : Nat} (hs : eden + old + survivor < UInt64.size)
    (hl : ∀ earlier, e.answerAfter earlier (.beans domain) = .ok lines)
    (hf : ∀ l ∈ lines, '\n' ∉ l.toList)
    (he : Shows e lines "G1 Eden Space,type=MemoryPool" eden)
    (ho : Shows e lines "G1 Old Gen,type=MemoryPool" old)
    (hv : Shows e lines "G1 Survivor Space,type=MemoryPool" survivor) :
    (nodeBytes e).outcome = .ok (UInt64.ofNat (eden + old + survivor)) := by
  obtain ⟨b₁, h₁⟩ := he.reads hl hf (by decide) (by omega)
  obtain ⟨b₂, h₂⟩ := (ho.after (Reading.requests ⟨b₁, eden⟩)).reads
    (listed_after hl _) hf (by decide) (by omega)
  obtain ⟨b₃, h₃⟩ := ((hv.after (Reading.requests ⟨b₁, eden⟩)).after
    (Reading.requests ⟨b₂, old⟩)).reads (listed_after (listed_after hl _) _) hf (by decide)
    (by omega)
  have hn : (UInt64.ofNat (eden + old + survivor)).toNat = (0 : UInt64).toNat +
      Reading.total [⟨b₁, eden⟩, ⟨b₂, old⟩, ⟨b₃, survivor⟩] := by
    rw [UInt64.toNat_ofNat_of_lt' hs]
    simp [Reading.total, Nat.add_assoc]
  have h : nodeBytes e = _ := (foldlM_eq_ok_iff fun _ h => h).mpr
    ⟨_, .cons h₁ (.cons h₂ (.cons h₃ (.nil _))), hn, rfl⟩
  rw [h]

theorem blank_space : Blank [' '] := by
  simp [Blank, isBlank]

/-- A node that lists the pools in another order and among other beans. -/
theorem nodeBytes_shown_table :
    let table : Endpoint.Table :=
      { beans := [("java.lang", ["java.lang:type=Memory",
          " java.lang:name=G1 Survivor Space,type=MemoryPool",
          "java.lang:name=G1 Eden Space,type=MemoryPool\t", "java.lang:type=Runtime",
          "java.lang:name=G1 Old Gen,type=MemoryPool"])]
        readings := [
          (("java.lang:name=G1 Eden Space,type=MemoryPool", "PeakUsage.used"),
            ["", "  PeakUsage.used = 52 ;"]),
          (("java.lang:name=G1 Old Gen,type=MemoryPool", "PeakUsage.used"), ["700"]),
          (("java.lang:name=G1 Survivor Space,type=MemoryPool", "PeakUsage.used"),
            ["PeakUsage.used=8;", "done"])] }
    let e := table.endpoint "node"
    let lines := ["java.lang:type=Memory", " java.lang:name=G1 Survivor Space,type=MemoryPool",
      "java.lang:name=G1 Eden Space,type=MemoryPool\t", "java.lang:type=Runtime",
      "java.lang:name=G1 Old Gen,type=MemoryPool"]
    52 + 700 + 8 < UInt64.size ∧
      (∀ earlier, e.answerAfter earlier (.beans domain) = .ok lines) ∧
      (∀ l ∈ lines, '\n' ∉ l.toList) ∧ Shows e lines "G1 Eden Space,type=MemoryPool" 52 ∧
      Shows e lines "G1 Old Gen,type=MemoryPool" 700 ∧
      Shows e lines "G1 Survivor Space,type=MemoryPool" 8 ∧
      (nodeBytes e).outcome = .ok (UInt64.ofNat (52 + 700 + 8)) := by
  intro table e lines
  have hs : 52 + 700 + 8 < UInt64.size := by decide
  have hl : ∀ earlier, e.answerAfter earlier (.beans domain) = .ok lines := fun _ => rfl
  have hf : ∀ l ∈ lines, '\n' ∉ l.toList := by decide
  have he : Shows e lines "G1 Eden Space,type=MemoryPool" 52 := by
    have ha : e.answer (.get (trimmed "java.lang:name=G1 Eden Space,type=MemoryPool\t") attr) =
        .ok ["", "  PeakUsage.used = 52 ;"] := by
      decide +kernel
    have ht : "  PeakUsage.used = 52 ;".toList = [' ', ' '] ++ (attr.toList ++ [' '] ++ ['=']) ++
        ([' '] ++ decimal 52 ++ [' '] ++ List.replicate 1 ';' ++ []) := by
      decide
    refine ⟨lines.take 2, _, _, rfl, by decide, by decide, fun _ => ⟨[""], _, [], ha, ?_, ?_⟩⟩
    · simp [Blank]
    · rw [ht]
      exact .assigned (by simp [Blank]; decide) blank_space blank_space blank_space blank_nil 1
  have ho : Shows e lines "G1 Old Gen,type=MemoryPool" 700 := by
    have ha : e.answer (.get (trimmed "java.lang:name=G1 Old Gen,type=MemoryPool") attr) =
        .ok ["700"] := by
      decide +kernel
    have ht : "700".toList = [] ++ decimal 700 ++ [] ++ List.replicate 0 ';' ++ [] := by
      decide
    refine ⟨lines.take 4, _, _, rfl, by decide, by decide, fun _ => ⟨[], _, [], ha, by simp, ?_⟩⟩
    rw [ht]
    exact .bare blank_nil blank_nil blank_nil 0
  have hv : Shows e lines "G1 Survivor Space,type=MemoryPool" 8 := by
    have ha : e.answer (.get (trimmed " java.lang:name=G1 Survivor Space,type=MemoryPool") attr) =
        .ok ["PeakUsage.used=8;", "done"] := by
      decide +kernel
    have ht : "PeakUsage.used=8;".toList = [] ++ (attr.toList ++ [] ++ ['=']) ++
        ([] ++ decimal 8 ++ [] ++ List.replicate 1 ';' ++ []) := by
      decide
    refine ⟨lines.take 1, _, _, rfl, by decide, by decide,
      fun _ => ⟨[], _, ["done"], ha, by simp, ?_⟩⟩
    rw [ht]
    exact .assigned blank_nil blank_nil blank_nil blank_nil blank_nil 1
  exact ⟨hs, hl, hf, he, ho, hv, nodeBytes_shown hs hl hf he ho hv⟩

end PeakHeap
end ClusterRig
