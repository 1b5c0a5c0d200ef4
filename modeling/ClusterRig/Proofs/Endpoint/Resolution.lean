import ClusterRig.Endpoint.Resolution
import ClusterRig.Proofs.Endpoint.Traced
import ClusterRig.Proofs.FirstFailure
import ClusterRig.Proofs.Text.Trim

/-!
# Resolution of beans

Which bean a pattern resolves to. Main statement: patterns that do not compile fail before
anything is asked; otherwise there is one query, and the bean is that of the first line
that is admissible, or there is none. Other lines make no difference.
-/

namespace ClusterRig

/-- A match is a contiguous part of the text. -/
theorem Pattern.find?_infix {p : Pattern} {s found : List Char} (h : p.find? s = some found) :
    found <:+: s := by
  obtain ⟨x, -, rfl⟩ := Option.map_eq_some_iff.mp h
  exact (List.take_prefix _ _).isInfix.trans (List.drop_suffix _ _).isInfix

theorem Pattern.matchesIn_eq_false_iff {p : Pattern} {s : List Char} :
    p.matchesIn s = false ↔ p.find? s = none := by
  rw [Pattern.matchesIn, Option.isSome_eq_false_iff, Option.isNone_iff_eq_none]

namespace Endpoint

/-- The pattern matches somewhere in the line, and the other one nowhere in this match, which
is taken without the blanks around it. -/
def Admissible (p : Pattern) (n : Option Pattern) (line : String) : Prop :=
  ∃ found, p.find? line.toList = some found ∧ ∀ q ∈ n, q.find? (Text.trim found) = none

/-- The second pattern compiles, if there is one. -/
def Compiles (without : Option String) (n : Option Pattern) : Prop :=
  Option.Rel (fun text q => Pattern.compile? text = some q) without n

/-- What looking for a bean comes to. The first pattern is compiled first, and that the beans
cannot be listed counts as that there is none. -/
inductive Resolution (e : Endpoint) (pattern : String) (without : Option String)
    (domain : String) : Traced String → Prop
  | invalid (hp : Pattern.compile? pattern = none) :
      Resolution e pattern without domain ⟨[], .error (.patternInvalid pattern)⟩
  | exclusionInvalid {p text} (hp : Pattern.compile? pattern = some p)
      (hw : without = some text) (hn : Pattern.compile? text = none) :
      Resolution e pattern without domain ⟨[], .error (.patternInvalid text)⟩
  | unlisted {p n f} (hp : Pattern.compile? pattern = some p) (hn : Compiles without n)
      (ha : e.answer (.beans domain) = .error f) :
      Resolution e pattern without domain
        ⟨[⟨e.name, .beans domain⟩], .error (.beanNotFound e.name pattern domain)⟩
  | missing {p n lines} (hp : Pattern.compile? pattern = some p) (hn : Compiles without n)
      (ha : e.answer (.beans domain) = .ok lines) (hl : ∀ l ∈ lines, ¬ Admissible p n l) :
      Resolution e pattern without domain
        ⟨[⟨e.name, .beans domain⟩], .error (.beanNotFound e.name pattern domain)⟩
  | resolved {p n before line after found} (hp : Pattern.compile? pattern = some p)
      (hn : Compiles without n) (ha : e.answer (.beans domain) = .ok (before ++ line :: after))
      (hb : ∀ l ∈ before, ¬ Admissible p n l) (hl : Admissible p n line)
      (hf : p.find? line.toList = some found) :
      Resolution e pattern without domain
        ⟨[⟨e.name, .beans domain⟩], .ok (String.ofList (Text.trim found))⟩

variable {e : Endpoint} {p : Pattern} {n : Option Pattern} {pattern domain : String}
  {without : Option String}

theorem compile_eq_ok_iff : compile pattern = .ok p ↔ Pattern.compile? pattern = some p := by
  unfold compile
  cases Pattern.compile? pattern <;> simp

theorem compile_eq_error_iff {f : Failure} : compile pattern = .error f ↔
    Pattern.compile? pattern = none ∧ f = .patternInvalid pattern := by
  unfold compile
  cases Pattern.compile? pattern <;> simp [eq_comm]

theorem mapM_compile_eq_ok_iff : without.mapM compile = .ok n ↔ Compiles without n := by
  cases without with
  | none =>
    constructor
    · intro h
      obtain rfl := Except.ok.inj h
      exact .none
    · rintro ⟨⟩
      rfl
  | some text =>
    have hm : (some text).mapM compile = (compile text).map some := rfl
    rw [hm]
    constructor
    · intro h
      cases hc : compile text with
      | error f =>
        rw [hc] at h
        cases h
      | ok q =>
        rw [hc] at h
        obtain rfl := Except.ok.inj h
        exact .some (compile_eq_ok_iff.mp hc)
    · rintro (hc | -)
      rw [compile_eq_ok_iff.mpr hc]
      rfl

theorem mapM_compile_eq_error_iff {f : Failure} : without.mapM compile = .error f ↔
    ∃ text, without = some text ∧ Pattern.compile? text = none ∧ f = .patternInvalid text := by
  cases without with
  | none =>
    have hm : (none : Option String).mapM compile = .ok none := rfl
    simp [hm]
  | some text =>
    have hm : (some text).mapM compile = (compile text).map some := rfl
    simp only [hm, FirstFailure.map_eq_error_iff, compile_eq_error_iff, Option.some.injEq,
      exists_eq_left']

theorem candidate?_eq_some_iff {line name : String} :
    candidate? p n line = some name ↔ ∃ found, p.find? line.toList = some found ∧
      (∀ q ∈ n, q.matchesIn (Text.trim found) = false) ∧
      name = String.ofList (Text.trim found) := by
  unfold candidate?
  cases p.find? line.toList with
  | none => simp
  | some found => cases n <;> grind

/-- The name of a bean is a contiguous part of the line that it was found in. -/
theorem candidate?_infix {line name : String} (h : candidate? p n line = some name) :
    name.toList <:+: line.toList := by
  obtain ⟨found, hf, -, rfl⟩ := candidate?_eq_some_iff.mp h
  rw [String.toList_ofList]
  exact (Text.trim_infix found).trans (Pattern.find?_infix hf)

theorem candidate?_eq_none_iff {line : String} :
    candidate? p n line = none ↔ ∀ found, p.find? line.toList = some found →
      ∃ q ∈ n, q.matchesIn (Text.trim found) = true := by
  unfold candidate?
  cases p.find? line.toList with
  | none => simp
  | some found => cases n <;> grind

/-- With nothing ruled out every match gives a bean. -/
theorem candidate?_none_eq_none_iff {line : String} :
    candidate? p none line = none ↔ p.find? line.toList = none := by
  rw [candidate?_eq_none_iff, Option.eq_none_iff_forall_ne_some]
  simp

theorem candidate?_eq_none_iff_not_admissible {line : String} :
    candidate? p n line = none ↔ ¬ Admissible p n line := by
  constructor
  · rintro h ⟨found, hf, hn⟩
    obtain ⟨q, hq, hm⟩ := candidate?_eq_none_iff.mp h found hf
    rw [Pattern.matchesIn_eq_false_iff.mpr (hn q hq)] at hm
    cases hm
  · intro h
    refine candidate?_eq_none_iff.mpr fun found hf => ?_
    by_contra hq
    refine h ⟨found, hf, fun q hqn => Pattern.matchesIn_eq_false_iff.mp ?_⟩
    by_contra hm
    exact hq ⟨q, hqn, by simpa using hm⟩

instance (line : String) : Decidable (Admissible p n line) :=
  decidable_of_iff (candidate? p n line ≠ none) (by
    rw [ne_eq, candidate?_eq_none_iff_not_admissible, not_not])

theorem Admissible.candidate?_eq {line : String} {found : List Char} (h : Admissible p n line)
    (hf : p.find? line.toList = some found) :
    candidate? p n line = some (String.ofList (Text.trim found)) := by
  obtain ⟨found', hf', hn⟩ := h
  obtain rfl : found' = found := Option.some.inj (hf'.symm.trans hf)
  exact candidate?_eq_some_iff.mpr
    ⟨found', hf, fun q hq => Pattern.matchesIn_eq_false_iff.mpr (hn q hq), rfl⟩

/-- With inadmissible lines removed nothing has to be ruled out. -/
theorem findSome?_candidate?_filter (lines : List String) :
    (lines.filter fun l => Admissible p n l).findSome? (candidate? p none) =
      lines.findSome? (candidate? p n) := by
  rw [← List.head?_filterMap, ← List.head?_filterMap, List.filterMap_filter]
  refine congrArg List.head? (List.filterMap_congr fun l _ => ?_)
  by_cases h : Admissible p n l
  · obtain ⟨found, hf, -⟩ := id h
    have hfree : Admissible p none l := ⟨found, hf, by simp⟩
    rw [if_pos (decide_eq_true h), h.candidate?_eq hf, hfree.candidate?_eq hf]
  · rw [if_neg (by simpa using h), candidate?_eq_none_iff_not_admissible.mpr h]

theorem findBean_of_compile_eq_error {f : Failure} (hp : compile pattern = .error f) :
    e.findBean pattern without domain = ⟨[], .error f⟩ := by
  rw [findBean, hp]
  rfl

theorem findBean_of_mapM_compile_eq_error {f : Failure} (hp : compile pattern = .ok p)
    (hn : without.mapM compile = .error f) :
    e.findBean pattern without domain = ⟨[], .error f⟩ := by
  rw [findBean, hp, hn]
  rfl

theorem findBean_eq (hp : compile pattern = .ok p) (hn : without.mapM compile = .ok n) :
    e.findBean pattern without domain = ⟨[⟨e.name, .beans domain⟩],
      match (e.answer (.beans domain)).toOption.bind (·.findSome? (candidate? p n)) with
      | some name => .ok name
      | none => .error (.beanNotFound e.name pattern domain)⟩ := by
  unfold findBean
  rw [hp, hn, Traced.ofExcept_ok_bind, Traced.ofExcept_ok_bind,
    Traced.bind_eq_of_ok (a := e.answer (.beans domain)) _ rfl]
  cases (e.answer (.beans domain)).toOption.bind (·.findSome? (candidate? p n)) <;> rfl

theorem findBean_eq_ok_iff (hp : compile pattern = .ok p) (hn : without.mapM compile = .ok n)
    {qs : List Query} {name : String} :
    e.findBean pattern without domain = ⟨qs, .ok name⟩ ↔ qs = [⟨e.name, .beans domain⟩] ∧
      ∃ before line after, e.answer (.beans domain) = .ok (before ++ line :: after) ∧
        candidate? p n line = some name ∧ ∀ l ∈ before, candidate? p n l = none := by
  rw [findBean_eq hp hn, Traced.mk.injEq, eq_comm (a := [_])]
  refine and_congr_right fun _ => ?_
  cases h : e.answer (.beans domain) with
  | error f => simp [Except.toOption]
  | ok lines =>
    have hf : (∃ before line after, lines = before ++ line :: after ∧
        candidate? p n line = some name ∧ ∀ l ∈ before, candidate? p n l = none) ↔
        lines.findSome? (candidate? p n) = some name :=
      List.findSome?_eq_some_iff.symm
    simp only [Except.ok.injEq, hf, Except.toOption, Option.bind_some]
    cases lines.findSome? (candidate? p n) <;> simp

/-- Whatever the patterns are, a bean that is found is that of a listed line. -/
theorem exists_candidate?_of_findBean {name : String}
    (h : (e.findBean pattern without domain).outcome = .ok name) :
    ∃ p n lines line, e.answer (.beans domain) = .ok lines ∧ line ∈ lines ∧
      candidate? p n line = some name := by
  cases hp : compile pattern with
  | error f =>
    rw [findBean_of_compile_eq_error hp] at h
    cases h
  | ok p =>
    cases hn : without.mapM compile with
    | error f =>
      rw [findBean_of_mapM_compile_eq_error hp hn] at h
      cases h
    | ok n =>
      obtain ⟨-, before, line, after, ha, hl, -⟩ :=
        (findBean_eq_ok_iff hp hn).mp (Traced.eq_of_outcome h)
      exact ⟨p, n, before ++ line :: after, line, ha, by simp, hl⟩

theorem findBean_eq_error_iff (hp : compile pattern = .ok p) (hn : without.mapM compile = .ok n)
    {qs : List Query} {f : Failure} :
    e.findBean pattern without domain = ⟨qs, .error f⟩ ↔ qs = [⟨e.name, .beans domain⟩] ∧
      f = .beanNotFound e.name pattern domain ∧
      ∀ lines, e.answer (.beans domain) = .ok lines → ∀ l ∈ lines, candidate? p n l = none := by
  rw [findBean_eq hp hn, Traced.mk.injEq, eq_comm (a := [_])]
  refine and_congr_right fun _ => ?_
  cases h : e.answer (.beans domain) with
  | error f => simp [Except.toOption, eq_comm]
  | ok lines =>
    have hf : (∀ l ∈ lines, candidate? p n l = none) ↔
        lines.findSome? (candidate? p n) = none :=
      List.findSome?_eq_none_iff.symm
    simp only [Except.ok.injEq, forall_eq', hf, Except.toOption, Option.bind_some]
    cases lines.findSome? (candidate? p n) <;> simp [eq_comm]

theorem Resolution.eq {t : Traced String} (h : Resolution e pattern without domain t) :
    e.findBean pattern without domain = t := by
  cases h with
  | invalid hp => exact findBean_of_compile_eq_error (compile_eq_error_iff.mpr ⟨hp, rfl⟩)
  | exclusionInvalid hp hw hn =>
    exact findBean_of_mapM_compile_eq_error (compile_eq_ok_iff.mpr hp)
      (mapM_compile_eq_error_iff.mpr ⟨_, hw, hn, rfl⟩)
  | unlisted hp hn ha =>
    rw [findBean_eq_error_iff (compile_eq_ok_iff.mpr hp) (mapM_compile_eq_ok_iff.mpr hn)]
    exact ⟨rfl, rfl, by simp [ha]⟩
  | missing hp hn ha hl =>
    rw [findBean_eq_error_iff (compile_eq_ok_iff.mpr hp) (mapM_compile_eq_ok_iff.mpr hn)]
    refine ⟨rfl, rfl, fun lines' ha' l hm => ?_⟩
    obtain rfl := Except.ok.inj (ha.symm.trans ha')
    exact candidate?_eq_none_iff_not_admissible.mpr (hl l hm)
  | resolved hp hn ha hb hl hf =>
    rw [findBean_eq_ok_iff (compile_eq_ok_iff.mpr hp) (mapM_compile_eq_ok_iff.mpr hn)]
    exact ⟨rfl, _, _, _, ha, hl.candidate?_eq hf,
      fun l hm => candidate?_eq_none_iff_not_admissible.mpr (hb l hm)⟩

theorem resolution_findBean (e : Endpoint) (pattern : String) (without : Option String)
    (domain : String) : Resolution e pattern without domain (e.findBean pattern without domain) := by
  cases hp : compile pattern with
  | error f =>
    obtain ⟨hp', rfl⟩ := compile_eq_error_iff.mp hp
    rw [findBean_of_compile_eq_error hp]
    exact .invalid hp'
  | ok p =>
    have hp' := compile_eq_ok_iff.mp hp
    cases hn : without.mapM compile with
    | error f =>
      obtain ⟨text, hw, hn', rfl⟩ := mapM_compile_eq_error_iff.mp hn
      rw [findBean_of_mapM_compile_eq_error hp hn]
      exact .exclusionInvalid hp' hw hn'
    | ok n =>
      have hn' := mapM_compile_eq_ok_iff.mp hn
      rw [findBean_eq hp hn]
      cases ha : e.answer (.beans domain) with
      | error f => exact .unlisted hp' hn' ha
      | ok lines =>
        simp only [Except.toOption, Option.bind_some]
        cases hc : lines.findSome? (candidate? p n) with
        | none =>
          refine .missing hp' hn' ha fun l hm => ?_
          exact candidate?_eq_none_iff_not_admissible.mp (List.findSome?_eq_none_iff.mp hc l hm)
        | some name =>
          obtain ⟨before, line, after, rfl, hline, hb⟩ := List.findSome?_eq_some_iff.mp hc
          obtain ⟨found, hf, hq, rfl⟩ := candidate?_eq_some_iff.mp hline
          have hl : Admissible p n line :=
            ⟨found, hf, fun q hqn => Pattern.matchesIn_eq_false_iff.mp (hq q hqn)⟩
          exact .resolved hp' hn' ha
            (fun l hm => candidate?_eq_none_iff_not_admissible.mp (hb l hm)) hl hf

/-- What a bean is resolved to, and at what cost, for any patterns and any answer of the node.
Inadmissible lines may be removed, with nothing ruled out then, and the lines after one that
is admissible may be any. -/
theorem findBean_resolution (e : Endpoint) (pattern : String) (without : Option String)
    (domain : String) :
    (∀ t, e.findBean pattern without domain = t ↔ Resolution e pattern without domain t) ∧
    ∀ p n, Pattern.compile? pattern = some p → Compiles without n →
      (∀ lines (e' : Endpoint), e.answer (.beans domain) = .ok lines → e'.name = e.name →
        e'.answer (.beans domain) = .ok (lines.filter fun l => Admissible p n l) →
        e'.findBean pattern none domain = e.findBean pattern without domain) ∧
      ∀ before line after after' (e' : Endpoint),
        e.answer (.beans domain) = .ok (before ++ line :: after) →
        Admissible p n line → e'.name = e.name →
        e'.answer (.beans domain) = .ok (before ++ line :: after') →
        e'.findBean pattern without domain = e.findBean pattern without domain := by
  refine ⟨fun t => ⟨?_, Resolution.eq⟩, fun p n hp hn => ⟨?_, ?_⟩⟩
  · rintro rfl
    exact resolution_findBean e pattern without domain
  · intro lines e' ha hname ha'
    have hp' := compile_eq_ok_iff.mpr hp
    rw [findBean_eq hp' (mapM_compile_eq_ok_iff.mpr .none),
      findBean_eq hp' (mapM_compile_eq_ok_iff.mpr hn), hname, ha, ha']
    simp only [Except.toOption, Option.bind_some, findSome?_candidate?_filter]
  · intro before line after after' e' ha hl hname ha'
    have hp' := compile_eq_ok_iff.mpr hp
    have hn' := mapM_compile_eq_ok_iff.mpr hn
    obtain ⟨found, hf, -⟩ := id hl
    -- The search ends at this line at the latest.
    have hstop : ∀ rest, (before ++ line :: rest).findSome? (candidate? p n) =
        (before.findSome? (candidate? p n)).or (some (String.ofList (Text.trim found))) := by
      intro rest
      rw [List.findSome?_append, List.findSome?_cons, hl.candidate?_eq hf]
    rw [findBean_eq hp' hn', findBean_eq hp' hn', hname, ha, ha']
    simp only [Except.toOption, Option.bind_some, hstop]

/-- A line that is ruled out, and one that is not although the rest of it would be. -/
theorem findBean_resolution_excluded :
    let listing (lines : List String) : Endpoint :=
      Table.endpoint { beans := [("java.lang", lines)] } "server-1"
    let old := "Old,type=Pool"
    let eden := " Eden,type=Pool (Old)"
    let e := listing [old, eden, "type=Memory"]
    let pattern := ".*,type=Pool"
    let without := some "^ |Old"
    ∃ p n, Pattern.compile? pattern = some p ∧ Compiles without n ∧ Admissible p n eden ∧
      [old, eden, "type=Memory"].filter (Admissible p n ·) = [eden] ∧
      e.findBean pattern without "java.lang" =
        ⟨[⟨"server-1", .beans "java.lang"⟩], .ok "Eden,type=Pool"⟩ ∧
      (listing [eden]).findBean pattern none "java.lang" =
        e.findBean pattern without "java.lang" ∧
      (listing [old, eden, old]).findBean pattern without "java.lang" =
        e.findBean pattern without "java.lang" := by
  intro listing old eden e pattern without
  let p := (Pattern.compile? pattern).get (by decide +kernel)
  let n := some ((Pattern.compile? "^ |Old").get (by decide +kernel))
  have hp : Pattern.compile? pattern = some p := Option.eq_some_of_isSome _
  have hn : Compiles without n := .some (Option.eq_some_of_isSome _)
  have hb : ∀ l ∈ [old], ¬ Admissible p n l := by decide +kernel
  have hl : Admissible p n eden := by decide +kernel
  have hf : p.find? eden.toList = some " Eden,type=Pool".toList := by decide +kernel
  have hkept : [old, eden, "type=Memory"].filter (Admissible p n ·) = [eden] := by
    decide +kernel
  obtain ⟨hiff, hrest⟩ := findBean_resolution e pattern without "java.lang"
  obtain ⟨hfilter, hafter⟩ := hrest p n hp hn
  refine ⟨p, n, hp, hn, hl, hkept, ?_, ?_, ?_⟩
  · have hr : Resolution e pattern without "java.lang" _ := .resolved hp hn rfl hb hl hf
    exact (hiff _).mpr hr
  · exact hfilter _ _ rfl rfl (congrArg Except.ok hkept.symm)
  · exact hafter [old] eden ["type=Memory"] [old] _ rfl hl rfl rfl

end Endpoint
end ClusterRig
