import ClusterRig.PeakHeap
import ClusterRig.Proofs.Endpoint.Resolution
import ClusterRig.Proofs.Pattern.LastOccurrence

/-!
# Beans found by a part of their name

Names of beans are made of letters and digits, spaces, and what separates properties. Main
statement: a point, a star and such a text find the first line that the text stands in,
and cut it off behind the last place where it does. The pools are found so.
-/

namespace ClusterRig
namespace Endpoint

/-- A letter or digit of ASCII, a space, or what separates properties. -/
def isNameChar (c : Char) : Bool := c.isAlphanum || [' ', ',', ':', '='].contains c

/-- A part of the name of a bean. -/
structure NameText (text : String) : Prop where
  nonempty : text ≠ ""
  chars : ∀ c ∈ text.toList, isNameChar c = true

theorem isNameChar_eq_false_of_isMeta {c : Char} (h : Pattern.Reader.isMeta c = true) :
    isNameChar c = false := by
  have hall : ∀ l : List Char, l.all (fun d => !isNameChar d) = true → c ∈ l →
      isNameChar c = false := by
    intro l hl hc
    simpa using List.all_eq_true.mp hl c hc
  rw [Pattern.Reader.isMeta, List.contains_iff_mem] at h
  exact hall _ (by decide) h

variable {text : String}

theorem nameText_iff : NameText text ↔ text ≠ "" ∧ text.toList.all isNameChar = true := by
  rw [List.all_eq_true]
  exact ⟨fun h => ⟨h.nonempty, h.chars⟩, fun h => ⟨h.1, h.2⟩⟩

instance : Decidable (NameText text) := decidable_of_iff _ nameText_iff.symm

theorem NameText.toList_ne_nil (ht : NameText text) : text.toList ≠ [] := by
  simpa using ht.nonempty

/-- Nothing in the name of a bean has a meaning in a pattern. -/
theorem NameText.plain (ht : NameText text) : Pattern.Plain text.toList := by
  intro c hc
  rw [Bool.eq_false_iff]
  intro hm
  have hn : isNameChar c = false := isNameChar_eq_false_of_isMeta hm
  rw [ht.chars c hc] at hn
  cases hn

/-- The pattern for the beans that have the text in their names. -/
def naming (text : String) : Pattern := ⟨".*" ++ text, Pattern.anyThen text.toList⟩

theorem NameText.compile_eq (ht : NameText text) : compile (".*" ++ text) = .ok (naming text) :=
  compile_eq_ok_iff.mpr (Pattern.compile?_anyThen ht.plain ht.toList_ne_nil)

variable {line name : String}

theorem NameText.candidate?_eq_some_iff (ht : NameText text) (hf : '\n' ∉ line.toList) :
    candidate? (naming text) none line = some name ↔ ∃ found,
      Pattern.CutBehindLast text.toList line.toList found ∧
      name = String.ofList (Text.trim found) := by
  rw [Endpoint.candidate?_eq_some_iff]
  refine exists_congr fun found => ?_
  rw [naming, Pattern.find?_anyThen_cut ht.toList_ne_nil hf]
  simp

theorem NameText.candidate?_eq_none_iff (ht : NameText text) (hf : '\n' ∉ line.toList) :
    candidate? (naming text) none line = none ↔ ¬ text.toList <:+: line.toList := by
  rw [candidate?_none_eq_none_iff, naming, Pattern.find?_anyThen_eq_none_iff ht.toList_ne_nil hf]

/-- Among the lines the first one that the text stands in gives the name. -/
def NamedBy (text : String) (lines : List String) (name : String) : Prop :=
  ∃ before line after found, lines = before ++ line :: after ∧
    (∀ l ∈ before, ¬ text.toList <:+: l.toList) ∧
    Pattern.CutBehindLast text.toList line.toList found ∧
    name = String.ofList (Text.trim found)

variable {e : Endpoint} {domain : String} {lines : List String} {qs : List Query}

theorem NameText.findBean_eq_ok_iff (ht : NameText text)
    (ha : e.answer (.beans domain) = .ok lines) (hf : ∀ l ∈ lines, '\n' ∉ l.toList) :
    e.findBean (".*" ++ text) none domain = ⟨qs, .ok name⟩ ↔
      qs = [⟨e.name, .beans domain⟩] ∧ NamedBy text lines name := by
  rw [Endpoint.findBean_eq_ok_iff ht.compile_eq rfl]
  refine and_congr_right fun _ => ?_
  constructor
  · rintro ⟨before, line, after, ha', hl, hb⟩
    obtain rfl := Except.ok.inj (ha.symm.trans ha')
    obtain ⟨found, hcut, hn⟩ := (ht.candidate?_eq_some_iff (hf line (by simp))).mp hl
    exact ⟨before, line, after, found, rfl,
      fun l hm => (ht.candidate?_eq_none_iff (hf l (by simp [hm]))).mp (hb l hm), hcut, hn⟩
  · rintro ⟨before, line, after, found, rfl, hb, hcut, hn⟩
    exact ⟨before, line, after, ha,
      (ht.candidate?_eq_some_iff (hf line (by simp))).mpr ⟨found, hcut, hn⟩,
      fun l hm => (ht.candidate?_eq_none_iff (hf l (by simp [hm]))).mpr (hb l hm)⟩

theorem NameText.findBean_eq_error_iff (ht : NameText text)
    (ha : e.answer (.beans domain) = .ok lines) (hf : ∀ l ∈ lines, '\n' ∉ l.toList)
    {f : Failure} :
    e.findBean (".*" ++ text) none domain = ⟨qs, .error f⟩ ↔
      qs = [⟨e.name, .beans domain⟩] ∧ f = .beanNotFound e.name (".*" ++ text) domain ∧
        ∀ l ∈ lines, ¬ text.toList <:+: l.toList := by
  have hnone : (∀ l ∈ lines, candidate? (naming text) none l = none) ↔
      ∀ l ∈ lines, ¬ text.toList <:+: l.toList :=
    forall₂_congr fun l hm => ht.candidate?_eq_none_iff (hf l hm)
  rw [Endpoint.findBean_eq_error_iff ht.compile_eq rfl, ha]
  simp only [Except.ok.injEq, forall_eq', hnone]

theorem nameText_pools : ∀ pool ∈ PeakHeap.pools, NameText pool := by
  decide

/-- A bean is found by any part of its name, as far as to where that part stands last. It is
not found only if the part stands nowhere. -/
theorem findBean_nameText :
    (∀ (e : Endpoint) (text domain : String) (lines : List String), NameText text →
      e.answer (.beans domain) = .ok lines → (∀ l ∈ lines, '\n' ∉ l.toList) →
      (∀ name, (e.findBean (".*" ++ text) none domain).outcome = .ok name ↔
        NamedBy text lines name) ∧
      ∀ f, (e.findBean (".*" ++ text) none domain).outcome = .error f ↔
        f = .beanNotFound e.name (".*" ++ text) domain ∧
          ∀ l ∈ lines, ¬ text.toList <:+: l.toList) ∧
    ∀ pool ∈ PeakHeap.pools, NameText pool ∧ PeakHeap.pattern pool = ".*" ++ pool := by
  refine ⟨?_, fun pool hp => ⟨nameText_pools pool hp, rfl⟩⟩
  intro e text domain lines ht ha hf
  refine ⟨fun name => ⟨fun h => ?_, fun h => ?_⟩, fun f => ⟨fun h => ?_, fun h => ?_⟩⟩
  · exact ((ht.findBean_eq_ok_iff ha hf).mp (Traced.eq_of_outcome h)).2
  · rw [(ht.findBean_eq_ok_iff ha hf).mpr ⟨rfl, h⟩]
  · exact ((ht.findBean_eq_error_iff ha hf).mp (Traced.eq_of_outcome h)).2
  · rw [(ht.findBean_eq_error_iff ha hf).mpr ⟨rfl, h⟩]

/-- A text that stands twice, overlaps itself, and has more behind it, and one that stands
nowhere. -/
theorem findBean_nameText_overlapping :
    let lines := ["java.lang:type=Memory", "\tkind=aaa,name=Saaab: x", "aa"]
    let e : Endpoint := Table.endpoint { beans := [("java.lang", lines)] } "server-1"
    NameText "aa" ∧ NameText "pool" ∧ e.answer (.beans "java.lang") = .ok lines ∧
      (∀ l ∈ lines, '\n' ∉ l.toList) ∧
      (e.findBean ".*aa" none "java.lang").outcome = .ok "kind=aaa,name=Saaa" ∧
      (e.findBean ".*pool" none "java.lang").outcome =
        .error (.beanNotFound "server-1" ".*pool" "java.lang") := by
  intro lines e
  have ht : NameText "aa" := by decide
  have hp : NameText "pool" := by decide
  have ha : e.answer (.beans "java.lang") = .ok lines := rfl
  have hf : ∀ l ∈ lines, '\n' ∉ l.toList := by decide
  have hn : NamedBy "aa" lines "kind=aaa,name=Saaa" :=
    ⟨lines.take 1, _, ["aa"], "\tkind=aaa,name=Saaa".toList, rfl, by decide, by decide, by decide⟩
  obtain ⟨h, -⟩ := findBean_nameText
  exact ⟨ht, hp, ha, hf, ((h e "aa" _ lines ht ha hf).1 _).mpr hn,
    ((h e "pool" _ lines hp ha hf).2 _).mpr ⟨rfl, by decide⟩⟩

end Endpoint
end ClusterRig
