import ClusterRig.Proofs.Bean

/-!
# Exporters of a configuration

What adding exporters makes of those that a configuration has. Main statement: they are
enumerated in the lexicographic order of beans, as the old ones and the added ones, and
neither the order nor the number of the additions matters. One bean is not added twice,
and two are not taken for one.
-/

namespace ClusterRig
namespace NodeConfig

theorem withExporter_eq_self_iff {c : NodeConfig} {b : Bean} :
    c.withExporter b = c ↔ b ∈ c.exporters.elements := by
  constructor
  · intro h
    rw [← h, mem_withExporter_iff]
    exact .inl rfl
  · intro hb
    have he : c.exporters.insert b = c.exporters := by
      refine SortedSet.eq_of_mem_iff fun a => ?_
      rw [SortedSet.mem_insert_iff, or_iff_right_iff_imp]
      rintro rfl
      exact hb
    rw [withExporter, he]

theorem withExporters_eq (c : NodeConfig) (added : List Bean) :
    added.foldl withExporter c =
      { c with exporters := added.foldl (fun s b => s.insert b) c.exporters } := by
  induction added generalizing c with
  | nil => rfl
  | cons b added ih =>
    rw [List.foldl_cons, ih]
    rfl

theorem mem_withExporters_iff {c : NodeConfig} {added : List Bean} {b : Bean} :
    b ∈ (added.foldl withExporter c).exporters.elements ↔
      b ∈ c.exporters.elements ∨ b ∈ added := by
  rw [withExporters_eq]
  exact SortedSet.mem_foldl_insert_iff

theorem pairwise_precedes (c : NodeConfig) : c.exporters.elements.Pairwise Bean.Precedes :=
  c.exporters.ascending.imp Bean.compare_eq_lt_iff.mp

/-- Additions of the same beans come to the same, in any order and any number of times. -/
theorem withExporters_congr (c : NodeConfig) {added added' : List Bean}
    (h : ∀ b, b ∈ added' ↔ b ∈ added) :
    added'.foldl withExporter c = added.foldl withExporter c := by
  have he : added'.foldl (fun s b => s.insert b) c.exporters =
      added.foldl (fun s b => s.insert b) c.exporters :=
    SortedSet.eq_of_mem_iff fun b => by
      rw [SortedSet.mem_foldl_insert_iff, SortedSet.mem_foldl_insert_iff, h]
  rw [withExporters_eq, withExporters_eq, he]

/-- Beans are one, as values and as exporters, when their classes are and their properties
are bound to the same values in the end; then so are their texts, which list these values.
The exporters of a configuration are enumerated in the lexicographic order of beans,
whatever was added, and are the old ones and the added ones. -/
theorem exporters_canonical :
    (∀ className properties className' properties',
      let a := Bean.ofProperties className properties
      let b := Bean.ofProperties className' properties'
      let same := className = className' ∧ SameBindings properties properties'
      (a = b ↔ same) ∧
      (∀ c : NodeConfig, (c.withExporter a).withExporter b = c.withExporter a ↔
        same ∨ b ∈ c.exporters.elements) ∧
      (same → a.text = b.text) ∧
      Bean.Lists className properties a.text) ∧
    ∀ (c : NodeConfig) (added : List Bean),
      let after := added.foldl withExporter c
      after.exporters.elements.Pairwise Bean.Precedes ∧
      (∀ b, b ∈ after.exporters.elements ↔ b ∈ c.exporters.elements ∨ b ∈ added) ∧
      ∀ added' : List Bean, (∀ b, b ∈ added' ↔ b ∈ added) →
        added'.foldl withExporter c = after := by
  constructor
  · intro className properties className' properties' a b same
    have hab : a = b ↔ same := Bean.ofProperties_eq_iff
    refine ⟨hab, fun c => ?_, fun h => ?_, Bean.lists_text className properties⟩
    · rw [withExporter_eq_self_iff, mem_withExporter_iff, eq_comm, hab]
    · rw [hab.mpr h]
  · intro c added after
    exact ⟨pairwise_precedes after, fun b => mem_withExporters_iff,
      fun added' h => withExporters_congr c h⟩

/-- One bean written in two ways, the first of which sets a property twice, and another whose
properties are a part of its properties. -/
theorem exporters_canonical_overwritten :
    let overwritten := Bean.ofProperties "X" [("b", "1"), ("a", "2"), ("b", "3")]
    let direct := Bean.ofProperties "X" [("a", "2"), ("b", "3")]
    let part := Bean.ofProperties "X" [("a", "2")]
    overwritten = direct ∧ overwritten.text = direct.text ∧ part ≠ direct ∧
      (server.withExporter part).withExporter direct ≠ server.withExporter part ∧
      Bean.Precedes part direct ∧
      (∀ b, b ∈ ([overwritten, part].foldl withExporter server).exporters.elements ↔
        b ∈ server.exporters.elements ∨ b ∈ [overwritten, part]) ∧
      [part, direct, part].foldl withExporter server =
        [overwritten, part].foldl withExporter server := by
  intro overwritten direct part
  obtain ⟨hbeans, hconfigs⟩ := exporters_canonical
  obtain ⟨heq, -, htext, -⟩ :=
    hbeans "X" [("b", "1"), ("a", "2"), ("b", "3")] "X" [("a", "2"), ("b", "3")]
  obtain ⟨hpart, hadd, -, -⟩ := hbeans "X" [("a", "2")] "X" [("a", "2"), ("b", "3")]
  obtain ⟨hsorted, hmem, hcongr⟩ := hconfigs server [overwritten, part]
  have hod : overwritten = direct := by decide
  have hne : part ≠ direct := by decide
  have hnew : direct ∉ server.exporters.elements := List.not_mem_nil
  refine ⟨hod, htext (heq.mp hod), hne, ?_, ?_, hmem, ?_⟩
  · rw [ne_eq, hadd, ← hpart]
    exact not_or_intro hne hnew
  · have he : ([overwritten, part].foldl withExporter server).exporters.elements =
        [part, direct] := by decide
    rw [he] at hsorted
    exact (List.pairwise_cons.mp hsorted).1 direct List.mem_cons_self
  · refine hcongr _ fun b => ?_
    rw [hod]
    simp only [List.mem_cons, List.not_mem_nil, or_false]
    tauto

end NodeConfig
end ClusterRig
