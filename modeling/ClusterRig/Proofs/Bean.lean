import ClusterRig.Proofs.SortedMap
import ClusterRig.Proofs.Text.Utf8

/-!
# Identity of beans

When two beans are one, which of two comes first, and what their texts list. Main statements:
beans are one when their classes are and each property that is set in the end has one value
in both, the comparison of beans is the lexicographic order of their texts, and the text of
a bean lists each property that was set once, with its last value.
-/

namespace ClusterRig

/-- Lexicographic comparison is the lexicographic order of the elements. -/
theorem compareLex_eq_lt_iff {α : Type} {cmp : α → α → Ordering} [Std.LawfulEqCmp cmp]
    {l m : List α} : List.compareLex cmp l m = .lt ↔ List.Lex (fun a b => cmp a b = .lt) l m := by
  induction l generalizing m with
  | nil => cases m <;> simp [List.compareLex_nil_nil, List.compareLex_nil_cons]
  | cons a l ih =>
    cases m with
    | nil => simp [List.compareLex_cons_nil]
    | cons b m =>
      rw [List.compareLex_cons_cons, Ordering.then_eq_lt, List.cons_lex_cons_iff, ih,
        Std.LawfulEqCmp.compare_eq_iff_eq]

/-- The order of texts by their bytes. -/
def Bytewise (s t : String) : Prop := Text.Utf8.encode s < Text.Utf8.encode t

theorem compare_eq_lt_iff_bytewise {s t : String} : compare s t = .lt ↔ Bytewise s t := by
  rw [Bytewise, Text.Utf8.encode_lt_encode_iff]
  exact compareOfLessAndEq_eq_lt

theorem SortedMap.pairwise_bytewise {α : Type} (m : SortedMap α) :
    m.entries.Pairwise fun p q => Bytewise p.1 q.1 :=
  m.ascending.imp compare_eq_lt_iff_bytewise.mp

/-- Each name is set in neither sequence, or in both, to one value in the end. -/
def SameBindings (properties properties' : List (String × String)) : Prop :=
  ∀ name, (name ∉ properties.map Prod.fst ∧ name ∉ properties'.map Prod.fst) ∨
    ∃ value, LastOf Prod.fst properties (name, value) ∧ LastOf Prod.fst properties' (name, value)

theorem sameBindings_iff {properties properties' : List (String × String)} :
    SameBindings properties properties' ↔
      SortedMap.ofList properties = SortedMap.ofList properties' := by
  simp only [SameBindings, ← SortedMap.get?_ofList_eq_none_iff, ← SortedMap.get?_ofList_eq_some_iff]
  constructor
  · intro h
    refine SortedMap.ext_get? fun name => ?_
    rcases h name with ⟨hn, hn'⟩ | ⟨value, hv, hv'⟩
    · rw [hn, hn']
    · rw [hv, hv']
  · intro h name
    rw [← h, and_self]
    cases (SortedMap.ofList properties).get? name with
    | none => exact .inl rfl
    | some value => exact .inr ⟨value, rfl, rfl⟩

namespace Bean

variable {className className' : String} {properties properties' : List (String × String)}

theorem ofProperties_eq (className : String) (properties : List (String × String)) :
    ofProperties className properties = ⟨className, SortedMap.ofList properties⟩ := by
  induction properties using List.reverseRecOn with
  | nil => rfl
  | append_singleton properties p ih =>
    rw [SortedMap.ofList_concat, ofProperties, List.foldl_concat, ← ofProperties, ih]
    rfl

theorem ofProperties_eq_iff :
    ofProperties className properties = ofProperties className' properties' ↔
      className = className' ∧ SameBindings properties properties' := by
  rw [ofProperties_eq, ofProperties_eq, mk.injEq, sameBindings_iff]

/-- Beans by their classes, and those of one class by their properties, which are in ascending
order themselves and are compared by name and then by value. -/
def Precedes (a b : Bean) : Prop :=
  Prod.Lex Bytewise (List.Lex (Prod.Lex Bytewise Bytewise))
    (a.className, a.properties.entries) (b.className, b.properties.entries)

theorem compareProperty_eq_lt_iff {p q : String × String} :
    compareProperty p q = .lt ↔ Prod.Lex Bytewise Bytewise p q := by
  rw [compareProperty, compareLex, Ordering.then_eq_lt, Prod.lex_def]
  simp only [compareOn, compare_eq_lt_iff_bytewise, Std.LawfulEqOrd.compare_eq_iff_eq]

theorem compare_eq_lt_iff {a b : Bean} : compare a b = .lt ↔ Precedes a b := by
  rw [compare, compareLex, Ordering.then_eq_lt, Precedes, Prod.lex_def, compareProperties,
    compareLex_eq_lt_iff]
  simp only [compareOn, compare_eq_lt_iff_bytewise, compareProperty_eq_lt_iff,
    Std.LawfulEqOrd.compare_eq_iff_eq]

/-- The text lists each name that is set once, by their bytes, with its last value. -/
def Lists (className : String) (properties : List (String × String)) (text : String) : Prop :=
  ∃ entries : List (String × String), entries.Pairwise (fun p q => Bytewise p.1 q.1) ∧
    (∀ p, p ∈ entries ↔ LastOf Prod.fst properties p) ∧
    text = className ++ "(" ++ ", ".intercalate (entries.map fun p => p.1 ++ "=" ++ p.2) ++ ")"

theorem lists_text (className : String) (properties : List (String × String)) :
    Lists className properties (ofProperties className properties).text := by
  rw [ofProperties_eq]
  refine ⟨_, SortedMap.pairwise_bytewise _, fun p => ?_, rfl⟩
  rw [← SortedMap.get?_ofList_eq_some_iff, SortedMap.get?,
    Ascending.lookup_eq_some_iff (SortedMap.ascending _)]

end Bean
end ClusterRig
