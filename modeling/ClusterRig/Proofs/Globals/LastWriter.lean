import ClusterRig.Globals.Source
import ClusterRig.Proofs.LastOf
import ClusterRig.Proofs.Settings.Input
import ClusterRig.Proofs.Tree.Merge

/-!
# The last writer of a path

Layers of globals are laid over each other, the later ones above. What stands at a
path in the end was put there by one layer, and no later layer has touched it: none
has a value there or cuts the path off. Main statement: this holds for the globals
read from sources and for those of the snippets of the settings.
-/

namespace ClusterRig
namespace Globals

/-- What stands at each path was written by the last layer that concerns it. A layer
touches a leaf by any value at its path, and an object only by a leaf; both are touched
by a leaf above them. -/
structure LastWriter (layers : List Globals) (r : Globals) : Prop where
  leaf : ∀ path v, ¬ v.IsObject → (r.lookup path = some v ↔
    LastWith (fun g => g.lookup path = some v)
      (fun g => g.lookup path = none ∧ ∀ q, q <+: path → q ≠ path → ¬ g.root.LeafAt q) layers)
  object : ∀ path, (∃ v, r.lookup path = some v ∧ v.IsObject) ↔
    LastWith (fun g => ∃ v, g.lookup path = some v ∧ v.IsObject)
      (fun g => ∀ q, q <+: path → ¬ g.root.LeafAt q) layers

/-- One layer more: it writes itself, or leaves what those below have written. -/
theorem LastWriter.merge {layers : List Globals} {r : Globals} (h : LastWriter layers r)
    (g : Globals) : LastWriter (layers ++ [g]) (r.merge g) where
  leaf path v hv := by
    rw [LastWith.concat_iff, ← h.leaf path v hv]
    exact Tree.lookup_merge_leaf g.canonical hv path
  object path := by
    rw [LastWith.concat_iff, ← h.object path]
    exact Tree.objectAt_merge g.canonical path

theorem lastWriter_singleton (g : Globals) : LastWriter [g] g where
  leaf _ _ _ := by rw [LastWith.singleton_iff]
  object _ := by rw [LastWith.singleton_iff]

theorem lastWriter_mergeAll (g : Globals) (layers : List Globals) :
    LastWriter (g :: layers) (g.mergeAll layers) := by
  suffices h : ∀ below r, LastWriter below r →
      LastWriter (below ++ layers) (r.mergeAll layers) from h [g] g (lastWriter_singleton g)
  induction layers with
  | nil => simp [mergeAll]
  | cons u layers ih =>
    intro below r hr
    simpa [mergeAll] using ih (below ++ [u]) (r.merge u) (hr.merge u)

/-- What reading a source comes to: the text of the regular file that it names, or where
there is none the source itself, read as JSON. -/
inductive Reads (fs : FileSystem) (source : String) : Except Failure Globals → Prop
  | inline : fs.isFile source = false → Reads fs source (parse source)
  | file {content : List UInt8} {text : List Char} : fs.file? source = some content →
      Text.Utf8.decode? content = some text → Reads fs source (parse (String.ofList text))
  | unreadable {content : List UInt8} : fs.file? source = some content →
      Text.Utf8.decode? content = none → Reads fs source (.error (.globalsUnreadable source))
  | locked : fs.isFile source = true → fs.file? source = none →
      Reads fs source (.error (.globalsUnreadable source))

section sourceText

variable {fs : FileSystem} {source : String} {content : List UInt8}

theorem sourceText_inline (h : fs.isFile source = false) : sourceText fs source = .ok source := by
  simp [sourceText, h]

theorem sourceText_file {text : List Char} (h : fs.file? source = some content)
    (ht : Text.Utf8.decode? content = some text) :
    sourceText fs source = .ok (String.ofList text) := by
  simp [sourceText, FileSystem.isFile_of_file? h, h, ht]

theorem sourceText_unreadable (h : fs.file? source = some content)
    (ht : Text.Utf8.decode? content = none) :
    sourceText fs source = .error (.globalsUnreadable source) := by
  simp [sourceText, FileSystem.isFile_of_file? h, h, ht]

theorem sourceText_locked (h : fs.isFile source = true) (hc : fs.file? source = none) :
    sourceText fs source = .error (.globalsUnreadable source) := by
  simp [sourceText, h, hc]

end sourceText

theorem readSource_of_sourceText {fs : FileSystem} {source text : String}
    (h : sourceText fs source = .ok text) : readSource fs source = parse text := by
  rw [readSource, h]
  rfl

theorem readSource_of_error {fs : FileSystem} {source : String} {e : Failure}
    (h : sourceText fs source = .error e) : readSource fs source = .error e := by
  rw [readSource, h]
  rfl

theorem reads_iff {fs : FileSystem} {source : String} {r : Except Failure Globals} :
    Reads fs source r ↔ readSource fs source = r := by
  constructor
  · rintro (h | ⟨h, ht⟩ | ⟨h, ht⟩ | ⟨h, hc⟩)
    · exact readSource_of_sourceText (sourceText_inline h)
    · exact readSource_of_sourceText (sourceText_file h ht)
    · exact readSource_of_error (sourceText_unreadable h ht)
    · exact readSource_of_error (sourceText_locked h hc)
  · rintro rfl
    cases h : fs.isFile source with
    | false =>
      rw [readSource_of_sourceText (sourceText_inline h)]
      exact .inline h
    | true =>
      cases hc : fs.file? source with
      | none =>
        rw [readSource_of_error (sourceText_locked h hc)]
        exact .locked h hc
      | some content =>
        cases ht : Text.Utf8.decode? content with
        | none =>
          rw [readSource_of_error (sourceText_unreadable hc ht)]
          exact .unreadable hc ht
        | some text =>
          rw [readSource_of_sourceText (sourceText_file hc ht)]
          exact .file hc ht

theorem read_eq (fs : FileSystem) (sources : List String) :
    read fs sources = (sources.mapM (readSource fs)).map empty.mergeAll :=
  FirstFailure.foldlM_map (readSource fs) merge sources empty

/-- The globals of sources that can all be read have at each path what the last layer that
concerns it has put there, above no settings at all; otherwise the first source that
cannot be read gives the failure. The globals of snippets follow the same law. -/
theorem read_lastWriter (fs : FileSystem) :
    (∀ sources layers, List.Forall₂ (fun s g => Reads fs s (.ok g)) sources layers →
      ∃ r, read fs sources = .ok r ∧ LastWriter (empty :: layers) r) ∧
    (∀ sources e, read fs sources = .error e ↔
      ∃ before source after, sources = before ++ source :: after ∧
        (∀ s ∈ before, ∃ g, Reads fs s (.ok g)) ∧ Reads fs source (.error e)) ∧
    ∀ snippets : List Snippet,
      LastWriter (empty :: snippets.filterMap Snippet.globals) (Settings.globalsOf snippets) ∧
      ∀ s, Settings.ofSnippets snippets = .ok s → s.globals = Settings.globalsOf snippets := by
  refine ⟨?_, ?_, fun snippets => ⟨lastWriter_mergeAll _ _, ?_⟩⟩
  · intro sources layers h
    simp only [reads_iff] at h
    refine ⟨empty.mergeAll layers, ?_, lastWriter_mergeAll empty layers⟩
    rw [read_eq, FirstFailure.mapM_eq_ok_iff.mpr h]
    rfl
  · intro sources e
    simp only [read_eq, FirstFailure.map_eq_error_iff, FirstFailure.mapM_eq_error_iff, reads_iff]
  · intro s h
    obtain ⟨nodes, -, rfl⟩ := Settings.ofSnippets_eq_ok_iff.mp h
    rfl

/-- A value of a file that one source replaces and the next one replaces again. -/
theorem read_lastWriter_overridden :
    let fs := FileSystem.ofList [("base", .file (Text.Utf8.encode "\x7b\"a\":\x7b\"b\":1\x7d\x7d"))]
    let sources := ["base", "\x7b\"a\":5\x7d", "\x7b\"a\":\x7b\"c\":null\x7d\x7d"]
    let layers := [ofTree (.object [("a", .object [("b", .number (.natural 1))])]),
      ofTree (.object [("a", .number (.natural 5))]),
      ofTree (.object [("a", .object [("c", .null)])])]
    List.Forall₂ (fun s g => Reads fs s (.ok g)) sources layers ∧
      ∃ r, read fs sources = .ok r ∧ LastWriter (empty :: layers) r := by
  intro fs sources layers
  have h : List.Forall₂ (fun s g => Reads fs s (.ok g)) sources layers := by
    simp only [reads_iff]
    refine .cons ?_ (.cons ?_ (.cons ?_ .nil))
    · decide +kernel
    · decide +kernel
    · decide +kernel
  exact ⟨h, (read_lastWriter fs).1 sources layers h⟩

end Globals
end ClusterRig
