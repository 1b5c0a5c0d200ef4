import ClusterRig.Proofs.Globals.Regroup
import ClusterRig.Proofs.Settings.Nodes
import ClusterRig.Proofs.Sorted
import ClusterRig.Proofs.Text.Utf8
import ClusterRig.Settings.Source

/-!
# Which snippets are read, and how they count

The snippets of a directory are the regular files with a stem and the extension `toml`,
by the bytes of their names; in which order the directory lists them makes no difference.
Main statement: `read_selected` finds the files that are read and what reading them comes
to. The first directory that cannot be listed or file that is no snippet is the failure,
whatever stands in those before it; otherwise the nodes decide, and of accepted settings
each part is the one given last.
-/

namespace ClusterRig
namespace Settings

/-- The directory lists a regular file of this name, a stem with the extension `toml`. -/
structure Offers (fs : FileSystem) (directory name : String) : Prop where
  listed : ∃ names, fs.directory? directory = some names ∧ name ∈ names
  toml : ∃ stem, stem ≠ "" ∧ name = stem ++ ".toml"
  regular : fs.isFile (FileSystem.join directory name) = true

/-- There is a directory, and it cannot be listed to its end. -/
inductive Unlisted (fs : FileSystem) (directory : String) : Failure → Prop
  | locked (h : fs.entry? directory = some .lockedDirectory) :
      Unlisted fs directory (.directoryUnreadable directory)
  | broken (h : fs.entry? directory = some .brokenDirectory) :
      Unlisted fs directory .directoryEntryUnreadable

/-- What a directory gives to read: the paths of all its snippets, by the bytes of their
names, or the failure of listing it. -/
inductive Selects (fs : FileSystem) (directory : String) : List (Except Failure String) → Prop
  | snippets (names : List String) (listed : ∀ f, ¬ Unlisted fs directory f)
      (members : ∀ name, name ∈ names ↔ Offers fs directory name)
      (order : names.Pairwise fun a b => Text.Utf8.encode a < Text.Utf8.encode b) :
      Selects fs directory (names.map fun name => .ok (FileSystem.join directory name))
  | failure {f : Failure} (h : Unlisted fs directory f) : Selects fs directory [.error f]

/-- There is a file to read, and it holds this snippet. -/
def Holds (fs : FileSystem) (item : Except Failure String) (s : Snippet) : Prop :=
  ∃ path content, item = .ok path ∧ fs.file? path = some content ∧
    Snippet.ofBytes? content = some s

/-- What is to be read cannot be: it was never listed, cannot be opened, or is no snippet. -/
inductive Broken (fs : FileSystem) : Except Failure String → Failure → Prop
  | unlisted (f : Failure) : Broken fs (.error f) f
  | unreadable {path : String} (h : fs.file? path = none) :
      Broken fs (.ok path) (.snippetUnreadable path)
  | malformed {path : String} {content : List UInt8} (h : fs.file? path = some content)
      (hs : Snippet.ofBytes? content = none) : Broken fs (.ok path) (.snippetMalformed path)

/-- What the last snippet that gives the part gives for it, if there is one. -/
inductive GivenLast {α : Type} (part : Snippet → Option α) (ss : List Snippet) : Option α → Prop
  | never (absent : ∀ s ∈ ss, part s = none) : GivenLast part ss none
  | given (before : List Snippet) (s : Snippet) (after : List Snippet) (a : α)
      (ss_eq : ss = before ++ s :: after) (gives : part s = some a)
      (last : ∀ t ∈ after, part t = none) : GivenLast part ss (some a)

/-- The settings that come out of snippets: the command given last counts unless it is
empty, and the globals are laid over each other, each of them one layer. -/
structure Overrides (ss : List Snippet) (s : Settings) : Prop where
  command : ∃ given, GivenLast (fun t => t.session.bind SessionSnippet.command) ss given ∧
    s.session.command = if given.getD [] = [] then defaultCommand else given.getD []
  remoteShell : ∃ given, GivenLast (fun t => t.session.bind SessionSnippet.remoteShell) ss given ∧
    s.session.remoteShell = given.getD []
  globals : s.globals = (ss.filterMap Snippet.globals).foldl Globals.merge Globals.empty
  replaced : ∀ before layer, ss.filterMap Snippet.globals = before ++ [layer] →
    ¬ layer.root.IsObject → s.globals = layer

/-- What reading comes to: the first thing that cannot be read is the failure, or else a node
is, or else there are settings. -/
inductive ReadOutcome (fs : FileSystem) (items : List (Except Failure String))
    (r : Except Failure Settings) : Prop
  | broken (before : List (Except Failure String)) (item : Except Failure String)
      (after : List (Except Failure String)) (f : Failure)
      (items_eq : items = before ++ item :: after) (readable : ∀ i ∈ before, ∃ s, Holds fs i s)
      (broken : Broken fs item f) (failure : r = .error f)
  | rejected (ss : List Snippet) (holds : List.Forall₂ (Holds fs) items ss) (invalid : ¬ Valid ss)
      (failure : r = .error .nodeUnnamed ∨ ∃ name, r = .error (.nodeWithoutTarget name))
  | accepted (ss : List Snippet) (s : Settings) (holds : List.Forall₂ (Holds fs) items ss)
      (valid : Valid ss) (result : r = .ok s) (overrides : Overrides ss s)

theorem isSnippetName_iff {name : String} :
    isSnippetName name = true ↔ ∃ stem, stem ≠ "" ∧ name = stem ++ ".toml" := by
  simp only [isSnippetName, Bool.and_eq_true, bne_iff_ne, String.endsWith_eq_endsWith_toSlice,
    String.Slice.endsWith_string_iff, String.copy_toSlice]
  constructor
  · rintro ⟨⟨stem, h⟩, hne⟩
    have hname : name = String.ofList stem ++ ".toml" :=
      String.ext (by rw [String.toList_append, String.toList_ofList, h])
    refine ⟨String.ofList stem, fun hs => hne ?_, hname⟩
    rw [hname, hs]
    rfl
  · rintro ⟨stem, hs, rfl⟩
    rw [String.toList_append]
    refine ⟨⟨stem.toList, rfl⟩, fun h => hs ?_⟩
    simpa using congrArg String.toList h

/-- The names of the snippets in a directory. -/
def snippetNames (fs : FileSystem) (directory : String) : List String :=
  (SortedSet.ofList (((fs.directory? directory).getD []).filter isSnippetName) :
    SortedSet (α := String) compare).elements.filter fun name =>
      fs.isFile (FileSystem.join directory name)

theorem ascending_snippetNames (fs : FileSystem) (directory : String) :
    Ascending compare (snippetNames fs directory) :=
  (SortedSet.ascending _).filter _

theorem mem_snippetNames_iff {fs : FileSystem} {directory name : String} :
    name ∈ snippetNames fs directory ↔ Offers fs directory name := by
  rw [snippetNames, List.mem_filter, SortedSet.mem_ofList_iff, List.mem_filter, isSnippetName_iff]
  constructor
  · rintro ⟨⟨hlisted, htoml⟩, hregular⟩
    refine ⟨?_, htoml, hregular⟩
    cases hd : fs.directory? directory with
    | none => simp [hd] at hlisted
    | some names => exact ⟨names, rfl, by simpa [hd] using hlisted⟩
  · rintro ⟨⟨names, hd, hn⟩, htoml, hregular⟩
    exact ⟨⟨by simpa [hd] using hn, htoml⟩, hregular⟩

theorem unlisted_iff {fs : FileSystem} {directory : String} {f : Failure} :
    Unlisted fs directory f ↔ listed fs directory = .error f := by
  unfold listed
  constructor
  · rintro (h | h)
    · rw [h]
    · rw [h]
  · intro h
    split at h
    · cases h
    next he =>
      obtain rfl := Except.error.inj h
      exact .locked he
    next he =>
      obtain rfl := Except.error.inj h
      exact .broken he
    · cases h

/-- What can be listed has the names in the directory, and none if there is none. -/
theorem listed_eq_of_ok {fs : FileSystem} {directory : String} {names : List String}
    (h : listed fs directory = .ok names) : names = (fs.directory? directory).getD [] := by
  unfold listed at h
  unfold FileSystem.directory?
  split at h
  next he =>
    obtain rfl := Except.ok.inj h
    rw [he]
    rfl
  · cases h
  · cases h
  next hd _ _ =>
    obtain rfl := Except.ok.inj h
    split
    next he => exact absurd he (hd _)
    · rfl

/-- What a directory gives to read. -/
def itemsOf (fs : FileSystem) (directory : String) : List (Except Failure String) :=
  match listed fs directory with
  | .ok names => (pathsOf fs directory names).map .ok
  | .error f => [.error f]

theorem itemsOf_of_ok {fs : FileSystem} {directory : String} {names : List String}
    (h : listed fs directory = .ok names) : itemsOf fs directory =
      (snippetNames fs directory).map fun name => .ok (FileSystem.join directory name) := by
  have hp : pathsOf fs directory names =
      (snippetNames fs directory).map (FileSystem.join directory) := by
    rw [listed_eq_of_ok h]
    exact List.filter_map
  rw [itemsOf, h]
  simp only [hp, List.map_map]
  rfl

theorem itemsOf_of_error {fs : FileSystem} {directory : String} {f : Failure}
    (h : listed fs directory = .error f) : itemsOf fs directory = [.error f] := by
  rw [itemsOf, h]

theorem selects_itemsOf (fs : FileSystem) (directory : String) :
    Selects fs directory (itemsOf fs directory) := by
  cases h : listed fs directory with
  | error f =>
    rw [itemsOf_of_error h]
    exact .failure (unlisted_iff.mpr h)
  | ok names =>
    rw [itemsOf_of_ok h]
    refine .snippets _ ?_ (fun _ => mem_snippetNames_iff) ?_
    · intro f hf
      rw [unlisted_iff, h] at hf
      cases hf
    · refine (ascending_snippetNames fs directory).imp fun h => ?_
      exact Text.Utf8.lex_encode (compareOfLessAndEq_eq_lt.mp h)

/-- What a directory offers determines what it gives to read, in whatever order it lists it. -/
theorem itemsOf_congr {fs fs' : FileSystem} {directory : String}
    (hoffers : ∀ name, Offers fs' directory name ↔ Offers fs directory name)
    (hlisted : ∀ f, Unlisted fs' directory f ↔ Unlisted fs directory f) :
    itemsOf fs' directory = itemsOf fs directory := by
  have hn : snippetNames fs' directory = snippetNames fs directory :=
    Ascending.eq_of_mem_iff (ascending_snippetNames fs' directory)
      (ascending_snippetNames fs directory)
      fun name => by rw [mem_snippetNames_iff, mem_snippetNames_iff, hoffers]
  simp only [unlisted_iff] at hlisted
  cases h : listed fs directory with
  | error f => rw [itemsOf_of_error h, itemsOf_of_error ((hlisted f).mpr h)]
  | ok names =>
    cases h' : listed fs' directory with
    | error f =>
      rw [(hlisted f).mp h'] at h
      cases h
    | ok names' => rw [itemsOf_of_ok h, itemsOf_of_ok h', hn]

/-- Read one thing that a directory gives. -/
def readItem (fs : FileSystem) (item : Except Failure String) : Except Failure Snippet :=
  item >>= readSnippet fs

theorem readItem_eq_ok_iff {fs : FileSystem} {item : Except Failure String} {s : Snippet} :
    readItem fs item = .ok s ↔ Holds fs item s := by
  rw [readItem, FirstFailure.bind_eq_ok_iff]
  unfold readSnippet Holds
  refine exists_congr fun path => ?_
  rw [exists_and_left]
  refine and_congr_right fun _ => ?_
  cases fs.file? path with
  | none => simp
  | some content => cases h : Snippet.ofBytes? content <;> simp [h]

theorem readItem_eq_error_iff {fs : FileSystem} {item : Except Failure String} {f : Failure} :
    readItem fs item = .error f ↔ Broken fs item f := by
  rw [readItem, FirstFailure.bind_eq_error_iff]
  constructor
  · rintro (rfl | ⟨path, rfl, h⟩)
    · exact .unlisted f
    · unfold readSnippet at h
      split at h
      next hc =>
        obtain rfl := Except.error.inj h
        exact .unreadable hc
      next content hc =>
        split at h
        · cases h
        next hs =>
          obtain rfl := Except.error.inj h
          exact .malformed hc hs
  · rintro (_ | hc | ⟨hc, hs⟩)
    · exact .inl rfl
    · exact .inr ⟨_, rfl, by simp [readSnippet, hc]⟩
    · exact .inr ⟨_, rfl, by simp [readSnippet, hc, hs]⟩

/-- Directories are listed and read in turn, which is to read what they give from first to
last. -/
theorem snippets_eq (fs : FileSystem) (directories : List String) :
    snippets fs directories = (directories.flatMap (itemsOf fs)).mapM (readItem fs) := by
  have hone : ∀ directory, snippetsOf fs directory = (itemsOf fs directory).mapM (readItem fs) := by
    intro directory
    unfold snippetsOf itemsOf
    cases listed fs directory with
    | error f => rfl
    | ok names =>
      change List.mapM _ _ = _
      rw [List.mapM_map]
      rfl
  unfold snippets
  rw [funext hone, FirstFailure.mapM_flatMap]

theorem givenLast_lastGiven {α : Type} (part : Snippet → Option α) (ss : List Snippet) :
    GivenLast part ss (lastGiven part ss) := by
  cases h : lastGiven part ss with
  | none => exact .never (List.filterMap_eq_nil_iff.mp (List.getLast?_eq_none_iff.mp h))
  | some a =>
    obtain ⟨as, has⟩ := List.getLast?_eq_some_iff.mp h
    obtain ⟨before, rest, rfl, -, hrest⟩ := List.filterMap_eq_append_iff.mp has
    obtain ⟨between, s, after, rfl, -, hs, hafter⟩ := List.filterMap_eq_cons_iff.mp hrest
    exact .given (before ++ between) s after a (by simp) hs (List.filterMap_eq_nil_iff.mp hafter)

theorem globalsOf_replaced {ss : List Snippet} {before : List Globals} {layer : Globals}
    (h : ss.filterMap Snippet.globals = before ++ [layer]) (ho : ¬ layer.root.IsObject) :
    globalsOf ss = layer := by
  have hroot : (globalsOf ss).root = layer.root := by
    rw [globalsOf, h, Globals.mergeAll, List.foldl_append]
    exact Tree.merge_of_not_isObject _ ho
  exact Globals.eq_of_root_eq hroot

theorem overrides_ofSnippets {ss : List Snippet} {s : Settings} (h : ofSnippets ss = .ok s) :
    Overrides ss s := by
  obtain ⟨nodes, -, rfl⟩ := ofSnippets_eq_ok_iff.mp h
  exact {
    command := ⟨_, givenLast_lastGiven _ ss, commandOf_eq ss⟩
    remoteShell := ⟨_, givenLast_lastGiven _ ss, rfl⟩
    globals := rfl
    replaced := fun _ _ => globalsOf_replaced }

theorem readOutcome_read (fs : FileSystem) (directories : List String) :
    ReadOutcome fs (directories.flatMap (itemsOf fs)) (read fs directories) := by
  have hall := snippets_eq fs directories
  cases hss : snippets fs directories with
  | error f =>
    rw [hss] at hall
    obtain ⟨before, item, after, hitems, hbefore, hitem⟩ :=
      FirstFailure.mapM_eq_error_iff.mp hall.symm
    simp only [readItem_eq_ok_iff] at hbefore
    refine .broken before item after f hitems hbefore (readItem_eq_error_iff.mp hitem) ?_
    rw [read, hss]
    rfl
  | ok ss =>
    rw [hss] at hall
    have hholds : List.Forall₂ (Holds fs) (directories.flatMap (itemsOf fs)) ss :=
      (FirstFailure.mapM_eq_ok_iff.mp hall.symm).imp fun _ _ => readItem_eq_ok_iff.mp
    have hread : read fs directories = ofSnippets ss := by
      rw [read, hss]
      rfl
    rw [hread]
    cases hs : ofSnippets ss with
    | ok s =>
      exact .accepted ss s hholds (exists_ofSnippets_eq_ok_iff.mp ⟨s, hs⟩) rfl
        (overrides_ofSnippets hs)
    | error e =>
      have hinvalid : ¬ Valid ss := by
        intro hv
        obtain ⟨s, h⟩ := exists_ofSnippets_eq_ok_iff.mpr hv
        rw [hs] at h
        cases h
      refine .rejected ss hholds hinvalid ?_
      rcases eq_error_of_ofSnippets hs with rfl | ⟨name, rfl⟩
      · exact .inl rfl
      · exact .inr ⟨name, rfl⟩

/-- File systems that offer the same snippets with the same content give the same settings. -/
theorem read_congr {fs fs' : FileSystem} {directories : List String}
    (hitems : ∀ directory ∈ directories, itemsOf fs' directory = itemsOf fs directory)
    (hfile : ∀ path, .ok path ∈ directories.flatMap (itemsOf fs) →
      fs'.file? path = fs.file? path) :
    read fs' directories = read fs directories := by
  have hread : ∀ item ∈ directories.flatMap (itemsOf fs), readItem fs' item = readItem fs item := by
    intro item hi
    cases item with
    | error f => rfl
    | ok path =>
      change readSnippet fs' path = readSnippet fs path
      rw [readSnippet, readSnippet, hfile path hi]
  rw [read, read, snippets_eq, snippets_eq, List.flatMap_congr hitems,
    FirstFailure.mapM_congr hread]

/-- The files that are read are those that the directories offer, one directory after the
other, and what comes of them is decided by these files alone. -/
theorem read_selected (fs : FileSystem) (directories : List String) :
    ∃ chosen, List.Forall₂ (Selects fs) directories chosen ∧
      ReadOutcome fs chosen.flatten (read fs directories) ∧
      ∀ fs', (∀ directory ∈ directories,
          (∀ name, Offers fs' directory name ↔ Offers fs directory name) ∧
          ∀ f, Unlisted fs' directory f ↔ Unlisted fs directory f) →
        (∀ path, .ok path ∈ chosen.flatten → fs'.file? path = fs.file? path) →
        read fs' directories = read fs directories := by
  refine ⟨directories.map (itemsOf fs), ?_, readOutcome_read fs directories, ?_⟩
  · exact List.forall₂_map_right_iff.mpr (List.forall₂_same.mpr fun d _ => selects_itemsOf fs d)
  · intro fs' hsame hfile
    exact read_congr (fun d hd => itemsOf_congr (hsame d hd).1 (hsame d hd).2) hfile

theorem read_selected_relisted :
    let etc (names : List String) (a b : String) := FileSystem.ofList
      [("etc", .directory names), ("etc/a.toml", .file (Text.Utf8.encode a)),
        ("etc/b.toml", .file (Text.Utf8.encode b)), ("etc/c.toml", .lockedFile),
        ("var", .lockedDirectory)]
    let fs := etc ["c.toml", "b.toml", "notes.txt", "a.toml"] "[[nodes]]\nname = \"\"\n" "jmx ="
    let relisted := etc ["a.toml", ".toml", "b.toml", "c.toml"] "[[nodes]]\nname = \"\"\n" "jmx ="
    let emptied := etc ["b.toml", "a.toml"]
      "globals = [1]\n[jmx]\ncommand = [\"a\"]\nremote_shell = [\"b\"]" "[jmx]\ncommand = []"
    (∃ chosen, List.Forall₂ (Selects fs) ["run", "etc", "var"] chosen ∧
      ReadOutcome fs chosen.flatten (read fs ["run", "etc", "var"])) ∧
    read relisted ["run", "etc", "var"] = read fs ["run", "etc", "var"] ∧
    read fs ["run", "etc", "var"] = .error (.snippetMalformed "etc/b.toml") ∧
    read emptied ["run", "etc"] =
      .ok ⟨⟨defaultCommand, ["b"]⟩, [], .ofTree (.array [.number (.natural 1)])⟩ ∧
    read emptied ["etc", "var", "run"] = .error (.directoryUnreadable "var") := by
  intro etc fs relisted emptied
  obtain ⟨chosen, hselects, houtcome, hcongr⟩ := read_selected fs ["run", "etc", "var"]
  refine ⟨⟨chosen, hselects, houtcome⟩, hcongr relisted (fun directory hd => ⟨?_, ?_⟩) ?_,
    by decide +kernel, by decide +kernel, by decide +kernel⟩
  · intro name
    have hn : snippetNames relisted directory = snippetNames fs directory := by
      revert directory
      decide +kernel
    rw [← mem_snippetNames_iff, ← mem_snippetNames_iff, hn]
  · intro f
    simp only [List.mem_cons, List.not_mem_nil, or_false] at hd
    rw [unlisted_iff, unlisted_iff]
    rcases hd with rfl | rfl | rfl
    · rfl
    · constructor
      · intro h
        cases h
      · intro h
        cases h
    · rfl
  · intro path _
    by_cases hp : path = "etc"
    · subst hp
      rfl
    · have hne : (path == "etc") = false := beq_false_of_ne hp
      simp [relisted, fs, etc, FileSystem.file?, FileSystem.ofList, List.lookup_cons, hne]

end Settings
end ClusterRig
