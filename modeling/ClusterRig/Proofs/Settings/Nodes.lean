import ClusterRig.Proofs.FirstOfEach
import ClusterRig.Proofs.LastOf
import ClusterRig.Proofs.Settings.Input

/-!
# The nodes of the settings

Which nodes come out of the snippets. Their names are those of the snippets, each once
and in the order in which they first occur; the node of a name is the one that the last
snippet with that name gives. Main statement: settings are refused for the first of these
nodes that lacks a name or a target, and settings that are accepted have just these nodes.
-/

namespace ClusterRig
namespace Settings

/-- What the snippets say about nodes, in order. -/
def nodeSnippets (ss : List Snippet) : List NodeSnippet := ss.flatMap fun s => s.nodes.getD []

/-- The nodes that are left when each is put in its place. -/
def placeAll (given : List NodeSnippet) : List Node :=
  given.foldl (fun nodes x => place x.node nodes) []

/-- The nodes have distinct names, in the order in which these are first given, and each node
is all that the last snippet of its name says. -/
structure Merges (given : List NodeSnippet) (nodes : List Node) : Prop where
  distinct : (nodes.map Node.name).Nodup
  order : ∀ before n after, nodes = before ++ n :: after →
    ∃ earlier x later, given = earlier ++ x :: later ∧ x.name = n.name ∧
      ∀ name, (∃ m ∈ before, m.name = name) ↔ ∃ y ∈ earlier, y.name = name
  whole : ∀ n, n ∈ nodes ↔ ∃ earlier x later, given = earlier ++ x :: later ∧
    (∀ y ∈ later, y.name ≠ x.name) ∧ n = ⟨x.name, x.host.getD "", x.target.getD ""⟩

/-- What a node is refused for: first that it has no name, and then that it has no target. -/
inductive Refused (n : Node) : Failure → Prop
  | unnamed (name : n.name = "") : Refused n .nodeUnnamed
  | untargeted (name : n.name ≠ "") (target : n.target = "") :
      Refused n (.nodeWithoutTarget n.name)

theorem nodesOf_eq (ss : List Snippet) : nodesOf ss = placeAll (nodeSnippets ss) := rfl

theorem placeAll_concat (given : List NodeSnippet) (x : NodeSnippet) :
    placeAll (given ++ [x]) = place x.node (placeAll given) := by
  rw [placeAll, List.foldl_append]
  rfl

theorem map_name_place (n : Node) (nodes : List Node) :
    (place n nodes).map Node.name =
      nodes.map Node.name ++ if n.name ∈ nodes.map Node.name then [] else [n.name] := by
  induction nodes with
  | nil => simp [place]
  | cons m rest ih =>
    rw [place]
    split
    next h => simp [h]
    next h => simp [ih, Ne.symm h]

theorem mem_place_iff {n m : Node} {nodes : List Node} (h : (nodes.map Node.name).Nodup) :
    m ∈ place n nodes ↔ m = n ∨ m ∈ nodes ∧ m.name ≠ n.name := by
  induction nodes with
  | nil => simp [place]
  | cons k rest ih =>
    obtain ⟨hk, hrest⟩ := List.nodup_cons.mp h
    rw [place]
    split
    next hn =>
      have hne : ∀ x ∈ rest, x.name ≠ n.name := fun x hx hxn =>
        hk (List.mem_map.mpr ⟨x, hx, hxn.trans hn.symm⟩)
      constructor
      · rintro (_ | ⟨_, hm⟩)
        · exact .inl rfl
        · exact .inr ⟨List.mem_cons_of_mem _ hm, hne m hm⟩
      · rintro (rfl | ⟨hm, hmn⟩)
        · exact List.mem_cons_self
        · rcases List.mem_cons.mp hm with rfl | hm
          · exact absurd hn hmn
          · exact List.mem_cons_of_mem _ hm
    next hn =>
      rw [List.mem_cons, ih hrest, List.mem_cons]
      constructor
      · rintro (rfl | rfl | ⟨hm, hmn⟩)
        · exact .inr ⟨.inl rfl, hn⟩
        · exact .inl rfl
        · exact .inr ⟨.inr hm, hmn⟩
      · rintro (rfl | ⟨rfl | hm, hmn⟩)
        · exact .inr (.inl rfl)
        · exact .inl rfl
        · exact .inr (.inr ⟨hm, hmn⟩)

/-- The names stand in the order in which they first occur. -/
theorem map_name_placeAll (given : List NodeSnippet) :
    (placeAll given).map Node.name = firstOfEach id (given.map NodeSnippet.name) := by
  induction given using List.reverseRecOn with
  | nil => rfl
  | append_singleton given x ih =>
    rw [placeAll_concat, map_name_place, ih, List.map_append, List.map_singleton,
      firstOfEach_concat]
    simp only [mem_firstOfEach_id_iff, NodeSnippet.node, List.map_id, id_eq]

theorem nodup_name_placeAll (given : List NodeSnippet) :
    ((placeAll given).map Node.name).Nodup := by
  rw [map_name_placeAll]
  exact nodup_firstOfEach_id _

theorem mem_name_placeAll_iff {given : List NodeSnippet} {name : String} :
    name ∈ (placeAll given).map Node.name ↔ ∃ x ∈ given, x.name = name := by
  rw [map_name_placeAll, mem_firstOfEach_id_iff, List.mem_map]

/-- The node of a name is the one that was given last. -/
theorem mem_placeAll_iff {given : List NodeSnippet} {n : Node} :
    n ∈ placeAll given ↔ ∃ x, LastOf NodeSnippet.name given x ∧ n = x.node := by
  induction given using List.reverseRecOn with
  | nil => simp [placeAll, LastOf.not_nil]
  | append_singleton given x ih =>
    rw [placeAll_concat, mem_place_iff (nodup_name_placeAll given), ih]
    simp only [LastOf.concat_iff]
    constructor
    · rintro (rfl | ⟨⟨y, hy, rfl⟩, hn⟩)
      · exact ⟨x, .inl rfl, rfl⟩
      · exact ⟨y, .inr ⟨hy, Ne.symm hn⟩, rfl⟩
    · rintro ⟨y, rfl | ⟨hy, hn⟩, rfl⟩
      · exact .inl rfl
      · exact .inr ⟨⟨y, hy, rfl⟩, Ne.symm hn⟩

/-- Up to each node those names have been given that stand before it. -/
theorem exists_given_of_placeAll_eq {given : List NodeSnippet} {before after : List Node}
    {n : Node} (h : placeAll given = before ++ n :: after) :
    ∃ earlier x later, given = earlier ++ x :: later ∧ x.name = n.name ∧
      ∀ name, (∃ m ∈ before, m.name = name) ↔ ∃ y ∈ earlier, y.name = name := by
  have hnames : firstOfEach id (given.map NodeSnippet.name) =
      before.map Node.name ++ n.name :: after.map Node.name := by
    rw [← map_name_placeAll, h, List.map_append, List.map_cons]
  obtain ⟨names, rest, hgiven, hbefore⟩ := exists_of_firstOfEach_eq hnames
  obtain ⟨earlier, tail, rfl, rfl, htail⟩ := List.map_eq_append_iff.mp hgiven
  obtain ⟨x, later, rfl, hx, -⟩ := List.map_eq_cons_iff.mp htail
  refine ⟨earlier, x, later, rfl, hx, fun name => ?_⟩
  have hmem : name ∈ before.map Node.name ↔ name ∈ earlier.map NodeSnippet.name := by
    rw [← hbefore, mem_firstOfEach_id_iff]
  simpa using hmem

theorem merges_placeAll (given : List NodeSnippet) : Merges given (placeAll given) := by
  refine ⟨nodup_name_placeAll given, fun _ _ _ => exists_given_of_placeAll_eq, fun n => ?_⟩
  rw [mem_placeAll_iff]
  constructor
  · rintro ⟨x, ⟨earlier, later, hgiven, hlater⟩, rfl⟩
    exact ⟨earlier, x, later, hgiven, hlater, rfl⟩
  · rintro ⟨earlier, x, later, hgiven, hlater, rfl⟩
    exact ⟨x, ⟨earlier, later, hgiven, hlater⟩, rfl⟩

/-- Of a snippet that a later one replaces nothing but the name counts. -/
theorem placeAll_congr_replaced {before after : List NodeSnippet} {x y : NodeSnippet}
    (hname : y.name = x.name) (hlater : ∃ z ∈ after, z.name = x.name) :
    placeAll (before ++ y :: after) = placeAll (before ++ x :: after) := by
  have hnames : (before ++ y :: after).map NodeSnippet.name =
      (before ++ x :: after).map NodeSnippet.name := by
    rw [List.map_append, List.map_append, List.map_cons, List.map_cons, hname]
  have hkeys : (placeAll (before ++ y :: after)).map Node.name =
      (placeAll (before ++ x :: after)).map Node.name := by
    rw [map_name_placeAll, map_name_placeAll, hnames]
  -- Neither of the two is the last of its name, so that the last ones are the same.
  have hskip : ∀ w a : NodeSnippet, w.name = x.name →
      (LastOf NodeSnippet.name (w :: after) a ↔ LastOf NodeSnippet.name after a) := by
    intro w a hw
    rw [LastOf.cons_iff]
    refine or_iff_left ?_
    rintro ⟨rfl, hnone⟩
    obtain ⟨z, hz, hzx⟩ := hlater
    exact hnone z hz (hzx.trans hw.symm)
  refine eq_of_map_eq_of_mem (nodup_name_placeAll _) hkeys fun n hn => ?_
  obtain ⟨a, ha, rfl⟩ := mem_placeAll_iff.mp hn
  refine mem_placeAll_iff.mpr ⟨a, ?_, rfl⟩
  rw [LastOf.append_iff, hskip y a hname] at ha
  rw [LastOf.append_iff, hskip x a rfl]
  simpa [hname] using ha

theorem checkNode_eq_ok_iff {n m : Node} :
    checkNode n = .ok m ↔ n = m ∧ n.name ≠ "" ∧ n.target ≠ "" := by
  unfold checkNode
  by_cases hn : n.name = ""
  · simp [hn]
  · by_cases ht : n.target = "" <;> simp [hn, ht]

theorem checkNode_eq_error_iff {n : Node} {e : Failure} :
    checkNode n = .error e ↔ Refused n e := by
  unfold checkNode
  constructor
  · intro h
    split_ifs at h with hn ht
    · obtain rfl := Except.error.inj h
      exact .unnamed (String.isEmpty_iff.mp hn)
    · obtain rfl := Except.error.inj h
      exact .untargeted (fun hn' => hn (String.isEmpty_iff.mpr hn')) (String.isEmpty_iff.mp ht)
  · intro h
    cases h with
    | unnamed hn => simp [hn]
    | untargeted hn ht => simp [hn, ht]

theorem nodes_of_ofSnippets {ss : List Snippet} {s : Settings} (h : ofSnippets ss = .ok s) :
    s.nodes = placeAll (nodeSnippets ss) := by
  obtain ⟨nodes, hn, rfl⟩ := ofSnippets_eq_ok_iff.mp h
  rw [nodesOf_eq] at hn
  have he : List.Forall₂ Eq (placeAll (nodeSnippets ss)) nodes :=
    (FirstFailure.mapM_eq_ok_iff.mp hn).imp fun _ _ h => (checkNode_eq_ok_iff.mp h).1
  exact (List.forall₂_eq_eq_eq ▸ he : placeAll (nodeSnippets ss) = nodes).symm

/-- The last snippet for each node gives it a name and a target. -/
def Valid (ss : List Snippet) : Prop :=
  ∀ x, LastOf NodeSnippet.name (nodeSnippets ss) x → x.name ≠ "" ∧ x.target.getD "" ≠ ""

theorem valid_iff {ss : List Snippet} :
    Valid ss ↔ ∀ n ∈ nodesOf ss, n.name ≠ "" ∧ n.target ≠ "" := by
  simp only [Valid, nodesOf_eq, mem_placeAll_iff]
  constructor
  · rintro h _ ⟨x, hx, rfl⟩
    exact h x hx
  · intro h x hx
    exact h x.node ⟨x, hx, rfl⟩

theorem exists_ofSnippets_eq_ok_iff {ss : List Snippet} :
    (∃ s, ofSnippets ss = .ok s) ↔ Valid ss := by
  rw [valid_iff]
  constructor
  · rintro ⟨s, h⟩ n hmem
    obtain ⟨nodes, hn, -⟩ := ofSnippets_eq_ok_iff.mp h
    obtain ⟨m, hm⟩ := FirstFailure.exists_of_mapM_eq_ok hn n hmem
    exact (checkNode_eq_ok_iff.mp hm).2
  · intro h
    have hn : (nodesOf ss).mapM checkNode = .ok (nodesOf ss) :=
      FirstFailure.mapM_eq_ok_iff.mpr
        (List.forall₂_same.mpr fun n hn => checkNode_eq_ok_iff.mpr ⟨rfl, h n hn⟩)
    exact ⟨_, ofSnippets_eq_ok_iff.mpr ⟨_, hn, rfl⟩⟩

/-- The failure is that of the first node which is refused. -/
theorem ofSnippets_eq_error_iff {ss : List Snippet} {e : Failure} :
    ofSnippets ss = .error e ↔ ∃ before n after, nodesOf ss = before ++ n :: after ∧
      (∀ m ∈ before, m.name ≠ "" ∧ m.target ≠ "") ∧ Refused n e := by
  have haccepted : ∀ m : Node, (∃ k, checkNode m = .ok k) ↔ m.name ≠ "" ∧ m.target ≠ "" := by
    intro m
    simp only [checkNode_eq_ok_iff, exists_eq_left']
  have hmapM : ofSnippets ss = .error e ↔ (nodesOf ss).mapM checkNode = .error e := by
    rw [ofSnippets_eq, FirstFailure.bind_eq_error_iff]
    refine or_iff_left ?_
    rintro ⟨nodes, -, h⟩
    cases h
  rw [hmapM, FirstFailure.mapM_eq_error_iff]
  simp only [haccepted, checkNode_eq_error_iff]

theorem eq_error_of_ofSnippets {ss : List Snippet} {e : Failure} (h : ofSnippets ss = .error e) :
    e = .nodeUnnamed ∨ ∃ name, e = .nodeWithoutTarget name := by
  obtain ⟨before, n, after, -, -, hn⟩ := ofSnippets_eq_error_iff.mp h
  cases hn with
  | unnamed => exact .inl rfl
  | untargeted => exact .inr ⟨n.name, rfl⟩

theorem exists_ofSnippets_eq_error_iff {ss : List Snippet} :
    (∃ e, ofSnippets ss = .error e) ↔ ∃ n ∈ nodesOf ss, n.name = "" ∨ n.target = "" := by
  have hok : (∃ e, ofSnippets ss = .error e) ↔ ¬ ∃ s, ofSnippets ss = .ok s := by
    cases ofSnippets ss <;> simp
  rw [hok, exists_ofSnippets_eq_ok_iff, valid_iff]
  simp only [not_forall, not_and_or, ne_eq, not_not, exists_prop]

/-- The nodes of all snippets are merged, and the settings are refused for the first of them
that lacks a name or a target. A snippet that a later one replaces makes no difference but for
its name, and one that is the last of its name is not helped by what was given before it. -/
theorem merged_nodes (ss : List Snippet) :
    Merges (nodeSnippets ss) (nodesOf ss) ∧
    ((∃ e, ofSnippets ss = .error e) ↔ ∃ n ∈ nodesOf ss, n.name = "" ∨ n.target = "") ∧
    (∀ e, ofSnippets ss = .error e ↔ ∃ before n after, nodesOf ss = before ++ n :: after ∧
      (∀ m ∈ before, m.name ≠ "" ∧ m.target ≠ "") ∧ Refused n e) ∧
    (∀ before x y after ss', nodeSnippets ss = before ++ x :: after →
      nodeSnippets ss' = before ++ y :: after → y.name = x.name →
      (∃ z ∈ after, z.name = x.name) → nodesOf ss' = nodesOf ss ∧
        ∀ e, ofSnippets ss' = .error e ↔ ofSnippets ss = .error e) ∧
    (∀ before x after, nodeSnippets ss = before ++ x :: after →
      (∀ y ∈ after, y.name ≠ x.name) → x.target.getD "" = "" →
      ∃ e, ofSnippets ss = .error e) ∧
    ∀ s, ofSnippets ss = .ok s → s.nodes = nodesOf ss := by
  refine ⟨merges_placeAll _, exists_ofSnippets_eq_error_iff, fun _ => ofSnippets_eq_error_iff,
    ?_, ?_, fun s h => nodes_of_ofSnippets h⟩
  · intro before x y after ss' hx hy hname hlater
    have hnodes : nodesOf ss' = nodesOf ss := by
      rw [nodesOf_eq, nodesOf_eq, hx, hy, placeAll_congr_replaced hname hlater]
    refine ⟨hnodes, fun e => ?_⟩
    rw [ofSnippets_eq_error_iff, ofSnippets_eq_error_iff, hnodes]
  · intro before x after hx hlast htarget
    have hmem : x.node ∈ nodesOf ss := by
      rw [nodesOf_eq, hx]
      exact mem_placeAll_iff.mpr ⟨x, ⟨before, after, rfl, hlast⟩, rfl⟩
    exact exists_ofSnippets_eq_error_iff.mpr ⟨x.node, hmem, .inr htarget⟩

/-- Two files that give each node twice. The first node has got its target by the second file,
and the second node has lost the one that it had. -/
theorem merged_nodes_twice :
    let first (host : Option String) : Snippet :=
      ⟨none, some [⟨"b", host, none⟩, ⟨"a", some "ducker01", some "1098"⟩], none⟩
    let b : NodeSnippet := ⟨"b", none, some "1100"⟩
    let a : NodeSnippet := ⟨"a", none, none⟩
    let refused := [first none, ⟨none, some [b, a], none⟩]
    let accepted := [first none, ⟨none, some [b], none⟩]
    let s : Settings :=
      ⟨⟨defaultCommand, []⟩, [⟨"b", "", "1100"⟩, ⟨"a", "ducker01", "1098"⟩], Globals.empty⟩
    Merges (nodeSnippets refused) [⟨"b", "", "1100"⟩, ⟨"a", "", ""⟩] ∧
      ofSnippets refused = .error (.nodeWithoutTarget "a") ∧
      (∃ z ∈ [⟨"a", some "ducker01", some "1098"⟩, b, a], z.name = "b") ∧
      nodesOf [first (some "ducker02"), ⟨none, some [b, a], none⟩] = nodesOf refused ∧
      nodeSnippets refused = (nodeSnippets refused).take 3 ++ [a] ∧ a.target.getD "" = "" ∧
      (∃ e, ofSnippets refused = .error e) ∧
      ofSnippets accepted = .ok s ∧ s.nodes = nodesOf accepted := by
  intro first b a refused accepted s
  obtain ⟨hmerges, -, herror, hreplaced, hlast, -⟩ := merged_nodes refused
  have hnodes : nodesOf refused = [⟨"b", "", "1100"⟩, ⟨"a", "", ""⟩] := by decide +kernel
  have hfirst : ofSnippets refused = .error (.nodeWithoutTarget "a") := by
    refine (herror _).mpr ⟨[⟨"b", "", "1100"⟩], ⟨"a", "", ""⟩, [], hnodes, by decide, ?_⟩
    exact .untargeted (by decide) rfl
  have hlater : ∃ z ∈ [⟨"a", some "ducker01", some "1098"⟩, b, a], z.name = "b" :=
    ⟨b, by decide, rfl⟩
  have hs : ofSnippets accepted = .ok s := by decide +kernel
  refine ⟨hnodes ▸ hmerges, hfirst, hlater, ?_, rfl, rfl, ?_, hs, ?_⟩
  · exact (hreplaced [] ⟨"b", none, none⟩ ⟨"b", some "ducker02", none⟩ _ _ rfl rfl rfl hlater).1
  · exact hlast ((nodeSnippets refused).take 3) a [] rfl (by simp) rfl
  · exact (merged_nodes accepted).2.2.2.2.2 s hs

end Settings
end ClusterRig
