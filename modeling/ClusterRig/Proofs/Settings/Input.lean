import ClusterRig.Proofs.FirstFailure
import ClusterRig.Proofs.SortedMap
import ClusterRig.Settings.Basic

/-!
# Settings of merged snippets

Snippets are first merged into one input, whose globals are an array of layers, and the
input is then completed and checked. Main statement: the two steps come to the last
command and remote shell given, the checked nodes, and the globals of all snippets laid
over each other.
-/

namespace ClusterRig

namespace Tree

mutual

/-- A canonical tree is its own canonical form. -/
theorem canon_of_canonical : (t : Tree) → t.Canonical → canon t = t
  | .array items, h => by
    simp only [canon, Canonical] at h ⊢
    rw [canonItems_of_canonical items h]
  | .object entries, h => by
    simp only [canon, Canonical] at h ⊢
    rw [canonEntries_of_canonical entries h.1 h.2]
  | .null, _ | .bool _, _ | .number _, _ | .text _, _ => rfl

theorem canonItems_of_canonical : (items : List Tree) → CanonicalItems items →
    canonItems items = items
  | [], _ => rfl
  | t :: rest, h => by
    rw [canonItems, canon_of_canonical t h.1, canonItems_of_canonical rest h.2]

theorem canonEntries_of_canonical : (entries : List (String × Tree)) →
    Ascending compareKeys entries → CanonicalEntries entries → canonEntries entries = entries
  | [], _, _ => rfl
  | (key, t) :: rest, ha, hc => by
    obtain ⟨hfirst, hrest⟩ := List.pairwise_cons.mp ha
    have hput : put key t rest = (key, t) :: rest := by
      cases rest with
      | nil => rfl
      | cons e rest => simp [put, Ascending.insert, hfirst e List.mem_cons_self]
    rw [canonEntries, canonEntries_of_canonical rest hrest hc.2, canon_of_canonical t hc.1,
      Ascending.lookup_tail ha]
    exact hput

end

end Tree

theorem Globals.ofTree_root (g : Globals) : Globals.ofTree g.root = g := by
  obtain ⟨root, h⟩ := g
  simp only [ofTree, Tree.canon_of_canonical root h]

namespace Settings

/-- The last command given; an empty one stands for the default. -/
def commandOf (ss : List Snippet) : List String :=
  match lastGiven (fun s => s.session.bind SessionSnippet.command) ss with
  | none => defaultCommand
  | some [] => defaultCommand
  | some c => c

/-- The last remote shell given, or none. -/
def remoteShellOf (ss : List Snippet) : List String :=
  (lastGiven (fun s => s.session.bind SessionSnippet.remoteShell) ss).getD []

/-- The globals of all snippets, laid over each other. -/
def globalsOf (ss : List Snippet) : Globals :=
  Globals.empty.mergeAll (ss.filterMap Snippet.globals)

theorem commandOf_eq (ss : List Snippet) :
    commandOf ss =
      if (sessionOf ss).command = [] then defaultCommand else (sessionOf ss).command := by
  unfold commandOf sessionOf
  split
  next h => simp [h]
  next h => simp [h]
  next c hc h =>
    have hc : c ≠ [] := hc
    simp [h, hc]

/-- The layers are merged as the trees that they are. -/
theorem layered_mergeSnippets (ss : List Snippet) :
    layered (mergeSnippets ss).globals = globalsOf ss := by
  have hid : Globals.ofTree ∘ Globals.root = id := funext Globals.ofTree_root
  rw [mergeSnippets, layered, List.map_map, hid, List.map_id, globalsOf]

theorem ofSnippets_eq (ss : List Snippet) :
    ofSnippets ss = do
      return ⟨⟨commandOf ss, remoteShellOf ss⟩, ← (nodesOf ss).mapM checkNode, globalsOf ss⟩ := by
  have hcommand : (if (mergeSnippets ss).session.command.isEmpty then defaultCommand
      else (mergeSnippets ss).session.command) = commandOf ss := by
    simp only [List.isEmpty_iff, commandOf_eq]
    rfl
  rw [ofSnippets, ofInput, layered_mergeSnippets, hcommand]
  rfl

theorem ofSnippets_eq_ok_iff {ss : List Snippet} {s : Settings} :
    ofSnippets ss = .ok s ↔ ∃ nodes, (nodesOf ss).mapM checkNode = .ok nodes ∧
      s = ⟨⟨commandOf ss, remoteShellOf ss⟩, nodes, globalsOf ss⟩ := by
  rw [ofSnippets_eq, FirstFailure.bind_eq_ok_iff]
  refine exists_congr fun nodes => and_congr_right fun _ => ?_
  exact ⟨fun h => (Except.ok.inj h).symm, fun h => congrArg Except.ok h.symm⟩

end Settings
end ClusterRig
