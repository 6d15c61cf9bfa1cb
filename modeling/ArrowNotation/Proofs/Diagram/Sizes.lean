/-
# What the sizes of a diagram say

A summary gives three numbers: nodes, edges and components.  The components are found by merging
blocks; what they are is said without it, as the classes of the least equivalence that relates the
ends of every edge.

The three numbers are not independent.

* **From above.**  Every node is an end of an edge, so every class has an edge, and an edge lies in
  one class (`Components.classCount_le_length`).
* **From below.**  A merge takes at most two blocks and leaves one, so an edge costs at most one
  block (`Components.length_le_length_merge`).  At first there are as many blocks as nodes, hence
  nodes are at most edges and components together (`Components.length_le_classCount_add_length`).
-/
import ArrowNotation.Diagram.Editor
import ArrowNotation.Proofs.Diagram.CanonicalEquivalence
import ArrowNotation.Proofs.Diagram.TrimmedLines
import ArrowNotation.Proofs.Graph.Export

namespace ArrowNotation

namespace Components

variable {α : Type} {elements : List α} {pairs : List (α × α)}

/-! ## 1. No more classes than pairs -/

/-- Where there is an element there is a class. -/
theorem classCount_pos (h : elements ≠ []) : 0 < classCount elements pairs := by
  obtain ⟨a, ha⟩ := List.exists_mem_of_ne_nil _ h
  have : Finite {a // a ∈ elements} := List.finite_toSet elements
  have : Nonempty (Quotient ((connection pairs).comap fun a : {a // a ∈ elements} => a.1)) :=
    ⟨⟦⟨a, ha⟩⟧⟩
  exact Nat.card_pos

/-- **If every element is in a pair, there are no more classes than pairs**: each class is that of
the first element of some pair. -/
theorem classCount_le_length (hends : ∀ p ∈ pairs, p.1 ∈ elements ∧ p.2 ∈ elements)
    (hcover : ∀ a ∈ elements, ∃ p ∈ pairs, a = p.1 ∨ a = p.2) :
    classCount elements pairs ≤ pairs.length := by
  let classOf : Fin pairs.length →
      Quotient ((connection pairs).comap fun a : {a // a ∈ elements} => a.1) :=
    fun i => ⟦⟨pairs[i].1, (hends _ (List.getElem_mem i.2)).1⟩⟧
  have hsurjective : Function.Surjective classOf := by
    rintro ⟨a, ha⟩
    obtain ⟨p, hp, hap⟩ := hcover a ha
    obtain ⟨i, hi, rfl⟩ := List.getElem_of_mem hp
    refine ⟨⟨i, hi⟩, Quotient.sound ?_⟩
    show connection pairs pairs[i].1 a
    rcases hap with rfl | rfl
    · exact (connection pairs).refl _
    · exact connection_of_mem hp
  calc classCount elements pairs
      ≤ Nat.card (Fin pairs.length) := Nat.card_le_card_of_surjective classOf hsurjective
    _ = pairs.length := by rw [Nat.card_eq_fintype_card, Fintype.card_fin]

/-! ## 2. One class less for a pair -/

variable [DecidableEq α] {blocks : List (List α)}

/-- Every block that a merge touches holds one of the two elements. -/
theorem length_touched_le (a b : α) : ∀ blocks : List (List α),
    (blocks.filter fun block => a ∈ block ∨ b ∈ block).length
      ≤ blocks.flatten.count a + blocks.flatten.count b
  | [] => Nat.zero_le _
  | block :: blocks => by
    have ih := length_touched_le a b blocks
    rw [List.flatten_cons, List.count_append, List.count_append]
    by_cases h : a ∈ block ∨ b ∈ block
    · have hcount : 0 < block.count a + block.count b := by
        rcases h with h | h
        · exact Nat.add_pos_left (List.count_pos_iff.mpr h) _
        · exact Nat.add_pos_right _ (List.count_pos_iff.mpr h)
      rw [List.filter_cons_of_pos (by simpa using h), List.length_cons]
      omega
    · rw [List.filter_cons_of_neg (by simpa using h)]
      omega

/-- **A merge loses at most one block**, if no element is in two. -/
theorem length_le_length_merge (hnodup : blocks.flatten.Nodup) (a b : α) :
    blocks.length ≤ (merge blocks a b).length + 1 := by
  let touched := blocks.filter fun block => a ∈ block ∨ b ∈ block
  let others := blocks.filter fun block => ¬ (a ∈ block ∨ b ∈ block)
  have htouched : touched.length ≤ blocks.flatten.count a + blocks.flatten.count b :=
    length_touched_le a b blocks
  have ha := List.nodup_iff_count_le_one.mp hnodup a
  have hb := List.nodup_iff_count_le_one.mp hnodup b
  have hsplit : touched.length + others.length = blocks.length := by
    have hperm := List.filter_append_perm (fun block => decide (a ∈ block ∨ b ∈ block)) blocks
    simpa [touched, others] using hperm.length_eq
  have hmerge : (merge blocks a b).length
      = if touched = [] then others.length else others.length + 1 :=
    apply_ite List.length _ _ _
  rw [hmerge]
  split
  · next hnil =>
    rw [hnil, List.length_nil] at hsplit
    omega
  · omega

/-- **A run of merges loses at most one block for each pair.** -/
theorem length_le_length_foldl_merge (hnodup : elements.Nodup) :
    ∀ {done : List (α × α)} {blocks : List (List α)} (pairs : List (α × α)),
      Blocks elements done blocks → (∀ p ∈ pairs, p.1 ∈ elements ∧ p.2 ∈ elements) →
      blocks.length
        ≤ (pairs.foldl (fun blocks pair => merge blocks pair.1 pair.2) blocks).length
          + pairs.length
  | _, _, [], _, _ => Nat.le_refl _
  | done, blocks, (a, b) :: pairs, h, hends => by
    obtain ⟨ha, hb⟩ : a ∈ elements ∧ b ∈ elements := hends (a, b) List.mem_cons_self
    have hstep := length_le_length_merge (h.perm.nodup_iff.mpr hnodup) a b
    have hrest := length_le_length_foldl_merge hnodup pairs (h.merge ha hb)
      fun p hp => hends p (List.mem_cons_of_mem _ hp)
    simp only [List.foldl_cons, List.length_cons]
    omega

/-- **There are no more elements than classes and pairs together.** -/
theorem length_le_classCount_add_length (hnodup : elements.Nodup)
    (hends : ∀ p ∈ pairs, p.1 ∈ elements ∧ p.2 ∈ elements) :
    elements.length ≤ classCount elements pairs + pairs.length := by
  have h := length_le_length_foldl_merge hnodup pairs (blocks_singletons elements) hends
  rw [List.length_map] at h
  rw [← length_ofPairs hnodup hends]
  exact h

end Components

/-! ## 3. Lines that match -/

/-- **What the grammar reads is a candidate.**  So it does not matter that blank lines and comments
never come to the grammar. -/
theorem LineKind.ofLine_of_ofLine? {line : Text} {w : EdgeLine}
    (h : EdgeLine.ofLine? (Text.trim line) = some w) : ofLine line = candidate := by
  obtain ⟨d, hd, -⟩ := EdgeLine.exists_writing_of_ofComposed? h
  obtain ⟨c, rest, hsource⟩ := List.exists_cons_of_ne_nil d.isIdentifier_source.ne_nil
  have htrim : Text.trim (Text.composed (Text.trim line))
      = c :: (rest ++ (d.beforeToken ++ (d.token ++ (d.afterToken
          ++ (d.target ++ d.ending.text))))) := by
    rw [← Text.composed_trim, Text.trim_trim, ← hd, EdgeLine.Writing.text, hsource,
      List.cons_append]
  have hword : Text.isWord c = true := d.isIdentifier_source.isWord c (by simp [hsource])
  rw [← ofLine_trim, ← ofLine_composed]
  exact ofLine_of_isWord htrim hword

namespace Diagram

/-- A text writes no edge exactly when none of its lines matches the grammar. -/
theorem edgeLines_eq_nil_iff {text : Text} :
    edgeLines text = [] ↔
      ∀ line ∈ Text.lines text, EdgeLine.ofLine? (Text.trim line) = none := by
  rw [edgeLines, List.filterMap_eq_nil_iff]
  refine forall₂_congr fun line _ => ?_
  rw [← Option.not_isSome_iff_eq_none, ← Option.not_isSome_iff_eq_none]
  refine not_congr ?_
  simp only [Option.isSome_iff_exists, LineMeaning.edge?_ofLine_eq_some_iff]
  constructor
  · rintro ⟨w, -, hw⟩
    exact ⟨w, hw⟩
  · rintro ⟨w, hw⟩
    exact ⟨w, LineKind.ofLine_of_ofLine? hw, hw⟩

/-! ## 4. The summary -/

theorem ids_ofGraph_graph (text : Text) :
    (Multigraph.ofGraph (graph text)).ids = (graph text).nodes.map Node.id := by
  rw [Multigraph.ids, Multigraph.vertices_ofGraph_graph, List.map_map]
  rfl

theorem endPairs_graph_mem_ids (text : Text) : ∀ p ∈ Multigraph.endPairs (graph text).edges,
    p.1 ∈ (graph text).nodes.map Node.id ∧ p.2 ∈ (graph text).nodes.map Node.id := by
  rw [← ids_ofGraph_graph]
  exact Multigraph.endPairs_mem_ids

theorem exists_endPair_graph (text : Text) : ∀ x ∈ (graph text).nodes.map Node.id,
    ∃ p ∈ Multigraph.endPairs (graph text).edges, x = p.1 ∨ x = p.2 := by
  intro x hx
  have hend : x ∈ Graph.ends (graph text).edges :=
    (Graph.mem_ids_iff_mem_ends (edgeLines text)).mp hx
  obtain ⟨e, he, hxe⟩ := Graph.mem_ends_iff.mp hend
  exact ⟨(e.source, e.target), List.mem_map_of_mem he, hxe⟩

/-- **The components of the graph of a text are the classes of its nodes.** -/
theorem length_components_graph (text : Text) :
    (Multigraph.ofGraph (graph text)).components.length
      = Components.classCount ((graph text).nodes.map Node.id)
          (Multigraph.endPairs (graph text).edges) := by
  rw [Multigraph.length_components, ids_ofGraph_graph]

/-- **Nodes, edges and classes of the graph of a text.** -/
theorem classCount_graph_bounds (text : Text) :
    (graph text).nodes.length
        ≤ (graph text).edges.length + Components.classCount ((graph text).nodes.map Node.id)
          (Multigraph.endPairs (graph text).edges) ∧
      Components.classCount ((graph text).nodes.map Node.id)
          (Multigraph.endPairs (graph text).edges) ≤ (graph text).edges.length := by
  have hnodup : ((graph text).nodes.map Node.id).Nodup := by
    rw [← ids_ofGraph_graph]
    exact Multigraph.nodup_ids_ofGraph (graph text)
  have hpairs : (Multigraph.endPairs (graph text).edges).length = (graph text).edges.length :=
    List.length_map _
  have hbelow := Components.length_le_classCount_add_length hnodup (endPairs_graph_mem_ids text)
  have habove := Components.classCount_le_length (endPairs_graph_mem_ids text)
    (exists_endPair_graph text)
  rw [List.length_map] at hbelow
  omega

theorem summary?_eq_some_iff {text : Text} {s : Summary} :
    summary? text = some s ↔
      (graph text).nodes ≠ [] ∧ s = ⟨(graph text).nodes.length, (graph text).edges.length,
        (Multigraph.ofGraph (graph text)).components.length⟩ := by
  simp only [summary?, Graph.isEmpty, List.isEmpty_iff]
  by_cases h : (graph text).nodes = []
  · simp [h]
  · simp [h, eq_comm]

/-- **What the summary counts.**  There is none exactly when no line matches the grammar.  If there
is one:

* Components are the classes of the nodes under the least equivalence that relates the two ends of
  every edge.
* Nodes and edges are those of the multigraph of the graph.
* There is a component, there are no more components than edges, and nodes are at most edges and
  components together, so at most twice as many as edges. -/
theorem summary_counts_classes (text : Text) :
    (summary? text = none ↔
      ∀ line ∈ Text.lines text, EdgeLine.ofLine? (Text.trim line) = none) ∧
    ∀ s, summary? text = some s →
      s.componentCount = Components.classCount ((graph text).nodes.map Node.id)
        (Multigraph.endPairs (graph text).edges) ∧
      s.nodeCount = (Multigraph.ofGraph (graph text)).vertices.length ∧
      s.edgeCount = (Multigraph.ofGraph (graph text)).keyedEdges.length ∧
      1 ≤ s.componentCount ∧
      s.nodeCount ≤ s.edgeCount + s.componentCount ∧
      s.componentCount ≤ s.edgeCount ∧
      s.nodeCount ≤ 2 * s.edgeCount := by
  refine ⟨?_, ?_⟩
  · rw [summary?_eq_none_iff, graph, Graph.isEmpty_ofEdgeLines_iff, edgeLines_eq_nil_iff]
  · intro s hs
    obtain ⟨hne, rfl⟩ := summary?_eq_some_iff.mp hs
    have hids : (graph text).nodes.map Node.id ≠ [] := by simpa using hne
    obtain ⟨hbelow, habove⟩ := classCount_graph_bounds text
    have hedges := (Multigraph.perm_keyedEdges_ofGraph (graph text)).length_eq
    rw [List.length_map, List.length_map] at hedges
    rw [length_components_graph, Multigraph.vertices_ofGraph_graph, List.length_map, hedges]
    refine ⟨rfl, rfl, rfl, Components.classCount_pos hids, hbelow, habove, ?_⟩
    show (graph text).nodes.length ≤ 2 * (graph text).edges.length
    omega

/-- A loop and two edges between the same nodes, in different spellings. -/
example : summary? "A --> B\nC --- C\nb ==> a".toText = some ⟨3, 3, 2⟩ := by decide +kernel

end Diagram

end ArrowNotation
