/-
# Neither the order of lines nor letter case counts

Two texts that write the same edges in different orders, and with their identifiers in different
letter case, mean the same.  Their graphs are not equal: the nodes stand in the order of first
mention, and each is spelled as it is mentioned first.  What they have in common shows when all
identifiers are in lower case.

* **Nodes and edges.**  The keys of the nodes and the edges with lowered ends are functions of the
  lowered edges (`Graph.mem_keys_ofEdgeLines_iff`, `Graph.map_lowered_edges_ofEdgeLines`).
* **Components.**  Lowering is one name for each node, so the number of components is that of the
  classes into which the lowered edges divide the keys (`Graph.length_components_ofEdgeLines`),
  whatever the order in which either are listed.
-/
import ArrowNotation.Diagram.Editor
import ArrowNotation.Proofs.Diagram.RoundTrip
import ArrowNotation.Proofs.Graph.Components

namespace ArrowNotation

/-! ## 1. Lowered edges -/

/-- A written edge with its identifiers in lower case. -/
def EdgeLine.lowered (w : EdgeLine) : EdgeLine :=
  { w with source := Text.lower w.source, target := Text.lower w.target }

/-- An edge with its ends in lower case. -/
def Edge.lowered (e : Edge) : Edge :=
  { e with source := Text.lower e.source, target := Text.lower e.target }

theorem mentions_map_lowered : ∀ written : List EdgeLine,
    mentions (written.map EdgeLine.lowered) = (mentions written).map Text.lower
  | [] => rfl
  | w :: written => by
    rw [List.map_cons, mentions_cons, mentions_cons, mentions_map_lowered written]
    rfl

theorem EdgeLine.lowered_spelledAs (ids : List Text) (w : EdgeLine) :
    (w.spelledAs ids).lowered = w.lowered.toEdge := by
  simp only [spelledAs, Edge.lowered, lower_firstSpelling]
  rfl

namespace Graph

/-! ## 2. Graphs of lowered edges -/

/-- **The edges of a graph in lower case are the written ones in lower case.** -/
theorem map_lowered_edges_ofEdgeLines (written : List EdgeLine) :
    (ofEdgeLines written).edges.map Edge.lowered
      = (written.map EdgeLine.lowered).map EdgeLine.toEdge := by
  rw [edges_ofEdgeLines, List.map_map, List.map_map]
  exact List.map_congr_left fun w _ => w.lowered_spelledAs _

theorem mem_ids_ofGraph_ofEdgeLines_iff {written : List EdgeLine} {x : Text} :
    x ∈ (Multigraph.ofGraph (ofEdgeLines written)).ids ↔
      x ∈ (ofEdgeLines written).nodes.map Node.id := by
  rw [Multigraph.mem_ids_ofGraph_iff, ← mem_ids_iff_mem_ends, or_self]

/-- The nodes of the graph of written edges are told apart by their keys. -/
theorem lower_injective_on_ids (written : List EdgeLine) :
    ∀ x ∈ (Multigraph.ofGraph (ofEdgeLines written)).ids,
      ∀ y ∈ (Multigraph.ofGraph (ofEdgeLines written)).ids,
        Text.lower x = Text.lower y → x = y := by
  intro x hx y hy hxy
  have hnodup := nodup_keys_ofEdgeLines written
  obtain ⟨m, hm, rfl⟩ := List.mem_map.mp (mem_ids_ofGraph_ofEdgeLines_iff.mp hx)
  obtain ⟨n, hn, rfl⟩ := List.mem_map.mp (mem_ids_ofGraph_ofEdgeLines_iff.mp hy)
  rw [List.inj_on_of_nodup_map hnodup hm hn hxy]

/-- **The components are the classes of the keys under the lowered edges**, in whatever order
both are listed. -/
theorem length_components_ofEdgeLines {written : List EdgeLine} {keys : List Text}
    {links : List (Text × Text)}
    (hkeys : ∀ key, key ∈ keys ↔ key ∈ mentions (written.map EdgeLine.lowered))
    (hlinks : ∀ p, p ∈ links ↔
      p ∈ Multigraph.endPairs ((written.map EdgeLine.lowered).map EdgeLine.toEdge)) :
    (Multigraph.ofGraph (ofEdgeLines written)).components.length
      = Components.classCount keys links := by
  rw [Multigraph.length_components]
  refine (Components.classCount_of_renaming (lower_injective_on_ids written)
    Multigraph.endPairs_mem_ids ?_ ?_).symm
  · intro key
    rw [hkeys, mentions_map_lowered, ← mem_keys_ofEdgeLines_iff, List.mem_map, List.mem_map]
    simp only [mem_ids_ofGraph_ofEdgeLines_iff, List.mem_map, exists_exists_and_eq_and]
  · intro p
    rw [hlinks, ← map_lowered_edges_ofEdgeLines, Multigraph.endPairs, Multigraph.endPairs,
      List.map_map, List.map_map]
    rfl

/-- **Written edges that are the same in lower case, up to their order.**  The keys of the nodes
are the same, and so are the edges in lower case, the number of nodes and the number of
components. -/
theorem ofEdgeLines_of_perm {written others : List EdgeLine}
    (h : (written.map EdgeLine.lowered).Perm (others.map EdgeLine.lowered)) :
    ((ofEdgeLines written).nodes.map fun node => Text.lower node.id).Perm
      ((ofEdgeLines others).nodes.map fun node => Text.lower node.id) ∧
    ((ofEdgeLines written).edges.map Edge.lowered).Perm
      ((ofEdgeLines others).edges.map Edge.lowered) ∧
    (Multigraph.ofGraph (ofEdgeLines written)).components.length
      = (Multigraph.ofGraph (ofEdgeLines others)).components.length := by
  have hmentions : (mentions (written.map EdgeLine.lowered)).Perm
      (mentions (others.map EdgeLine.lowered)) := h.flatMap_right _
  have hedges := h.map EdgeLine.toEdge
  refine ⟨?_, ?_, ?_⟩
  · refine (List.perm_ext_iff_of_nodup (nodup_keys_ofEdgeLines written)
      (nodup_keys_ofEdgeLines others)).mpr fun key => ?_
    rw [mem_keys_ofEdgeLines_iff, mem_keys_ofEdgeLines_iff, ← mentions_map_lowered,
      ← mentions_map_lowered, hmentions.mem_iff]
  · rwa [map_lowered_edges_ofEdgeLines, map_lowered_edges_ofEdgeLines]
  · rw [length_components_ofEdgeLines (fun _ => Iff.rfl) fun _ => Iff.rfl]
    exact (length_components_ofEdgeLines (fun _ => hmentions.mem_iff)
      fun _ => (hedges.map _).mem_iff).symm

end Graph

namespace Diagram

/-! ## 3. Texts -/

/-- **Neither the order of lines nor letter case counts.**  Two texts are given whose written
edges, with their identifiers in lower case, are the same up to their order.  Then the nodes of
their graphs have the same identifiers in lower case, their edges are the same in lower case, each
as often, and they have the same summary or both none, which includes the number of components and
the wording. -/
theorem same_meaning_in_any_order {t u : Text}
    (h : ((edgeLines t).map EdgeLine.lowered).Perm ((edgeLines u).map EdgeLine.lowered)) :
    (∀ key, (key ∈ (graph t).nodes.map fun node => Text.lower node.id) ↔
      key ∈ (graph u).nodes.map fun node => Text.lower node.id) ∧
    ((graph t).edges.map Edge.lowered).Perm ((graph u).edges.map Edge.lowered) ∧
    summary? t = summary? u ∧
    (summary? t).map Summary.text = (summary? u).map Summary.text := by
  obtain ⟨hkeys, hedges, hcomponents⟩ := Graph.ofEdgeLines_of_perm h
  have hnodeCount : (graph t).nodes.length = (graph u).nodes.length := by
    have hlength := hkeys.length_eq
    rwa [List.length_map, List.length_map] at hlength
  have hedgeCount : (graph t).edges.length = (graph u).edges.length := by
    have hlength := hedges.length_eq
    rwa [List.length_map, List.length_map] at hlength
  have hempty : (graph t).isEmpty = (graph u).isEmpty := by
    rw [Bool.eq_iff_iff, Graph.isEmpty, Graph.isEmpty, List.isEmpty_iff_length_eq_zero,
      List.isEmpty_iff_length_eq_zero, hnodeCount]
  have hsummary : summary? t = summary? u := by
    change (Multigraph.ofGraph (graph t)).components.length
      = (Multigraph.ofGraph (graph u)).components.length at hcomponents
    simp only [summary?, hempty, hnodeCount, hedgeCount, hcomponents]
  exact ⟨fun _ => hkeys.mem_iff, hedges, hsummary, congrArg _ hsummary⟩

/-- Two components, one of them a loop, and a node that is spelled in three ways: the lines can be
turned round. -/
theorem same_summary_of_turned_lines :
    ((edgeLines "Start --> A : x\nB ==> start\nC --- C".toText).map EdgeLine.lowered).Perm
      ((edgeLines "c --- C\nb ==> START\n// turned\nstart --> a : x".toText).map
        EdgeLine.lowered) ∧
    graph "Start --> A : x\nB ==> start\nC --- C".toText
      ≠ graph "c --- C\nb ==> START\n// turned\nstart --> a : x".toText ∧
    summary? "Start --> A : x\nB ==> start\nC --- C".toText
      = summary? "c --- C\nb ==> START\n// turned\nstart --> a : x".toText := by
  have h : ((edgeLines "Start --> A : x\nB ==> start\nC --- C".toText).map
      EdgeLine.lowered).Perm
        ((edgeLines "c --- C\nb ==> START\n// turned\nstart --> a : x".toText).map
          EdgeLine.lowered) := by decide +kernel
  exact ⟨h, by decide +kernel, (same_meaning_in_any_order h).2.2.1⟩

end Diagram

end ArrowNotation
