/-
# Two ways to look up a node

A node is looked up in two places.  A registry goes through its index, under the lower-case text of
the identifier; a graph walks its list of nodes and compares the lower-case texts.  About the graph
of a text both say the same, for every identifier that is asked for, whether it can stand in a
diagram or not.

* **The same nodes.**  The graph of a text holds the nodes of the registry in which the ends of its
  written edges were registered, the source of each before its target
  (`nodes_graph_eq_nodes_registerAll`).  So a lookup finds the first mention with the same
  lower-case text (`node?_graph_eq_map_find?`).
* **No second node.**  No two nodes of the graph differ in letter case only, so what is found is the
  only node that could be (`Graph.filter_eq_singleton_of_node?`), and an end of an edge leads to
  the node with exactly its spelling (`Graph.node?_of_mem_ends`).
-/
import ArrowNotation.Proofs.Diagram.Sizes
import ArrowNotation.Proofs.Registry.History

namespace ArrowNotation

/-! ## 1. Graphs of written edges -/

namespace Graph

variable {written : List EdgeLine}

/-- **What is found is the only node with its key.** -/
theorem filter_eq_singleton_of_node? {id : Text} {node : Node}
    (h : (ofEdgeLines written).node? id = some node) :
    ((ofEdgeLines written).nodes.filter fun n => Text.lower n.id = Text.lower id) = [node] := by
  have hkey : Text.lower node.id = Text.lower id := by simpa using List.find?_some h
  have hmem : node ∈ (ofEdgeLines written).nodes := List.mem_of_find?_eq_some h
  have honly := filter_eq_singleton_of_nodup (nodup_keys_ofEdgeLines written) hmem
  rwa [hkey] at honly

/-- **An end of an edge leads to the node that is spelled like it.** -/
theorem node?_of_mem_ends {id : Text} (h : id ∈ ends (ofEdgeLines written).edges) :
    ∃ node, (ofEdgeLines written).node? id = some node ∧ node.id = id := by
  obtain ⟨node, hnode, rfl⟩ := List.mem_map.mp ((mem_ids_iff_mem_ends written).mpr h)
  exact ⟨node, find?_eq_some_of_nodup (nodup_keys_ofEdgeLines written) hnode, rfl⟩

end Graph

namespace Diagram

/-! ## 2. The graph and the registry of a text -/

/-- **The graph of a text holds the nodes of the registry of its mentions.** -/
theorem nodes_graph_eq_nodes_registerAll (text : Text) :
    (graph text).nodes = (Registry.empty.registerAll (mentions (edgeLines text))).nodes := by
  rw [graph, Graph.nodes_ofEdgeLines, Registry.nodes_eq_map_ids, Registry.ids_registerAll_empty]

/-- **The walk through the nodes finds what the index finds.** -/
theorem node?_graph_eq_node?_registerAll (text id : Text) :
    (graph text).node? id
      = (Registry.empty.registerAll (mentions (edgeLines text))).node? id := by
  rw [Registry.node?_eq_find?_nodes, ← nodes_graph_eq_nodes_registerAll]
  rfl

theorem node?_graph_eq_map_find? (text id : Text) :
    (graph text).node? id
      = ((mentions (edgeLines text)).find? fun x => Text.lower x = Text.lower id).map
          Registry.node := by
  rw [node?_graph_eq_node?_registerAll, Registry.node?_eq_map_find?,
    Registry.find?_registerAll_empty]

theorem mem_mentions_edgeLines_iff {text id : Text} :
    id ∈ mentions (edgeLines text) ↔
      ∃ line ∈ Text.lines text, ∃ w, EdgeLine.ofLine? (Text.trim line) = some w ∧
        (id = w.source ∨ id = w.target) := by
  rw [mem_mentions_iff]
  constructor
  · rintro ⟨w, hw, hid⟩
    obtain ⟨line, hline, hread⟩ := exists_line_of_mem_edgeLines hw
    exact ⟨line, hline, w, hread, hid⟩
  · rintro ⟨line, hline, w, hread, hid⟩
    have hedge : (LineMeaning.ofLine line).edge? = some w :=
      LineMeaning.edge?_ofLine_eq_some_iff.mpr ⟨LineKind.ofLine_of_ofLine? hread, hread⟩
    exact ⟨w, List.mem_filterMap.mpr ⟨line, hline, hedge⟩, hid⟩

/-- **Nothing is found exactly when no line mentions the identifier**, letter case aside. -/
theorem node?_graph_eq_none_iff {text id : Text} :
    (graph text).node? id = none ↔
      ∀ line ∈ Text.lines text, ∀ w, EdgeLine.ofLine? (Text.trim line) = some w →
        Text.lower w.source ≠ Text.lower id ∧ Text.lower w.target ≠ Text.lower id := by
  rw [node?_graph_eq_map_find?, Option.map_eq_none_iff, List.find?_eq_none]
  simp only [decide_eq_true_eq]
  constructor
  · intro h line hline w hread
    exact ⟨h w.source (mem_mentions_edgeLines_iff.mpr ⟨line, hline, w, hread, Or.inl rfl⟩),
      h w.target (mem_mentions_edgeLines_iff.mpr ⟨line, hline, w, hread, Or.inr rfl⟩)⟩
  · intro h x hx
    obtain ⟨line, hline, w, hread, rfl | rfl⟩ := mem_mentions_edgeLines_iff.mp hx
    · exact (h line hline w hread).1
    · exact (h line hline w hread).2

/-- **Looking up a node of the graph of a text.**

* The graph answers as the registry does in which the source and the target of every written edge
  were registered, in order.
* It finds nothing exactly when no line that the grammar reads has an identifier that equals the
  one asked for up to letter case.
* What it finds is the only node of the graph with that lower-case text; it is spelled like the
  first mention and labelled with its spelling.
* For an end of an edge it finds the node that is spelled exactly like it. -/
theorem lookup_agrees_with_registry (text id : Text) :
    (graph text).node? id
      = (Registry.empty.registerAll (mentions (edgeLines text))).node? id ∧
    ((graph text).node? id = none ↔
      ∀ line ∈ Text.lines text, ∀ w, EdgeLine.ofLine? (Text.trim line) = some w →
        Text.lower w.source ≠ Text.lower id ∧ Text.lower w.target ≠ Text.lower id) ∧
    (∀ node, (graph text).node? id = some node →
      ((graph text).nodes.filter fun n => Text.lower n.id = Text.lower id) = [node] ∧
      ((mentions (edgeLines text)).find? fun x => Text.lower x = Text.lower id)
        = some node.id ∧
      node.label = node.id) ∧
    (∀ e ∈ (graph text).edges,
      (∃ node, (graph text).node? e.source = some node ∧ node.id = e.source) ∧
        ∃ node, (graph text).node? e.target = some node ∧ node.id = e.target) := by
  refine ⟨node?_graph_eq_node?_registerAll text id, node?_graph_eq_none_iff, ?_, ?_⟩
  · intro node hnode
    refine ⟨Graph.filter_eq_singleton_of_node? hnode, ?_⟩
    rw [node?_graph_eq_map_find?] at hnode
    obtain ⟨first, hfirst, rfl⟩ := Option.map_eq_some_iff.mp hnode
    exact ⟨hfirst, rfl⟩
  · intro e he
    exact ⟨Graph.node?_of_mem_ends (Graph.mem_ends_iff.mpr ⟨e, he, Or.inl rfl⟩),
      Graph.node?_of_mem_ends (Graph.mem_ends_iff.mpr ⟨e, he, Or.inr rfl⟩)⟩

/-- An identifier that no line spells as it is asked for: it leads to the first spelling, and to
nothing else. -/
theorem capitals_lead_to_first_spelling :
    (graph "Start --> A\nB -- C\na ==> start".toText).node? "START".toText
      = some ⟨"Start".toText, "Start".toText⟩ ∧
    ((graph "Start --> A\nB -- C\na ==> start".toText).nodes.filter fun n =>
      Text.lower n.id = Text.lower "START".toText) = [⟨"Start".toText, "Start".toText⟩] := by
  have hfound : (graph "Start --> A\nB -- C\na ==> start".toText).node? "START".toText
      = some ⟨"Start".toText, "Start".toText⟩ := by decide +kernel
  obtain ⟨-, -, honly, -⟩ :=
    lookup_agrees_with_registry "Start --> A\nB -- C\na ==> start".toText "START".toText
  exact ⟨hfound, (honly _ hfound).1⟩

end Diagram

end ArrowNotation
