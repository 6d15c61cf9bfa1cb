/-
# Graphs of texts are well formed

A graph as such may repeat nodes or have edges that end nowhere.  The graph of a text cannot:
its nodes are the ends of its edges in the order of their first occurrence, each of them once,
and distinct even when letter case is ignored.

The argument rests on the description of the graph by first mentions.  The ends of the edges
are the mentioned identifiers, each replaced by its first spelling (`ends_map_spelledAs`); among
mentioned identifiers equal spellings are equal keys, so dropping repeated ends and dropping
repeated keys come to the same (`ids_eq_distinct_ends`).
-/
import ArrowNotation.Proofs.Line.Meaning
import ArrowNotation.Proofs.Line.Writing
import ArrowNotation.Proofs.Registry.Mentions

namespace ArrowNotation

/-! ## 1. The ends of edges -/

namespace Graph

/-- The identifiers at the ends of edges, the source of each before its target. -/
def ends (edges : List Edge) : List Text := edges.flatMap fun e => [e.source, e.target]

theorem mem_ends_iff {edges : List Edge} {id : Text} :
    id ∈ ends edges ↔ ∃ e ∈ edges, id = e.source ∨ id = e.target := by
  simp [ends]

/-- **The ends are what was mentioned, respelled.** -/
theorem ends_map_spelledAs (ids : List Text) : ∀ written : List EdgeLine,
    ends (written.map (EdgeLine.spelledAs ids)) = (mentions written).map (firstSpelling ids)
  | [] => rfl
  | w :: written => by
    have ih := ends_map_spelledAs ids written
    have hcons : ends ((w :: written).map (EdgeLine.spelledAs ids))
        = firstSpelling ids w.source :: firstSpelling ids w.target
            :: ends (written.map (EdgeLine.spelledAs ids)) := rfl
    rw [hcons, ih, mentions_cons, List.map_cons, List.map_cons]

theorem map_firstSpelling_distinctBy (ids : List Text) :
    (distinctBy Text.lower [] ids).map (firstSpelling ids) = distinctBy Text.lower [] ids := by
  conv => rhs; rw [← List.map_id (distinctBy Text.lower [] ids)]
  refine List.map_congr_left ?_
  intro id hid
  exact firstSpelling_of_mem_distinctBy hid

/-- **The nodes are the ends of the edges without repetitions.**  The ends are compared as they
are, letter case included. -/
theorem ids_eq_distinct_ends (written : List EdgeLine) :
    (ofEdgeLines written).nodes.map Node.id
      = distinctBy id [] (ends (ofEdgeLines written).edges) := by
  have hrename : distinctBy id [] ((mentions written).map (firstSpelling (mentions written)))
      = (distinctBy Text.lower [] (mentions written)).map (firstSpelling (mentions written)) :=
    distinctBy_map_eq_map_distinctBy [] (mentions written) fun _ ha _ _ => firstSpelling_eq_iff ha
  rw [map_id_nodes_ofEdgeLines, edges_ofEdgeLines, ends_map_spelledAs, hrename,
    map_firstSpelling_distinctBy]

theorem mem_ids_iff_mem_ends (written : List EdgeLine) {x : Text} :
    x ∈ (ofEdgeLines written).nodes.map Node.id ↔ x ∈ ends (ofEdgeLines written).edges := by
  rw [ids_eq_distinct_ends, mem_distinctBy_id_iff]

/-- **No two nodes differ in letter case only.** -/
theorem nodup_keys_ofEdgeLines (written : List EdgeLine) :
    ((ofEdgeLines written).nodes.map fun node => Text.lower node.id).Nodup := by
  have h := nodup_keys_distinctBy Text.lower [] (mentions written)
  rw [← map_id_nodes_ofEdgeLines, List.map_map] at h
  exact h

theorem label_eq_and_mem_mentions {written : List EdgeLine} {node : Node}
    (h : node ∈ (ofEdgeLines written).nodes) :
    node.label = node.id ∧ node.id ∈ mentions written := by
  rw [nodes_ofEdgeLines] at h
  obtain ⟨id, hid, rfl⟩ := List.mem_map.mp h
  exact ⟨rfl, (distinctBy_sublist Text.lower [] (mentions written)).mem hid⟩

end Graph

/-! ## 2. The lines that write an edge -/

namespace Diagram

/-- The lines of a text that write an edge, in order. -/
def writingLines (text : Text) : List Text :=
  (Text.lines text).filter fun line => (LineMeaning.ofLine line).edge?.isSome

/-- **The written edges are what the grammar reads in these lines**, one for each. -/
theorem map_some_edgeLines (text : Text) :
    (edgeLines text).map some
      = (writingLines text).map fun line => EdgeLine.ofLine? (Text.trim line) := by
  rw [edgeLines, writingLines]
  induction Text.lines text with
  | nil => rfl
  | cons line others ih =>
    cases h : (LineMeaning.ofLine line).edge? with
    | none => simp [h, ih]
    | some w =>
      have hw : EdgeLine.ofLine? (Text.trim line) = some w :=
        (LineMeaning.edge?_ofLine_eq_some_iff.mp h).2
      simp [h, hw, ih]

theorem exists_line_of_mem_edgeLines {text : Text} {w : EdgeLine} (h : w ∈ edgeLines text) :
    ∃ line ∈ Text.lines text, EdgeLine.ofLine? (Text.trim line) = some w := by
  obtain ⟨line, hline, hw⟩ := List.mem_filterMap.mp h
  exact ⟨line, hline, (LineMeaning.edge?_ofLine_eq_some_iff.mp hw).2⟩

theorem isIdentifier_of_mem_mentions {text : Text} {id : Text}
    (h : id ∈ mentions (edgeLines text)) : Text.IsIdentifier id := by
  obtain ⟨w, hw, hid⟩ := mem_mentions_iff.mp h
  obtain ⟨line, -, hline⟩ := exists_line_of_mem_edgeLines hw
  obtain ⟨hsource, htarget⟩ := EdgeLine.isIdentifier_of_ofLine? hline
  rcases hid with rfl | rfl
  · exact hsource
  · exact htarget

/-! ## 3. The graph of a text -/

/-- **The edge of a line.**  The edge with the number of a line that writes one is what the line
writes, spelled by first mentions. -/
theorem exists_edgeLine_of_getElem? {text line : Text} {k : Nat} {e : Edge}
    (hline : (writingLines text)[k]? = some line) (he : (graph text).edges[k]? = some e) :
    ∃ w, EdgeLine.ofLine? (Text.trim line) = some w ∧
      e = w.spelledAs (mentions (edgeLines text)) := by
  have hread := congrArg (·[k]?) (map_some_edgeLines text)
  simp only [List.getElem?_map, hline, Option.map_some] at hread
  obtain ⟨w, hw, hwline⟩ := Option.map_eq_some_iff.mp hread
  refine ⟨w, hwline.symm, ?_⟩
  rw [graph, Graph.edges_ofEdgeLines, List.getElem?_map, hw, Option.map_some] at he
  exact (Option.some.inj he).symm

theorem length_edges_graph_eq_length_writingLines (text : Text) :
    (graph text).edges.length = (writingLines text).length := by
  have hlength := congrArg List.length (map_some_edgeLines text)
  rw [List.length_map, List.length_map] at hlength
  rw [length_edges_graph, hlength]

/-- **The graph of a text is well formed.**

* No two nodes differ in letter case only, and each is labelled with its identifier, which is
  an identifier by the grammar.
* The nodes are the ends of the edges in the order of first occurrence.  So every node is the
  end of an edge, there are nodes exactly when there are edges, and every end is, as it is
  spelled, the identifier of a node.
* There is one edge for each line that writes one, in order, with its connector and its label,
  and with its ends up to letter case. -/
theorem graph_is_well_formed (text : Text) :
    ((graph text).nodes.map fun node => Text.lower node.id).Nodup ∧
    (∀ node ∈ (graph text).nodes, node.label = node.id ∧ Text.IsIdentifier node.id) ∧
    (graph text).nodes.map Node.id = distinctBy id [] (Graph.ends (graph text).edges) ∧
    (∀ node ∈ (graph text).nodes, ∃ e ∈ (graph text).edges,
      node.id = e.source ∨ node.id = e.target) ∧
    ((graph text).isEmpty = true ↔ (graph text).edges = []) ∧
    (∀ e ∈ (graph text).edges,
      (∃ node ∈ (graph text).nodes, node.id = e.source) ∧
        ∃ node ∈ (graph text).nodes, node.id = e.target) ∧
    (graph text).edges.length = (writingLines text).length ∧
    (∀ (k : Nat) (line : Text) (e : Edge),
      (writingLines text)[k]? = some line → (graph text).edges[k]? = some e →
      ∃ w, EdgeLine.ofLine? (Text.trim line) = some w ∧
        e.connector = w.connector ∧ e.label = w.label ∧
        Text.lower e.source = Text.lower w.source ∧
        Text.lower e.target = Text.lower w.target) := by
  have hids : ∀ id, id ∈ (graph text).nodes.map Node.id ↔ id ∈ Graph.ends (graph text).edges :=
    fun _ => Graph.mem_ids_iff_mem_ends (edgeLines text)
  refine ⟨Graph.nodup_keys_ofEdgeLines _, ?_, Graph.ids_eq_distinct_ends _, ?_, ?_, ?_,
    length_edges_graph_eq_length_writingLines text, ?_⟩
  · intro node hnode
    obtain ⟨hlabel, hid⟩ := Graph.label_eq_and_mem_mentions hnode
    exact ⟨hlabel, isIdentifier_of_mem_mentions hid⟩
  · intro node hnode
    exact Graph.mem_ends_iff.mp ((hids node.id).mp (List.mem_map_of_mem hnode))
  · rw [graph, Graph.isEmpty_ofEdgeLines_iff, Graph.edges_ofEdgeLines, List.map_eq_nil_iff]
  · intro e he
    have hsource : e.source ∈ (graph text).nodes.map Node.id :=
      (hids _).mpr (Graph.mem_ends_iff.mpr ⟨e, he, Or.inl rfl⟩)
    have htarget : e.target ∈ (graph text).nodes.map Node.id :=
      (hids _).mpr (Graph.mem_ends_iff.mpr ⟨e, he, Or.inr rfl⟩)
    exact ⟨List.mem_map.mp hsource, List.mem_map.mp htarget⟩
  · intro k line e hline he
    obtain ⟨w, hw, rfl⟩ := exists_edgeLine_of_getElem? hline he
    exact ⟨w, hw, rfl, rfl, lower_firstSpelling _ _, lower_firstSpelling _ _⟩

end Diagram

end ArrowNotation
