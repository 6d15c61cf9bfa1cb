/-
# One text after the other

Putting two texts one after the other puts their graphs together: the nodes of the second that
are new, letter case aside, go behind those of the first, and so do its edges, each with its
ends respelled as in the first graph where that has them.  So a text can be read in parts, and
what is added at the end changes nothing before it.

The second part is read with a registry that the first has filled, and its spellings may come
from either part.  Described by first mentions, this is one search through two lists in a row:
the spelling in both is the spelling of the second part, looked up in the first
(`firstSpelling_firstSpelling`).
-/
import ArrowNotation.Proofs.Registry.Mentions

namespace ArrowNotation

/-- **Spellings of two lists in a row.**  Looking an identifier up in the second list and what
is found there in the first finds what a search through both finds. -/
theorem firstSpelling_firstSpelling (ids others : List Text) (id : Text) :
    firstSpelling ids (firstSpelling others id) = firstSpelling (ids ++ others) id := by
  have hlower : Text.lower (firstSpelling others id) = Text.lower id :=
    lower_firstSpelling others id
  by_cases h : Text.lower id ∈ ids.map Text.lower
  · obtain ⟨first, hfirst⟩ := Option.isSome_iff_exists.mp (isSome_find?_lower_iff.mpr h)
    rw [firstSpelling_append_of_mem others h, firstSpelling_of_some hfirst]
    refine firstSpelling_of_some ?_
    rw [hlower, hfirst]
  · have hnone : Text.lower (firstSpelling others id) ∉ ids.map Text.lower := by rwa [hlower]
    rw [firstSpelling_append_of_notMem others h, firstSpelling_of_notMem hnone]

namespace Graph

/-! ## 1. Two graphs put together -/

/-- The spelling that a graph has for an identifier: that of its node, letter case aside, and
the identifier itself if there is no such node. -/
def respell (g : Graph) (id : Text) : Text := ((g.node? id).map Node.id).getD id

/-- An edge with its ends spelled as in a graph. -/
def respellEdge (g : Graph) (e : Edge) : Edge :=
  { e with source := g.respell e.source, target := g.respell e.target }

/-- The nodes of a graph, then those of another one whose keys are new; and the edges of the
graph, then those of the other, respelled. -/
def merge (g h : Graph) : Graph where
  nodes := g.nodes ++
    h.nodes.filter fun node => Text.lower node.id ∉ g.nodes.map fun other => Text.lower other.id
  edges := g.edges ++ h.edges.map g.respellEdge

/-! ## 2. Written edges in two parts -/

/-- **A graph of written edges spells identifiers by first mentions.** -/
theorem respell_ofEdgeLines (written : List EdgeLine) (id : Text) :
    (ofEdgeLines written).respell id = firstSpelling (mentions written) id := by
  have hfind : ((ofEdgeLines written).node? id).map Node.id
      = (distinctBy Text.lower [] (mentions written)).find?
          fun x => Text.lower x = Text.lower id := by
    rw [node?, nodes_ofEdgeLines, List.find?_map, Option.map_map]
    exact Option.map_id'
  rw [respell, hfind, ← firstSpelling, firstSpelling_distinctBy]

theorem nodes_merge_ofEdgeLines (written others : List EdgeLine) :
    ((ofEdgeLines written).merge (ofEdgeLines others)).nodes
      = (ofEdgeLines (written ++ others)).nodes := by
  have hnew : distinctBy Text.lower ((mentions written).map Text.lower) (mentions others)
      = (distinctBy Text.lower [] (mentions others)).filter
          fun id => Text.lower id ∉ (mentions written).map Text.lower := by
    refine (distinctBy_append_seen ((mentions written).map Text.lower) [] (mentions others)).trans
      (List.filter_congr ?_)
    exact fun id _ => decide_eq_decide.mpr Iff.rfl
  simp only [merge, mem_keys_ofEdgeLines_iff]
  rw [nodes_ofEdgeLines, nodes_ofEdgeLines, nodes_ofEdgeLines, mentions_append, distinctBy_append,
    List.append_nil, hnew, List.map_append, List.filter_map]
  rfl

theorem edges_merge_ofEdgeLines (written others : List EdgeLine) :
    ((ofEdgeLines written).merge (ofEdgeLines others)).edges
      = (ofEdgeLines (written ++ others)).edges := by
  have hfirst : written.map (EdgeLine.spelledAs (mentions written))
      = written.map (EdgeLine.spelledAs (mentions written ++ mentions others)) := by
    refine List.map_congr_left ?_
    intro w hw
    have hsource := List.mem_map_of_mem (f := Text.lower) (source_mem_mentions hw)
    have htarget := List.mem_map_of_mem (f := Text.lower) (target_mem_mentions hw)
    simp only [EdgeLine.spelledAs, firstSpelling_append_of_mem _ hsource,
      firstSpelling_append_of_mem _ htarget]
  have hsecond : ∀ w : EdgeLine,
      (ofEdgeLines written).respellEdge (w.spelledAs (mentions others))
        = w.spelledAs (mentions written ++ mentions others) := by
    intro w
    simp only [respellEdge, EdgeLine.spelledAs, respell_ofEdgeLines, firstSpelling_firstSpelling]
  simp only [merge, edges_ofEdgeLines, mentions_append, List.map_append, List.map_map]
  rw [hfirst]
  congr 1
  exact List.map_congr_left fun w _ => hsecond w

/-- **The graph of written edges in two parts.** -/
theorem ofEdgeLines_append (written others : List EdgeLine) :
    ofEdgeLines (written ++ others) = (ofEdgeLines written).merge (ofEdgeLines others) := by
  have hnodes := nodes_merge_ofEdgeLines written others
  have hedges := edges_merge_ofEdgeLines written others
  cases hm : (ofEdgeLines written).merge (ofEdgeLines others)
  cases hg : ofEdgeLines (written ++ others)
  rw [hm, hg] at hnodes hedges
  exact congr (congrArg Graph.mk hnodes.symm) hedges.symm

end Graph

namespace Diagram

/-! ## 3. Texts in two parts -/

theorem edgeLines_append_lineFeed (t u : Text) :
    edgeLines (t ++ Text.lineFeed :: u) = edgeLines t ++ edgeLines u := by
  rw [edgeLines, Text.lines_append_lineFeed, List.filterMap_append]
  rfl

/-- **The graph of two texts in a row is their graphs put together.**  In particular nothing
that the first text has said is changed, dropped or moved by the second. -/
theorem graph_append_lineFeed (t u : Text) :
    graph (t ++ Text.lineFeed :: u) = (graph t).merge (graph u) ∧
    (graph t).nodes <+: (graph (t ++ Text.lineFeed :: u)).nodes ∧
    (graph t).edges <+: (graph (t ++ Text.lineFeed :: u)).edges := by
  have hmerge : graph (t ++ Text.lineFeed :: u) = (graph t).merge (graph u) := by
    rw [graph, edgeLines_append_lineFeed, Graph.ofEdgeLines_append]
    rfl
  rw [hmerge]
  exact ⟨rfl, List.prefix_append _ _, List.prefix_append _ _⟩

end Diagram

end ArrowNotation
