/-
# Diagrams

A diagram is a text, read line by line.  Its graph comes from the lines that write an edge, in
order; the other lines are passed over, so every text has a graph.
-/
import ArrowNotation.Line.Meaning
import ArrowNotation.Registry.Basic

namespace ArrowNotation

/-! ## 1. From written edges to a graph -/

/-- Register the ends of written edges in a registry, the source of each before its target, and
give every edge the registered spellings of its ends. -/
def Registry.resolve (r : Registry) : List EdgeLine → Registry × List Edge
  | [] => (r, [])
  | written :: others =>
    let (source, r) := r.register written.source
    let (target, r) := r.register written.target
    let (r, edges) := r.resolve others
    (r, ⟨source, target, written.connector, written.label⟩ :: edges)

/-- The graph of written edges. -/
def Graph.ofEdgeLines (written : List EdgeLine) : Graph :=
  let (r, edges) := Registry.empty.resolve written
  ⟨r.nodes, edges⟩

/-! ## 2. The graph of a text -/

namespace Diagram

/-- The edges that the lines of a text write, in order. -/
def edgeLines (text : Text) : List EdgeLine :=
  (Text.lines text).filterMap fun line => (LineMeaning.ofLine line).edge?

/-- The graph of a text. -/
def graph (text : Text) : Graph := Graph.ofEdgeLines (edgeLines text)

end Diagram

/-! ## 3. Counting edges -/

theorem Registry.length_resolve : ∀ (r : Registry) (written : List EdgeLine),
    (r.resolve written).2.length = written.length
  | _, [] => rfl
  | r, w :: others => by
    have ih := Registry.length_resolve ((r.register w.source).2.register w.target).2 others
    simp [Registry.resolve, ih]

/-- **The graph of a text has as many edges as the text has lines that write one.** -/
theorem Diagram.length_edges_graph (text : Text) :
    (Diagram.graph text).edges.length = (Diagram.edgeLines text).length :=
  Registry.length_resolve _ _

end ArrowNotation
