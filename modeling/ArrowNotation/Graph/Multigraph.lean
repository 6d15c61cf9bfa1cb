/-
# Directed multigraphs

The view of a diagram graph that graph algorithms work on.  Every identifier that occurs, as a
node or as the end of an edge, is a vertex once.  Identifiers are compared as they are, letter
case included.

The edges are kept under their ends: every vertex has the targets of its edges, and every target
the parallel edges, told apart by keys.  So edges are listed by source, then by target, and only
then in the order in which they came in.

When directions are forgotten, the edges divide the vertices into components.  At first every vertex
is a block of its own; each edge then merges the blocks that its ends lie in.
-/
import ArrowNotation.Graph.Basic
import ArrowNotation.Keyed

namespace ArrowNotation

/-- A directed multigraph: its vertices in order of insertion, each with the label that it was
given, if it was given one, and its edges in order of insertion. -/
structure Multigraph where
  vertices : List (Text × Option Text)
  edges : List Edge
  deriving DecidableEq

namespace Multigraph

/-! ## 1. Vertices -/

/-- Give a vertex a label: a vertex that is there keeps its place, another goes to the end. -/
def setLabel (id label : Text) : List (Text × Option Text) → List (Text × Option Text) :=
  Keyed.update id fun _ => some label

/-- Make sure that a vertex is there: one that is missing goes to the end, without a label. -/
def touch (id : Text) : List (Text × Option Text) → List (Text × Option Text) :=
  Keyed.update id fun label => label.getD none

/-- The vertices of labelled nodes. -/
def labelledVertices (nodes : List Node) : List (Text × Option Text) :=
  nodes.foldl (fun vertices node => setLabel node.id node.label vertices) []

/-- Vertices with the ends of edges among them, the source of each edge before its target. -/
def touchEnds (vertices : List (Text × Option Text)) (edges : List Edge) :
    List (Text × Option Text) :=
  edges.foldl (fun vertices edge => touch edge.target (touch edge.source vertices)) vertices

/-- The multigraph of a graph: first its nodes, then the ends of its edges. -/
def ofGraph (g : Graph) : Multigraph where
  vertices := touchEnds (labelledVertices g.nodes) g.edges
  edges := g.edges

def ids (m : Multigraph) : List Text := m.vertices.map Prod.fst

/-! ## 2. Edges under their ends -/

/-- What is kept with an edge: the token that draws it, and its label if it has one. -/
structure Attributes where
  token : Text
  label : Option Text
  deriving DecidableEq

def Attributes.ofEdge (e : Edge) : Attributes := ⟨e.connector.token, e.label⟩

/-- Parallel edges, each under its key. -/
abbrev Parallel := List (Nat × Attributes)

/-- The key of one more parallel edge: the number of those there are or, where that is a key
already, the first number after it that is none. -/
def newKey (parallel : Parallel) : Nat :=
  let count := parallel.length
  ((List.range' count (count + 1)).find? fun key => key ∉ parallel.map Prod.fst).getD count

/-- Parallel edges with one more. -/
def addParallel (attributes : Attributes) (parallel : Parallel) : Parallel :=
  Keyed.update (newKey parallel) (fun _ => attributes) parallel

/-- The edges of a multigraph under their sources and, under each of these, their targets. -/
abbrev Adjacency := List (Text × List (Text × Parallel))

/-- One more edge, under its ends. -/
def insertEdge (adjacency : Adjacency) (e : Edge) : Adjacency :=
  Keyed.update e.source (fun successors =>
    Keyed.update e.target (fun parallel => addParallel (.ofEdge e) (parallel.getD []))
      (successors.getD [])) adjacency

/-- The edges that are kept under two ends. -/
def parallelAt (adjacency : Adjacency) (source target : Text) : Parallel :=
  ((Keyed.find? source adjacency).bind (Keyed.find? target)).getD []

/-- The edges of a multigraph under their ends.  Every vertex is there from the beginning. -/
def adjacency (m : Multigraph) : Adjacency :=
  m.edges.foldl insertEdge (m.ids.map fun id => (id, []))

/-! ## 3. Questions -/

/-- An edge as it is listed. -/
structure KeyedEdge where
  source : Text
  target : Text
  key : Nat
  attributes : Attributes
  deriving DecidableEq

/-- Parallel edges with their ends. -/
def listed (source target : Text) (parallel : Parallel) : List KeyedEdge :=
  parallel.map fun (key, attributes) => ⟨source, target, key, attributes⟩

/-- The edges in the order in which they are kept. -/
def keyedEdges (m : Multigraph) : List KeyedEdge :=
  m.adjacency.flatMap fun (source, successors) =>
    successors.flatMap fun (target, parallel) => listed source target parallel

/-- The edges from one vertex to another. -/
def between (m : Multigraph) (source target : Text) : Parallel :=
  parallelAt m.adjacency source target

/-! ## 4. Identifiers of the vertices -/

/-- Labelling a vertex adds it to the end, unless it is there. -/
theorem map_fst_setLabel (id label : Text) (vertices : List (Text × Option Text)) :
    (setLabel id label vertices).map Prod.fst =
      if id ∈ vertices.map Prod.fst then vertices.map Prod.fst
      else vertices.map Prod.fst ++ [id] :=
  (Keyed.map_fst_update id _ vertices).trans (ite_congr rfl (fun _ => rfl) fun _ => rfl)

/-- Touching a vertex adds it to the end, unless it is there. -/
theorem map_fst_touch (id : Text) (vertices : List (Text × Option Text)) :
    (touch id vertices).map Prod.fst =
      if id ∈ vertices.map Prod.fst then vertices.map Prod.fst
      else vertices.map Prod.fst ++ [id] :=
  (Keyed.map_fst_update id _ vertices).trans (ite_congr rfl (fun _ => rfl) fun _ => rfl)

end Multigraph

/-! ## 5. Connected components -/

namespace Components

variable {α : Type} [DecidableEq α]

/-- Merge the blocks that hold one of two elements. -/
def merge (blocks : List (List α)) (a b : α) : List (List α) :=
  let touched := blocks.filter fun block => a ∈ block ∨ b ∈ block
  let others := blocks.filter fun block => ¬ (a ∈ block ∨ b ∈ block)
  if touched = [] then others else touched.flatten :: others

/-- The blocks of a list of elements under pairs of elements that belong together. -/
def ofPairs (elements : List α) (pairs : List (α × α)) : List (List α) :=
  pairs.foldl (fun blocks pair => merge blocks pair.1 pair.2) (elements.map fun a => [a])

end Components

/-- The connected components of a multigraph, directions forgotten. -/
def Multigraph.components (m : Multigraph) : List (List Text) :=
  Components.ofPairs m.ids (m.edges.map fun edge => (edge.source, edge.target))

end ArrowNotation
