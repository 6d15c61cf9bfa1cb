/-
# Diagram graphs

A diagram read as a graph: nodes in the order in which they are first mentioned, and edges in
the order in which they are written.  Nothing forbids a graph of another origin to repeat a node
or to have an edge whose end is no node; the graphs of texts have neither.
-/
import ArrowNotation.Connector
import ArrowNotation.Text.LetterCase

namespace ArrowNotation

/-- A node: its identifier and the label it is shown with. -/
structure Node where
  id : Text
  label : Text
  deriving DecidableEq

/-- An edge: the identifiers of its two ends, how it is drawn, and its label if it has one. -/
structure Edge where
  source : Text
  target : Text
  connector : Connector
  label : Option Text
  deriving DecidableEq

/-- A graph: its nodes and its edges, each in order. -/
structure Graph where
  nodes : List Node
  edges : List Edge
  deriving DecidableEq

namespace Graph

/-- The first node whose identifier is the given one, letter case aside. -/
def node? (g : Graph) (id : Text) : Option Node :=
  let key := Text.lower id
  g.nodes.find? fun node => Text.lower node.id = key

/-- Whether a graph has no nodes.  Edges do not count. -/
def isEmpty (g : Graph) : Bool := g.nodes.isEmpty

end Graph

end ArrowNotation
