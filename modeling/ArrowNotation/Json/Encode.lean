/-
# Domain values as JSON

How nodes, edges, graphs and the other values that an answer may hold are written as JSON.
-/
import ArrowNotation.Diagram.Editor
import ArrowNotation.Json.Basic
import ArrowNotation.LogRecord

namespace ArrowNotation

/-! ## 1. Graphs -/

def Node.toJson (node : Node) : Json :=
  .object [("id".toText, .string node.id), ("label".toText, .string node.label)]

def Edge.toJson (edge : Edge) : Json :=
  .object [
    ("source_id".toText, .string edge.source),
    ("target_id".toText, .string edge.target),
    ("connector_type".toText, .string edge.connector.token),
    ("label".toText, .ofText? edge.label)]

def Graph.toJson (g : Graph) : Json :=
  .object [
    ("nodes".toText, .array (g.nodes.map Node.toJson)),
    ("edges".toText, .array (g.edges.map Edge.toJson))]

def EdgeLine.toJson (written : EdgeLine) : Json :=
  .object [
    ("source_id".toText, .string written.source),
    ("connector_type".toText, .string written.connector.token),
    ("target_id".toText, .string written.target),
    ("label".toText, .ofText? written.label)]

def Connector.toJson (connector : Connector) : Json :=
  .object [
    ("name".toText, .string connector.name),
    ("value".toText, .string connector.token),
    ("description".toText, .string connector.description)]

/-- A multigraph as JSON: its vertices with their labels and its edges with their keys. -/
def Multigraph.toJson (m : Multigraph) : Json :=
  .object [
    ("nodes".toText, .array (m.vertices.map fun (id, label) =>
      .array [.string id, .object (match label with
        | some label => [("label".toText, .string label)]
        | none => [])])),
    ("edges".toText, .array (m.keyedEdges.map fun edge =>
      .array [.string edge.source, .string edge.target, .ofNat edge.key, .object [
        ("connector_type".toText, .string edge.attributes.token),
        ("label".toText, .ofText? edge.attributes.label)]]))]

/-! ## 2. Help for editors -/

/-- A diagnostic as JSON; every diagnostic is an error. -/
def Diagram.Diagnostic.toJson (d : Diagnostic) : Json :=
  .object [
    ("severity".toText, .string "error".toText),
    ("message".toText, .string d.message),
    ("line".toText, .ofNat d.line),
    ("start_column".toText, .ofNat d.startColumn),
    ("end_column".toText, .ofNat d.endColumn)]

/-- A completion as JSON; every completion is a snippet. -/
def Diagram.Completion.toJson (c : Completion) : Json :=
  .object [
    ("label".toText, .string c.label),
    ("insert_text".toText, .string c.insertText),
    ("kind".toText, .string "Snippet".toText),
    ("description".toText, .string c.description)]

def Diagram.Summary.toJson (s : Summary) : Json :=
  .object [
    ("text".toText, .string s.text),
    ("node_count".toText, .ofNat s.nodeCount),
    ("edge_count".toText, .ofNat s.edgeCount),
    ("component_count".toText, .ofNat s.componentCount)]

/-- A log record as JSON: its level and its message. -/
def LogRecord.toJson (record : LogRecord) : Json :=
  .array [.string record.level.name, .string record.message]

end ArrowNotation
