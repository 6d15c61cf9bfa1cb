/-
# Help for an editor

What an editor shows beside a diagram while it is written: an error for every line that is not well
formed, with the stretch of the line to underline; what the diagram comes to, and what it says about
itself in its first comment; the connectors to choose from, and a diagram to begin with.
-/
import ArrowNotation.Diagram.Basic
import ArrowNotation.Graph.Multigraph

namespace ArrowNotation.Diagram

/-! ## 1. Diagnostics -/

/-- An error in one line.  The line is counted from zero, and the columns span the line up to
the blanks at its end. -/
structure Diagnostic where
  message : Text
  line : Nat
  startColumn : Nat
  endColumn : Nat
  deriving DecidableEq

/-- The diagnostic of a line that is not well formed. -/
def Diagnostic.ofLine (index : Nat) (line : Text) : Diagnostic where
  message := "Invalid arrow notation: '".toText ++ Text.trim line
    ++ "'. Use format: Source --> Target".toText
  line := index
  startColumn := 0
  endColumn := (Text.trimRight line).length

/-- The diagnostics of a text, in the order of its lines. -/
def diagnostics (text : Text) : List Diagnostic :=
  (Text.lines text).zipIdx.filterMap fun (line, index) =>
    if isWellFormedLine line then none else some (.ofLine index line)

/-! ## 2. Size -/

/-- How many nodes and edges a graph has, and into how many components it falls. -/
structure Summary where
  nodeCount : Nat
  edgeCount : Nat
  componentCount : Nat
  deriving DecidableEq

/-- The wording of a summary. -/
def Summary.text (s : Summary) : Text :=
  "Diagram: ".toText ++ Text.ofNat s.nodeCount ++ " nodes, ".toText ++ Text.ofNat s.edgeCount
    ++ " edges".toText

/-- The summary of a text whose graph has a node. -/
def summary? (text : Text) : Option Summary :=
  let g := graph text
  if g.isEmpty then none
  else some ⟨g.nodes.length, g.edges.length, (Multigraph.ofGraph g).components.length⟩

theorem summary?_eq_none_iff {text : Text} :
    summary? text = none ↔ (graph text).isEmpty = true := by
  simp [summary?]

/-! ## 3. Description -/

/-- The first comment of a text, trimmed and without its mark, or nothing if it has none. -/
def description (text : Text) : Text :=
  match (Text.lines text).find? fun line => LineKind.ofLine line = .comment with
  | some line => Text.trim ((Text.trim line).drop LineKind.commentMark.length)
  | none => []

/-! ## 4. Writing -/

/-- A connector on offer: how it is listed, what is written when it is chosen, and what it looks
like. -/
structure Completion where
  label : Text
  insertText : Text
  description : Text
  deriving DecidableEq

def Completion.ofConnector (connector : Connector) : Completion where
  label := connector.token
  insertText := connector.token
  description := connector.description

def completions : List Completion := Connector.all.map Completion.ofConnector

/-- The diagram that a new document holds. -/
def template : Text :=
  "// Define your flowchart\nStart --> Process\nProcess --> End".toText

end ArrowNotation.Diagram
