/-
# What a reading passes over

The reading of a diagram never fails, but it does not hide what it passes over either: it notes
every line that is not recognized, and at the end the size of the graph.  A line is quoted in
its note, so whatever it holds, it stays inside that note.
-/
import ArrowNotation.Diagram.Basic
import ArrowNotation.LogRecord
import ArrowNotation.Text.Quoted

namespace ArrowNotation.Diagram

/-- Something that the reading of a diagram notes. -/
inductive TraceEvent where
  | passedOver (lineNumber : Nat) (content : Text)
  | finished (nodeCount edgeCount : Nat)
  deriving DecidableEq

def TraceEvent.message : TraceEvent → Text
  | passedOver lineNumber content =>
    "Skipping unrecognized line ".toText ++ Text.ofNat lineNumber ++ ": ".toText
      ++ Text.quoted content
  | finished nodeCount edgeCount =>
    "Parsed diagram: ".toText ++ Text.ofNat nodeCount ++ " nodes, ".toText
      ++ Text.ofNat edgeCount ++ " edges".toText

/-- The note about a line, if it is not recognized. -/
def TraceEvent.ofLine? (lineNumber : Nat) (line : Text) : Option TraceEvent :=
  match LineMeaning.ofLine line with
  | .unrecognized => some (.passedOver lineNumber (Text.trim line))
  | _ => none

/-- What the reading of a text notes, in order.  Lines are counted from one. -/
def trace (text : Text) : List TraceEvent :=
  let g := graph text
  ((Text.lines text).zipIdx 1).filterMap (fun (line, number) => TraceEvent.ofLine? number line)
    ++ [.finished g.nodes.length g.edges.length]

/-- The log records of the reading of a text. -/
def log (text : Text) : List LogRecord :=
  (trace text).map fun event => ⟨.debug, event.message⟩

end ArrowNotation.Diagram
