/-
# The strict reading

The strict reading of a diagram insists that every line is recognized and that there is
something to show: it stops at the first line that is not recognized, and otherwise refuses a
text without nodes.  What it does not refuse has the same graph as ever.
-/
import ArrowNotation.Diagram.Basic

namespace ArrowNotation.Diagram

/-- Why the strict reading refuses a text. -/
inductive ReadError where
  | unrecognizedLine (lineNumber : Nat) (content : Text)
  | noNodes
  deriving DecidableEq

def ReadError.message : ReadError → Text
  | unrecognizedLine lineNumber content =>
    "Syntax error on line ".toText ++ Text.ofNat lineNumber ++ ": ".toText ++ content
  | noNodes => "No diagram elements found.".toText

/-- The first line of a list that is not recognized, trimmed, with its number, where the list
begins with the given number. -/
def firstUnrecognized? (number : Nat) : List Text → Option (Nat × Text)
  | [] => none
  | line :: others =>
    match LineMeaning.ofLine line with
    | .unrecognized => some (number, Text.trim line)
    | _ => firstUnrecognized? (number + 1) others

/-- The graph of a text that the strict reading accepts.  Lines are counted from one. -/
def strictGraph (text : Text) : Except ReadError Graph :=
  match firstUnrecognized? 1 (Text.lines text) with
  | some (number, content) => .error (.unrecognizedLine number content)
  | none =>
    let g := graph text
    if g.isEmpty then .error .noNodes else .ok g

end ArrowNotation.Diagram
