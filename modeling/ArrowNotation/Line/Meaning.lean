/-
# Lines of a diagram

A line of a diagram is blank, a comment or a candidate for an edge, and only the text between
its outer blanks decides which.  A candidate either writes an edge or is not recognized; the
other lines say nothing.
-/
import ArrowNotation.Line.EdgeLine

namespace ArrowNotation

/-! ## 1. Kinds -/

/-- What a line is before it is read. -/
inductive LineKind where
  | blank
  | comment
  | candidate
  deriving DecidableEq

namespace LineKind

/-- The characters that open a comment. -/
def commentMark : Text := ['/', '/']

def ofLine (line : Text) : LineKind :=
  let content := Text.trim line
  if content = [] then blank
  else if commentMark.isPrefixOf content then comment
  else candidate

def name : LineKind → Text
  | blank => "blank".toText
  | comment => "comment".toText
  | candidate => "candidate".toText

end LineKind

/-! ## 2. Meanings -/

/-- What a line means: nothing, an edge, or nothing that is recognized. -/
inductive LineMeaning where
  | nothing
  | edge (line : EdgeLine)
  | unrecognized
  deriving DecidableEq

namespace LineMeaning

def ofLine (line : Text) : LineMeaning :=
  match LineKind.ofLine line with
  | .blank => nothing
  | .comment => nothing
  | .candidate =>
    match EdgeLine.ofLine? (Text.trim line) with
    | some written => edge written
    | none => unrecognized

/-- The edge that a line of this meaning writes. -/
def edge? : LineMeaning → Option EdgeLine
  | edge written => some written
  | _ => none

end LineMeaning

/-- Whether a line is fit for a diagram: blank, a comment or a written edge. -/
def isWellFormedLine (line : Text) : Bool := LineMeaning.ofLine line ≠ .unrecognized

end ArrowNotation
