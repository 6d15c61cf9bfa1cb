/-
# Samples

A sample is an entry of a directory whose name ends in `.diagram`.  It goes by its name without
that ending, and it holds a text if it is a file of well-formed UTF-8.
-/
import ArrowNotation.Diagram.Editor
import ArrowNotation.Files.Tree

namespace ArrowNotation

namespace Sample

/-! ## 1. Names -/

/-- The ending of the file names of samples. -/
def ending : Text := ".diagram".toText

/-- Whether a file name is one of a sample. -/
def isFileName (name : Text) : Bool := ending.isSuffixOf name

/-- The name of a sample by its file name: without the ending, unless nothing would be left. -/
def nameOf (fileName : Text) : Text :=
  let name := fileName.take (fileName.length - ending.length)
  if name = [] then fileName else name

/-! ## 2. Contents -/

/-- A text with a line feed for each of its line ends.  A line ends in a line feed, a carriage
return, or a carriage return with a line feed after it. -/
def unifyLineEnds : Text → Text
  | [] => []
  | c :: rest =>
    if c = Text.carriageReturn then
      match rest with
      | [] => [Text.lineFeed]
      | d :: others =>
        if d = Text.lineFeed then Text.lineFeed :: unifyLineEnds others
        else Text.lineFeed :: unifyLineEnds (d :: others)
    else c :: unifyLineEnds rest

/-- The text that bytes encode, if they are well-formed UTF-8. -/
def textOf? (content : Bytes) : Option Text :=
  (Text.decodeUtf8 false content).map unifyLineEnds

/-- The description of an entry: that of its diagram, or nothing if it holds no text. -/
def descriptionOf : FileTree → Text
  | .file content => ((textOf? content).map Diagram.description).getD []
  | .directory _ => []

end Sample

end ArrowNotation
