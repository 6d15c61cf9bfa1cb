/-
# File paths

A path in writing is a root, which is empty for a relative path, and the names on the way,
separated by slashes.  Empty names and single dots say nothing and are dropped; a double dot is
a step to the parent and is kept, because only a walk through a file tree can tell where it
leads.  Two leading slashes are a root of their own; one, or more than two, are the root.
-/
import ArrowNotation.Files.Name

namespace ArrowNotation

/-- The step that leads nowhere. -/
def hereStep : Text := ['.']

/-- The step to the parent. -/
def parentStep : Text := ['.', '.']

/-- A path: its root and the steps on the way. -/
structure FilePath where
  root : Text
  steps : List Text
  deriving DecidableEq

namespace FilePath

/-- The root that a text begins with. -/
def rootOf (t : Text) : Text :=
  match (t.takeWhile fun c => c = Text.slash).length with
  | 0 => []
  | 2 => [Text.slash, Text.slash]
  | _ => [Text.slash]

/-- The path that a text writes. -/
def ofText (t : Text) : FilePath where
  root := rootOf t
  steps := (Text.splitAt Text.slash t).filter fun step => step ≠ [] ∧ step ≠ hereStep

/-- The shortest text of a path: the path that leads nowhere is a dot. -/
def text (p : FilePath) : Text :=
  match p.root ++ Text.intercalate [Text.slash] p.steps with
  | [] => hereStep
  | t => t

/-- A path seen from a directory, which is given by the names that lead to it.  An absolute path
leaves the directory out of account. -/
def seenFrom (directory : List Text) (p : FilePath) : FilePath :=
  if p.root = [] then ⟨[Text.slash], directory ++ p.steps⟩ else p

/-- The names that are left when every parent step takes away the name before it.  At the top a
parent step leads nowhere. -/
def collapse (steps : List Text) : List Text :=
  steps.foldl (fun names step => if step = parentStep then names.dropLast else names ++ [step]) []

/-- The path in the spelling of the file system. -/
def stored (p : FilePath) : FilePath := { p with steps := p.steps.map Text.stored }

end FilePath

end ArrowNotation
