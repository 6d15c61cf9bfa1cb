/-
# File trees

A directory with everything below it, as a value: files hold bytes, directories hold named
entries.  A walk follows the steps of a path one by one, so a parent step after a name is only
possible where that name is a directory.  Names and paths have a largest length, and a walk that
comes to a longer name finds nothing, but for a reason of its own.

The names in a tree are spelled as the file system gives them back, and a name that is asked for is
looked up in this spelling.
-/
import ArrowNotation.Files.Path

namespace ArrowNotation

/-- A file or a directory.  The names in a directory are distinct. -/
inductive FileTree where
  | file (content : Bytes)
  | directory (entries : List (Text × FileTree))

namespace FileTree

/-! ## 1. Looking around -/

/-- The entries of a directory; a file has none. -/
def entries : FileTree → List (Text × FileTree)
  | file _ => []
  | directory entries => entries

def isDirectory : FileTree → Bool
  | file _ => false
  | directory _ => true

/-- The entry of a directory with a given name. -/
def child? (tree : FileTree) (name : Text) : Option FileTree :=
  (tree.entries.find? fun entry => entry.1 = name).map Prod.snd

/-- What lies at the end of a list of names. -/
def find? (tree : FileTree) : List Text → Option FileTree
  | [] => some tree
  | name :: names =>
    match tree.child? name with
    | some child => child.find? names
    | none => none

/-! ## 2. Walks -/

/-- Why a walk finds nothing. -/
inductive WalkError where
  | missing
  | nameTooLong
  deriving DecidableEq

/-- The largest number of bytes of a name. -/
def maxNameLength : Nat := 255

/-- The largest number of bytes of a path. -/
def maxPathLength : Nat := 4095

/-- What a walk finds that starts at the names `here` and follows the steps of a path.  Each
step must start in a directory. -/
def walk (tree : FileTree) (here : List Text) : List Text → Except WalkError FileTree
  | [] =>
    match tree.find? here with
    | some found => .ok found
    | none => .error .missing
  | step :: steps =>
    match tree.find? here with
    | some (directory _) =>
      if maxNameLength < step.nameBytes.length then .error .nameTooLong
      else if step = parentStep then tree.walk here.dropLast steps
      else tree.walk (here ++ [step]) steps
    | _ => .error .missing

/-- What lies at an absolute path. -/
def lookUp (tree : FileTree) (p : FilePath) : Except WalkError FileTree :=
  if maxPathLength < p.text.nameBytes.length then .error .nameTooLong
  else tree.walk [] p.stored.steps

/-! ## 3. Building -/

/-- The entries with one of them replaced, or added at the end. -/
def setEntry (name : Text) (entry : FileTree) : List (Text × FileTree) → List (Text × FileTree)
  | [] => [(name, entry)]
  | (other, old) :: entries =>
    if other = name then (other, entry) :: entries else (other, old) :: setEntry name entry entries

/-- A tree with something put at the end of a list of names.  Directories on the way are made
where they are missing. -/
def insert (new : FileTree) : List Text → FileTree → FileTree
  | [], _ => new
  | name :: names, tree =>
    let child := (tree.child? name).getD (directory [])
    directory (setEntry name (insert new names child) tree.entries)

/-- A tree with a directory at the end of a list of names. -/
def makeDirectory (names : List Text) (tree : FileTree) : FileTree :=
  match tree.find? names with
  | some (directory _) => tree
  | _ => insert (directory []) names tree

end FileTree

end ArrowNotation
