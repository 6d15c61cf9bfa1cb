/-
# Directories of samples

A directory of samples inside a file tree: the list of the samples in it, and the text of one
sample by its name.

A name that is asked for may hold slashes and parent steps.  It is answered only if its path,
collapsed, is a direct entry of the directory and the walk along the path ends at a file, so
nothing outside the directory can be read.  A name that the file system cannot be asked for fails
before any of this is looked at.

The two bundled samples are a directory as well.
-/
import ArrowNotation.Samples.Entry
import ArrowNotation.Text.Order
import ArrowNotation.Text.Quoted

namespace ArrowNotation

/-- A directory of samples: the file tree it lies in and the names that lead to it, in the spelling
of the file system. -/
structure SampleDirectory where
  tree : FileTree
  location : List Text
  isStored : ∀ name ∈ location, Text.stored name = name

namespace SampleDirectory

/-! ## 1. Listings -/

/-- The directory itself, if it exists. -/
def directory? (d : SampleDirectory) : Option FileTree :=
  (d.tree.find? d.location).filter FileTree.isDirectory

/-- The entries of the directory that are samples, in the order of their file names. -/
def sampleEntries (d : SampleDirectory) : List (Text × FileTree) :=
  match d.directory? with
  | some directory =>
    (directory.entries.filter fun entry => Sample.isFileName entry.1).mergeSort
      fun a b => Text.atMost a.1 b.1
  | none => []

/-- The names of the samples, in the order of their file names. -/
def names (d : SampleDirectory) : List Text :=
  d.sampleEntries.map fun entry => Sample.nameOf entry.1

/-- A line of the listing. -/
structure Listed where
  name : Text
  description : Text
  deriving DecidableEq

/-- The names and the descriptions of the samples, in the order of their file names. -/
def listing (d : SampleDirectory) : List Listed :=
  d.sampleEntries.map fun (fileName, entry) =>
    ⟨Sample.nameOf fileName, Sample.descriptionOf entry⟩

/-! ## 2. One sample -/

/-- A sample that was asked for: the name it was asked for by, and its text. -/
structure Fetched where
  name : Text
  content : Text
  deriving DecidableEq

def Fetched.graph (s : Fetched) : Graph := Diagram.graph s.content

/-- Why a sample cannot be fetched: its name holds a null character, or a surrogate that cannot be
written, or no sample is called so; the name is too long; or the file holds no text. -/
inductive FetchError where
  | unusableName
  | unwritableName
  | notFound (name : Text) (available : List Text)
  | nameTooLong
  | undecodable
  deriving DecidableEq

/-- The wording of the answer to an unknown name. -/
def notFoundMessage (name : Text) (available : List Text) : Text :=
  "Sample '".toText ++ name ++ "' not found. Available samples: ".toText
    ++ Text.quotedList available

/-- The path that the name of a sample stands for. -/
def pathOf (d : SampleDirectory) (name : Text) : FilePath :=
  (FilePath.ofText (name ++ Sample.ending)).seenFrom d.location

/-- The bytes that the name of a sample leads to, if its path, collapsed, is a direct entry of
the directory and the walk along the path ends at a file. -/
def content (d : SampleDirectory) (name : Text) : Except FileTree.WalkError Bytes :=
  let path := d.pathOf name
  if (FilePath.collapse path.steps).dropLast = d.location then do
    match ← d.tree.lookUp path with
    | .file content => .ok content
    | .directory _ => .error .missing
  else .error .missing

/-- Why the file system cannot be asked for a step of a path. -/
def objection? (step : Text) : Option FetchError :=
  if !step.isWritable then some .unwritableName
  else if Text.null ∈ step then some .unusableName
  else none

/-- The sample with a given name.  The steps of the name are put to the file system in their order,
and the first that it cannot be asked for decides. -/
def fetch (d : SampleDirectory) (name : Text) : Except FetchError Fetched :=
  match (FilePath.ofText (name ++ Sample.ending)).steps.findSome? objection? with
  | some cause => .error cause
  | none =>
    match d.content name with
    | .error .missing => .error (.notFound name d.names)
    | .error .nameTooLong => .error .nameTooLong
    | .ok content =>
      match Sample.textOf? content with
      | none => .error .undecodable
      | some text => .ok ⟨name, text⟩

end SampleDirectory

/-! ## 3. Bundled samples -/

namespace BundledSamples

/-- One connector of each kind, and a label. -/
def flowchart : String :=
  "// Sample flowchart\nStart --> Process\nProcess --- End\nDecision <--> Both\n"
    ++ "Maybe -.-> Perhaps\nImportant ==> Critical\nDecision --> End : yes\n"

/-- An order on its way from the cart to the customer. -/
def orderPipeline : String :=
  "// Order fulfilment pipeline\nCart --> Checkout\nCheckout --> Payment\n"
    ++ "Payment --> Fulfilment : approved\nPayment -.-> Cart : declined\n"
    ++ "Fulfilment ==> Shipping\nShipping --> Delivered\nWarehouse <--> Fulfilment\n\n"
    ++ "// Notifications\nShipping --- Notify\n"

/-- The directory of the bundled samples. -/
def directory : FileTree := .directory [
  ("flowchart.diagram".toText, .file flowchart.toUTF8.data.toList),
  ("order_pipeline.diagram".toText, .file orderPipeline.toUTF8.data.toList)]

end BundledSamples

end ArrowNotation
