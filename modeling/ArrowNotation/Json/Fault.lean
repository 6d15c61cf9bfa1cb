/-
# Faults of a value

What can be wrong with a JSON value that should be a domain value, and where.  A fault is a kind,
a place and the value at fault; the wording of each kind is fixed here and nowhere else.
-/
import ArrowNotation.Connector
import ArrowNotation.Json.Basic

namespace ArrowNotation

/-! ## 1. Kinds and places -/

/-- One step on the way to a place inside a value. -/
inductive PlaceStep where
  | field (name : Text)
  | index (i : Nat)
  deriving DecidableEq

/-- The kinds of value that can be decoded. -/
inductive Shape where
  | node
  | edge
  | graph
  | textRequest
  | lineRequest
  deriving DecidableEq

def Shape.name : Shape → Text
  | node => "DiagramNode".toText
  | edge => "DiagramEdge".toText
  | graph => "DiagramGraph".toText
  | textRequest => "ParseRequest".toText
  | lineRequest => "LineRequest".toText

/-- What can be wrong with a value. -/
inductive FaultKind where
  | missing
  | notString
  | notConnector
  | notArray
  | notObject (shape : Shape)
  | notFields
  | malformed
  | frozen
  deriving DecidableEq

/-- A fault, its place, and the value at fault.  Where a member is missing, that value is the
object which lacks it, and where there is no value at all, it is `null`. -/
structure Fault where
  kind : FaultKind
  place : List PlaceStep
  value : Json

/-! ## 2. Wording -/

def FaultKind.code : FaultKind → Text
  | missing => "missing".toText
  | notString => "string_type".toText
  | notConnector => "enum".toText
  | notArray => "tuple_type".toText
  | notObject _ => "model_type".toText
  | notFields => "model_attributes_type".toText
  | malformed => "json_invalid".toText
  | frozen => "frozen_instance".toText

/-- Several alternatives in words: commas between them, and `or` before the last. -/
def alternatives : List Text → Text
  | [] => []
  | [last] => last
  | [other, last] => other ++ " or ".toText ++ last
  | first :: others => first ++ ", ".toText ++ alternatives others

/-- The wording of a kind of fault. -/
def FaultKind.message : FaultKind → Text
  | missing => "Field required".toText
  | notString => "Input should be a valid string".toText
  | notConnector =>
    "Input should be ".toText
      ++ alternatives (Connector.all.map fun c => "'".toText ++ c.token ++ "'".toText)
  | notArray => "Input should be a valid tuple".toText
  | notObject shape =>
    "Input should be a valid dictionary or instance of ".toText ++ shape.name
  | notFields =>
    "Input should be a valid dictionary or object to extract fields from".toText
  | malformed => "JSON decode error".toText
  | frozen => "Instance is frozen".toText

/-! ## 3. Faults as values -/

/-- A fault seen from one step further out. -/
def Fault.under (step : PlaceStep) (fault : Fault) : Fault :=
  { fault with place := step :: fault.place }

def PlaceStep.toJson : PlaceStep → Json
  | field name => .string name
  | index i => .ofNat i

def Fault.toJson (fault : Fault) : Json :=
  .object [
    ("type".toText, .string fault.kind.code),
    ("loc".toText, .array (fault.place.map PlaceStep.toJson)),
    ("msg".toText, .string fault.kind.message)]

/-- Graphs, nodes and edges do not change once they are made: to set a field, whatever its name
and the value, is a fault at that field. -/
def Fault.ofAssignment (field : Text) (value : Json) : Fault := ⟨.frozen, [.field field], value⟩

end ArrowNotation
