/-
# Checked decoding

Reading domain values from JSON.  Decoding does not stop at the first fault: it collects every
fault with its place, in the order of the fields and of the items, and gives a value only when
there is none.  Members that no field asks for are ignored, and nothing is converted from one
kind of value to another.
-/
import ArrowNotation.Graph.Basic
import ArrowNotation.Json.Fault

namespace ArrowNotation

/-! ## 1. Decoded values -/

/-- A decoded value, or all faults found. -/
abbrev Decoded (α : Type) := Except (List Fault) α

namespace Decoded

variable {α β γ : Type}

/-- A single fault of a value, at the place itself. -/
def fault (kind : FaultKind) (value : Json) : Decoded α := .error [⟨kind, [], value⟩]

/-- The faults of a value seen from one step further out. -/
def under (step : PlaceStep) : Decoded α → Decoded α
  | .ok a => .ok a
  | .error faults => .error (faults.map (Fault.under step))

/-- Both of two values together, or the faults of the first followed by those of the second. -/
def both : Decoded α → Decoded β → Decoded (α × β)
  | .ok a, .ok b => .ok (a, b)
  | .ok _, .error faults => .error faults
  | .error faults, .ok _ => .error faults
  | .error faults, .error others => .error (faults ++ others)

/-- The items of a list, of which the first has the given index. -/
def items (decode : Json → Decoded α) (index : Nat) : List Json → Decoded (List α)
  | [] => .ok []
  | value :: others =>
    (both (under (.index index) (decode value)) (items decode (index + 1) others)).map
      fun (a, rest) => a :: rest

end Decoded

/-! ## 2. Fields -/

def decodeString : Json → Decoded Text
  | .string t => .ok t
  | value => .fault .notString value

def decodeString? : Json → Decoded (Option Text)
  | .null => .ok none
  | value => (decodeString value).map some

/-- A connector, written as its token. -/
def Connector.decode : Json → Decoded Connector
  | .string t =>
    match Connector.ofToken? t with
    | some connector => .ok connector
    | none => .fault .notConnector (.string t)
  | value => .fault .notConnector value

/-- An array of values of one kind. -/
def decodeArray {α : Type} (decode : Json → Decoded α) : Json → Decoded (List α)
  | .array values => Decoded.items decode 0 values
  | value => .fault .notArray value

/-- The field of an object that must be there. -/
def required {α : Type} (name : Text) (decode : Json → Decoded α)
    (members : List (Text × Json)) : Decoded α :=
  Decoded.under (.field name)
    (match Json.member? name members with
    | some value => decode value
    | none => .fault .missing (.object members))

/-- The field of an object that has a value of its own when it is absent. -/
def optional {α : Type} (name : Text) (absent : α) (decode : Json → Decoded α)
    (members : List (Text × Json)) : Decoded α :=
  match Json.member? name members with
  | some value => Decoded.under (.field name) (decode value)
  | none => .ok absent

/-! ## 3. Graphs -/

def Node.decode : Json → Decoded Node
  | .object members =>
    (Decoded.both (required "id".toText decodeString members)
      (required "label".toText decodeString members)).map fun (id, label) => ⟨id, label⟩
  | value => .fault (.notObject .node) value

def Edge.decode : Json → Decoded Edge
  | .object members =>
    (Decoded.both (required "source_id".toText decodeString members)
      (Decoded.both (required "target_id".toText decodeString members)
        (Decoded.both (required "connector_type".toText Connector.decode members)
          (optional "label".toText none decodeString? members)))).map
      fun (source, target, connector, label) => ⟨source, target, connector, label⟩
  | value => .fault (.notObject .edge) value

def Graph.decode : Json → Decoded Graph
  | .object members =>
    (Decoded.both (optional "nodes".toText [] (decodeArray Node.decode) members)
      (optional "edges".toText [] (decodeArray Edge.decode) members)).map
      fun (nodes, edges) => ⟨nodes, edges⟩
  | value => .fault (.notObject .graph) value

/-! ## 4. Requests -/

/-- A request about a whole text. -/
structure TextRequest where
  text : Text
  deriving DecidableEq

/-- A request about one line. -/
structure LineRequest where
  line : Text
  deriving DecidableEq

def TextRequest.ofMembers (members : List (Text × Json)) : Decoded TextRequest :=
  (required "text".toText decodeString members).map TextRequest.mk

def LineRequest.ofMembers (members : List (Text × Json)) : Decoded LineRequest :=
  (required "line".toText decodeString members).map LineRequest.mk

def TextRequest.decode : Json → Decoded TextRequest
  | .object members => ofMembers members
  | value => .fault (.notObject .textRequest) value

def LineRequest.decode : Json → Decoded LineRequest
  | .object members => ofMembers members
  | value => .fault (.notObject .lineRequest) value

def TextRequest.toJson (request : TextRequest) : Json :=
  .object [("text".toText, .string request.text)]

def LineRequest.toJson (request : LineRequest) : Json :=
  .object [("line".toText, .string request.line)]

end ArrowNotation
