/-
# Request bodies

How the body of a request becomes a request about a text or a line.  A body is missing, or it is
no JSON, or no object, or its members do not fit: the first of these that holds is what the
answer reports.
-/
import ArrowNotation.Json.Decode
import ArrowNotation.Json.Reader
import ArrowNotation.Text.Classes
import ArrowNotation.Text.LetterCase

namespace ArrowNotation.Service

/-- The body of a request: a JSON value, or bytes that are still to be read.  No bytes are no
body. -/
inductive Body where
  | value (v : Json)
  | bytes (content : Bytes)

/-- Why a body makes no request: it has faults, or it cannot be read at all. -/
inductive BodyError where
  | faulty (faults : List Fault)
  | unreadable

/-- Whether a character is a blank in a header.  Headers are read byte by byte, and what begins
with a byte beyond ASCII is no blank there. -/
def isHeaderBlank (c : CodePoint) : Bool := c.toNat < 0x80 && Text.isBlank c

/-- The text of a header without the blanks at either end. -/
def trimHeader (t : Text) : Text :=
  ((t.dropWhile isHeaderBlank).reverse.dropWhile isHeaderBlank).reverse

/-- Whether a content type announces JSON: the application type `json`, or one whose name ends
in `+json`.  Letter case, blanks at either end and parameters do not count. -/
def announcesJson (contentType : Text) : Bool :=
  let type := Text.lower (trimHeader (contentType.takeWhile (· ≠ .ofChar ';')))
  match Text.splitAt '/' type with
  | [main, sub] =>
    main = "application".toText && (sub = "json".toText || "+json".toText.isSuffixOf sub)
  | _ => false

/-- A single fault of a body of which no value was read. -/
def BodyError.ofKind (kind : FaultKind) (place : List PlaceStep) : BodyError :=
  .faulty [⟨kind, .field "body".toText :: place, .null⟩]

/-- The JSON value of a body.  Where the content type announces something else than JSON, the
body counts as something that is no object. -/
def Body.read (body : Body) (contentType : Option Text) : Except BodyError Json :=
  match body, (contentType.map announcesJson).getD false with
  | .bytes [], _ => .error (.ofKind .missing [])
  | _, false => .error (.ofKind .notFields [])
  | .value v, true => .ok v
  | .bytes content, true =>
    (Json.read content).mapError fun
      | .malformed position => .ofKind .malformed [.index position]
      | .unreadable => .unreadable

/-- What a JSON value asks for, given what the members of an object ask for.  `null` in writing is
no object like any other; only a body without bytes is missing. -/
def decodeObject {α : Type} (ofMembers : List (Text × Json) → Decoded α) : Json → Decoded α
  | .object members => ofMembers members
  | value => .fault .notFields value

/-- The request that a body makes. -/
def requestOf {α : Type} (ofMembers : List (Text × Json) → Decoded α) (body : Body)
    (contentType : Option Text) : Except BodyError α := do
  let value ← body.read contentType
  (Decoded.under (.field "body".toText) (decodeObject ofMembers value)).mapError .faulty

end ArrowNotation.Service
