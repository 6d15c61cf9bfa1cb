/-
# JSON values

The values that requests and answers are made of.  An object is the list of its members; where
it is read from a text, no name occurs twice.
-/
import ArrowNotation.Json.Number
import ArrowNotation.Text.Encoding

namespace ArrowNotation

inductive Json where
  | null
  | bool (value : Bool)
  | number (value : Json.Number)
  | string (value : Text)
  | array (items : List Json)
  | object (members : List (Text × Json))
  deriving Inhabited

namespace Json

/-! ## 1. Members -/

/-- The value of the member with a given name. -/
def member? (name : Text) (members : List (Text × Json)) : Option Json :=
  (members.find? fun m => m.1 = name).map Prod.snd

/-- Members without those whose name occurs again later. -/
def lastMembers : List (Text × Json) → List (Text × Json)
  | [] => []
  | m :: members =>
    if members.any fun later => later.1 = m.1 then lastMembers members
    else m :: lastMembers members

/-! ## 2. Values for other values -/

/-- The number of a natural number. -/
def ofNat (n : Nat) : Json := number (.integer n)

/-- A text, or `null` where there is none. -/
def ofText? : Option Text → Json
  | some t => string t
  | none => null

/-! ## 3. Values that can be written -/

mutual

/-- Whether every number and every text in a value, names included, has a property. -/
def all (onNumber : Number → Bool) (onText : Text → Bool) : Json → Bool
  | null => true
  | bool _ => true
  | number n => onNumber n
  | string t => onText t
  | array items => allItems onNumber onText items
  | object members => allMembers onNumber onText members

/-- Whether every number and every text in a list of values has a property. -/
def allItems (onNumber : Number → Bool) (onText : Text → Bool) : List Json → Bool
  | [] => true
  | value :: items => all onNumber onText value && allItems onNumber onText items

/-- Whether every number and every text in a list of members has a property. -/
def allMembers (onNumber : Number → Bool) (onText : Text → Bool) : List (Text × Json) → Bool
  | [] => true
  | (name, value) :: members =>
    onText name && all onNumber onText value && allMembers onNumber onText members

end

/-- Whether all numbers in a value are finite. -/
def isFinite (v : Json) : Bool := v.all Number.isFinite fun _ => true

/-- Whether all texts in a value can be encoded. -/
def isEncodable (v : Json) : Bool := v.all (fun _ => true) Text.isEncodable

end Json

end ArrowNotation
