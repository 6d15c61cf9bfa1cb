/-
# Reading JSON

The value that a JSON text writes, or the position of the first fault, counted in code points
from zero.  Beyond the standard the words `NaN`, `Infinity` and `-Infinity` count as numbers, and
an escape may write half of a surrogate pair.  Where a name occurs twice in an object, the later
member counts.

Some texts are refused without a position: integers with too many digits, and values that lie
too deep inside each other.

Inside, a step answers with what it has read and the rest of the text, or with the fault and the
rest of the text there; positions are worked out at the very end.
-/
import ArrowNotation.Json.Basic
import ArrowNotation.Json.Encoding

namespace ArrowNotation.Json

namespace Reader

/-! ## 1. Limits and faults -/

/-- The largest number of digits of an integer. -/
def maxDigits : Nat := 4300

/-- The largest number of arrays and objects that lie inside each other.  It is a limit of the
environment: calls may lie inside each other 1000 deep, one for each array or object, and some 40
are open already where a body is read. -/
def maxDepth : Nat := 960

/-- Why a step fails: the text goes wrong where `rest` begins, or a limit is exceeded. -/
inductive Fault where
  | malformed (rest : Text)
  | beyondLimits

/-! ## 2. Space and single code points -/

/-- The code points that may stand between the parts of a value. -/
def isSpace (c : CodePoint) : Bool := c = ' ' || c = '\t' || c = '\n' || c = '\r'

/-- A text without the space at its front. -/
def skipSpace (t : Text) : Text := t.dropWhile isSpace

/-- What follows a given code point at the front of a text. -/
def after? (c : CodePoint) (t : Text) : Option Text := Text.afterStart? [c] t

/-! ## 3. Strings -/

/-- The number in the four hexadecimal digits at the front of a text, and the rest.  Something
must follow the digits. -/
def takeUnit? : Text → Option (Nat × Text)
  | a :: b :: c :: d :: next :: rest => do
    let a ← a.hexDigit?
    let b ← b.hexDigit?
    let c ← c.hexDigit?
    let d ← d.hexDigit?
    return (((a * 16 + b) * 16 + c) * 16 + d, next :: rest)
  | _ => none

/-- What an escape of one letter stands for. -/
def shortEscape? (c : CodePoint) : Option CodePoint :=
  if c = '"' then some '"'
  else if c = '\\' then some '\\'
  else if c = '/' then some '/'
  else if c = 'b' then some '\x08'
  else if c = 'f' then some '\x0c'
  else if c = 'n' then some '\n'
  else if c = 'r' then some '\r'
  else if c = 't' then some '\t'
  else none

/-- The code point of an escape by number, given the text from its `u` on, and the rest.  Two
escapes that are a surrogate pair stand for one character, provided that something follows
them. -/
def readUnitEscape (fromU : Text) : Except Fault (CodePoint × Text) :=
  match takeUnit? fromU.tail with
  | none => .error (.malformed fromU)
  | some (n, rest) =>
    let c := CodePoint.ofNat n
    match Text.afterStart? "\\u".toText rest with
    | none => .ok (c, rest)
    | some digits =>
      if c.isHighSurrogate && 4 < digits.length then
        match takeUnit? digits with
        | none => .error (.malformed rest.tail)
        | some (m, after) =>
          let d := CodePoint.ofNat m
          if d.isLowSurrogate then .ok (.joinSurrogates c d, after) else .ok (c, rest)
      else .ok (c, rest)

/-- The rest of a string after its opening quotation mark.  A string without an end is a fault
at the opening mark, from where `opening` is the text. -/
def readString (opening : Text) : (fuel : Nat) → Text → Except Fault (Text × Text)
  | 0, _ => .error (.malformed opening)
  | _ + 1, [] => .error (.malformed opening)
  | fuel + 1, c :: rest =>
    if c = '"' then .ok ([], rest)
    else if c = '\\' then
      match rest with
      | [] => .error (.malformed opening)
      | letter :: after =>
        if letter = 'u' then do
          let (value, rest) ← readUnitEscape rest
          let (others, rest) ← readString opening fuel rest
          return (value :: others, rest)
        else
          match shortEscape? letter with
          | none => .error (.malformed (c :: rest))
          | some value => do
            let (others, rest) ← readString opening fuel after
            return (value :: others, rest)
    else if c.toNat < 0x20 then .error (.malformed (c :: rest))
    else do
      let (others, rest) ← readString opening fuel rest
      return (c :: others, rest)

/-- The string at the front of a text that begins with a quotation mark. -/
def takeString (t : Text) : Except Fault (Text × Text) := readString t t.length t.tail

/-! ## 4. Words and numbers -/

def isDigit (c : CodePoint) : Bool := c.digit?.isSome

/-- The digits at the front of a text, and the rest. -/
def takeDigits (t : Text) : Text × Text := (t.takeWhile isDigit, t.dropWhile isDigit)

/-- The number that digits write. -/
def valueOf (digits : Text) : Nat :=
  digits.foldl (fun n c => n * 10 + c.digit?.getD 0) 0

/-- Digits at the front of a text, if there are any, and the rest. -/
def someDigits? (t : Text) : Option (Text × Text) :=
  match takeDigits t with
  | ([], _) => none
  | taken => some taken

/-- The whole part of a number: a zero alone, or digits that begin with another one. -/
def takeWhole? (t : Text) : Option (Text × Text) :=
  match after? '0' t with
  | some rest => some ("0".toText, rest)
  | none => someDigits? t

/-- The digits of the fraction at the front of a text, and the rest. -/
def takeFraction? (t : Text) : Option (Text × Text) := do
  let digits ← after? '.' t
  someDigits? digits

/-- The sign at the front of a text, and the rest: whether it is a minus. -/
def takeSign (t : Text) : Bool × Text :=
  match after? '-' t, after? '+' t with
  | some rest, _ => (true, rest)
  | none, some rest => (false, rest)
  | none, none => (false, t)

/-- The value of the exponent at the front of a text, and the rest. -/
def takeExponent? (t : Text) : Option (Int × Text) := do
  let signed ← (after? 'e' t).or (after? 'E' t)
  let (negative, digits) := takeSign signed
  let (digits, rest) ← someDigits? digits
  return (if negative then -(valueOf digits : Int) else valueOf digits, rest)

/-- The number at the front of a text. -/
def readNumber (t : Text) : Except Fault (Number × Text) :=
  let (negative, unsigned) := match after? '-' t with
    | some rest => (true, rest)
    | none => (false, t)
  match takeWhole? unsigned with
  | none => .error (.malformed t)
  | some (whole, afterWhole) =>
    let fraction := takeFraction? afterWhole
    let (fractionDigits, afterFraction) := fraction.getD ([], afterWhole)
    let exponent := takeExponent? afterFraction
    let (exponentValue, rest) := exponent.getD (0, afterFraction)
    let magnitude : Int := valueOf (whole ++ fractionDigits)
    let coefficient := if negative then -magnitude else magnitude
    if fraction.isSome || exponent.isSome then
      .ok (.decimal coefficient (exponentValue - fractionDigits.length), rest)
    else if maxDigits < whole.length then .error .beyondLimits
    else .ok (.integer coefficient, rest)

/-- The values that are written as words. -/
def words : List (Text × Json) := [
  ("null".toText, .null), ("true".toText, .bool true), ("false".toText, .bool false),
  ("NaN".toText, .number .notFinite), ("Infinity".toText, .number .notFinite),
  ("-Infinity".toText, .number .notFinite)]

/-- The word or the number at the front of a text. -/
def readScalar (t : Text) : Except Fault (Json × Text) :=
  match words.findSome? fun (word, value) => (Text.afterStart? word t).map (value, ·) with
  | some answer => .ok answer
  | none => (readNumber t).map fun (n, rest) => (.number n, rest)

/-! ## 5. Values

A value of `n` code points needs no more fuel than `2 * n + 1`, and the items of an array no more
than one unit beyond that: every second step at the latest takes a code point. -/

mutual

/-- The value at the front of a text.  At most `depth` arrays and objects may lie inside each
other there. -/
def readValue : (fuel depth : Nat) → Text → Except Fault (Json × Text)
  | 0, _, t => .error (.malformed t)
  | fuel + 1, depth, t =>
    match after? '"' t, after? '{' t, after? '[' t with
    | some _, _, _ => (takeString t).map fun (value, rest) => (.string value, rest)
    | none, some inner, _ =>
      match depth with
      | 0 => .error .beyondLimits
      | depth + 1 =>
        match after? '}' (skipSpace inner) with
        | some rest => .ok (.object [], rest)
        | none => (readMembers fuel depth (skipSpace inner)).map fun (members, rest) =>
          (.object (lastMembers members), rest)
    | none, none, some inner =>
      match depth with
      | 0 => .error .beyondLimits
      | depth + 1 =>
        match after? ']' (skipSpace inner) with
        | some rest => .ok (.array [], rest)
        | none => (readItems fuel depth (skipSpace inner)).map fun (items, rest) =>
          (.array items, rest)
    | none, none, none => readScalar t

/-- The members of an object from the name of the first on, and the text after the closing
brace. -/
def readMembers : (fuel depth : Nat) → Text → Except Fault (List (Text × Json) × Text)
  | 0, _, t => .error (.malformed t)
  | fuel + 1, depth, t =>
    match after? '"' t with
    | none => .error (.malformed t)
    | some _ => do
      let (name, rest) ← takeString t
      match after? ':' (skipSpace rest) with
      | none => .error (.malformed (skipSpace rest))
      | some rest =>
        let (value, rest) ← readValue fuel depth (skipSpace rest)
        match after? '}' (skipSpace rest), after? ',' (skipSpace rest) with
        | some rest, _ => return ([(name, value)], rest)
        | none, some rest =>
          let (others, rest) ← readMembers fuel depth (skipSpace rest)
          return ((name, value) :: others, rest)
        | none, none => .error (.malformed (skipSpace rest))

/-- The items of an array from the first on, and the text after the closing bracket. -/
def readItems : (fuel depth : Nat) → Text → Except Fault (List Json × Text)
  | 0, _, t => .error (.malformed t)
  | fuel + 1, depth, t => do
    let (value, rest) ← readValue fuel depth t
    match after? ']' (skipSpace rest), after? ',' (skipSpace rest) with
    | some rest, _ => return ([value], rest)
    | none, some rest =>
      let (others, rest) ← readItems fuel depth (skipSpace rest)
      return (value :: others, rest)
    | none, none => .error (.malformed (skipSpace rest))

end

end Reader

/-! ## 6. Whole texts -/

/-- Why no value can be read: the text goes wrong at a position, or it cannot be read at all,
because the bytes are no text or a limit is exceeded. -/
inductive ReadError where
  | malformed (position : Nat)
  | unreadable
  deriving DecidableEq

/-- The value that a text writes. -/
def readText (t : Text) : Except ReadError Json :=
  let outcome : Except Reader.Fault Json := do
    let (value, rest) ← Reader.readValue (2 * t.length + 1) Reader.maxDepth (Reader.skipSpace t)
    match Reader.skipSpace rest with
    | [] => return value
    | extra => .error (.malformed extra)
  outcome.mapError fun
    | .malformed rest => .malformed (t.length - rest.length)
    | .beyondLimits => .unreadable

/-- The value that bytes write. -/
def read (bytes : Bytes) : Except ReadError Json :=
  match textOf? bytes with
  | some t => readText t
  | none => .error .unreadable

end ArrowNotation.Json
