/-
# Encodings of texts

Bytes as texts.  A text is usually encoded in UTF-8; JSON texts may also come in UTF-16 or
UTF-32, in either order of bytes.  Every decoder either gives the text or refuses the bytes as a
whole.

UTF-8 has no place for surrogates, but a lenient decoder lets them pass as three bytes each; the
other two encodings have a place for them, and an unpaired one is let through.
-/
import ArrowNotation.Text.Basic

namespace ArrowNotation

abbrev Bytes := List UInt8

namespace Text

/-! ## 1. UTF-8 -/

/-- The bytes of a code point in UTF-8. -/
def utf8Bytes (c : CodePoint) : Bytes :=
  let n := c.toNat
  if n < 0x80 then [.ofNat n]
  else if n < 0x800 then [.ofNat (0xC0 + n / 0x40), .ofNat (0x80 + n % 0x40)]
  else if n < 0x10000 then
    [.ofNat (0xE0 + n / 0x1000), .ofNat (0x80 + n / 0x40 % 0x40), .ofNat (0x80 + n % 0x40)]
  else
    [.ofNat (0xF0 + n / 0x40000), .ofNat (0x80 + n / 0x1000 % 0x40),
      .ofNat (0x80 + n / 0x40 % 0x40), .ofNat (0x80 + n % 0x40)]

/-- Decode UTF-8 after the beginning of a code point: `owed` bytes of it are still to come, its
bits so far are `value`, and it must not be less than `least`, because then a shorter form would
do.  Nothing owed means that a new code point begins. -/
def decodeUtf8After (surrogates : Bool) (owed value least : Nat) : Bytes → Option Text
  | [] => if owed = 0 then some [] else none
  | byte :: bytes =>
    let b := byte.toNat
    match owed with
    | 0 =>
      if b < 0x80 then (decodeUtf8After surrogates 0 0 0 bytes).map (.ofNat b :: ·)
      else if b < 0xC0 then none
      else if b < 0xE0 then decodeUtf8After surrogates 1 (b - 0xC0) 0x80 bytes
      else if b < 0xF0 then decodeUtf8After surrogates 2 (b - 0xE0) 0x800 bytes
      else if b < 0xF8 then decodeUtf8After surrogates 3 (b - 0xF0) 0x10000 bytes
      else none
    | owed + 1 =>
      let value := value * 0x40 + (b - 0x80)
      if b < 0x80 ∨ 0xC0 ≤ b then none
      else if 0 < owed then decodeUtf8After surrogates owed value least bytes
      else if value < least ∨ 0x110000 ≤ value then none
      else if (CodePoint.ofNat value).isSurrogate && !surrogates then none
      else (decodeUtf8After surrogates 0 0 0 bytes).map (.ofNat value :: ·)

/-- The text that bytes encode in UTF-8, where the flag says whether surrogates may pass. -/
def decodeUtf8 (surrogates : Bool) (bytes : Bytes) : Option Text :=
  decodeUtf8After surrogates 0 0 0 bytes

/-! ## 2. UTF-16 and UTF-32 -/

/-- The order of the bytes of a number. -/
inductive ByteOrder where
  | bigEndian
  | littleEndian
  deriving DecidableEq

/-- The number of two bytes in a row. -/
def pairValue (order : ByteOrder) (first second : UInt8) : Nat :=
  match order with
  | .bigEndian => first.toNat * 0x100 + second.toNat
  | .littleEndian => second.toNat * 0x100 + first.toNat

/-- The code points of 16 bits each that bytes encode, surrogates not yet joined. -/
def decodeUnits (order : ByteOrder) : Bytes → Option Text
  | [] => some []
  | [_] => none
  | a :: b :: bytes => (decodeUnits order bytes).map (.ofNat (pairValue order a b) :: ·)

/-- Replace every surrogate pair by its character. -/
def joinPairs : Text → Text
  | high :: low :: rest =>
    if high.isHighSurrogate && low.isLowSurrogate then .joinSurrogates high low :: joinPairs rest
    else high :: joinPairs (low :: rest)
  | t => t

/-- The text that bytes encode in UTF-16. -/
def decodeUtf16 (order : ByteOrder) (bytes : Bytes) : Option Text :=
  (decodeUnits order bytes).map joinPairs

/-- The text that bytes encode in UTF-32. -/
def decodeUtf32 (order : ByteOrder) : Bytes → Option Text
  | [] => some []
  | a :: b :: c :: d :: bytes =>
    let value := match order with
      | .bigEndian => pairValue order a b * 0x10000 + pairValue order c d
      | .littleEndian => pairValue order c d * 0x10000 + pairValue order a b
    if value < 0x110000 then (decodeUtf32 order bytes).map (.ofNat value :: ·) else none
  | _ => none

/-! ## 3. Texts that can be encoded -/

/-- Whether a text can be encoded, that is, holds no surrogate. -/
def isEncodable (t : Text) : Bool := t.all fun c => !c.isSurrogate

theorem isEncodable_toText (s : String) : isEncodable s.toText = true := by
  simp [isEncodable, String.toText]

end Text

end ArrowNotation
