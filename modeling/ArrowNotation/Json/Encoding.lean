/-
# Encodings of JSON texts

A JSON text begins with two characters below 128, or is even shorter, so the zero bytes among
its first four tell how it is encoded, unless a byte order mark does.
-/
import ArrowNotation.Text.Encoding

namespace ArrowNotation.Json

/-- How a JSON text is encoded. -/
inductive Encoding where
  | utf8
  | utf16 (order : Text.ByteOrder)
  | utf32 (order : Text.ByteOrder)
  deriving DecidableEq

namespace Encoding

/-- The encoding of bytes that begin with no byte order mark. -/
def detect : Bytes → Encoding
  | a :: b :: c :: d :: _ =>
    if a = 0 then if b = 0 then utf32 .bigEndian else utf16 .bigEndian
    else if b = 0 then
      if c = 0 ∧ d = 0 then utf32 .littleEndian else utf16 .littleEndian
    else utf8
  | [a, b] =>
    if a = 0 then utf16 .bigEndian else if b = 0 then utf16 .littleEndian else utf8
  | _ => utf8

/-- The encoding of bytes, and the bytes after the byte order mark. -/
def ofBytes (bytes : Bytes) : Encoding × Bytes :=
  match bytes with
  | 0x00 :: 0x00 :: 0xFE :: 0xFF :: rest => (utf32 .bigEndian, rest)
  | 0xFF :: 0xFE :: 0x00 :: 0x00 :: rest => (utf32 .littleEndian, rest)
  | 0xFE :: 0xFF :: rest => (utf16 .bigEndian, rest)
  | 0xFF :: 0xFE :: rest => (utf16 .littleEndian, rest)
  | 0xEF :: 0xBB :: 0xBF :: rest => (utf8, rest)
  | _ => (detect bytes, bytes)

/-- The text that bytes stand for in an encoding. -/
def decode (encoding : Encoding) (bytes : Bytes) : Option Text :=
  match encoding with
  | utf8 => Text.decodeUtf8 true bytes
  | utf16 order => Text.decodeUtf16 order bytes
  | utf32 order => Text.decodeUtf32 order bytes

end Encoding

/-- The JSON text that bytes stand for. -/
def textOf? (bytes : Bytes) : Option Text :=
  let (encoding, rest) := Encoding.ofBytes bytes
  encoding.decode rest

end ArrowNotation.Json
