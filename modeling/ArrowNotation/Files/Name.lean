/-
# Names in a file system

To a file system a name is a sequence of bytes, and to everything else it is a text.  Characters
are written in UTF-8.  A byte that is no part of a character is read as a surrogate, one for each
such byte, and these surrogates are written as the bytes again; no other surrogate can be written.

So several texts can be the same name: the surrogates for the bytes of a character are written like
the character.  Of these texts the file system gives back one, in which the character stands
(`Text.stored`).
-/
import ArrowNotation.Text.Encoding

namespace ArrowNotation

/-! ## 1. Writing -/

namespace CodePoint

/-- Whether a code point stands for a byte that is no part of a character. -/
def isByte (c : CodePoint) : Bool := 0xDC80 ≤ c.toNat && c.toNat < 0xDD00

/-- The code point that stands for a byte. -/
def ofByte (byte : UInt8) : CodePoint := .ofNat (0xDC00 + byte.toNat)

/-- Whether a code point can be written in a name. -/
def isWritable (c : CodePoint) : Bool := !c.isSurrogate || c.isByte

def nameBytes (c : CodePoint) : Bytes :=
  if c.isByte then [.ofNat (c.toNat - 0xDC00)] else Text.utf8Bytes c

end CodePoint

namespace Text

/-- Whether a text can be written as a name, or as a path of names. -/
def isWritable (t : Text) : Bool := t.all CodePoint.isWritable

/-- The bytes of a text that is a name or a path. -/
def nameBytes (t : Text) : Bytes := t.flatMap CodePoint.nameBytes

/-! ## 2. Reading -/

/-- The number of the character that bytes begin with, as far as their first bytes are well formed:
the first of them tells how many there are. -/
def leadValue (bytes : Bytes) : Nat :=
  let byte (i : Nat) := (bytes.getD i 0).toNat
  if byte 0 < 0x80 then byte 0
  else if byte 0 < 0xE0 then (byte 0 - 0xC0) * 0x40 + (byte 1 - 0x80)
  else if byte 0 < 0xF0 then
    ((byte 0 - 0xE0) * 0x40 + (byte 1 - 0x80)) * 0x40 + (byte 2 - 0x80)
  else
    (((byte 0 - 0xF0) * 0x40 + (byte 1 - 0x80)) * 0x40 + (byte 2 - 0x80)) * 0x40 + (byte 3 - 0x80)

/-- The character that bytes begin with.  Whether they are well formed shows when it is written. -/
def firstChar? (bytes : Bytes) : Option CodePoint :=
  let c := CodePoint.ofNat (leadValue bytes)
  if !c.isSurrogate && (utf8Bytes c).isPrefixOf bytes then some c else none

/-- The text of a name, where the first `skip` bytes belong to the character before. -/
def ofNameBytesAfter : (skip : Nat) → Bytes → Text
  | _, [] => []
  | skip + 1, _ :: bytes => ofNameBytesAfter skip bytes
  | 0, byte :: bytes =>
    match firstChar? (byte :: bytes) with
    | some c => c :: ofNameBytesAfter ((utf8Bytes c).length - 1) bytes
    | none => .ofByte byte :: ofNameBytesAfter 0 bytes

def ofNameBytes (bytes : Bytes) : Text := ofNameBytesAfter 0 bytes

/-- A name as the file system gives it back. -/
def stored (name : Text) : Text := ofNameBytes (nameBytes name)

end Text

end ArrowNotation
