/-
# Code points

The elements of a text.  Almost all of them are characters, but a surrogate is one as well: an
escape in a JSON text can write half of a surrogate pair without the other half, and a text that
holds such a half can be read like any other.  What cannot be done with it is to encode it, so
it cannot be part of an answer.
-/

namespace ArrowNotation

/-- A code point: a number below 0x110000. -/
structure CodePoint where
  toNat : Nat
  isLt : toNat < 0x110000
  deriving DecidableEq

namespace CodePoint

theorem toNat_inj {a b : CodePoint} : a.toNat = b.toNat ↔ a = b := by
  obtain ⟨m, _⟩ := a
  obtain ⟨n, _⟩ := b
  simp

/-! ## 1. Numbers and characters as code points -/

/-- The code point with a given number; a number that is too large gives the replacement
character. -/
def ofNat (n : Nat) : CodePoint := if h : n < 0x110000 then ⟨n, h⟩ else ⟨0xFFFD, by decide⟩

/-- The code point of a character. -/
def ofChar (c : Char) : CodePoint :=
  ⟨c.toNat, by
    have h := c.valid
    simp only [UInt32.isValidChar, Nat.isValidChar] at h
    simp only [Char.toNat]
    omega⟩

instance : Coe Char CodePoint := ⟨ofChar⟩

theorem toNat_ofNat {n : Nat} (h : n < 0x110000) : (ofNat n).toNat = n := by simp [ofNat, h]

@[simp] theorem ofNat_toNat (c : CodePoint) : ofNat c.toNat = c := by simp [ofNat, c.isLt]

@[simp] theorem toNat_ofChar (c : Char) : (ofChar c).toNat = c.toNat := rfl

/-- **Different characters are different code points.** -/
@[simp] theorem ofChar_inj {a b : Char} : ofChar a = ofChar b ↔ a = b := by
  rw [← toNat_inj, toNat_ofChar, toNat_ofChar, Char.toNat_inj]

/-! ## 2. Surrogates -/

/-- Whether a code point is half of a surrogate pair and so no character. -/
def isSurrogate (c : CodePoint) : Bool := 0xD800 ≤ c.toNat && c.toNat < 0xE000

/-- Whether a code point is the first half of a surrogate pair. -/
def isHighSurrogate (c : CodePoint) : Bool := 0xD800 ≤ c.toNat && c.toNat < 0xDC00

/-- Whether a code point is the second half of a surrogate pair. -/
def isLowSurrogate (c : CodePoint) : Bool := 0xDC00 ≤ c.toNat && c.toNat < 0xE000

/-- The character that two halves of a surrogate pair stand for. -/
def joinSurrogates (high low : CodePoint) : CodePoint :=
  ofNat (0x10000 + (high.toNat - 0xD800) * 0x400 + (low.toNat - 0xDC00))

@[simp] theorem isSurrogate_ofChar (c : Char) : (ofChar c).isSurrogate = false := by
  have h := c.valid
  simp only [UInt32.isValidChar, Nat.isValidChar] at h
  have hn : c.toNat < 0xD800 ∨ 0xE000 ≤ c.toNat := by
    simp only [Char.toNat]
    omega
  rcases hn with hn | hn
  · simp [isSurrogate, Nat.not_le.mpr hn]
  · simp [isSurrogate, Nat.not_lt.mpr hn]

/-! ## 3. Digits -/

/-- The value of a decimal digit from `0` to `9`. -/
def digit? (c : CodePoint) : Option Nat :=
  if 0x30 ≤ c.toNat ∧ c.toNat ≤ 0x39 then some (c.toNat - 0x30) else none

/-- The value of a hexadecimal digit. -/
def hexDigit? (c : CodePoint) : Option Nat :=
  if 0x30 ≤ c.toNat ∧ c.toNat ≤ 0x39 then some (c.toNat - 0x30)
  else if 0x61 ≤ c.toNat ∧ c.toNat ≤ 0x66 then some (c.toNat - 0x61 + 10)
  else if 0x41 ≤ c.toNat ∧ c.toNat ≤ 0x46 then some (c.toNat - 0x41 + 10)
  else none

end CodePoint

end ArrowNotation
