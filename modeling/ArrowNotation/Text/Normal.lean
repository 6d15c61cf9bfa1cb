/-
# Canonical composition

The canonical composed form of a text (normalization form C of Unicode 14.0.0), in three steps.
Every character is replaced by its full canonical decomposition; the marks after each base
character are put into the order of their combining classes; and each base character is joined
with the marks it composes with, from left to right, where a mark is out of reach as soon as a
mark of the same or a higher class stands between.

Two spellings of a text that differ only in how accents are composed have the same composed
form.
-/
import ArrowNotation.Text.Basic
import ArrowNotation.Text.Data.CombiningClasses
import ArrowNotation.Text.Data.Compositions
import ArrowNotation.Text.Data.Decompositions
import ArrowNotation.Text.Table

namespace ArrowNotation.Text

/-! ## 1. Hangul syllables

A syllable block is a leading consonant, a vowel and an optional trailing consonant.  The 11172
blocks lie in the order of their parts, so parts and block are computed from each other. -/

namespace Hangul

/-- The code point of the first syllable block. -/
def firstBlock : Nat := 0xAC00

/-- The code point of the first leading consonant. -/
def firstLead : Nat := 0x1100

/-- The code point of the first vowel. -/
def firstVowel : Nat := 0x1161

/-- The code point before the first trailing consonant: a block without one counts as having
the trailing consonant number zero. -/
def noTail : Nat := 0x11A7

/-- How many leading consonants there are. -/
def leadCount : Nat := 19

/-- How many vowels there are. -/
def vowelCount : Nat := 21

/-- How many trailing consonants there are, the missing one among them. -/
def tailCount : Nat := 28

/-- The parts of a syllable block, or nothing if the code point is not one. -/
def parts? (n : Nat) : Option (List Nat) :=
  let index := n - firstBlock
  if firstBlock ≤ n ∧ index < leadCount * vowelCount * tailCount then
    let lead := firstLead + index / (vowelCount * tailCount)
    let vowel := firstVowel + index % (vowelCount * tailCount) / tailCount
    let tail := index % tailCount
    some (if tail = 0 then [lead, vowel] else [lead, vowel, noTail + tail])
  else none

/-- The block of a leading consonant and a vowel, or of a block without a trailing consonant and
a trailing consonant. -/
def join? (a b : Nat) : Option Nat :=
  if firstLead ≤ a ∧ a < firstLead + leadCount ∧ firstVowel ≤ b ∧ b < firstVowel + vowelCount then
    some (firstBlock + ((a - firstLead) * vowelCount + (b - firstVowel)) * tailCount)
  else if firstBlock ≤ a ∧ a - firstBlock < leadCount * vowelCount * tailCount ∧
      (a - firstBlock) % tailCount = 0 ∧ noTail < b ∧ b < noTail + tailCount then
    some (a + (b - noTail))
  else none

end Hangul

/-! ## 2. Decomposition -/

/-- The full canonical decomposition of a character. -/
def decomposeChar (c : CodePoint) : Text :=
  match Hangul.parts? c.toNat with
  | some parts => parts.map CodePoint.ofNat
  | none =>
    match Table.find? c.toNat Data.decompositions with
    | some parts => parts.map CodePoint.ofNat
    | none => [c]

/-- Every character replaced by its full canonical decomposition. -/
def decompose (t : Text) : Text := t.flatMap decomposeChar

/-! ## 3. The order of marks -/

/-- The canonical combining class of a character: zero for a base character. -/
def combiningClass (c : CodePoint) : Nat :=
  (Table.findRange? c.toNat Data.combiningClasses).getD 0

/-- Put a character in front of an ordered text: a mark moves behind the marks of lower class
that follow it, and never past a base character. -/
def insertMark (c : CodePoint) : Text → Text
  | [] => [c]
  | d :: rest =>
    if 0 < combiningClass d ∧ combiningClass d < combiningClass c then d :: insertMark c rest
    else c :: d :: rest

/-- Each run of marks in the order of their classes; marks of one class keep their order. -/
def orderMarks (t : Text) : Text := t.foldr insertMark []

/-! ## 4. Composition -/

/-- The character that two neighbours compose to. -/
def composePair? (a b : CodePoint) : Option CodePoint :=
  match Hangul.join? a.toNat b.toNat with
  | some n => some (CodePoint.ofNat n)
  | none =>
    match Table.find? b.toNat Data.compositions with
    | some row => (Table.find? a.toNat row).map CodePoint.ofNat
    | none => none

/-- Compose a text that follows the character `base` and the marks `held`, which did not compose
with it.  A character can reach the base over the held marks if its class is above that of the
last of them. -/
def composeAfter (base : CodePoint) (held : Text) : Text → Text
  | [] => base :: held
  | c :: rest =>
    let reaches := match held.getLast? with
      | none => true
      | some mark => combiningClass mark < combiningClass c
    match if reaches then composePair? base c else none with
    | some composite => composeAfter composite held rest
    | none =>
      if combiningClass c = 0 then base :: held ++ composeAfter c [] rest
      else composeAfter base (held ++ [c]) rest

/-- Join base characters with the marks they compose with.  Marks before the first base
character stay as they are. -/
def compose : Text → Text
  | [] => []
  | c :: rest => if combiningClass c = 0 then composeAfter c [] rest else c :: compose rest

/-- The canonical composed form of a text. -/
def composed (t : Text) : Text := compose (orderMarks (decompose t))

@[simp] theorem composed_nil : composed [] = [] := rfl

end ArrowNotation.Text
