/-
# Lower case

The full lower-case mapping of Unicode 14.0.0.  It works character by character, with two
exceptions.  The capital I with a dot above becomes two characters.  The capital sigma becomes
the final sigma at the end of a word and the ordinary one elsewhere, where a sigma ends a word
when the next cased neighbour exists before it and does not exist after it; on both sides the
search passes over ignorable characters and stops at the first other one.

Identifiers that differ only in letter case have the same lower-case text, which is how nodes
are told apart.
-/
import ArrowNotation.Text.Basic
import ArrowNotation.Text.Data.Casing
import ArrowNotation.Text.Table

namespace ArrowNotation.Text

/-! ## 1. Single characters -/

/-- Whether a character is cased and counts as a cased neighbour. -/
def isCased (c : CodePoint) : Bool := Table.contains c.toNat Data.cased

/-- Whether the search for a cased neighbour passes over a character. -/
def isIgnorable (c : CodePoint) : Bool := Table.contains c.toNat Data.ignorables

/-- The lower-case form of a code point in an ascending table of runs. -/
def lowerCode (n : Nat) : List Data.LetterRun → Nat
  | [] => n
  | run :: runs =>
    if n < run.first then n
    else if n ≤ run.last then
      if (n - run.first) % run.stride = 0 then run.image + (n - run.first) else n
    else lowerCode n runs

/-- The lower-case form of a character, its neighbours aside. -/
def lowerChar (c : CodePoint) : Text :=
  if c = '\u0130' then ['i', '\u0307'] else [CodePoint.ofNat (lowerCode c.toNat Data.lowerRuns)]

/-! ## 2. Texts -/

/-- Whether the first character that is not ignorable is cased. -/
def startsCased (t : Text) : Bool :=
  match t.dropWhile isIgnorable with
  | [] => false
  | c :: _ => isCased c

/-- The form of a capital sigma between the characters `before` it, nearest first, and the
characters `after` it. -/
def lowerSigma (before after : Text) : CodePoint :=
  if startsCased before && !startsCased after then 'ς' else 'σ'

/-- The lower-case form of a text that follows the characters `before`, nearest first. -/
def lowerAfter (before : Text) : Text → Text
  | [] => []
  | c :: rest =>
    (if c = CodePoint.ofChar 'Σ' then [lowerSigma before rest] else lowerChar c)
      ++ lowerAfter (c :: before) rest

/-- The lower-case form of a text. -/
def lower (t : Text) : Text := lowerAfter [] t

@[simp] theorem lower_nil : lower [] = [] := rfl

end ArrowNotation.Text
