/-
# Numbers of JSON texts

A number of a JSON text is an integer or a decimal fraction, with an exponent where it is written
with one.  Fractions are kept in double precision, so one that is too large is infinite there.
Nothing here calculates with numbers; what matters is whether one is finite, because no answer
can quote a number that is not.
-/

namespace ArrowNotation.Json

/-- A number as it is read: an integer, `coefficient * 10 ^ exponent` where it is written as a
fraction or with an exponent, or one of the words for what is not finite. -/
inductive Number where
  | integer (value : Int)
  | decimal (coefficient exponent : Int)
  | notFinite
  deriving DecidableEq

namespace Number

/-- The least magnitude that is infinite in double precision: halfway between the largest finite
number and the next power of two. -/
def overflow : Nat := Nat.pow 2 1024 - Nat.pow 2 970

/-- Whether `coefficient * 10 ^ exponent` is at least `overflow`.  The least such number has 309
digits in front of the point; with fewer or more of them nothing is left to compare. -/
def overflows (coefficient : Nat) (exponent : Int) : Bool :=
  let size : Int := (Nat.toDigits 10 coefficient).length + exponent
  if coefficient = 0 ∨ size < 309 then false
  else if 309 < size then true
  else
    match exponent with
    | .ofNat e => decide (overflow ≤ coefficient * Nat.pow 10 e)
    | .negSucc e => decide (overflow * Nat.pow 10 (e + 1) ≤ coefficient)

def isFinite : Number → Bool
  | integer _ => true
  | decimal coefficient exponent => !overflows coefficient.natAbs exponent
  | notFinite => false

end Number

end ArrowNotation.Json
