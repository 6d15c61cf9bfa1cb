/-
# Quoted texts

A text quoted for a log record or a list of names: one line of printable characters from which
the text can be read back.  Quotation marks, backslashes and unprintable characters are escaped;
everything else stands for itself.

The mark is the apostrophe, unless the text holds an apostrophe and no double quotation mark.
Line feed, carriage return and tabulator have escapes of one letter; any other unprintable
character is written by its code point in two, four or eight hexadecimal digits, whichever is
the first that fits.
-/
import ArrowNotation.Text.Basic
import ArrowNotation.Text.Data.Unprintables
import ArrowNotation.Text.Table

namespace ArrowNotation.Text

/-! ## 1. Printable characters -/

/-- Whether a character can be shown as it is in one line of text. -/
def isPrintable (c : CodePoint) : Bool := !Table.contains c.toNat Data.unprintables

/-! ## 2. Escapes -/

/-- A number in hexadecimal digits, of which only the last `width` are written. -/
def hexDigits : (width : Nat) → (n : Nat) → Text
  | 0, _ => []
  | width + 1, n => hexDigits width (n / 16) ++ [CodePoint.ofChar (Nat.digitChar (n % 16))]

@[simp] theorem length_hexDigits : ∀ width n : Nat, (hexDigits width n).length = width
  | 0, _ => rfl
  | width + 1, n => by simp [hexDigits, length_hexDigits width]

/-- The escape of a character by its code point. -/
def codePointEscape (n : Nat) : Text :=
  if n < 0x100 then '\\' :: 'x' :: hexDigits 2 n
  else if n < 0x10000 then '\\' :: 'u' :: hexDigits 4 n
  else '\\' :: 'U' :: hexDigits 8 n

/-- How one character is written between two marks. -/
def quotedChar (mark c : CodePoint) : Text :=
  if c = mark ∨ c = '\\' then ['\\', c]
  else if c = '\n' then ['\\', 'n']
  else if c = '\r' then ['\\', 'r']
  else if c = '\t' then ['\\', 't']
  else if isPrintable c then [c]
  else codePointEscape c.toNat

/-! ## 3. Quoting -/

/-- The mark of a quoted text, as a rule. -/
def apostrophe : CodePoint := '\x27'

/-- The mark of a quoted text that holds an apostrophe and not this. -/
def doubleQuote : CodePoint := '\x22'

/-- The mark a text is quoted with. -/
def quotationMark (t : Text) : CodePoint :=
  if apostrophe ∈ t ∧ doubleQuote ∉ t then doubleQuote else apostrophe

/-- A text between quotation marks. -/
def quoted (t : Text) : Text :=
  let mark := quotationMark t
  mark :: t.flatMap (quotedChar mark) ++ [mark]

/-- A list of texts, each quoted, in brackets. -/
def quotedList (ts : List Text) : Text :=
  "[".toText ++ intercalate ", ".toText (ts.map quoted) ++ "]".toText

end ArrowNotation.Text
