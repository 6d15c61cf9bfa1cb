/-
# Quoted texts can be read back

A quoted text is one line of printable characters, whatever text was quoted, and no two texts are
quoted in the same way.

* **Printable.**  What is not printable is escaped, and escapes are made of printable characters
  (`isPrintable_of_mem_quoted`).  Printable characters are neither controls nor surrogates, and the
  space is the only blank among them (`IsPlain`), so nothing in a quoted text ends a line.
* **Read back.**  `unquoted?` reads character by character.  What a character is written as tells
  where it ends: an escape is a backslash and a letter, and the letter says how many digits follow;
  anything else is the character itself (`Writes.exists_readChar?`).  The mark at the end cannot be
  mistaken for one of the text, because that one has a backslash before it.
-/
import ArrowNotation.Text.Classes
import ArrowNotation.Text.Quoted
import Mathlib.Algebra.Group.Nat.Defs

namespace ArrowNotation.Text

/-! ## 1. Printable characters -/

namespace Table

/-- Whether all numbers from `low` to `high` lie in one row of a table, and the search for them gets
there. -/
def covers (low high : Nat) : List (Nat × Nat) → Bool
  | [] => false
  | (first, last) :: rows =>
    Nat.ble first low && (Nat.ble high last || Nat.blt last low && covers low high rows)

theorem contains_of_covers {n low high : Nat} (hlow : low ≤ n) (hhigh : n ≤ high) :
    ∀ {rows : List (Nat × Nat)}, covers low high rows = true → contains n rows = true
  | [], h => absurd h (by simp [covers])
  | (first, last) :: rows, h => by
    simp only [covers, Bool.and_eq_true, Bool.or_eq_true, Nat.ble_eq, Nat.blt_eq] at h
    obtain ⟨hfirst, hrest⟩ := h
    unfold contains
    rw [if_neg (by omega)]
    split
    · rfl
    · rcases hrest with hlast | ⟨-, hrows⟩
      · omega
      · exact contains_of_covers hlow hhigh hrows

end Table

/-- Whether a character is a control. -/
def isControl (c : CodePoint) : Bool := c.toNat < 0x20 || (0x7F ≤ c.toNat && c.toNat < 0xA0)

/-- The controls, the blanks other than the space, and the surrogates, as closed ranges. -/
def neverPrintable : List (Nat × Nat) := [
  (0x0000, 0x001F), (0x007F, 0x00A0), (0x1680, 0x1680), (0x2000, 0x200A), (0x2028, 0x2029),
  (0x202F, 0x202F), (0x205F, 0x205F), (0x3000, 0x3000), (0xD800, 0xDFFF)]

/-- **None of them is printable.** -/
theorem isPrintable_eq_false {c : CodePoint} {row : Nat × Nat} (hrow : row ∈ neverPrintable)
    (hfirst : row.1 ≤ c.toNat) (hlast : c.toNat ≤ row.2) : isPrintable c = false := by
  have hall : (neverPrintable.all fun row =>
      Table.covers row.1 row.2 Data.unprintables) = true := by decide +kernel
  have hcovers := List.all_eq_true.mp hall row hrow
  rw [isPrintable, Table.contains_of_covers hfirst hlast hcovers]
  rfl

/-- A character that can be shown in one line and encoded: it is no control and no surrogate, and
no blank but the space, so above all it ends no line. -/
structure IsPlain (c : CodePoint) : Prop where
  isControl : isControl c = false
  isSurrogate : c.isSurrogate = false
  eq_space : isBlank c = true → c = ' '

/-- **Printable characters are plain.** -/
theorem isPlain_of_isPrintable {c : CodePoint} (h : isPrintable c = true) : IsPlain c := by
  have houtside : ∀ row ∈ neverPrintable, ¬ (row.1 ≤ c.toNat ∧ c.toNat ≤ row.2) := by
    rintro row hrow ⟨hfirst, hlast⟩
    rw [isPrintable_eq_false hrow hfirst hlast] at h
    exact Bool.false_ne_true h
  simp only [neverPrintable, List.forall_mem_cons] at houtside
  obtain ⟨hcontrols, hdelete, hogham, hquads, hseparators, hnarrow, hmath, hwide, hsurrogates, -⟩ :=
    houtside
  constructor
  case isControl =>
    simp only [Text.isControl, Bool.or_eq_false_iff, Bool.and_eq_false_iff, decide_eq_false_iff_not]
    omega
  case isSurrogate =>
    simp only [CodePoint.isSurrogate, Bool.and_eq_false_iff, decide_eq_false_iff_not]
    omega
  case eq_space =>
    intro hblank
    obtain ⟨row, hrow, hfirst, hlast⟩ := Table.exists_row_of_contains hblank
    refine CodePoint.toNat_inj.mp ?_
    show c.toNat = 0x20
    simp only [blanks, List.mem_cons, List.not_mem_nil, or_false] at hrow
    rcases hrow with rfl | rfl | rfl | rfl | rfl | rfl | rfl | rfl | rfl | rfl <;>
      simp only at hfirst hlast <;> omega

/-- **The characters of ASCII from the space on are printable.** -/
theorem isPrintable_of_ascii {c : CodePoint} (hlow : 0x20 ≤ c.toNat) (hhigh : c.toNat < 0x7F) :
    isPrintable c = true := by
  obtain ⟨rows, hrows⟩ :
      ∃ rows, Data.unprintables = (0x0000, 0x001F) :: (0x007F, 0x00A0) :: rows := ⟨_, rfl⟩
  rw [isPrintable, hrows, Table.contains, if_neg (by omega), if_neg (by omega), Table.contains,
    if_pos hhigh]
  rfl

/-! ## 2. Hexadecimal digits -/

/-- The number that hexadecimal digits write. -/
def hexValue? (digits : Text) : Option Nat :=
  digits.foldlM (fun value c => c.hexDigit?.map fun digit => value * 16 + digit) 0

/-- A number below 16 is written with one digit, which is a letter of ASCII or a decimal digit. -/
theorem hexDigit?_digitChar {n : Nat} (h : n < 16) :
    (CodePoint.ofChar (Nat.digitChar n)).hexDigit? = some n ∧
      0x20 ≤ (CodePoint.ofChar (Nat.digitChar n)).toNat ∧
      (CodePoint.ofChar (Nat.digitChar n)).toNat < 0x7F := by
  have hall : ∀ n < 16, (CodePoint.ofChar (Nat.digitChar n)).hexDigit? = some n ∧
      0x20 ≤ (CodePoint.ofChar (Nat.digitChar n)).toNat ∧
      (CodePoint.ofChar (Nat.digitChar n)).toNat < 0x7F := by decide
  exact hall n h

/-- **The digits of a number write the number**, if there are enough of them. -/
theorem hexValue?_hexDigits : ∀ width n : Nat, hexValue? (hexDigits width n) = some (n % 16 ^ width)
  | 0, n => by
    rw [Nat.pow_zero, Nat.mod_one]
    rfl
  | width + 1, n => by
    have ih := hexValue?_hexDigits width (n / 16)
    have hdigit := (hexDigit?_digitChar (Nat.mod_lt n (by omega : 0 < 16))).1
    have hvalue : n / 16 % 16 ^ width * 16 + n % 16 = n % 16 ^ (width + 1) := by
      rw [Nat.pow_succ', Nat.mod_mul, Nat.mul_comm, Nat.add_comm]
    rw [hexValue?] at ih ⊢
    rw [hexDigits, List.foldlM_append, ih]
    simp [hdigit, hvalue]

theorem isPrintable_of_mem_hexDigits {c : CodePoint} : ∀ {width n : Nat},
    c ∈ hexDigits width n → isPrintable c = true
  | 0, _, h => absurd h List.not_mem_nil
  | width + 1, n, h => by
    rw [hexDigits, List.mem_append, List.mem_singleton] at h
    rcases h with h | rfl
    · exact isPrintable_of_mem_hexDigits h
    · obtain ⟨-, hlow, hhigh⟩ := hexDigit?_digitChar (Nat.mod_lt n (by omega : 0 < 16))
      exact isPrintable_of_ascii hlow hhigh

/-! ## 3. Reading one character -/

/-- The character before a letter that stands for something else, or for itself. -/
def backslash : CodePoint := '\\'

theorem isPrintable_backslash : isPrintable backslash = true :=
  isPrintable_of_ascii (by decide) (by decide)

/-- How many hexadecimal digits follow the letter of an escape. -/
def hexWidth? (letter : CodePoint) : Option Nat :=
  if letter = 'x' then some 2
  else if letter = 'u' then some 4
  else if letter = 'U' then some 8
  else none

/-- What the letter of an escape without digits stands for. -/
def unescapedLetter (letter : CodePoint) : CodePoint :=
  if letter = 'n' then '\n'
  else if letter = 'r' then '\r'
  else if letter = 't' then '\t'
  else letter

/-- The character that is written at the front of a text, which begins with `c`, and the rest of the
text after it. -/
def readChar? (c : CodePoint) (rest : Text) : Option (CodePoint × Text) :=
  if c = backslash then
    match rest with
    | [] => none
    | letter :: rest =>
      match hexWidth? letter with
      | some width => (hexValue? (rest.take width)).map fun n => (.ofNat n, rest.drop width)
      | none => some (unescapedLetter letter, rest)
  else some (c, rest)

/-- Nothing is read twice. -/
theorem length_le_of_readChar? {c d : CodePoint} {rest others : Text}
    (h : readChar? c rest = some (d, others)) : others.length ≤ rest.length := by
  unfold readChar? at h
  split at h
  · split at h
    · cases h
    · split at h
      · obtain ⟨n, -, heq⟩ := Option.map_eq_some_iff.mp h
        rw [← (Prod.mk.inj heq).2, List.length_drop, List.length_cons]
        omega
      · rw [← (Prod.mk.inj (Option.some.inj h)).2, List.length_cons]
        omega
  · exact Nat.le_of_eq (congrArg List.length (Prod.mk.inj (Option.some.inj h)).2.symm)

theorem readChar?_of_ne {c : CodePoint} (h : c ≠ backslash) (rest : Text) :
    readChar? c rest = some (c, rest) := if_neg h

theorem readChar?_letter {letter : CodePoint} (h : hexWidth? letter = none) (rest : Text) :
    readChar? backslash (letter :: rest) = some (unescapedLetter letter, rest) := by
  simp only [readChar?, if_pos, h]

theorem readChar?_hexDigits {letter : CodePoint} {width n : Nat} (h : hexWidth? letter = some width)
    (hn : n < 16 ^ width) (rest : Text) :
    readChar? backslash (letter :: (hexDigits width n ++ rest)) = some (.ofNat n, rest) := by
  have htake : (hexDigits width n ++ rest).take width = hexDigits width n :=
    List.take_left' (length_hexDigits width n)
  have hdrop : (hexDigits width n ++ rest).drop width = rest :=
    List.drop_left' (length_hexDigits width n)
  simp only [readChar?, if_pos, h, htake, hdrop, hexValue?_hexDigits, Nat.mod_eq_of_lt hn,
    Option.map_some]

/-! ## 4. How a character is written -/

/-- What can stand at both ends of a quoted text. -/
def IsMark (mark : CodePoint) : Prop := mark = apostrophe ∨ mark = doubleQuote

instance (mark : CodePoint) : Decidable (IsMark mark) :=
  inferInstanceAs (Decidable (mark = apostrophe ∨ mark = doubleQuote))

theorem isMark_quotationMark (t : Text) : IsMark (quotationMark t) := by
  unfold quotationMark
  split
  · exact Or.inr rfl
  · exact Or.inl rfl

/-- A mark is no backslash and no letter of an escape, and it is printable. -/
theorem IsMark.facts {mark : CodePoint} (h : IsMark mark) :
    backslash ≠ mark ∧ hexWidth? mark = none ∧ unescapedLetter mark = mark ∧
      isPrintable mark = true := by
  rcases h with rfl | rfl
  · exact ⟨by decide, by decide, by decide, isPrintable_of_ascii (by decide) (by decide)⟩
  · exact ⟨by decide, by decide, by decide, isPrintable_of_ascii (by decide) (by decide)⟩

/-- What a character is written as between two marks: a backslash and a letter, the character
itself, or a backslash, a letter and as many digits as the letter says. -/
inductive Writes (mark c : CodePoint) : Text → Prop
  | letter {letter : CodePoint} (hwidth : hexWidth? letter = none)
      (hletter : unescapedLetter letter = c) (hprintable : isPrintable letter = true) :
      Writes mark c [backslash, letter]
  | itself (hmark : c ≠ mark) (hbackslash : c ≠ backslash) (hprintable : isPrintable c = true) :
      Writes mark c [c]
  | digits {letter : CodePoint} {width : Nat} (hwidth : hexWidth? letter = some width)
      (hprintable : isPrintable letter = true) (hbound : c.toNat < 16 ^ width) :
      Writes mark c (backslash :: letter :: hexDigits width c.toNat)

/-- The digits of an escape are enough for the number of a character. -/
theorem writes_codePointEscape (mark c : CodePoint) : Writes mark c (codePointEscape c.toNat) := by
  have hlimit : c.toNat < 0x110000 := c.isLt
  unfold codePointEscape
  split
  · next hsmall => exact .digits (by decide) (isPrintable_of_ascii (by decide) (by decide)) hsmall
  · split
    · next hmedium =>
      exact .digits (by decide) (isPrintable_of_ascii (by decide) (by decide)) hmedium
    · exact .digits (by decide) (isPrintable_of_ascii (by decide) (by decide)) (by omega)

/-- **Each character is written in one of these ways.** -/
theorem writes_quotedChar {mark : CodePoint} (hmark : IsMark mark) (c : CodePoint) :
    Writes mark c (quotedChar mark c) := by
  obtain ⟨-, hwidth, hletter, hprintable⟩ := hmark.facts
  unfold quotedChar
  split
  · next hescaped =>
    rcases hescaped with rfl | rfl
    · exact .letter hwidth hletter hprintable
    · exact .letter (by decide) (by decide) isPrintable_backslash
  · next hplain =>
    rw [not_or] at hplain
    split
    · next h => exact .letter (by decide) h.symm (isPrintable_of_ascii (by decide) (by decide))
    · split
      · next h => exact .letter (by decide) h.symm (isPrintable_of_ascii (by decide) (by decide))
      · split
        · next h => exact .letter (by decide) h.symm (isPrintable_of_ascii (by decide) (by decide))
        · split
          · next hprintable => exact .itself hplain.1 hplain.2 hprintable
          · exact writes_codePointEscape mark c

/-- **What a character is written as is read as the character**, and it does not begin with the
mark. -/
theorem Writes.exists_readChar? {mark c : CodePoint} {written : Text} (hmark : IsMark mark)
    (h : Writes mark c written) (rest : Text) :
    ∃ first others, written = first :: others ∧ first ≠ mark ∧
      readChar? first (others ++ rest) = some (c, rest) := by
  have hbackslash : backslash ≠ mark := hmark.facts.1
  cases h with
  | letter hwidth hletter hprintable =>
    refine ⟨backslash, _, rfl, hbackslash, ?_⟩
    rw [List.singleton_append, readChar?_letter hwidth, hletter]
  | itself hne hplain hprintable => exact ⟨c, [], rfl, hne, readChar?_of_ne hplain rest⟩
  | digits hwidth hprintable hbound =>
    refine ⟨backslash, _, rfl, hbackslash, ?_⟩
    rw [List.cons_append, readChar?_hexDigits hwidth hbound, CodePoint.ofNat_toNat]

/-- **What a character is written as is printable.** -/
theorem Writes.isPrintable_of_mem {mark c d : CodePoint} {written : Text}
    (h : Writes mark c written) (hd : d ∈ written) : isPrintable d = true := by
  cases h with
  | letter hwidth hletter hprintable =>
    rw [List.mem_cons, List.mem_singleton] at hd
    rcases hd with rfl | rfl
    · exact isPrintable_backslash
    · exact hprintable
  | itself hne hplain hprintable => rwa [List.mem_singleton.mp hd]
  | digits hwidth hprintable hbound =>
    rw [List.mem_cons, List.mem_cons] at hd
    rcases hd with rfl | rfl | hd
    · exact isPrintable_backslash
    · exact hprintable
    · exact isPrintable_of_mem_hexDigits hd

/-! ## 5. Quoted texts -/

/-- The text that is written up to the mark, which must end it. -/
def readQuoted? (mark : CodePoint) : Text → Option Text
  | [] => none
  | c :: rest =>
    if c = mark then if rest = [] then some [] else none
    else
      match _ : readChar? c rest with
      | none => none
      | some (d, others) => (readQuoted? mark others).map (d :: ·)
termination_by t => t.length
decreasing_by exact Nat.lt_succ_of_le (length_le_of_readChar? ‹_›)

/-- The text that a quoted text was made of. -/
def unquoted? : Text → Option Text
  | [] => none
  | mark :: rest => if IsMark mark then readQuoted? mark rest else none

theorem readQuoted?_mark (mark : CodePoint) : readQuoted? mark [mark] = some [] := by
  simp [readQuoted?]

/-- One character is read after the other. -/
theorem readQuoted?_of_readChar? {mark c d : CodePoint} {rest others : Text} (hc : c ≠ mark)
    (h : readChar? c rest = some (d, others)) :
    readQuoted? mark (c :: rest) = (readQuoted? mark others).map (d :: ·) := by
  rw [readQuoted?, if_neg hc]
  split
  · next hnone => rw [h] at hnone; cases hnone
  · next hsome =>
    rw [h, Option.some.injEq, Prod.mk.injEq] at hsome
    rw [hsome.1, hsome.2]

/-- **What is written between marks is read back**, character by character. -/
theorem readQuoted?_flatMap {mark : CodePoint} (hmark : IsMark mark) : ∀ t : Text,
    readQuoted? mark (t.flatMap (quotedChar mark) ++ [mark]) = some t
  | [] => readQuoted?_mark mark
  | c :: t => by
    have ih := readQuoted?_flatMap hmark t
    obtain ⟨first, others, hwritten, hfirst, hread⟩ :=
      (writes_quotedChar hmark c).exists_readChar? hmark (t.flatMap (quotedChar mark) ++ [mark])
    rw [List.flatMap_cons, hwritten, List.append_assoc, List.cons_append,
      readQuoted?_of_readChar? hfirst hread, ih, Option.map_some]

/-- **A quoted text can be read back.** -/
theorem unquoted?_quoted (t : Text) : unquoted? (quoted t) = some t := by
  have hmark := isMark_quotationMark t
  rw [quoted, List.cons_append, unquoted?, if_pos hmark, readQuoted?_flatMap hmark]

/-- Both marks, a line feed, controls of two and of four digits, and a surrogate. -/
example : quoted "a'\"\\\n\x1b\u2028".toText
      = "'a\\'\"\\\\\\n\\x1b\\u2028'".toText ∧
    unquoted? "'a\\'\"\\\\\\n\\x1b\\ud800'".toText
      = some ("a'\"\\\n\x1b".toText ++ [.ofNat 0xD800]) := by decide +kernel

/-- **A quoted text is printable**, whatever text was quoted. -/
theorem isPrintable_of_mem_quoted {t : Text} {c : CodePoint} (h : c ∈ quoted t) :
    isPrintable c = true := by
  have hmark := isMark_quotationMark t
  have hprintable := hmark.facts.2.2.2
  rw [quoted, List.cons_append, List.mem_cons, List.mem_append, List.mem_singleton,
    List.mem_flatMap] at h
  rcases h with rfl | ⟨d, -, hd⟩ | rfl
  · exact hprintable
  · exact (writes_quotedChar hmark d).isPrintable_of_mem hd
  · exact hprintable

end ArrowNotation.Text
