/-
# Texts and their lines

A text is the list of its code points, so every length, column and position in this library
counts code points.

A text is cut at a separator into pieces that do not hold it (`exists_mem_splitAt_iff`), and the
cut loses nothing: the pieces, put together with the separator between them, are the
text (`intercalate_splitAt`).  The lines of a text are its pieces between line feeds.
-/
import ArrowNotation.Text.CodePoint

/-- A text is the list of its code points. -/
abbrev ArrowNotation.Text := List ArrowNotation.CodePoint

/-- The text of a string. -/
def String.toText (s : String) : ArrowNotation.Text := s.toList.map ArrowNotation.CodePoint.ofChar

namespace ArrowNotation.Text

/-! ## 1. Pieces -/

/-- A text cut at every occurrence of one code point, which belongs to no piece.  There is one
piece more than there are occurrences. -/
def splitAt (separator : CodePoint) : Text → List Text
  | [] => [[]]
  | c :: rest =>
    if c = separator then [] :: splitAt separator rest
    else
      match splitAt separator rest with
      | [] => [[c]]
      | piece :: others => (c :: piece) :: others

/-- Pieces with a separator between neighbours. -/
def intercalate (separator : Text) : List Text → Text
  | [] => []
  | [piece] => piece
  | piece :: others => piece ++ separator ++ intercalate separator others

@[simp] theorem splitAt_nil (separator : CodePoint) : splitAt separator [] = [[]] := rfl

/-- A separator ends a piece. -/
@[simp] theorem splitAt_separator (separator : CodePoint) (rest : Text) :
    splitAt separator (separator :: rest) = [] :: splitAt separator rest := by
  simp [splitAt]

theorem splitAt_ne_nil (separator : CodePoint) : ∀ t : Text, splitAt separator t ≠ []
  | [] => by simp
  | c :: rest => by
    unfold splitAt
    split
    · simp
    · split <;> simp

/-- A code point other than the separator belongs to the first piece. -/
theorem splitAt_cons {separator c : CodePoint} (hc : c ≠ separator) {rest piece : Text}
    {others : List Text} (h : splitAt separator rest = piece :: others) :
    splitAt separator (c :: rest) = (c :: piece) :: others := by
  simp [splitAt, hc, h]

/-- **Cutting a text loses nothing.** -/
theorem intercalate_splitAt (separator : CodePoint) : ∀ t : Text,
    intercalate [separator] (splitAt separator t) = t
  | [] => rfl
  | c :: rest => by
    have ih := intercalate_splitAt separator rest
    obtain ⟨piece, others, h⟩ : ∃ piece others, splitAt separator rest = piece :: others :=
      List.exists_cons_of_ne_nil (splitAt_ne_nil separator rest)
    rw [h] at ih
    by_cases hc : c = separator
    · subst hc
      rw [splitAt_separator, h]
      simp [intercalate, ih]
    · rw [splitAt_cons hc h]
      cases others <;> simp_all [intercalate]

/-- **The pieces hold all code points but the separator.** -/
theorem exists_mem_splitAt_iff {separator c : CodePoint} : ∀ {t : Text},
    (∃ piece ∈ splitAt separator t, c ∈ piece) ↔ c ∈ t ∧ c ≠ separator
  | [] => by simp
  | d :: rest => by
    obtain ⟨first, others, hs⟩ : ∃ first others, splitAt separator rest = first :: others :=
      List.exists_cons_of_ne_nil (splitAt_ne_nil separator rest)
    have ih : (∃ piece ∈ splitAt separator rest, c ∈ piece) ↔ c ∈ rest ∧ c ≠ separator :=
      exists_mem_splitAt_iff
    by_cases hd : d = separator
    · subst hd
      simp only [splitAt_separator, List.mem_cons, exists_eq_or_imp, List.not_mem_nil, false_or, ih]
      grind
    · rw [hs] at ih
      simp only [List.mem_cons, exists_eq_or_imp] at ih
      simp only [splitAt_cons hd hs, List.mem_cons, exists_eq_or_imp, or_assoc, ih]
      grind

theorem separator_notMem_of_mem_splitAt {separator : CodePoint} {t piece : Text}
    (h : piece ∈ splitAt separator t) : separator ∉ piece := fun hc =>
  (exists_mem_splitAt_iff.mp ⟨piece, h, hc⟩).2 rfl

theorem mem_of_mem_splitAt {separator c : CodePoint} {t piece : Text}
    (hpiece : piece ∈ splitAt separator t) (hc : c ∈ piece) : c ∈ t :=
  (exists_mem_splitAt_iff.mp ⟨piece, hpiece, hc⟩).1

/-- **Two texts with a separator between them are cut into the pieces of both.** -/
theorem splitAt_append_separator (separator : CodePoint) : ∀ t u : Text,
    splitAt separator (t ++ separator :: u) = splitAt separator t ++ splitAt separator u
  | [], u => by simp
  | c :: rest, u => by
    have ih := splitAt_append_separator separator rest u
    obtain ⟨piece, others, h⟩ : ∃ piece others, splitAt separator rest = piece :: others :=
      List.exists_cons_of_ne_nil (splitAt_ne_nil separator rest)
    rw [h, List.cons_append] at ih
    by_cases hc : c = separator
    · subst hc
      simp [h, ih]
    · rw [List.cons_append, splitAt_cons hc h, splitAt_cons hc ih, List.cons_append]

theorem splitAt_eq_singleton {separator : CodePoint} : ∀ {piece : Text}, separator ∉ piece →
    splitAt separator piece = [piece]
  | [], _ => rfl
  | c :: rest, h => by
    rw [List.mem_cons, not_or] at h
    exact splitAt_cons (Ne.symm h.1) (splitAt_eq_singleton h.2)

/-- **Two texts meet in one piece**: the last piece of the first and the first piece of the second
become one, and all others stay as they are. -/
theorem exists_pieces_append (separator : CodePoint) : ∀ t u : Text,
    ∃ front last first back, splitAt separator t = front ++ [last] ∧
      splitAt separator u = first :: back ∧
      splitAt separator (t ++ u) = front ++ (last ++ first) :: back
  | [], u => by
    obtain ⟨first, back, hu⟩ := List.exists_cons_of_ne_nil (splitAt_ne_nil separator u)
    exact ⟨[], [], first, back, rfl, hu, hu⟩
  | c :: rest, u => by
    obtain ⟨front, last, first, back, ht, hu, h⟩ := exists_pieces_append separator rest u
    by_cases hc : c = separator
    · subst hc
      exact ⟨[] :: front, last, first, back, by simp [ht], hu, by simp [h]⟩
    · cases front with
      | nil => exact ⟨[], c :: last, first, back, splitAt_cons hc ht, hu, splitAt_cons hc h⟩
      | cons piece others =>
        exact ⟨(c :: piece) :: others, last, first, back, splitAt_cons hc ht, hu,
          splitAt_cons hc h⟩

/-- What follows the last separator is one piece, with whatever stands before it there. -/
theorem exists_splitAt_append {separator : CodePoint} {u : Text} (hu : separator ∉ u) (t : Text) :
    ∃ front last, splitAt separator (t ++ u) = front ++ [last ++ u] := by
  obtain ⟨front, last, first, back, -, hpieces, h⟩ := exists_pieces_append separator t u
  rw [splitAt_eq_singleton hu, List.cons.injEq] at hpieces
  obtain ⟨rfl, rfl⟩ := hpieces
  exact ⟨front, last, h⟩

/-! ## 2. Lines -/

/-- The code point that ends a line. -/
def lineFeed : CodePoint := '\n'

/-- The lines of a text: the stretches between its line feeds.  The empty text has one empty
line, and a final line feed opens a last, empty line.  A carriage return is an ordinary
character here. -/
def lines (t : Text) : List Text := splitAt lineFeed t

/-- Texts put one after the other with a line feed between neighbours. -/
def joinLines (ts : List Text) : Text := intercalate [lineFeed] ts

@[simp] theorem lines_nil : lines [] = [[]] := rfl

theorem lines_ne_nil (t : Text) : lines t ≠ [] := splitAt_ne_nil lineFeed t

@[simp] theorem joinLines_lines (t : Text) : joinLines (lines t) = t :=
  intercalate_splitAt lineFeed t

theorem lineFeed_notMem_of_mem_lines {t line : Text} (h : line ∈ lines t) : lineFeed ∉ line :=
  separator_notMem_of_mem_splitAt h

/-- The lines of two texts, put one after the other, are those of the first and those of the
second. -/
theorem lines_append_lineFeed (t u : Text) : lines (t ++ lineFeed :: u) = lines t ++ lines u :=
  splitAt_append_separator lineFeed t u

/-! ## 3. Numbers -/

/-- The decimal digits of a number. -/
def ofNat (n : Nat) : Text := (Nat.toDigits 10 n).map CodePoint.ofChar

/-! ## 4. Single code points -/

def null : CodePoint := '\x00'

def carriageReturn : CodePoint := '\r'

/-- The code point between the parts of a path. -/
def slash : CodePoint := '/'

/-! ## 5. Beginnings -/

/-- What follows a given beginning of a text, if the text begins with it. -/
def afterStart? : (start : Text) → Text → Option Text
  | [], t => some t
  | _ :: _, [] => none
  | c :: start, d :: t => if c = d then afterStart? start t else none

/-- **A text begins with `start` exactly when it is `start` followed by the answer.** -/
theorem afterStart?_eq_some_iff : ∀ {start t rest : Text},
    afterStart? start t = some rest ↔ t = start ++ rest
  | [], t, rest => by simp [afterStart?]
  | c :: start, [], rest => by simp [afterStart?]
  | c :: start, d :: t, rest => by
    by_cases h : c = d
    · simp [afterStart?, h, afterStart?_eq_some_iff]
    · simp [afterStart?, h, Ne.symm h]

end ArrowNotation.Text
