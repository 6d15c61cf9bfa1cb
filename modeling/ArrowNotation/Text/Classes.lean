/-
# Classes of characters

Two classes decide how a line is read.

* **Word characters** make up identifiers.  The class is a table, and the characters which separate
  the parts of a written edge lie outside it.
* **Blanks** are the separators of Unicode 14.0.0 (general categories `Zs`, `Zl` and `Zp`) together
  with the controls that end lines, tabulate or separate records.  Trimming removes a run of blanks
  at one end or at both (`exists_trimLeft`, `exists_trimRight`), and what it leaves has no blank at
  that end (`isBlank_getLast_trimRight`).
-/
import ArrowNotation.Text.Basic
import ArrowNotation.Text.Data.Words
import ArrowNotation.Text.Table

namespace ArrowNotation.Text

/-! ## 1. Word characters -/

/-- Whether a character may stand in an identifier. -/
def isWord (c : CodePoint) : Bool := Table.contains c.toNat Data.words

/-- No character that begins a connector is a word character. -/
theorem isWord_connector_start :
    isWord '-' = false ∧ isWord '<' = false ∧ isWord '=' = false := by decide +kernel

theorem isWord_colon : isWord ':' = false := by decide +kernel

/-! ## 2. Blanks -/

/-- The blank characters, as ascending closed ranges of code points. -/
def blanks : List (Nat × Nat) := [
  (0x0009, 0x000D), (0x001C, 0x0020), (0x0085, 0x0085), (0x00A0, 0x00A0), (0x1680, 0x1680),
  (0x2000, 0x200A), (0x2028, 0x2029), (0x202F, 0x202F), (0x205F, 0x205F), (0x3000, 0x3000)]

/-- Whether a character is blank. -/
def isBlank (c : CodePoint) : Bool := Table.contains c.toNat blanks

/-! ## 3. Trimming -/

/-- The text without the blanks at its front. -/
def trimLeft (t : Text) : Text := t.dropWhile isBlank

/-- The text without the blanks at its end. -/
def trimRight : Text → Text
  | [] => []
  | c :: rest =>
    match trimRight rest with
    | [] => if isBlank c then [] else [c]
    | kept => c :: kept

/-- The text without the blanks at either end. -/
def trim (t : Text) : Text := trimRight (trimLeft t)

/-! ## 4. What trimming keeps -/

@[simp] theorem trimLeft_nil : trimLeft [] = [] := rfl

@[simp] theorem trimRight_nil : trimRight [] = [] := rfl

@[simp] theorem trim_nil : trim [] = [] := rfl

/-- Trimming on the left removes a run of blanks. -/
theorem exists_trimLeft (t : Text) :
    ∃ removed : Text, (∀ c ∈ removed, isBlank c = true) ∧ t = removed ++ trimLeft t :=
  ⟨t.takeWhile isBlank, fun _ h => by simpa using List.all_eq_true.mp (List.all_takeWhile) _ h,
    (List.takeWhile_append_dropWhile).symm⟩

/-- Trimming on the right removes a run of blanks. -/
theorem exists_trimRight : ∀ t : Text,
    ∃ removed : Text, (∀ c ∈ removed, isBlank c = true) ∧ t = trimRight t ++ removed
  | [] => ⟨[], by simp, rfl⟩
  | c :: rest => by
    obtain ⟨removed, hb, ht⟩ := exists_trimRight rest
    unfold trimRight
    cases hr : trimRight rest with
    | nil =>
      by_cases hc : isBlank c = true
      · refine ⟨c :: rest, ?_, by simp [hc]⟩
        intro d hd
        rcases List.mem_cons.mp hd with rfl | hd
        · exact hc
        · rw [ht, hr, List.nil_append] at hd
          exact hb d hd
      · refine ⟨rest, ?_, by simp [hc]⟩
        intro d hd
        rw [ht, hr, List.nil_append] at hd
        exact hb d hd
    | cons d kept =>
      refine ⟨removed, hb, ?_⟩
      rw [hr] at ht
      simp only [List.cons_append, List.cons.injEq, true_and]
      exact ht

/-- A text trimmed on the right is empty or ends in a character that is not blank. -/
theorem isBlank_getLast_trimRight : ∀ (t : Text), ∀ c ∈ (trimRight t).getLast?, isBlank c = false
  | [], c, h => by simp at h
  | d :: rest, c, h => by
    have ih := isBlank_getLast_trimRight rest c
    unfold trimRight at h
    cases hr : trimRight rest with
    | nil =>
      by_cases hd : isBlank d = true
      · simp [hr, hd] at h
      · simp only [hr, hd] at h
        simp_all
    | cons e kept =>
      rw [hr] at h ih
      simp only [List.getLast?_cons_cons] at h
      exact ih h

end ArrowNotation.Text
