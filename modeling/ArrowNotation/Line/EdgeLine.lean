/-
# Written edges

One edge in writing: an identifier, a connector, an identifier and, after a colon, an optional
label, with blanks between the parts.  A line is brought into canonical composed form before it
is read, so an accent counts the same whether it is part of its letter or follows it.

The reading needs no second try anywhere: identifiers, blanks, the first characters of the
tokens and the colon are disjoint sets of characters, so each part ends where the next begins.
-/
import ArrowNotation.Connector
import ArrowNotation.Text.Classes
import ArrowNotation.Text.Normal

namespace ArrowNotation

/-- The parts of a written edge. -/
structure EdgeLine where
  source : Text
  connector : Connector
  target : Text
  label : Option Text
  deriving DecidableEq

namespace EdgeLine

/-! ## 1. Identifiers -/

/-- The identifier a text begins with, which is as long as possible and not empty, and what
follows it. -/
def takeIdentifier? (t : Text) : Option (Text × Text) :=
  match t.takeWhile Text.isWord with
  | [] => none
  | identifier => some (identifier, t.dropWhile Text.isWord)

/-- An identifier is a run of word characters that is not empty, and no word character
follows it. -/
theorem takeIdentifier?_eq_some {t identifier rest : Text}
    (h : takeIdentifier? t = some (identifier, rest)) :
    t = identifier ++ rest ∧ identifier ≠ [] ∧ (∀ c ∈ identifier, Text.isWord c = true) ∧
      ∀ c ∈ rest.head?, Text.isWord c = false := by
  unfold takeIdentifier? at h
  split at h
  · simp at h
  · next hne =>
    simp only [Option.some.injEq, Prod.mk.injEq] at h
    obtain ⟨rfl, rfl⟩ := h
    refine ⟨List.takeWhile_append_dropWhile.symm, hne, ?_, ?_⟩
    · intro c hc
      simpa using List.all_eq_true.mp List.all_takeWhile c hc
    · intro c hc
      have := List.head?_dropWhile_not Text.isWord t
      rw [Option.mem_def] at hc
      simpa [hc] using this

/-! ## 2. Labels -/

/-- The label a text stands for: the text without the blanks around it, unless nothing is
left. -/
def labelOf (t : Text) : Option Text :=
  match Text.trim t with
  | [] => none
  | label => some label

/-- The label after the target, if the rest of the line is as it should be: nothing at all, or a
colon and then one line of text, the blanks around the colon aside. -/
def takeLabel? (rest : Text) : Option (Option Text) :=
  if rest = [] then some none
  else
    match Text.trimLeft rest with
    | [] => none
    | c :: after =>
      let label := Text.trimLeft after
      if c ≠ ':' ∨ Text.lineFeed ∈ label then none else some (labelOf label)

/-! ## 3. Whole lines -/

/-- The edge that a text in composed form writes, if it writes one. -/
def ofComposed? (t : Text) : Option EdgeLine := do
  let (source, rest) ← takeIdentifier? t
  let (connector, rest) ← Connector.takeToken? (Text.trimLeft rest)
  let (target, rest) ← takeIdentifier? (Text.trimLeft rest)
  let label ← takeLabel? rest
  return { source, connector, target, label }

/-- The edge that a line writes, if it writes one. -/
def ofLine? (line : Text) : Option EdgeLine := ofComposed? (Text.composed line)

end EdgeLine

end ArrowNotation
