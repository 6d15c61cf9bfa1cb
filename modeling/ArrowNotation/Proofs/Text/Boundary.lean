/-
# Characters that composition leaves alone

Composing a text changes more than single characters: marks change places, and neighbours join.
Some characters take no part in this.  They are base characters, they decompose to one character
of their kind, no other character has one of them in its decomposition, and none of them stands
on either side of a pair that composes, nor comes out of one.  `IsBoundary` states this for a
class of characters.

Blanks are such a class (`isBoundary_isBlank`), and so are the slash (`isBoundary_isSlash`) and
the surrogates (`isBoundary_isSurrogate`).  All of them lie in a few stretches of the code space
that the tables of composition hardly mention (`isQuiet`), which is checked against the tables
once for all of them.
-/
import ArrowNotation.Text.Classes
import ArrowNotation.Text.Normal

namespace ArrowNotation.Text

/-! ## 1. Facts of the tables

The tables are large, so each is gone through once, with comparisons that evaluate to truth
values at once, and for all the characters that matter together. -/

/-- Whether a code point lies in one of the stretches that canonical composition leaves alone,
apart from two spaces that it replaces by two others. -/
def isQuiet (n : Nat) : Bool :=
  Nat.ble n 0x3000 && (Nat.ble n 0x2F || (Nat.ble 0x7B n && Nat.ble n 0xA0) || n == 0x1680
    || (Nat.ble 0x2000 n && Nat.ble n 0x206F) || n == 0x3000)
  || Nat.ble 0xD800 n && Nat.ble n 0xDFFF

/-- The two spaces, with their decompositions. -/
def quads : List (Nat × List Nat) := [(0x2000, [0x2002]), (0x2001, [0x2003])]

theorem exists_eq_singleton_of_mem_quads {row : Nat × List Nat} (h : row ∈ quads) :
    ∃ n, row.2 = [n] := by
  simp only [quads, List.mem_cons, List.not_mem_nil, or_false] at h
  rcases h with rfl | rfl
  · exact ⟨0x2002, rfl⟩
  · exact ⟨0x2003, rfl⟩

/-- **Decompositions have nothing to do with the quiet stretches**, the two spaces aside. -/
theorem of_mem_decompositions {row : Nat × List Nat} (h : row ∈ Data.decompositions) :
    row.2 ≠ [] ∧ (∀ n ∈ row.2, n < 0x110000) ∧
      (isQuiet row.1 = false ∧ (∀ n ∈ row.2, isQuiet n = false) ∨ row ∈ quads) := by
  have hall : (Data.decompositions.all fun row =>
      !row.2.isEmpty && row.2.all (fun n => Nat.blt n 0x110000) &&
        (!isQuiet row.1 && row.2.all (fun n => !isQuiet n) || quads.contains row)) = true := by
    decide +kernel
  have hrow := List.all_eq_true.mp hall row h
  simp only [Bool.and_eq_true, Bool.or_eq_true, Bool.not_eq_true', List.isEmpty_eq_false_iff,
    List.all_eq_true, Nat.blt_eq, List.contains_iff_mem] at hrow
  exact ⟨hrow.1.1, hrow.1.2, hrow.2⟩

/-- **Compositions have nothing to do with the quiet stretches.** -/
theorem of_mem_compositions {row : Nat × List (Nat × Nat)} (h : row ∈ Data.compositions) :
    isQuiet row.1 = false ∧ ∀ pair ∈ row.2,
      isQuiet pair.1 = false ∧ isQuiet pair.2 = false ∧ pair.2 < 0x110000 := by
  have hall : (Data.compositions.all fun row => !isQuiet row.1 && row.2.all fun pair =>
      !isQuiet pair.1 && (!isQuiet pair.2 && Nat.blt pair.2 0x110000)) = true := by
    decide +kernel
  have hrow := List.all_eq_true.mp hall row h
  simpa only [Bool.and_eq_true, Bool.not_eq_true', List.all_eq_true, Nat.blt_eq] using hrow

/-- **No mark lies in the quiet stretches.** -/
theorem isQuiet_of_mem_combiningClasses {row : Nat × Nat × Nat}
    (h : row ∈ Data.combiningClasses) {n : Nat} (hfirst : row.1 ≤ n) (hlast : n ≤ row.2.1) :
    isQuiet n = false := by
  have hall : (Data.combiningClasses.all fun row =>
      (List.range' row.1 (row.2.1 - row.1 + 1)).all fun n => !isQuiet n) = true := by
    decide +kernel
  have hrow := List.all_eq_true.mp (List.all_eq_true.mp hall row h) n
    (List.mem_range'_1.mpr (by omega))
  simpa using hrow

/-- The parts of a syllable block are consonants and vowels. -/
theorem Hangul.parts?_eq_some {n : Nat} {parts : List Nat} (h : parts? n = some parts) :
    (firstBlock ≤ n ∧ n < firstBlock + 11172) ∧ parts ≠ [] ∧
      ∀ m ∈ parts, firstLead ≤ m ∧ m < noTail + tailCount := by
  unfold parts? at h
  dsimp only at h
  split at h
  · next hn =>
    obtain rfl := Option.some.inj h
    unfold firstBlock leadCount vowelCount tailCount at hn
    refine ⟨by unfold firstBlock; omega, by split <;> simp, ?_⟩
    intro m hm
    unfold firstBlock firstLead firstVowel noTail vowelCount tailCount at hm
    unfold firstLead noTail tailCount
    split at hm
    · simp only [List.mem_cons, List.not_mem_nil, or_false] at hm
      omega
    · simp only [List.mem_cons, List.not_mem_nil, or_false] at hm
      omega
  · exact absurd h (by simp)

/-- A block is made of consonants, vowels and blocks. -/
theorem Hangul.join?_eq_some {a b n : Nat} (h : join? a b = some n) :
    (firstLead ≤ a ∧ a < noTail + tailCount ∨ firstBlock ≤ a ∧ a < firstBlock + 11172) ∧
      (firstLead ≤ b ∧ b < noTail + tailCount) ∧ firstBlock ≤ n ∧ n < firstBlock + 11172 := by
  unfold join? at h
  split at h
  · next hab =>
    obtain rfl := Option.some.inj h
    simp only [firstBlock, firstLead, firstVowel, noTail, leadCount, vowelCount, tailCount] at hab ⊢
    omega
  · split at h
    · next hab =>
      obtain rfl := Option.some.inj h
      simp only [firstBlock, firstLead, noTail, leadCount, vowelCount, tailCount] at hab ⊢
      omega
    · exact absurd h (by simp)

/-- No consonant, vowel or block of Hangul lies in the quiet stretches. -/
theorem Hangul.isQuiet_eq_false {n : Nat} (h : firstLead ≤ n ∧ n < noTail + tailCount ∨
    firstBlock ≤ n ∧ n < firstBlock + 11172) : n < 0x110000 ∧ isQuiet n = false := by
  unfold firstLead noTail tailCount firstBlock at h
  refine ⟨by omega, ?_⟩
  rw [← Bool.not_eq_true]
  intro hquiet
  simp only [isQuiet, Bool.and_eq_true, Bool.or_eq_true, Nat.ble_eq, beq_iff_eq] at hquiet
  omega

theorem decomposeChar_ne_nil (c : CodePoint) : decomposeChar c ≠ [] := by
  unfold decomposeChar
  split
  · next parts h => simpa using (Hangul.parts?_eq_some h).2.1
  · split
    · next parts h => simpa using (of_mem_decompositions (Table.mem_of_find? h)).1
    · simp

/-! ## 2. Quiet characters -/

/-- **A quiet character is a base character.** -/
theorem combiningClass_eq_zero_of_isQuiet {c : CodePoint} (hc : isQuiet c.toNat = true) :
    combiningClass c = 0 := by
  unfold combiningClass
  cases h : Table.findRange? c.toNat Data.combiningClasses with
  | none => rfl
  | some k =>
    obtain ⟨row, hmem, hfirst, hlast, -⟩ := Table.exists_row_of_findRange? h
    rw [isQuiet_of_mem_combiningClasses hmem hfirst hlast] at hc
    exact absurd hc (by simp)

/-- **Quiet characters decompose among themselves**, and each to one character: to itself, or, in
the case of the two spaces, to another space.  Any other character has no quiet one in its
decomposition. -/
theorem decomposeChar_cases (c : CodePoint) :
    (isQuiet c.toNat = false ∧ ∀ d ∈ decomposeChar c, isQuiet d.toNat = false) ∨
      ∃ d, decomposeChar c = [d] ∧ (d = c ∨ (c.toNat, [d.toNat]) ∈ quads) := by
  unfold decomposeChar
  split
  · next parts h =>
    obtain ⟨hblock, -, hparts⟩ := Hangul.parts?_eq_some h
    refine Or.inl ⟨(Hangul.isQuiet_eq_false (Or.inr hblock)).2, ?_⟩
    intro d hd
    obtain ⟨n, hn, rfl⟩ := List.mem_map.mp hd
    obtain ⟨hlt, hfalse⟩ := Hangul.isQuiet_eq_false (Or.inl (hparts n hn))
    rw [CodePoint.toNat_ofNat hlt]
    exact hfalse
  · split
    · next parts h =>
      obtain ⟨-, hlt, hrow⟩ := of_mem_decompositions (Table.mem_of_find? h)
      rcases hrow with ⟨hkey, hparts⟩ | hquad
      · refine Or.inl ⟨hkey, ?_⟩
        intro d hd
        obtain ⟨n, hn, rfl⟩ := List.mem_map.mp hd
        rw [CodePoint.toNat_ofNat (hlt n hn)]
        exact hparts n hn
      · obtain ⟨n, rfl⟩ := exists_eq_singleton_of_mem_quads hquad
        refine Or.inr ⟨.ofNat n, rfl, Or.inr ?_⟩
        rw [CodePoint.toNat_ofNat (hlt n (by simp))]
        exact hquad
    · exact Or.inr ⟨c, rfl, Or.inl rfl⟩

/-- **No quiet character stands in a pair that composes, or comes out of one.** -/
theorem isQuiet_of_composePair? {a b c : CodePoint} (h : composePair? a b = some c) :
    isQuiet a.toNat = false ∧ isQuiet b.toNat = false ∧ isQuiet c.toNat = false := by
  unfold composePair? at h
  split at h
  · next n hjoin =>
    obtain rfl := Option.some.inj h
    obtain ⟨ha, hb, hn⟩ := Hangul.join?_eq_some hjoin
    obtain ⟨hlt, hfalse⟩ := Hangul.isQuiet_eq_false (Or.inr hn)
    rw [CodePoint.toNat_ofNat hlt]
    exact ⟨(Hangul.isQuiet_eq_false ha).2, (Hangul.isQuiet_eq_false (Or.inl hb)).2, hfalse⟩
  · split at h
    · next row hrow =>
      obtain ⟨n, hn, rfl⟩ := Option.map_eq_some_iff.mp h
      obtain ⟨hb, hpairs⟩ := of_mem_compositions (Table.mem_of_find? hrow)
      obtain ⟨ha, hc, hlt⟩ := hpairs _ (Table.mem_of_find? hn)
      rw [CodePoint.toNat_ofNat hlt]
      exact ⟨ha, hb, hc⟩
    · exact absurd h (by simp)

/-! ## 3. Classes of characters at which a text can be cut -/

/-- A class of base characters that composition leaves among themselves: each decomposes to one
of them, no other character has one of them in its decomposition, and they have no part in any
pair that composes. -/
structure IsBoundary (P : CodePoint → Bool) : Prop where
  isBase : ∀ {c}, P c = true → combiningClass c = 0
  decomposed : ∀ {c}, P c = true → ∃ d, decomposeChar c = [d] ∧ P d = true
  of_mem_decomposeChar : ∀ {c d}, d ∈ decomposeChar c → P d = true → P c = true
  of_composePair? : ∀ {a b c}, composePair? a b = some c →
    P a = false ∧ P b = false ∧ P c = false

/-- **A class of quiet characters is a boundary** if it holds with each of the two spaces the one
that replaces it. -/
theorem IsBoundary.of_isQuiet {p : Nat → Bool} (hquiet : ∀ n, p n = true → isQuiet n = true)
    (hquads : ∀ row ∈ quads, ∀ n ∈ row.2, p row.1 = p n) : IsBoundary fun c => p c.toNat := by
  have hno : ∀ n, isQuiet n = false → p n = false := by
    intro n hn
    cases hp : p n with
    | false => rfl
    | true => exact absurd (hquiet n hp) (by simp [hn])
  constructor
  case isBase =>
    intro c hc
    exact combiningClass_eq_zero_of_isQuiet (hquiet _ hc)
  case decomposed =>
    intro c hc
    rcases decomposeChar_cases c with ⟨hfalse, -⟩ | ⟨d, hd, rfl | hquad⟩
    · exact absurd hc (by simp [hno _ hfalse])
    · exact ⟨d, hd, hc⟩
    · exact ⟨d, hd, by rwa [hquads _ hquad _ (List.mem_singleton_self _)] at hc⟩
  case of_mem_decomposeChar =>
    intro c d hmem hpd
    rcases decomposeChar_cases c with ⟨-, hfalse⟩ | ⟨e, he, hce⟩
    · exact absurd hpd (by simp [hno _ (hfalse d hmem)])
    · rw [he, List.mem_singleton] at hmem
      subst hmem
      rcases hce with rfl | hquad
      · exact hpd
      · rwa [hquads _ hquad _ (List.mem_singleton_self _)]
  case of_composePair? =>
    intro a b c hpair
    obtain ⟨ha, hb, hc⟩ := isQuiet_of_composePair? hpair
    exact ⟨hno _ ha, hno _ hb, hno _ hc⟩

/-- **Blanks are a boundary.** -/
theorem isBoundary_isBlank : IsBoundary isBlank := by
  refine IsBoundary.of_isQuiet (p := fun n => Table.contains n blanks) ?_ (by decide)
  intro n hn
  obtain ⟨row, hrow, hfirst, hlast⟩ := Table.exists_row_of_contains hn
  have hrows : ∀ row ∈ blanks, row.2 ≤ 0x2F ∨ 0x7B ≤ row.1 ∧ row.2 ≤ 0xA0 ∨
      row = (0x1680, 0x1680) ∨ 0x2000 ≤ row.1 ∧ row.2 ≤ 0x206F ∨ row = (0x3000, 0x3000) := by
    decide
  simp only [isQuiet, Bool.and_eq_true, Bool.or_eq_true, Nat.ble_eq, beq_iff_eq]
  rcases hrows row hrow with h | h | rfl | h | rfl <;> omega

/-- Whether a character is a slash. -/
def isSlash (c : CodePoint) : Bool := c.toNat = 0x2F

/-- **The slash is a boundary.** -/
theorem isBoundary_isSlash : IsBoundary isSlash := by
  refine IsBoundary.of_isQuiet (p := fun n => n = 0x2F) ?_ (by decide)
  intro n hn
  obtain rfl := of_decide_eq_true hn
  decide

/-- **Surrogates are a boundary.** -/
theorem isBoundary_isSurrogate : IsBoundary CodePoint.isSurrogate := by
  refine IsBoundary.of_isQuiet
    (p := fun n => decide (0xD800 ≤ n) && decide (n < 0xE000)) ?_ (by decide)
  intro n hn
  simp only [Bool.and_eq_true, decide_eq_true_eq] at hn
  simp only [isQuiet, Bool.and_eq_true, Bool.or_eq_true, Nat.ble_eq, beq_iff_eq]
  omega

end ArrowNotation.Text
