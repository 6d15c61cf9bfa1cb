/-
# Texts without surrogates

A text can be encoded when no code point in it is half of a surrogate pair, and only such a text
can be part of an answer.  What is cut out of a text, and what is put together from texts, can be
encoded if the texts can.  The same holds of the composed form, although composition replaces
characters by others: the surrogates take no part in it (`isBoundary_isSurrogate`).  What a strict
decoder reads can be encoded, whatever the bytes are (`isEncodable_of_decodeUtf8`).

So every part of an edge that a line writes can be encoded if the line can
(`EdgeLine.isEncodable_parts`).
-/
import ArrowNotation.Proofs.Line.Meaning
import ArrowNotation.Proofs.Line.Writing
import ArrowNotation.Proofs.Text.Composition
import ArrowNotation.Text.Encoding

namespace ArrowNotation

namespace Text

/-! ## 1. Texts -/

theorem isEncodable_iff {t : Text} :
    isEncodable t = true ↔ ∀ c ∈ t, c.isSurrogate = false := by
  simp [isEncodable]

@[simp] theorem isEncodable_append {t u : Text} :
    isEncodable (t ++ u) = (isEncodable t && isEncodable u) := List.all_append

/-- What is cut out of a text can be encoded if the text can. -/
theorem isEncodable_of_mem {t u : Text} (ht : isEncodable t = true) (h : ∀ c ∈ u, c ∈ t) :
    isEncodable u = true :=
  isEncodable_iff.mpr fun c hc => isEncodable_iff.mp ht c (h c hc)

@[simp] theorem isEncodable_ofNat (n : Nat) : isEncodable (ofNat n) = true := by
  refine isEncodable_iff.mpr fun c hc => ?_
  obtain ⟨digit, -, rfl⟩ := List.mem_map.mp hc
  exact CodePoint.isSurrogate_ofChar digit

theorem isEncodable_trim {t : Text} (h : isEncodable t = true) : isEncodable (trim t) = true :=
  isEncodable_of_mem h fun _ hc => mem_of_mem_trim hc

theorem isEncodable_of_mem_lines {t line : Text} (h : isEncodable t = true)
    (hline : line ∈ lines t) : isEncodable line = true :=
  isEncodable_of_mem h fun _ hc => mem_of_mem_splitAt hline hc

theorem isEncodable_cons {c : CodePoint} {t : Text} (hc : c.isSurrogate = false)
    (ht : isEncodable t = true) : isEncodable (c :: t) = true :=
  isEncodable_iff.mpr (List.forall_mem_cons.mpr ⟨hc, isEncodable_iff.mp ht⟩)

/-- **What a strict decoder reads can be encoded**, from the middle of a code point on. -/
theorem isEncodable_of_decodeUtf8After : ∀ {bytes : Bytes} {owed value least : Nat} {t : Text},
    decodeUtf8After false owed value least bytes = some t → isEncodable t = true
  | [], owed, value, least, t, h => by
    unfold decodeUtf8After at h
    split at h
    · rw [← Option.some.inj h]
      rfl
    · cases h
  | byte :: bytes, 0, value, least, t, h => by
    unfold decodeUtf8After at h
    dsimp only at h
    split at h
    · next hascii =>
      obtain ⟨rest, hrest, rfl⟩ := Option.map_eq_some_iff.mp h
      refine isEncodable_cons ?_ (isEncodable_of_decodeUtf8After hrest)
      rw [CodePoint.isSurrogate, CodePoint.toNat_ofNat (by omega)]
      simp only [Bool.and_eq_false_iff, decide_eq_false_iff_not]
      omega
    · -- The first byte of a longer code point says how many are to come, or it is refused.
      split at h
      · cases h
      · split at h
        · exact isEncodable_of_decodeUtf8After h
        · split at h
          · exact isEncodable_of_decodeUtf8After h
          · split at h
            · exact isEncodable_of_decodeUtf8After h
            · cases h
  | byte :: bytes, owed + 1, value, least, t, h => by
    unfold decodeUtf8After at h
    dsimp only at h
    split at h
    · cases h
    · split at h
      · exact isEncodable_of_decodeUtf8After h
      · split at h
        · cases h
        · split at h
          · cases h
          · next hsurrogate =>
            obtain ⟨rest, hrest, rfl⟩ := Option.map_eq_some_iff.mp h
            refine isEncodable_cons ?_ (isEncodable_of_decodeUtf8After hrest)
            simpa using hsurrogate

theorem isEncodable_of_decodeUtf8 {bytes : Bytes} {t : Text}
    (h : decodeUtf8 false bytes = some t) : isEncodable t = true :=
  isEncodable_of_decodeUtf8After h

/-- **Composition makes no surrogate.** -/
theorem isEncodable_composed {t : Text} (h : isEncodable t = true) :
    isEncodable (composed t) = true :=
  isEncodable_iff.mpr (isBoundary_isSurrogate.eq_false_of_mem_composed (isEncodable_iff.mp h))

end Text

/-! ## 2. Written edges -/

namespace EdgeLine

theorem Ending.mem_text_of_mem_label {e : Ending} {label : Text} (h : e.label = some label)
    {c : CodePoint} (hc : c ∈ label) : c ∈ e.text := by
  cases e with
  | nothing => exact absurd h (by simp [Ending.label])
  | labelled before after content _ _ _ =>
    obtain ⟨-, hlabel⟩ := Option.ite_none_left_eq_some.mp h
    obtain rfl := Option.some.inj hlabel
    simp only [Ending.text, List.mem_append, List.mem_cons]
    exact Or.inr (Or.inr (Or.inr (Text.mem_of_mem_trim hc)))

/-- **Every part of a written edge can be encoded if the line can.** -/
theorem isEncodable_parts {line : Text} {w : EdgeLine} (hline : Text.isEncodable line = true)
    (h : ofLine? line = some w) :
    Text.isEncodable w.source = true ∧ Text.isEncodable w.target = true ∧
      ∀ label, w.label = some label → Text.isEncodable label = true := by
  obtain ⟨d, hd, hw⟩ := exists_writing_of_ofComposed? h
  obtain ⟨connector, -, hw'⟩ := d.edgeLine?_eq_some
  obtain rfl := Option.some.inj (hw'.symm.trans hw)
  have htext : Text.isEncodable d.text = true := hd ▸ Text.isEncodable_composed hline
  simp only [Writing.text, Text.isEncodable_append, Bool.and_eq_true] at htext
  obtain ⟨hsource, -, -, -, htarget, hending⟩ := htext
  exact ⟨hsource, htarget, fun label hlabel =>
    Text.isEncodable_of_mem hending fun _ hc => Ending.mem_text_of_mem_label hlabel hc⟩

end EdgeLine

end ArrowNotation
