/-
# Names, written and read

A name is written as bytes and read as a text again, and the two undo each other as far as they can.

* **Written as it was read.**  Whatever bytes a name has, its text is written as these bytes
  (`nameBytes_ofNameBytes`).  So the spelling of the file system changes no bytes, and it can always
  be written.
* **Read as it was written.**  A text without surrogates is its own spelling
  (`stored_of_isEncodable`).  A surrogate need not stay: two of them may be the bytes of one
  character.
* **ASCII.**  A byte below 0x80 is a character of ASCII and no part of another.  So ASCII at the end
  of a name stays there in the spelling of the file system (`exists_stored_append`), and no name
  becomes a step to the parent (`stored_eq_parentStep_iff`).
-/
import ArrowNotation.Files.Path
import Mathlib.Data.List.Basic
import Mathlib.Data.List.Induction

namespace ArrowNotation

/-! ## 1. One code point -/

namespace CodePoint

variable {c : CodePoint}

theorem isByte_eq_false (h : c.isSurrogate = false) : c.isByte = false := by
  simp only [isSurrogate, isByte, Bool.and_eq_false_iff, decide_eq_false_iff_not] at h ⊢
  omega

theorem isWritable_of_not_isSurrogate (h : c.isSurrogate = false) : c.isWritable = true := by
  simp [isWritable, h]

/-- Characters are written in UTF-8. -/
theorem nameBytes_of_not_isSurrogate (h : c.isSurrogate = false) :
    c.nameBytes = Text.utf8Bytes c := by
  rw [nameBytes, isByte_eq_false h]
  rfl

/-- **A byte that is no part of a character** is written as itself. -/
theorem nameBytes_ofByte {byte : UInt8} (h : 0x80 ≤ byte.toNat) :
    (ofByte byte).isWritable = true ∧ (ofByte byte).nameBytes = [byte] := by
  have hbyte := byte.toNat_lt
  have hnat : (ofByte byte).toNat = 0xDC00 + byte.toNat := toNat_ofNat (by omega)
  have hisByte : (ofByte byte).isByte = true := by
    simp only [isByte, hnat, Bool.and_eq_true, decide_eq_true_eq]
    omega
  refine ⟨by rw [isWritable, hisByte, Bool.or_true], ?_⟩
  rw [nameBytes, if_pos hisByte, hnat, Nat.add_sub_cancel_left, UInt8.ofNat_toNat]

theorem nameBytes_of_ascii (h : c.toNat < 0x80) : c.nameBytes = [.ofNat c.toNat] := by
  have hchar : c.isSurrogate = false := by
    simp only [isSurrogate, Bool.and_eq_false_iff, decide_eq_false_iff_not]
    omega
  rw [nameBytes_of_not_isSurrogate hchar, Text.utf8Bytes, if_pos h]

/-- **Beyond ASCII all bytes are beyond ASCII.** -/
theorem le_toNat_of_mem_nameBytes (hc : 0x80 ≤ c.toNat) {byte : UInt8} (h : byte ∈ c.nameBytes) :
    0x80 ≤ byte.toNat := by
  have hlimit := c.isLt
  unfold nameBytes at h
  split at h
  · next hbyte =>
    simp only [isByte, Bool.and_eq_true, decide_eq_true_eq] at hbyte
    rw [List.mem_singleton.mp h, UInt8.toNat_ofNat']
    omega
  · simp only [Text.utf8Bytes] at h
    rw [if_neg (by omega)] at h
    split at h
    · simp only [List.mem_cons, List.not_mem_nil, or_false] at h
      rcases h with rfl | rfl <;> rw [UInt8.toNat_ofNat'] <;> omega
    · split at h
      · simp only [List.mem_cons, List.not_mem_nil, or_false] at h
        rcases h with rfl | rfl | rfl <;> rw [UInt8.toNat_ofNat'] <;> omega
      · simp only [List.mem_cons, List.not_mem_nil, or_false] at h
        rcases h with rfl | rfl | rfl | rfl <;> rw [UInt8.toNat_ofNat'] <;> omega

theorem nameBytes_ne_nil (c : CodePoint) : c.nameBytes ≠ [] := by
  unfold nameBytes Text.utf8Bytes
  dsimp only
  split
  · simp
  · split
    · simp
    · split
      · simp
      · split <;> simp

end CodePoint

namespace Text

variable {t : Text} {c : CodePoint} {bytes : Bytes}

/-! ## 2. The first character -/

/-- **The bytes of a character tell its number**, whatever follows them. -/
theorem leadValue_utf8Bytes_append (c : CodePoint) (rest : Bytes) :
    leadValue (utf8Bytes c ++ rest) = c.toNat := by
  have hlimit := c.isLt
  unfold utf8Bytes
  dsimp only
  split
  · simp only [leadValue, List.cons_append, List.getD_cons_zero, UInt8.toNat_ofNat']
    rw [if_pos (by omega)]
    omega
  · split
    · simp only [leadValue, List.cons_append, List.getD_cons_zero, List.getD_cons_succ,
        UInt8.toNat_ofNat']
      rw [if_neg (by omega), if_pos (by omega)]
      omega
    · split
      · simp only [leadValue, List.cons_append, List.getD_cons_zero, List.getD_cons_succ,
          UInt8.toNat_ofNat']
        rw [if_neg (by omega), if_neg (by omega), if_pos (by omega)]
        omega
      · simp only [leadValue, List.cons_append, List.getD_cons_zero, List.getD_cons_succ,
          UInt8.toNat_ofNat']
        rw [if_neg (by omega), if_neg (by omega), if_neg (by omega)]
        omega

theorem firstChar?_utf8Bytes_append (hc : c.isSurrogate = false) (rest : Bytes) :
    firstChar? (utf8Bytes c ++ rest) = some c := by
  simp [firstChar?, leadValue_utf8Bytes_append, hc]

/-- A byte of ASCII is a character, so where none is found a byte beyond ASCII stands. -/
theorem le_toNat_of_firstChar?_eq_none {byte : UInt8} (h : firstChar? (byte :: bytes) = none) :
    0x80 ≤ byte.toNat := by
  by_contra hascii
  have hnat : (CodePoint.ofNat byte.toNat).toNat = byte.toNat := CodePoint.toNat_ofNat (by omega)
  have hutf8 : utf8Bytes (CodePoint.ofNat byte.toNat) = [byte] := by
    rw [utf8Bytes, hnat, if_pos (by omega), UInt8.ofNat_toNat]
  have hc : (CodePoint.ofNat byte.toNat).isSurrogate = false := by
    simp only [CodePoint.isSurrogate, hnat, Bool.and_eq_false_iff, decide_eq_false_iff_not]
    omega
  have hfound := firstChar?_utf8Bytes_append hc bytes
  rw [hutf8, List.singleton_append, h] at hfound
  cases hfound

/-- What is found is a character, and the bytes begin with it. -/
theorem firstChar?_eq_some (h : firstChar? bytes = some c) :
    c.isSurrogate = false ∧ ∃ rest, bytes = utf8Bytes c ++ rest := by
  simp only [firstChar?, Option.ite_none_right_eq_some, Bool.and_eq_true, Bool.not_eq_true',
    List.isPrefixOf_iff_prefix, Option.some.injEq] at h
  obtain ⟨⟨hc, rest, hrest⟩, rfl⟩ := h
  exact ⟨hc, rest, hrest.symm⟩

/-! ## 3. Reading -/

theorem ofNameBytesAfter_eq : ∀ (skip : Nat) (bytes : Bytes),
    ofNameBytesAfter skip bytes = ofNameBytes (bytes.drop skip)
  | 0, _ => rfl
  | _ + 1, [] => rfl
  | skip + 1, _ :: bytes => by
    rw [ofNameBytesAfter, List.drop_succ_cons]
    exact ofNameBytesAfter_eq skip bytes

/-- A character is read where one is. -/
theorem ofNameBytes_of_firstChar? {rest : Bytes} (h : firstChar? bytes = some c)
    (hbytes : bytes = utf8Bytes c ++ rest) : ofNameBytes bytes = c :: ofNameBytes rest := by
  have hlength : 0 < (utf8Bytes c).length := by
    have hne := c.nameBytes_ne_nil
    rw [CodePoint.nameBytes_of_not_isSurrogate (firstChar?_eq_some h).1] at hne
    exact List.length_pos_iff.mpr hne
  cases bytes with
  | nil =>
    rw [eq_comm, List.append_eq_nil_iff] at hbytes
    exact absurd hbytes.1 (List.length_pos_iff.mp hlength)
  | cons byte bytes =>
    -- Of the bytes of the character the first is taken, and the others are passed over.
    have hdrop : (byte :: bytes).drop (utf8Bytes c).length = rest := by
      rw [hbytes, List.drop_left]
    rw [← Nat.sub_add_cancel hlength, List.drop_succ_cons] at hdrop
    rw [ofNameBytes, ofNameBytesAfter, h]
    dsimp only
    rw [ofNameBytesAfter_eq, hdrop]

/-- **What is read first** is written as the bytes that were read, and the rest is read like a name
of its own. -/
theorem exists_ofNameBytes_eq_cons (hbytes : bytes ≠ []) :
    ∃ c rest, c.isWritable = true ∧ bytes = c.nameBytes ++ rest ∧
      ofNameBytes bytes = c :: ofNameBytes rest := by
  cases h : firstChar? bytes with
  | some c =>
    obtain ⟨hc, rest, hrest⟩ := firstChar?_eq_some h
    refine ⟨c, rest, CodePoint.isWritable_of_not_isSurrogate hc, ?_,
      ofNameBytes_of_firstChar? h hrest⟩
    rw [CodePoint.nameBytes_of_not_isSurrogate hc, hrest]
  | none =>
    cases bytes with
    | nil => exact absurd rfl hbytes
    | cons byte bytes =>
      obtain ⟨hwritable, hwritten⟩ :=
        CodePoint.nameBytes_ofByte (le_toNat_of_firstChar?_eq_none h)
      refine ⟨.ofByte byte, bytes, hwritable, by rw [hwritten, List.singleton_append], ?_⟩
      rw [ofNameBytes, ofNameBytesAfter, h]
      rfl

/-- **A name is written as it was read**, and it can be. -/
theorem nameBytes_ofNameBytes (bytes : Bytes) :
    nameBytes (ofNameBytes bytes) = bytes ∧ isWritable (ofNameBytes bytes) = true := by
  by_cases hbytes : bytes = []
  · subst hbytes
    exact ⟨rfl, rfl⟩
  · obtain ⟨c, rest, hc, hrest, hread⟩ := exists_ofNameBytes_eq_cons hbytes
    have hshorter : rest.length < bytes.length := by
      have hlength := List.length_pos_iff.mpr c.nameBytes_ne_nil
      rw [hrest, List.length_append]
      omega
    obtain ⟨hwritten, hwritable⟩ := nameBytes_ofNameBytes rest
    rw [hread]
    constructor
    · rw [nameBytes, List.flatMap_cons, ← nameBytes, hwritten, ← hrest]
    · rw [isWritable, List.all_cons, hc, Bool.true_and]
      exact hwritable
termination_by bytes.length

/-! ## 4. The spelling of the file system -/

@[simp] theorem nameBytes_append (t u : Text) : nameBytes (t ++ u) = nameBytes t ++ nameBytes u :=
  List.flatMap_append

/-- **The spelling changes no bytes.** -/
@[simp] theorem nameBytes_stored (t : Text) : nameBytes (stored t) = nameBytes t :=
  (nameBytes_ofNameBytes _).1

@[simp] theorem isWritable_stored (t : Text) : isWritable (stored t) = true :=
  (nameBytes_ofNameBytes _).2

theorem isWritable_of_stored_eq (h : stored t = t) : isWritable t = true := h ▸ isWritable_stored t

/-- **A text without surrogates is spelled as it is.** -/
theorem stored_of_isEncodable : ∀ {t : Text}, isEncodable t = true → stored t = t
  | [], _ => rfl
  | c :: t, h => by
    rw [isEncodable, List.all_cons, Bool.and_eq_true, Bool.not_eq_true'] at h
    have ih : ofNameBytes (nameBytes t) = t := stored_of_isEncodable h.2
    rw [stored, nameBytes, List.flatMap_cons, ← nameBytes,
      CodePoint.nameBytes_of_not_isSurrogate h.1,
      ofNameBytes_of_firstChar? (firstChar?_utf8Bytes_append h.1 _) rfl, ih]

@[simp] theorem stored_toText (s : String) : stored s.toText = s.toText :=
  stored_of_isEncodable (isEncodable_toText s)

theorem stored_of_mem_singleton (s : String) : ∀ name ∈ [s.toText], stored name = name :=
  List.forall_mem_singleton.mpr (stored_toText s)

/-! ## 5. ASCII -/

/-- Where the bytes end in one of ASCII, the text ends in its character. -/
theorem exists_concat_of_nameBytes (hc : c.toNat < 0x80)
    (h : nameBytes t = bytes ++ [.ofNat c.toNat]) :
    ∃ front, t = front ++ [c] ∧ nameBytes front = bytes := by
  rcases List.eq_nil_or_concat t with rfl | ⟨front, d, rfl⟩
  · exact absurd h.symm (by simp [nameBytes])
  rw [List.concat_eq_append] at h ⊢
  rw [nameBytes_append, nameBytes, nameBytes, List.flatMap_singleton, ← nameBytes] at h
  have hlast : UInt8.ofNat c.toNat ∈ d.nameBytes := by
    refine List.mem_of_getLast? ?_
    rw [← List.getLast?_append_of_ne_nil (nameBytes front) d.nameBytes_ne_nil, h,
      List.getLast?_concat]
  have hd : d.toNat < 0x80 := by
    by_contra hbeyond
    have hle := d.le_toNat_of_mem_nameBytes (by omega) hlast
    rw [UInt8.toNat_ofNat'] at hle
    omega
  rw [CodePoint.nameBytes_of_ascii hd] at h
  obtain ⟨hfront, hlast⟩ := List.append_inj' h rfl
  have hnat := congrArg UInt8.toNat (List.singleton_inj.mp hlast)
  rw [UInt8.toNat_ofNat', UInt8.toNat_ofNat'] at hnat
  have hsame : d = c := CodePoint.toNat_inj.mp (by omega)
  exact ⟨front, by rw [hsame], hfront⟩

/-- **Where the bytes end in ASCII, the text does.** -/
theorem exists_append_of_nameBytes {ending : Text} (hending : ∀ c ∈ ending, c.toNat < 0x80) :
    nameBytes t = bytes ++ nameBytes ending →
      ∃ front, t = front ++ ending ∧ nameBytes front = bytes := by
  induction ending using List.reverseRecOn generalizing t with
  | nil => exact fun h => ⟨t, by simp, by simpa [nameBytes] using h⟩
  | append_singleton ending c ih =>
    intro h
    have hc : c.toNat < 0x80 := hending c (by simp)
    have hlast : nameBytes [c] = [.ofNat c.toNat] := by
      rw [nameBytes, List.flatMap_singleton, CodePoint.nameBytes_of_ascii hc]
    rw [nameBytes_append, hlast, ← List.append_assoc] at h
    obtain ⟨front, rfl, hfront⟩ := exists_concat_of_nameBytes hc h
    obtain ⟨kept, rfl, hkept⟩ := ih (fun c hc => hending c (List.mem_append_left _ hc)) hfront
    exact ⟨kept, List.append_assoc .., hkept⟩

/-- **ASCII at the end of a name stays there.** -/
theorem exists_stored_append {ending : Text} (hending : ∀ c ∈ ending, c.toNat < 0x80) (t : Text) :
    ∃ front, stored (t ++ ending) = front ++ ending := by
  have hbytes : nameBytes (stored (t ++ ending)) = nameBytes t ++ nameBytes ending := by
    rw [nameBytes_stored, nameBytes_append]
  obtain ⟨front, hfront, -⟩ := exists_append_of_nameBytes hending hbytes
  exact ⟨front, hfront⟩

/-- **No name becomes a step to the parent.** -/
theorem stored_eq_parentStep_iff : stored t = parentStep ↔ t = parentStep := by
  constructor
  · intro h
    have hbytes : nameBytes t = [] ++ nameBytes parentStep := by
      rw [← nameBytes_stored, h, List.nil_append]
    obtain ⟨front, rfl, hfront⟩ := exists_append_of_nameBytes (by decide) hbytes
    cases front with
    | nil => rfl
    | cons c front =>
      rw [nameBytes, List.flatMap_cons, List.append_eq_nil_iff] at hfront
      exact absurd hfront.1 c.nameBytes_ne_nil
  · rintro rfl
    exact stored_of_isEncodable (by decide)

/-- Two surrogates that are the bytes of one character, and one that is a byte of its own. -/
example : stored [.ofNat 0xDCC3, .ofNat 0xDCA9, .ofNat 0xDCC3]
    = "é".toText ++ [.ofNat 0xDCC3] := by decide +kernel

end Text

end ArrowNotation
