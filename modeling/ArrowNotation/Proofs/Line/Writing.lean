/-
# The grammar of written edges

A line in composed form writes an edge when it consists of an identifier, a connector, an
identifier and perhaps a colon with a label, with blanks between these parts.  `Writing` is one
such way to divide a text, with nothing said about how it is found.

* **Sound and complete.**  The reader accepts exactly the texts that can be divided
  (`ofComposed?_eq_some_iff`).  It takes each part as long as possible and never goes back, and
  this loses nothing: identifiers, blanks, the first characters of the tokens and the colon are
  disjoint, so where a part ends is visible from the character after it.
* **Unambiguous.**  As the reader is a function, two divisions of one text agree in everything
  but the places of the blanks around the label.

A label may hold colons and connectors of its own, since everything after the first colon is
its text.
-/
import ArrowNotation.Line.EdgeLine
import ArrowNotation.Proofs.Text.Trimming

namespace ArrowNotation

/-! ## 1. Characters that end a part -/

namespace Text

/-- An identifier: word characters, at least one. -/
structure IsIdentifier (t : Text) : Prop where
  ne_nil : t ≠ []
  isWord : ∀ c ∈ t, isWord c = true

/-- No blank is a word character.  The blanks are few enough to ask the table about each. -/
theorem isWord_of_isBlank {c : CodePoint} (h : isBlank c = true) : isWord c = false := by
  have hall : ∀ row ∈ blanks, ∀ i < row.2 - row.1 + 1,
      Table.contains (row.1 + i) Data.words = false := by decide +kernel
  obtain ⟨row, hrow, hfirst, hlast⟩ := Table.exists_row_of_contains h
  have hi := hall row hrow (c.toNat - row.1) (by omega)
  rwa [Nat.add_sub_cancel' hfirst] at hi

theorem isBlank_of_isWord {c : CodePoint} (h : isWord c = true) : isBlank c = false := by
  cases hb : isBlank c with
  | false => rfl
  | true =>
    rw [isWord_of_isBlank hb] at h
    exact absurd h (by simp)

theorem isWord_head?_append {w t : Text} (hw : AllBlank w)
    (ht : ∀ c ∈ t.head?, isWord c = false) : ∀ c ∈ (w ++ t).head?, isWord c = false := by
  cases w with
  | nil => exact ht
  | cons d w =>
    rintro c ⟨⟩
    exact isWord_of_isBlank (hw d (by simp))

theorem IsIdentifier.trimLeft_append {identifier : Text} (h : IsIdentifier identifier)
    (rest : Text) : trimLeft (identifier ++ rest) = identifier ++ rest := by
  obtain ⟨c, others, rfl⟩ := List.exists_cons_of_ne_nil h.ne_nil
  refine trimLeft_eq_self ?_
  rintro d ⟨⟩
  exact isBlank_of_isWord (h.isWord c (by simp))

end Text

open Text (AllBlank IsIdentifier)

/-- **A token begins with a character that ends an identifier and a run of blanks.** -/
theorem Connector.exists_token_eq_cons (c : Connector) :
    ∃ d rest, c.token = d :: rest ∧ Text.isWord d = false ∧ Text.isBlank d = false := by
  obtain ⟨hdash, hless, hequals⟩ := Text.isWord_connector_start
  cases c with
  | solidArrow => exact ⟨_, _, rfl, hdash, by decide⟩
  | solidLine => exact ⟨_, _, rfl, hdash, by decide⟩
  | bidirectional => exact ⟨_, _, rfl, hless, by decide⟩
  | dashedArrow => exact ⟨_, _, rfl, hdash, by decide⟩
  | thickArrow => exact ⟨_, _, rfl, hequals, by decide⟩

theorem Connector.isWord_head?_token_append (c : Connector) (rest : Text) :
    ∀ d ∈ (c.token ++ rest).head?, Text.isWord d = false := by
  obtain ⟨e, others, he, hword, -⟩ := c.exists_token_eq_cons
  rw [he]
  rintro d ⟨⟩
  exact hword

theorem Connector.trimLeft_token_append (c : Connector) (rest : Text) :
    Text.trimLeft (c.token ++ rest) = c.token ++ rest := by
  obtain ⟨e, others, he, -, hblank⟩ := c.exists_token_eq_cons
  refine Text.trimLeft_eq_self ?_
  rw [he]
  rintro d ⟨⟩
  exact hblank

theorem Connector.mem_tokens_iff {t : Text} :
    t ∈ all.map token ↔ ∃ c, ofToken? t = some c ∧ c.token = t := by
  rw [List.mem_map]
  constructor
  · rintro ⟨c, -, rfl⟩
    exact ⟨c, ofToken?_token c, rfl⟩
  · rintro ⟨c, -, hc⟩
    exact ⟨c, mem_all c, hc⟩

namespace EdgeLine

/-! ## 2. The grammar -/

/-- What may follow the target of a written edge: nothing, or a colon with blanks around it and
one line of text. -/
inductive Ending where
  | nothing
  | labelled (before after content : Text) (allBlank_before : AllBlank before)
      (allBlank_after : AllBlank after) (oneLine : Text.lineFeed ∉ content)

def Ending.text : Ending → Text
  | nothing => []
  | labelled before after content _ _ _ => before ++ (CodePoint.ofChar ':' :: (after ++ content))

/-- The label that an ending gives an edge: its text without the blanks around it, and none if
nothing is left of it. -/
def Ending.label : Ending → Option Text
  | nothing => none
  | labelled _ _ content _ _ _ =>
    if Text.trim content = [] then none else some (Text.trim content)

/-- One way to write an edge: the parts of it in order, blanks included. -/
structure Writing where
  source : Text
  beforeToken : Text
  token : Text
  afterToken : Text
  target : Text
  ending : Ending
  isIdentifier_source : IsIdentifier source
  allBlank_beforeToken : AllBlank beforeToken
  token_mem : token ∈ Connector.all.map Connector.token
  allBlank_afterToken : AllBlank afterToken
  isIdentifier_target : IsIdentifier target

namespace Writing

def text (d : Writing) : Text :=
  d.source ++ (d.beforeToken ++ (d.token ++ (d.afterToken ++ (d.target ++ d.ending.text))))

/-- The edge that is written, its connector looked up by its token. -/
def edgeLine? (d : Writing) : Option EdgeLine :=
  (Connector.ofToken? d.token).map fun connector =>
    { source := d.source, connector, target := d.target, label := d.ending.label }

end Writing

/-! ## 3. What each step of the reader accepts -/

/-- **An identifier is taken as far as it goes.** -/
theorem takeIdentifier?_eq_some_iff {t identifier rest : Text} :
    takeIdentifier? t = some (identifier, rest) ↔
      t = identifier ++ rest ∧ IsIdentifier identifier ∧
        ∀ c ∈ rest.head?, Text.isWord c = false := by
  constructor
  · intro h
    obtain ⟨ht, hne, hword, hrest⟩ := takeIdentifier?_eq_some h
    exact ⟨ht, ⟨hne, hword⟩, hrest⟩
  · rintro ⟨rfl, hid, hrest⟩
    have hstop : rest.takeWhile Text.isWord = [] ∧ rest.dropWhile Text.isWord = rest := by
      cases rest with
      | nil => exact ⟨rfl, rfl⟩
      | cons c rest =>
        have hc : ¬ Text.isWord c = true := by simp [hrest c rfl]
        exact ⟨List.takeWhile_cons_of_neg hc, List.dropWhile_cons_of_neg hc⟩
    have htake : (identifier ++ rest).takeWhile Text.isWord = identifier := by
      rw [List.takeWhile_append_of_pos hid.isWord, hstop.1, List.append_nil]
    have hdrop : (identifier ++ rest).dropWhile Text.isWord = rest := by
      rw [List.dropWhile_append_of_pos hid.isWord, hstop.2]
    unfold takeIdentifier?
    rw [htake, hdrop]
    split
    · exact absurd rfl hid.ne_nil
    · rfl

theorem labelOf_eq (t : Text) :
    labelOf t = if Text.trim t = [] then none else some (Text.trim t) := by
  unfold labelOf
  cases Text.trim t with
  | nil => rfl
  | cons c label => rfl

/-- **A label is read exactly from an ending.** -/
theorem takeLabel?_eq_some_iff {rest : Text} {label : Option Text} :
    takeLabel? rest = some label ↔ ∃ e : Ending, e.text = rest ∧ e.label = label := by
  constructor
  · intro h
    unfold takeLabel? at h
    split at h
    · next hrest =>
      obtain rfl := Option.some.inj h
      exact ⟨.nothing, hrest.symm, rfl⟩
    · split at h
      · exact absurd h (by simp)
      · next c after htrim =>
        obtain ⟨before, hbefore, hrest⟩ := Text.exists_trimLeft rest
        obtain ⟨gap, hgap, hafter⟩ := Text.exists_trimLeft after
        dsimp only at h
        split at h
        · exact absurd h (by simp)
        · next hc =>
          obtain ⟨rfl, hline⟩ : c = ':' ∧ Text.lineFeed ∉ Text.trimLeft after := by
            simpa [not_or] using hc
          obtain rfl := Option.some.inj h
          refine ⟨.labelled before gap (Text.trimLeft after) hbefore hgap hline, ?_, ?_⟩
          · show before ++ (CodePoint.ofChar ':' :: (gap ++ Text.trimLeft after)) = rest
            rw [← hafter, ← htrim, ← hrest]
          · exact (labelOf_eq _).symm
  · rintro ⟨e, rfl, rfl⟩
    cases e with
    | nothing => rfl
    | labelled before after content hbefore hafter hline =>
      have hne : Ending.text (.labelled before after content hbefore hafter hline) ≠ [] := by
        simp [Ending.text]
      have htrim : Text.trimLeft (before ++ (CodePoint.ofChar ':' :: (after ++ content)))
          = CodePoint.ofChar ':' :: (after ++ content) := by
        rw [Text.trimLeft_append_left hbefore]
        exact Text.trimLeft_eq_self (by rintro d ⟨⟩; decide)
      -- The reader trims the text once more, which moves no line feed into it.
      have hline' : Text.lineFeed ∉ Text.trimLeft content := by
        obtain ⟨removed, -, hremoved⟩ := Text.exists_trimLeft content
        exact fun h => hline (hremoved ▸ List.mem_append_right _ h)
      rw [takeLabel?, if_neg hne, Ending.text, htrim]
      simp only [ne_eq, not_true_eq_false, false_or]
      rw [Text.trimLeft_append_left hafter, if_neg hline', labelOf_eq, Text.trim_trimLeft]
      rfl

/-- An ending does not continue the target. -/
theorem Ending.isWord_head?_text (e : Ending) : ∀ c ∈ e.text.head?, Text.isWord c = false := by
  cases e with
  | nothing => exact fun c hc => absurd hc (by simp [Ending.text])
  | labelled before after content hbefore _ _ =>
    refine Text.isWord_head?_append hbefore ?_
    rintro c ⟨⟩
    exact Text.isWord_colon

/-! ## 4. The whole reader -/

/-- The four steps of the reader, one after the other. -/
theorem ofComposed?_eq_some_iff_steps {t : Text} {w : EdgeLine} :
    ofComposed? t = some w ↔
      ∃ rest₁ rest₂ rest₃, takeIdentifier? t = some (w.source, rest₁) ∧
        Connector.takeToken? (Text.trimLeft rest₁) = some (w.connector, rest₂) ∧
        takeIdentifier? (Text.trimLeft rest₂) = some (w.target, rest₃) ∧
        takeLabel? rest₃ = some w.label := by
  simp only [ofComposed?, Option.bind_eq_bind, Option.bind_eq_some_iff, Prod.exists]
  constructor
  · rintro ⟨source, rest₁, h₁, connector, rest₂, h₂, target, rest₃, h₃, label, h₄, hw⟩
    obtain rfl := Option.some.inj hw
    exact ⟨rest₁, rest₂, rest₃, h₁, h₂, h₃, h₄⟩
  · rintro ⟨rest₁, rest₂, rest₃, h₁, h₂, h₃, h₄⟩
    exact ⟨w.source, rest₁, h₁, w.connector, rest₂, h₂, w.target, rest₃, h₃, w.label, h₄, rfl⟩

/-- What the reader accepts can be divided as the grammar says. -/
theorem exists_writing_of_ofComposed? {t : Text} {w : EdgeLine} (h : ofComposed? t = some w) :
    ∃ d : Writing, d.text = t ∧ d.edgeLine? = some w := by
  obtain ⟨rest₁, rest₂, rest₃, hsource, htoken, htarget, hlabel⟩ :=
    ofComposed?_eq_some_iff_steps.mp h
  obtain ⟨rfl, hsourceId, -⟩ := takeIdentifier?_eq_some_iff.mp hsource
  obtain ⟨beforeToken, hbefore, hrest₁⟩ := Text.exists_trimLeft rest₁
  obtain ⟨afterToken, hafter, hrest₂⟩ := Text.exists_trimLeft rest₂
  have htokenEq := Connector.takeToken?_eq_some_iff.mp htoken
  obtain ⟨htargetEq, htargetId, -⟩ := takeIdentifier?_eq_some_iff.mp htarget
  obtain ⟨ending, hending, hendingLabel⟩ := takeLabel?_eq_some_iff.mp hlabel
  refine ⟨⟨w.source, beforeToken, w.connector.token, afterToken, w.target, ending, hsourceId,
    hbefore, List.mem_map_of_mem (Connector.mem_all _), hafter, htargetId⟩, ?_, ?_⟩
  · show w.source ++ (beforeToken ++ (w.connector.token ++
      (afterToken ++ (w.target ++ ending.text)))) = w.source ++ rest₁
    rw [hending, ← htargetEq, ← hrest₂, ← htokenEq, ← hrest₁]
  · simp only [Writing.edgeLine?, Connector.ofToken?_token, Option.map_some, hendingLabel]

/-- **Nothing that the grammar allows is refused, and every part is read as it was meant.** -/
theorem ofComposed?_text (d : Writing) : ofComposed? d.text = d.edgeLine? := by
  obtain ⟨connector, hconnector, htoken⟩ := Connector.mem_tokens_iff.mp d.token_mem
  have hedge : d.edgeLine? = some ⟨d.source, connector, d.target, d.ending.label⟩ := by
    rw [Writing.edgeLine?, hconnector, Option.map_some]
  rw [hedge]
  refine ofComposed?_eq_some_iff_steps.mpr
    ⟨d.beforeToken ++ (d.token ++ (d.afterToken ++ (d.target ++ d.ending.text))),
      d.afterToken ++ (d.target ++ d.ending.text), d.ending.text, ?_, ?_, ?_, ?_⟩
  · refine takeIdentifier?_eq_some_iff.mpr ⟨rfl, d.isIdentifier_source, ?_⟩
    refine Text.isWord_head?_append d.allBlank_beforeToken ?_
    rw [← htoken]
    exact connector.isWord_head?_token_append _
  · rw [Text.trimLeft_append_left d.allBlank_beforeToken, ← htoken,
      connector.trimLeft_token_append]
    exact Connector.takeToken?_eq_some_iff.mpr rfl
  · rw [Text.trimLeft_append_left d.allBlank_afterToken, d.isIdentifier_target.trimLeft_append]
    exact takeIdentifier?_eq_some_iff.mpr
      ⟨rfl, d.isIdentifier_target, d.ending.isWord_head?_text⟩
  · exact takeLabel?_eq_some_iff.mpr ⟨d.ending, rfl, rfl⟩

/-- **The reader accepts exactly what the grammar allows.** -/
theorem ofComposed?_eq_some_iff {t : Text} {w : EdgeLine} :
    ofComposed? t = some w ↔ ∃ d : Writing, d.text = t ∧ d.edgeLine? = some w := by
  constructor
  · exact exists_writing_of_ofComposed?
  · rintro ⟨d, rfl, hd⟩
    rw [ofComposed?_text, hd]

/-! ## 5. What a division determines -/

/-- The token of a division always belongs to a connector. -/
theorem Writing.edgeLine?_eq_some (d : Writing) :
    ∃ connector, Connector.ofToken? d.token = some connector ∧
      d.edgeLine? = some ⟨d.source, connector, d.target, d.ending.label⟩ := by
  obtain ⟨connector, hconnector, -⟩ := Connector.mem_tokens_iff.mp d.token_mem
  exact ⟨connector, hconnector, by rw [edgeLine?, hconnector, Option.map_some]⟩

/-- **Two divisions of one text have the same parts**, the blanks aside. -/
theorem Writing.parts_eq_of_text_eq {d e : Writing} (h : d.text = e.text) :
    d.source = e.source ∧ d.token = e.token ∧ d.target = e.target ∧
      d.ending.label = e.ending.label := by
  -- Both are what the reader finds, and the reader is a function.
  have hedge : d.edgeLine? = e.edgeLine? := by rw [← ofComposed?_text, h, ofComposed?_text]
  obtain ⟨c, hc, hd⟩ := d.edgeLine?_eq_some
  obtain ⟨c', hc', he⟩ := e.edgeLine?_eq_some
  rw [hd, he] at hedge
  obtain ⟨hsource, hconnector, htarget, hlabel⟩ : d.source = e.source ∧ c = c' ∧
      d.target = e.target ∧ d.ending.label = e.ending.label := by
    simpa using hedge
  have htoken : d.token = e.token := by
    rw [← Connector.token_of_ofToken? hc, ← Connector.token_of_ofToken? hc', hconnector]
  exact ⟨hsource, htoken, htarget, hlabel⟩

/-- A label that is given is not empty, has no blank at its ends and is one line. -/
theorem Ending.label_eq_some {e : Ending} {label : Text} (h : e.label = some label) :
    label ≠ [] ∧ Text.trim label = label ∧ Text.lineFeed ∉ label := by
  cases e with
  | nothing => exact absurd h (by simp [Ending.label])
  | labelled before after content _ _ hline =>
    by_cases hne : Text.trim content = []
    · rw [Ending.label, if_pos hne] at h
      exact absurd h (by simp)
    · rw [Ending.label, if_neg hne] at h
      obtain rfl := Option.some.inj h
      exact ⟨hne, Text.trim_trim content, fun hmem => hline (Text.mem_of_mem_trim hmem)⟩

theorem isIdentifier_of_ofLine? {line : Text} {w : EdgeLine} (h : ofLine? line = some w) :
    IsIdentifier w.source ∧ IsIdentifier w.target := by
  obtain ⟨d, -, hd⟩ := exists_writing_of_ofComposed? h
  obtain ⟨c, -, hc⟩ := d.edgeLine?_eq_some
  obtain rfl := Option.some.inj (hc.symm.trans hd)
  exact ⟨d.isIdentifier_source, d.isIdentifier_target⟩

/-- **Edges in writing.**  A line is read as an edge exactly when its composed form can be
divided by the grammar.  Every such division has a token that names a connector, and the edge
that is read consists of its parts; two divisions of a text never differ in the source, the
token, the target or the label.  A label that is read is a text in its own right: not empty,
without blanks at its ends, and in one line. -/
theorem ofLine?_grammar (line : Text) :
    ((ofLine? line).isSome ↔ ∃ d : Writing, d.text = Text.composed line) ∧
    (∀ d : Writing, d.text = Text.composed line →
      ∃ connector, Connector.ofToken? d.token = some connector ∧
        ofLine? line = some ⟨d.source, connector, d.target, d.ending.label⟩) ∧
    (∀ d e : Writing, d.text = e.text →
      d.source = e.source ∧ d.token = e.token ∧ d.target = e.target ∧
        d.ending.label = e.ending.label) ∧
    (∀ w label, ofLine? line = some w → w.label = some label →
      label ≠ [] ∧ Text.trim label = label ∧ Text.lineFeed ∉ label) := by
  have hread : ∀ d : Writing, d.text = Text.composed line →
      ∃ connector, Connector.ofToken? d.token = some connector ∧
        ofLine? line = some ⟨d.source, connector, d.target, d.ending.label⟩ := by
    intro d hd
    obtain ⟨connector, hconnector, hedge⟩ := d.edgeLine?_eq_some
    exact ⟨connector, hconnector, ofComposed?_eq_some_iff.mpr ⟨d, hd, hedge⟩⟩
  refine ⟨⟨?_, ?_⟩, hread, fun d e h => Writing.parts_eq_of_text_eq h, ?_⟩
  · intro h
    obtain ⟨w, hw⟩ := Option.isSome_iff_exists.mp h
    obtain ⟨d, hd, -⟩ := exists_writing_of_ofComposed? hw
    exact ⟨d, hd⟩
  · rintro ⟨d, hd⟩
    obtain ⟨connector, -, hw⟩ := hread d hd
    rw [hw, Option.isSome_some]
  · intro w label hw hlabel
    obtain ⟨d, hd, -⟩ := exists_writing_of_ofComposed? hw
    obtain ⟨connector, -, hw'⟩ := hread d hd
    obtain rfl := Option.some.inj (hw.symm.trans hw')
    exact Ending.label_eq_some hlabel

end EdgeLine

end ArrowNotation
