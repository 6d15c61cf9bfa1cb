/-
# Diagnostics point at what they quote

A diagnostic names a line, gives a range of columns in it and quotes a text.  All three agree: the
range reaches from the beginning of the line to its last character that is not blank, and the
quoted text is what stands in the range, without the blanks in front of it.

* **One line.**  Trimming at the end and trimming at both ends see the same last character, so the
  range is never empty and never ends in a blank (`Diagnostic.pointsAt_ofLine`), and trimming what
  stands in the range gives what trimming the line gives (`trim_take_endColumn`).
* **The quoted text.**  It is a candidate that writes no edge, and it is one line.  Read as a text
  of its own it is that one line, so its graph is empty (`graph_trim_of_fault`).
* **The whole text.**  A line and a column are a place in the text: the lines before it, each with
  its line feed, and then the columns (`Text.offset`).  Different places are different characters
  (`Text.offset_inj`).
-/
import ArrowNotation.Proofs.Diagram.Faults
import ArrowNotation.Proofs.Diagram.TrimmedLines

namespace ArrowNotation

namespace Text

/-! ## 1. Places in a text -/

/-- Some lines, each ended by a line feed. -/
def terminated (ls : List Text) : Text := ls.flatMap fun l => l ++ [lineFeed]

theorem terminated_cons (l : Text) (ls : List Text) :
    terminated (l :: ls) = l ++ [lineFeed] ++ terminated ls := rfl

theorem terminated_append (ls ks : List Text) :
    terminated (ls ++ ks) = terminated ls ++ terminated ks :=
  List.flatMap_append

/-- How many characters stand before a column of a line, where both are counted from zero. -/
def offset (t : Text) (line column : Nat) : Nat :=
  (terminated ((lines t).take line)).length + column

theorem offset_succ {t : Text} {i : Nat} (hi : i < (lines t).length) (column : Nat) :
    t.offset (i + 1) column = t.offset i 0 + (t.lineAt i).length + 1 + column := by
  have htake : (lines t).take (i + 1) = (lines t).take i ++ [t.lineAt i] := by
    rw [List.take_succ_eq_append_getElem hi, lineAt_eq_getElem hi]
  have hlength : (terminated [t.lineAt i]).length = (t.lineAt i).length + 1 := by
    simp [terminated]
  rw [offset, offset, htake, terminated_append, List.length_append, hlength]
  omega

theorem offset_le_offset (t : Text) {i k : Nat} (h : i ≤ k) : t.offset i 0 ≤ t.offset k 0 := by
  obtain ⟨d, rfl⟩ := Nat.exists_eq_add_of_le h
  rw [offset, offset, List.take_add, terminated_append, List.length_append]
  omega

/-- A line ends before any line below it begins. -/
theorem offset_lt_offset {t : Text} {i k column : Nat} (hk : k < (lines t).length) (h : i < k)
    (hcolumn : column < (t.lineAt i).length) (other : Nat) :
    t.offset i column < t.offset k other := by
  have hnext := offset_succ (Nat.lt_trans h hk) 0
  have hbelow := t.offset_le_offset (Nat.succ_le_of_lt h)
  have hcolumns : t.offset i column = t.offset i 0 + column := rfl
  have hothers : t.offset k other = t.offset k 0 + other := rfl
  rw [Nat.succ_eq_add_one] at hbelow
  omega

/-- **Different places are different characters.** -/
theorem offset_inj {t : Text} {i k column other : Nat} (hi : i < (lines t).length)
    (hk : k < (lines t).length) (hcolumn : column < (t.lineAt i).length)
    (hother : other < (t.lineAt k).length) (h : t.offset i column = t.offset k other) :
    i = k ∧ column = other := by
  rcases Nat.lt_trichotomy i k with hik | rfl | hki
  · exact absurd h (Nat.ne_of_lt (offset_lt_offset hk hik hcolumn other))
  · exact ⟨rfl, Nat.add_left_cancel h⟩
  · exact absurd h (Nat.ne_of_gt (offset_lt_offset hi hki hother column))

/-- **The character at a place is found at its offset**, for lines that are put together. -/
theorem getElem?_joinLines : ∀ {ls : List Text} {i column : Nat} {l : Text},
    ls[i]? = some l → column < l.length →
    (joinLines ls)[(terminated (ls.take i)).length + column]? = l[column]?
  | [first], 0, column, l, hline, _ => by
    obtain rfl : first = l := by simpa using hline
    simp [joinLines, intercalate, terminated]
  | first :: next :: others, 0, column, l, hline, hcolumn => by
    obtain rfl : first = l := by simpa using hline
    simp [joinLines, intercalate, terminated, List.getElem?_append_left hcolumn]
  | first :: next :: others, i + 1, column, l, hline, hcolumn => by
    have ih := @getElem?_joinLines (next :: others) i column l (by simpa using hline) hcolumn
    have hjoin : joinLines (first :: next :: others)
        = (first ++ [lineFeed]) ++ joinLines (next :: others) := rfl
    have hplace : (terminated ((first :: next :: others).take (i + 1))).length + column
        = (first ++ [lineFeed]).length
          + ((terminated ((next :: others).take i)).length + column) := by
      rw [List.take_succ_cons, terminated_cons, List.length_append, Nat.add_assoc]
    rw [hjoin, hplace, List.getElem?_append_right (Nat.le_add_right _ _), Nat.add_sub_cancel_left,
      ih]

/-- **A line and a column identify a character of the text.** -/
theorem getElem?_offset {t : Text} {i column : Nat} (hi : i < (lines t).length)
    (hcolumn : column < (t.lineAt i).length) :
    t[t.offset i column]? = (t.lineAt i)[column]? := by
  have hline : (lines t)[i]? = some (t.lineAt i) := by
    rw [List.getElem?_eq_getElem hi, lineAt_eq_getElem hi]
  have h := getElem?_joinLines hline hcolumn
  rwa [joinLines_lines] at h

end Text

namespace Diagram

/-! ## 2. The columns of a diagnostic -/

/-- The columns of a diagnostic are those of a line up to its last character that is not blank,
and there is such a character. -/
structure Diagnostic.PointsAt (d : Diagnostic) (l : Text) : Prop where
  startColumn_eq : d.startColumn = 0
  endColumn_pos : 0 < d.endColumn
  endColumn_le : d.endColumn ≤ l.length
  exists_last : ∃ c, l[d.endColumn - 1]? = some c ∧ Text.isBlank c = false
  allBlank_rest : Text.AllBlank (l.drop d.endColumn)

/-- **The diagnostic of a line that is not blank points at the line.** -/
theorem Diagnostic.pointsAt_ofLine {l : Text} (h : Text.trim l ≠ []) (index : Nat) :
    (ofLine index l).PointsAt l := by
  have hne : Text.trimRight l ≠ [] := by
    intro hnil
    rw [← Text.trim_trimRight, hnil] at h
    exact h rfl
  have hpos : 0 < (Text.trimRight l).length := List.length_pos_iff.mpr hne
  refine ⟨rfl, hpos, Text.length_trimRight_le l, ?_,
    Text.allBlank_drop_length_trimRight l⟩
  have hlast := List.getLast?_eq_some_getLast hne
  refine ⟨_, ?_, Text.isBlank_getLast_trimRight l _ hlast⟩
  show l[(Text.trimRight l).length - 1]? = _
  rw [← List.getElem?_take_of_lt (Nat.sub_lt hpos Nat.one_pos), Text.take_length_trimRight,
    ← List.getLast?_eq_getElem?, hlast]

/-- **What stands in the columns of a line, trimmed, is the line trimmed.** -/
theorem Diagnostic.trim_take_endColumn (index : Nat) (line : Text) :
    Text.trim (line.take (ofLine index line).endColumn) = Text.trim line := by
  show Text.trim (line.take (Text.trimRight line).length) = Text.trim line
  rw [Text.take_length_trimRight, Text.trim_trimRight]

/-! ## 3. The quoted text -/

theorem graph_trim_of_fault {line : Text} (hfeed : Text.lineFeed ∉ line)
    (hfault : isWellFormedLine line = false) : graph (Text.trim line) = ⟨[], []⟩ := by
  have hquoted : Text.lineFeed ∉ Text.trim line := fun h => hfeed (Text.mem_of_mem_trim h)
  have hmeaning : LineMeaning.ofLine (Text.trim line) = .unrecognized := by
    rw [LineMeaning.ofLine_trim]
    exact isWellFormedLine_eq_false_iff.mp hfault
  have hedges : edgeLines (Text.trim line) = [] := by
    rw [edgeLines, Text.lines, Text.splitAt_eq_singleton hquoted, List.filterMap_cons, hmeaning]
    rfl
  rw [graph, hedges]
  rfl

/-- A line at fault opens no comment. -/
theorem not_commentMark_prefix_of_fault {line : Text} (h : isWellFormedLine line = false) :
    ¬ LineKind.commentMark <+: Text.trim line := by
  obtain ⟨hkind, -⟩ :=
    LineMeaning.ofLine_eq_unrecognized_iff.mp (isWellFormedLine_eq_false_iff.mp h)
  have hcomment := (LineKind.ofLine_eq_candidate_iff.mp hkind).2
  rw [← List.isPrefixOf_iff_prefix, hcomment]
  exact Bool.false_ne_true

/-! ## 4. All diagnostics of a text -/

/-- **The diagnostics go down the text.** -/
theorem pairwise_line_diagnostics (text : Text) :
    ((diagnostics text).map Diagnostic.line).Pairwise (· < ·) := by
  have hlines : (diagnostics text).map Diagnostic.line = faultyLines text := by
    rw [diagnostics_eq, List.map_map]
    exact List.map_id' _
  rw [hlines]
  exact List.pairwise_lt_range.filter _

theorem exists_line_of_mem_diagnostics {text : Text} {d : Diagnostic} (h : d ∈ diagnostics text) :
    ∃ line, (Text.lines text)[d.line]? = some line ∧ isWellFormedLine line = false ∧
      d = .ofLine d.line line := by
  rw [diagnostics_eq] at h
  obtain ⟨i, hi, rfl⟩ := List.mem_map.mp h
  obtain ⟨hlt, hfault⟩ := mem_faultyLines_iff.mp hi
  refine ⟨text.lineAt i, ?_, hfault, rfl⟩
  show (Text.lines text)[i]? = some (text.lineAt i)
  rw [List.getElem?_eq_getElem hlt, Text.lineAt_eq_getElem hlt]

/-- **Every diagnostic points at the text it quotes.**

* The lines of the diagnostics strictly increase.
* Each is a line of the text, and the columns are those of that line from its beginning to its last
  character that is not blank: behind them there are only blanks.
* The quoted text is what stands in these columns, trimmed.  It is not empty, opens no comment, is
  one line, and read alone it has an empty graph.
* The lines, put together, are the text again, and a line and a column of it identify a character:
  at different places stand different characters of the text, each where its offset says. -/
theorem diagnostics_point_at_quoted_text (text : Text) :
    ((diagnostics text).map Diagnostic.line).Pairwise (· < ·) ∧
    (∀ d ∈ diagnostics text, ∃ line, (Text.lines text)[d.line]? = some line ∧
      d.PointsAt line ∧
      ∃ quoted, quoted = Text.trim (line.take d.endColumn) ∧
        d.message = "Invalid arrow notation: '".toText ++ quoted
          ++ "'. Use format: Source --> Target".toText ∧
        quoted ≠ [] ∧ ¬ LineKind.commentMark <+: quoted ∧ Text.lineFeed ∉ quoted ∧
        graph quoted = ⟨[], []⟩) ∧
    Text.joinLines (Text.lines text) = text ∧
    (∀ i < (Text.lines text).length, ∀ column < (text.lineAt i).length,
      text[text.offset i column]? = (text.lineAt i)[column]? ∧
      ∀ k < (Text.lines text).length, ∀ other < (text.lineAt k).length,
        text.offset i column = text.offset k other → i = k ∧ column = other) := by
  refine ⟨pairwise_line_diagnostics text, ?_, Text.joinLines_lines text, ?_⟩
  · intro d hd
    obtain ⟨line, hline, hfault, hd'⟩ := exists_line_of_mem_diagnostics hd
    have hne := trim_ne_nil_of_isWellFormedLine_eq_false hfault
    have hfeed : Text.lineFeed ∉ line :=
      Text.lineFeed_notMem_of_mem_lines (List.mem_of_getElem? hline)
    have hquoted : Text.trim (line.take d.endColumn) = Text.trim line := by
      rw [hd']
      exact Diagnostic.trim_take_endColumn d.line line
    refine ⟨line, hline, ?_, Text.trim line, hquoted.symm, ?_, hne,
      not_commentMark_prefix_of_fault hfault, fun h => hfeed (Text.mem_of_mem_trim h),
      graph_trim_of_fault hfeed hfault⟩
    · rw [hd']
      exact Diagnostic.pointsAt_ofLine hne d.line
    · rw [hd']
      rfl
  · intro i hi column hcolumn
    exact ⟨Text.getElem?_offset hi hcolumn,
      fun k hk other hother h => Text.offset_inj hi hk hcolumn hother h⟩

/-- A line at fault with blanks at both ends, behind an edge: its range begins with the blanks,
which are not quoted, and its last character is found in the text. -/
theorem range_with_blanks_in_front :
    Diagnostic.ofLine 1 "\t oops \r".toText ∈ diagnostics "A --> B\n\t oops \r\nC".toText ∧
    (Diagnostic.ofLine 1 "\t oops \r".toText).endColumn = 6 ∧
    (∃ line, (Text.lines "A --> B\n\t oops \r\nC".toText)[1]? = some line ∧
      (Diagnostic.ofLine 1 "\t oops \r".toText).PointsAt line) ∧
    "A --> B\n\t oops \r\nC".toText[Text.offset "A --> B\n\t oops \r\nC".toText 1 5]?
      = some (CodePoint.ofChar 's') := by
  have hmem : Diagnostic.ofLine 1 "\t oops \r".toText
      ∈ diagnostics "A --> B\n\t oops \r\nC".toText := by decide +kernel
  obtain ⟨-, hpoints, -, hplaces⟩ :=
    diagnostics_point_at_quoted_text "A --> B\n\t oops \r\nC".toText
  obtain ⟨line, hline, hpoint, -⟩ := hpoints _ hmem
  refine ⟨hmem, by decide +kernel, ⟨line, hline, hpoint⟩, ?_⟩
  rw [(hplaces 1 (by decide +kernel) 5 (by decide +kernel)).1]
  decide +kernel

end Diagram

end ArrowNotation
