/-
# One line, checked as a line and as a text

The check of a line takes the whole string it is given for one line, and the diagnostics cut the
string into lines first.  The diagnostics are empty exactly when every single line passes the
check (`Diagram.diagnostics_eq_nil_iff`).  Blanks around a string, line feeds among them, only make
blank lines, which always pass (`forall_lines_append_left`, `forall_lines_append_right`), so a
string with no line feed between two characters that are not blank is judged the same by both.

A line feed in the middle can make a difference either way.  The check of a line lets an edge run
over it, and no edge is found in either of the two lines; and it does not find an edge in two lines
that each write one.
-/
import ArrowNotation.Proofs.Diagram.TrimmedLines
import ArrowNotation.Proofs.Service.TextRequests

namespace ArrowNotation

/-! ## 1. Blanks around a text -/

theorem isWellFormedLine_of_allBlank {line : Text} (h : Text.AllBlank line) :
    isWellFormedLine line = true := by
  have htrim : Text.trim line = Text.trim [] := Text.trim_eq_nil h
  rw [isWellFormedLine_congr htrim]
  rfl

theorem Text.allBlank_of_mem_lines {w line : Text} (hw : AllBlank w) (h : line ∈ lines w) :
    AllBlank line := by
  intro c hc
  exact hw c (mem_of_mem_splitAt h hc)

/-- **Blanks in front of a text put no line at fault and mend none.** -/
theorem forall_lines_append_left {w : Text} (hw : Text.AllBlank w) (t : Text) :
    (∀ line ∈ Text.lines (w ++ t), isWellFormedLine line = true) ↔
      ∀ line ∈ Text.lines t, isWellFormedLine line = true := by
  obtain ⟨front, last, first, back, hfront, ht, h⟩ :=
    Text.exists_pieces_append Text.lineFeed w t
  have hblank : ∀ line ∈ front ++ [last], Text.AllBlank line := by
    intro line hline
    rw [← hfront] at hline
    exact Text.allBlank_of_mem_lines hw hline
  have hpassed : ∀ line ∈ front, isWellFormedLine line = true := by
    intro line hline
    exact isWellFormedLine_of_allBlank (hblank line (List.mem_append_left _ hline))
  -- The last of the blank lines and the first line of the text are one line.
  have hmiddle : isWellFormedLine (last ++ first) = isWellFormedLine first := by
    have hlast : Text.AllBlank last := hblank last (by simp)
    exact isWellFormedLine_congr (Text.trim_append_left hlast first)
  rw [Text.lines, Text.lines, h, ht, List.forall_mem_append, List.forall_mem_cons,
    List.forall_mem_cons, hmiddle]
  exact and_iff_right hpassed

/-- **And so do blanks behind it.** -/
theorem forall_lines_append_right {w : Text} (hw : Text.AllBlank w) (t : Text) :
    (∀ line ∈ Text.lines (t ++ w), isWellFormedLine line = true) ↔
      ∀ line ∈ Text.lines t, isWellFormedLine line = true := by
  obtain ⟨front, last, first, back, ht, hback, h⟩ :=
    Text.exists_pieces_append Text.lineFeed t w
  have hblank : ∀ line ∈ first :: back, Text.AllBlank line := by
    intro line hline
    rw [← hback] at hline
    exact Text.allBlank_of_mem_lines hw hline
  have hpassed : ∀ line ∈ back, isWellFormedLine line = true := by
    intro line hline
    exact isWellFormedLine_of_allBlank (hblank line (List.mem_cons_of_mem _ hline))
  have hmiddle : isWellFormedLine (last ++ first) = isWellFormedLine last := by
    have hfirst : Text.AllBlank first := hblank first (by simp)
    exact isWellFormedLine_congr (Text.trim_append_right hfirst last)
  rw [Text.lines, Text.lines, h, ht, List.forall_mem_append, List.forall_mem_append,
    List.forall_mem_cons, hmiddle, List.forall_mem_singleton]
  exact and_congr_right fun _ => and_iff_left hpassed

/-- **A text that holds one line among blanks is as well formed as that line.** -/
theorem forall_lines_iff_isWellFormedLine {s : Text} (h : Text.lineFeed ∉ Text.trim s) :
    (∀ line ∈ Text.lines s, isWellFormedLine line = true) ↔ isWellFormedLine s = true := by
  obtain ⟨before, after, hbefore, hafter, hs⟩ := Text.exists_trim s
  calc (∀ line ∈ Text.lines s, isWellFormedLine line = true)
      ↔ ∀ line ∈ Text.lines (before ++ Text.trim s ++ after), isWellFormedLine line = true := by
        rw [← hs]
    _ ↔ ∀ line ∈ Text.lines (Text.trim s), isWellFormedLine line = true := by
        rw [forall_lines_append_right hafter, forall_lines_append_left hbefore]
    _ ↔ isWellFormedLine (Text.trim s) = true := by
        rw [Text.lines, Text.splitAt_eq_singleton h, List.forall_mem_singleton]
    _ ↔ isWellFormedLine s = true := by rw [isWellFormedLine_congr (Text.trim_trim s)]

namespace Service

/-! ## 2. Answers about a line -/

theorem post_validate_line (d : SampleDirectory) (body : Body) (contentType : Option Text) :
    post d "/validate-line" body contentType = Endpoint.lineCheck.answer d body contentType :=
  post_eq_answer d body contentType
    (endpointAt?_of_mem_fixedPaths _ (.tail _ (.tail _ (.head _)))) rfl

theorem post_validate_line_of_line (d : SampleDirectory) {body : Body} {contentType : Option Text}
    {v : Json} {s : Text} (hread : body.read contentType = .ok v)
    (hs : stringAt? "line".toText v = some s) :
    post d "/validate-line" body contentType
      = .success (.object [
          ("line".toText, .string s), ("valid".toText, .bool (isWellFormedLine s))]) := by
  rw [post_validate_line]
  exact answerTo_of_some hread _ hs

/-! ## 3. The same string as a line and as a text -/

/-- **The check of a line and the diagnostics.**

* A text has no diagnostics exactly when each of its lines passes the check.
* A string in which no line feed stands between two characters that are not blank passes the
  check, as one line, exactly when it has no diagnostics, as a text.
* So the service grants such a line exactly when it lists no diagnostics for the text, provided
  that the string can be written. -/
theorem line_check_agrees_with_diagnostics (d : SampleDirectory) (s : Text) :
    (Diagram.diagnostics s = [] ↔ ∀ line ∈ Text.lines s, isWellFormedLine line = true) ∧
    (Text.lineFeed ∉ Text.trim s → (isWellFormedLine s = true ↔ Diagram.diagnostics s = [])) ∧
    (Text.lineFeed ∉ Text.trim s → Text.isEncodable s = true →
      ∀ (body body' : Body) (contentType contentType' : Option Text) (v v' : Json),
        body.read contentType = .ok v → stringAt? "line".toText v = some s →
        body'.read contentType' = .ok v' → stringAt? "text".toText v' = some s →
        (post d "/validate-line" body contentType
            = .reply 200 (.object [("line".toText, .string s), ("valid".toText, .bool true)]) ↔
          post d "/diagnostics" body' contentType' = .reply 200 (.array []))) := by
  have hagree : Text.lineFeed ∉ Text.trim s →
      (isWellFormedLine s = true ↔ Diagram.diagnostics s = []) := by
    intro h
    rw [Diagram.diagnostics_eq_nil_iff]
    exact (forall_lines_iff_isWellFormedLine h).symm
  refine ⟨Diagram.diagnostics_eq_nil_iff, hagree, ?_⟩
  intro h hs body body' contentType contentType' v v' hread hline hread' htext
  have hchecked : (Json.object [("line".toText, .string s),
      ("valid".toText, .bool (isWellFormedLine s))]).isEncodable = true := by
    simp [Json.isEncodable_object_iff, Text.isEncodable_toText, hs]
  rw [post_validate_line_of_line d hread hline, post_diagnostics_of_text d hread' htext,
    (Answer.gives_success _).eq_reply hchecked,
    (Answer.gives_success _).eq_reply (Diagram.isEncodable_diagnostics hs)]
  simp [hagree h]

/-- Line feeds in front of an edge and behind it: it is one line all the same. -/
theorem line_feeds_around_an_edge :
    Text.lineFeed ∉ Text.trim "\n A --> B\n\n".toText ∧
    Text.isEncodable "\n A --> B\n\n".toText = true ∧
    isWellFormedLine "\n A --> B\n\n".toText = true ∧
    post ⟨.directory [], [], by simp⟩ "/diagnostics"
        (.value (TextRequest.toJson ⟨"\n A --> B\n\n".toText⟩)) (some "application/json".toText)
      = .reply 200 (.array []) := by
  have hfeeds : Text.lineFeed ∉ Text.trim "\n A --> B\n\n".toText := by decide +kernel
  have hencodable : Text.isEncodable "\n A --> B\n\n".toText = true := by decide
  have hvalid : isWellFormedLine "\n A --> B\n\n".toText = true := by decide +kernel
  have hjson : announcesJson "application/json".toText = true := by decide +kernel
  have hline := Body.read_value hjson (LineRequest.toJson ⟨"\n A --> B\n\n".toText⟩)
  have htext := Body.read_value hjson (TextRequest.toJson ⟨"\n A --> B\n\n".toText⟩)
  have hsent := (Answer.gives_success (.object [
      ("line".toText, .string "\n A --> B\n\n".toText), ("valid".toText, .bool true)])).eq_reply
    (by decide)
  obtain ⟨-, -, hanswers⟩ :=
    line_check_agrees_with_diagnostics ⟨.directory [], [], by simp⟩ "\n A --> B\n\n".toText
  refine ⟨hfeeds, hencodable, hvalid,
    (hanswers hfeeds hencodable _ _ _ _ _ _ hline rfl htext rfl).mp ?_⟩
  rw [post_validate_line_of_line _ hline rfl, hvalid, hsent]

/-- **A line feed in the middle tells the two apart.**  An edge that runs over a line feed passes
the check, and both of its lines are at fault; two edges on two lines do not pass it, and neither
of the lines is at fault. -/
theorem line_feed_in_the_middle :
    (isWellFormedLine "A -->\nB".toText = true ∧
      (Diagram.diagnostics "A -->\nB".toText).map Diagram.Diagnostic.line = [0, 1]) ∧
    (isWellFormedLine "A --> B\nC --> D".toText = false ∧
      Diagram.diagnostics "A --> B\nC --> D".toText = []) := by
  decide +kernel

end Service

end ArrowNotation
