/-
# Written edges are read back

Edges can be written down, one in a line, with any blanks around their parts, and reading the
text gives the edges again: one for each line, in order, with its connector and its label, and
with the first spelling of each identifier.

Nothing a line may hold stands in the way.  It begins with a word character, so it is neither
blank nor a comment; the blanks around it are trimmed away (`trim_line`); what is left is
divided as the grammar wants it (`exists_writing`), and as divisions of a text agree, a label
with colons, connectors or comment marks of its own is read as it was meant.  The one thing to
ask for is that the trimmed line is its own composed form, because the reader composes it.
-/
import ArrowNotation.Proofs.Diagram.Faults
import ArrowNotation.Proofs.Line.Writing
import Mathlib.Data.List.Basic

namespace ArrowNotation

/-! ## 1. A text of given lines -/

namespace Text

/-- **Pieces without separators are found again.** -/
theorem splitAt_intercalate {separator : CodePoint} : ∀ {pieces : List Text}, pieces ≠ [] →
    (∀ piece ∈ pieces, separator ∉ piece) →
    splitAt separator (intercalate [separator] pieces) = pieces
  | [], h, _ => absurd rfl h
  | [piece], _, hfree => splitAt_eq_singleton (hfree piece (by simp))
  | piece :: next :: others, _, hfree => by
    have hpiece : splitAt separator piece = [piece] := splitAt_eq_singleton (hfree piece (by simp))
    have hrest : splitAt separator (intercalate [separator] (next :: others)) = next :: others :=
      splitAt_intercalate (by simp) fun p hp => hfree p (List.mem_cons_of_mem piece hp)
    have htext : intercalate [separator] (piece :: next :: others)
        = piece ++ [separator] ++ intercalate [separator] (next :: others) := rfl
    rw [htext, List.append_assoc, List.singleton_append, splitAt_append_separator, hpiece, hrest,
      List.singleton_append]

/-- **Lines put together are the lines of the text**, if there are any. -/
theorem lines_joinLines {ts : List Text} (hne : ts ≠ []) (hfree : ∀ t ∈ ts, lineFeed ∉ t) :
    lines (joinLines ts) = ts :=
  splitAt_intercalate hne hfree

/-- Blanks that do not end a line. -/
structure IsGap (t : Text) : Prop where
  allBlank : AllBlank t
  oneLine : lineFeed ∉ t

instance (t : Text) : Decidable (IsGap t) :=
  decidable_of_iff (AllBlank t ∧ lineFeed ∉ t) ⟨fun h => ⟨h.1, h.2⟩, fun h => ⟨h.1, h.2⟩⟩

theorem IsIdentifier.lineFeed_notMem {t : Text} (h : IsIdentifier t) : lineFeed ∉ t := by
  intro hmem
  have hword : Text.isWord lineFeed = true := h.isWord lineFeed hmem
  rw [isWord_of_isBlank (by decide)] at hword
  exact absurd hword (by simp)

end Text

open Text (AllBlank IsGap IsIdentifier IsTrimmed)

/-! ## 2. Edges laid out in a line -/

/-- An edge with the blanks around the parts that it is written in.  Its identifiers are
identifiers, and its label, if it has one, is not empty, trimmed, and one line. -/
structure LaidOutEdge extends EdgeLine where
  before : Text
  beforeToken : Text
  afterToken : Text
  beforeColon : Text
  afterColon : Text
  after : Text
  isIdentifier_source : IsIdentifier source
  isIdentifier_target : IsIdentifier target
  isLabel : ∀ content ∈ label, content ≠ [] ∧ Text.trim content = content ∧
    Text.lineFeed ∉ content
  isGap_before : IsGap before
  isGap_beforeToken : IsGap beforeToken
  isGap_afterToken : IsGap afterToken
  isGap_beforeColon : IsGap beforeColon
  isGap_afterColon : IsGap afterColon
  isGap_after : IsGap after

namespace LaidOutEdge

/-- What is written after the target: nothing without a label, and otherwise a colon and the
label. -/
def ending (w : LaidOutEdge) : Text :=
  match w.label with
  | none => []
  | some content => w.beforeColon ++ (CodePoint.ofChar ':' :: (w.afterColon ++ content))

/-- The parts of the edge in a row, from the source to the target or the label. -/
def parts (w : LaidOutEdge) : Text :=
  w.source ++ (w.beforeToken ++ (w.connector.token ++ (w.afterToken ++ (w.target ++ w.ending))))

/-- The line that the edge is written in. -/
def line (w : LaidOutEdge) : Text := w.before ++ w.parts ++ w.after

/-! ### What is left after trimming -/

/-- **The parts begin with a word character.** -/
theorem exists_parts_eq_cons (w : LaidOutEdge) :
    ∃ c rest, w.parts = c :: rest ∧ Text.isWord c = true := by
  obtain ⟨c, others, hsource⟩ := List.exists_cons_of_ne_nil w.isIdentifier_source.ne_nil
  refine ⟨c, _, by rw [parts, hsource, List.cons_append], ?_⟩
  exact w.isIdentifier_source.isWord c (by simp [hsource])

/-- **The parts do not end with a blank**: neither an identifier nor a label does. -/
theorem isBlank_getLast?_parts (w : LaidOutEdge) :
    ∀ c ∈ w.parts.getLast?, Text.isBlank c = false := by
  intro c hc
  have hparts : w.parts = (w.source ++ w.beforeToken ++ w.connector.token ++ w.afterToken)
      ++ (w.target ++ w.ending) := by
    simp only [parts, List.append_assoc]
  have hne : w.target ++ w.ending ≠ [] := by simp [w.isIdentifier_target.ne_nil]
  rw [hparts, List.getLast?_append_of_ne_nil _ hne] at hc
  cases hlabel : w.label with
  | none =>
    rw [ending, hlabel, List.append_nil] at hc
    exact Text.isBlank_of_isWord (w.isIdentifier_target.isWord c (List.mem_of_getLast? hc))
  | some content =>
    obtain ⟨hcontent, htrim, -⟩ := w.isLabel content hlabel
    have hending : w.target ++ w.ending
        = (w.target ++ w.beforeColon ++ CodePoint.ofChar ':' :: w.afterColon) ++ content := by
      simp only [ending, hlabel, List.append_assoc, List.cons_append]
    rw [hending, List.getLast?_append_of_ne_nil _ hcontent] at hc
    have hlast := (Text.isTrimmed_trim content).last
    rw [htrim] at hlast
    exact hlast c hc

/-- **Trimming a line leaves the parts of its edge.** -/
theorem trim_line (w : LaidOutEdge) : Text.trim w.line = w.parts := by
  have htrimmed : IsTrimmed w.parts := by
    obtain ⟨d, rest, hparts, hword⟩ := w.exists_parts_eq_cons
    refine ⟨?_, w.isBlank_getLast?_parts⟩
    rw [hparts]
    rintro c ⟨⟩
    exact Text.isBlank_of_isWord hword
  exact Text.trim_append_append w.isGap_before.allBlank htrimmed w.isGap_after.allBlank

theorem lineFeed_notMem_line (w : LaidOutEdge) : Text.lineFeed ∉ w.line := by
  have htoken : Text.lineFeed ∉ w.connector.token := by cases w.connector <;> decide
  have hending : Text.lineFeed ∉ w.ending := by
    unfold ending
    cases hlabel : w.label with
    | none => simp
    | some content =>
      have hcolon : Text.lineFeed ≠ CodePoint.ofChar ':' := by decide
      simp [w.isGap_beforeColon.oneLine, hcolon, w.isGap_afterColon.oneLine,
        (w.isLabel content hlabel).2.2]
  simp only [line, parts, List.mem_append, not_or]
  exact ⟨⟨w.isGap_before.oneLine, w.isIdentifier_source.lineFeed_notMem,
    w.isGap_beforeToken.oneLine, htoken, w.isGap_afterToken.oneLine,
    w.isIdentifier_target.lineFeed_notMem, hending⟩, w.isGap_after.oneLine⟩

/-! ### What is read -/

/-- **A line opens no comment and is not blank.** -/
theorem ofLine_line (w : LaidOutEdge) : LineKind.ofLine w.line = .candidate := by
  obtain ⟨c, rest, hparts, hword⟩ := w.exists_parts_eq_cons
  exact LineKind.ofLine_of_isWord (w.trim_line.trans hparts) hword

/-- **The parts are divided as the grammar wants it, and mean the edge.** -/
theorem exists_writing (w : LaidOutEdge) :
    ∃ d : EdgeLine.Writing, d.text = w.parts ∧ d.edgeLine? = some w.toEdgeLine := by
  have hending : ∃ e : EdgeLine.Ending, e.text = w.ending ∧ e.label = w.label := by
    unfold ending
    cases hlabel : w.label with
    | none => exact ⟨.nothing, rfl, rfl⟩
    | some content =>
      obtain ⟨hne, htrim, hline⟩ := w.isLabel content hlabel
      refine ⟨.labelled w.beforeColon w.afterColon content w.isGap_beforeColon.allBlank
        w.isGap_afterColon.allBlank hline, rfl, ?_⟩
      rw [EdgeLine.Ending.label, htrim, if_neg hne]
  obtain ⟨e, htext, hlabel⟩ := hending
  refine ⟨⟨w.source, w.beforeToken, w.connector.token, w.afterToken, w.target, e,
    w.isIdentifier_source, w.isGap_beforeToken.allBlank,
    List.mem_map_of_mem (Connector.mem_all w.connector), w.isGap_afterToken.allBlank,
    w.isIdentifier_target⟩, ?_, ?_⟩
  · rw [EdgeLine.Writing.text, htext, parts]
  · simp only [EdgeLine.Writing.edgeLine?, Connector.ofToken?_token, Option.map_some, hlabel]

/-- **A line whose parts are in composed form means its edge.** -/
theorem meaning_line {w : LaidOutEdge} (hw : Text.composed w.parts = w.parts) :
    LineMeaning.ofLine w.line = .edge w.toEdgeLine := by
  obtain ⟨d, hd, hedge⟩ := w.exists_writing
  refine LineMeaning.ofLine_eq_edge_iff.mpr ⟨w.ofLine_line, ?_⟩
  rw [trim_line, EdgeLine.ofLine?, hw, ← hd, EdgeLine.ofComposed?_text, hedge]

end LaidOutEdge

/-! ## 3. Edges laid out in a text -/

/-- The edge as it is written, each identifier in its own spelling. -/
def EdgeLine.toEdge (w : EdgeLine) : Edge := ⟨w.source, w.target, w.connector, w.label⟩

namespace Diagram

/-- The text that edges are written in, one in each line. -/
def textOf (ws : List LaidOutEdge) : Text := Text.joinLines (ws.map LaidOutEdge.line)

/-- The lines of such a text; without edges it is one empty line. -/
theorem lines_textOf (ws : List LaidOutEdge) :
    Text.lines (textOf ws) = if ws = [] then [[]] else ws.map LaidOutEdge.line := by
  by_cases hws : ws = []
  · rw [if_pos hws, hws]
    rfl
  · rw [if_neg hws]
    refine Text.lines_joinLines (by simpa using hws) ?_
    intro t ht
    obtain ⟨w, -, rfl⟩ := List.mem_map.mp ht
    exact w.lineFeed_notMem_line

/-- **The edges are read back**, one from each line. -/
theorem edgeLines_textOf {ws : List LaidOutEdge}
    (hws : ∀ w ∈ ws, Text.composed w.parts = w.parts) :
    edgeLines (textOf ws) = ws.map LaidOutEdge.toEdgeLine := by
  by_cases hnil : ws = []
  · subst hnil
    rfl
  · rw [edgeLines, lines_textOf, if_neg hnil, List.filterMap_map, ← List.filterMap_eq_map]
    refine List.filterMap_congr ?_
    intro w hw
    rw [Function.comp_apply, LaidOutEdge.meaning_line (hws w hw)]
    rfl

theorem faultyLines_textOf {ws : List LaidOutEdge}
    (hws : ∀ w ∈ ws, Text.composed w.parts = w.parts) : faultyLines (textOf ws) = [] := by
  rw [← List.length_eq_zero_iff, length_faultyLines, List.countP_eq_zero, lines_textOf]
  intro line hline
  by_cases hnil : ws = []
  · rw [if_pos hnil, List.mem_singleton] at hline
    subst hline
    decide
  · rw [if_neg hnil] at hline
    obtain ⟨w, hw, rfl⟩ := List.mem_map.mp hline
    simp [isWellFormedLine, LaidOutEdge.meaning_line (hws w hw)]

/-- **Written edges are read back.**  Let edges be laid out in lines, with any blanks around
their parts, such that each line, trimmed, is in composed form.

* The graph of the text has one edge for each of them, in order, with its connector and label,
  and with each identifier replaced by the first one mentioned that equals it up to letter
  case.  Its nodes are these first mentions, in order.
* No line is reported, and the strict reading gives the same graph if there is an edge.
* If every identifier is its own first mention, the edges are exactly those that were written. -/
theorem graph_of_written_edges (ws : List LaidOutEdge)
    (hws : ∀ w ∈ ws, Text.composed (Text.trim w.line) = Text.trim w.line) :
    (graph (textOf ws)).edges
      = (ws.map LaidOutEdge.toEdgeLine).map
          (EdgeLine.spelledAs (mentions (ws.map LaidOutEdge.toEdgeLine))) ∧
    (graph (textOf ws)).nodes
      = (distinctBy Text.lower [] (mentions (ws.map LaidOutEdge.toEdgeLine))).map Registry.node ∧
    diagnostics (textOf ws) = [] ∧
    (ws ≠ [] → strictGraph (textOf ws) = .ok (graph (textOf ws))) ∧
    ((∀ id ∈ mentions (ws.map LaidOutEdge.toEdgeLine),
        firstSpelling (mentions (ws.map LaidOutEdge.toEdgeLine)) id = id) →
      (graph (textOf ws)).edges = ws.map fun w => w.toEdgeLine.toEdge) := by
  have hparts : ∀ w ∈ ws, Text.composed w.parts = w.parts := by
    intro w hw
    have h := hws w hw
    rwa [LaidOutEdge.trim_line] at h
  have hread := edgeLines_textOf hparts
  have hfaults := faultyLines_textOf hparts
  have hedges : (graph (textOf ws)).edges = (ws.map LaidOutEdge.toEdgeLine).map
      (EdgeLine.spelledAs (mentions (ws.map LaidOutEdge.toEdgeLine))) := by
    rw [graph, hread, Graph.edges_ofEdgeLines]
  refine ⟨hedges, ?_, ?_, ?_, ?_⟩
  · rw [graph, hread, Graph.nodes_ofEdgeLines]
  · rw [diagnostics_eq, hfaults, List.map_nil]
  · intro hne
    have hsome : ¬ (graph (textOf ws)).isEmpty = true := by
      rw [graph, hread, Graph.isEmpty_ofEdgeLines_iff, List.map_eq_nil_iff]
      exact hne
    rw [strictGraph_of_faultyLines_eq_nil hfaults, if_neg hsome]
  · intro hfirst
    rw [hedges, List.map_map]
    refine List.map_congr_left ?_
    intro w hw
    have hmem : w.toEdgeLine ∈ ws.map LaidOutEdge.toEdgeLine := List.mem_map_of_mem hw
    rw [Function.comp_apply, EdgeLine.spelledAs, hfirst _ (source_mem_mentions hmem),
      hfirst _ (target_mem_mentions hmem), EdgeLine.toEdge]

/-- An edge whose label looks like another edge and a comment, with blanks everywhere. -/
def spacedEdge : LaidOutEdge where
  source := "Été".toText
  connector := .dashedArrow
  target := "b_2".toText
  label := some "a: b --> // c".toText
  before := "\t".toText
  beforeToken := []
  afterToken := "  ".toText
  beforeColon := "\u00a0".toText
  afterColon := []
  after := "\r".toText
  isIdentifier_source := ⟨by decide, by decide +kernel⟩
  isIdentifier_target := ⟨by decide, by decide +kernel⟩
  isLabel := by decide
  isGap_before := by decide
  isGap_beforeToken := by decide
  isGap_afterToken := by decide
  isGap_beforeColon := by decide
  isGap_afterColon := by decide
  isGap_after := by decide

/-- An edge the other way, between the same nodes in other letter case. -/
def recasedEdge : LaidOutEdge where
  source := "B_2".toText
  connector := .bidirectional
  target := "ÉTÉ".toText
  label := none
  before := []
  beforeToken := " ".toText
  afterToken := []
  beforeColon := []
  afterColon := []
  after := "\u2028".toText
  isIdentifier_source := ⟨by decide, by decide +kernel⟩
  isIdentifier_target := ⟨by decide, by decide +kernel⟩
  isLabel := by decide
  isGap_before := by decide
  isGap_beforeToken := by decide
  isGap_afterToken := by decide
  isGap_beforeColon := by decide
  isGap_afterColon := by decide
  isGap_after := by decide

/-- Both edges are read back, with the spellings of the first one, and the strict reading accepts
them.  Alone the first one is read as it was written, with all of its label. -/
theorem graph_of_spacedEdge :
    (∀ w ∈ [spacedEdge, recasedEdge],
      Text.composed (Text.trim w.line) = Text.trim w.line) ∧
    (graph (textOf [spacedEdge, recasedEdge])).edges
      = [⟨"Été".toText, "b_2".toText, .dashedArrow, some "a: b --> // c".toText⟩,
        ⟨"b_2".toText, "Été".toText, .bidirectional, none⟩] ∧
    (graph (textOf [spacedEdge, recasedEdge])).nodes
      = [Registry.node "Été".toText, Registry.node "b_2".toText] ∧
    strictGraph (textOf [spacedEdge, recasedEdge])
      = .ok (graph (textOf [spacedEdge, recasedEdge])) ∧
    (graph (textOf [spacedEdge])).edges = [spacedEdge.toEdgeLine.toEdge] := by
  have hws : ∀ w ∈ [spacedEdge, recasedEdge],
      Text.composed (Text.trim w.line) = Text.trim w.line := by
    decide +kernel
  obtain ⟨hedges, hnodes, -, hstrict, -⟩ := graph_of_written_edges [spacedEdge, recasedEdge] hws
  have hfirst : ∀ id ∈ mentions ([spacedEdge].map LaidOutEdge.toEdgeLine),
      firstSpelling (mentions ([spacedEdge].map LaidOutEdge.toEdgeLine)) id = id := by
    decide +kernel
  have halone : ∀ w ∈ [spacedEdge], Text.composed (Text.trim w.line) = Text.trim w.line :=
    fun w hw => hws w (List.mem_cons.mpr (Or.inl (List.mem_singleton.mp hw)))
  obtain ⟨-, -, -, -, hwritten⟩ := graph_of_written_edges [spacedEdge] halone
  refine ⟨hws, ?_, ?_, hstrict (by simp), hwritten hfirst⟩
  · rw [hedges]
    decide +kernel
  · rw [hnodes]
    decide +kernel

end Diagram

end ArrowNotation
