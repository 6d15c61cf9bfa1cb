/-
# Noise is not heard

A text may hold lines that write no edge: blank lines, comments, and candidates that the grammar
does not read.  They can be put in and taken out anywhere, and blanks can be put around any line
and taken away again, without a change to the graph or to the summary.

* **One edit.**  A line that writes no edge leaves no trace between the edges before and behind it,
  and a line means what it means without the blanks around it (`NoiseEdit.edgesIn_eq`).  Nor does an
  edit break a line in two (`NoiseEdit.oneLine_iff`).
* **Any edits.**  Edits in either direction, at any places and in any number, are the equivalence
  that single edits generate, and the edges are the same all through it
  (`edgesIn_eq_of_edits`).

On the way even the last line may go; only in the end there has to be one, because a text without
lines does not exist.
-/
import ArrowNotation.Diagram.Editor
import ArrowNotation.Proofs.Diagram.RoundTrip
import ArrowNotation.Proofs.Diagram.TrimmedLines
import Mathlib.Logic.Relation

namespace ArrowNotation

open Text (IsGap)

/-! ## 1. Lines that write nothing -/

/-- A line that is passed over: a blank line, a comment, or a candidate that the grammar does not
read. -/
def IsNoise (line : Text) : Prop :=
  LineKind.ofLine line = .blank ∨ LineKind.ofLine line = .comment ∨
    (LineKind.ofLine line = .candidate ∧ EdgeLine.ofLine? (Text.trim line) = none)

instance (line : Text) : Decidable (IsNoise line) :=
  inferInstanceAs (Decidable (LineKind.ofLine line = .blank ∨ LineKind.ofLine line = .comment ∨
    (LineKind.ofLine line = .candidate ∧ EdgeLine.ofLine? (Text.trim line) = none)))

theorem IsNoise.edge?_eq_none {line : Text} (h : IsNoise line) :
    (LineMeaning.ofLine line).edge? = none := by
  rcases h with hk | hk | ⟨hk, hread⟩
  · rw [LineMeaning.ofLine_eq_nothing (by simp [hk])]
    rfl
  · rw [LineMeaning.ofLine_eq_nothing (by simp [hk])]
    rfl
  · rw [LineMeaning.ofLine_eq_unrecognized_iff.mpr ⟨hk, hread⟩]
    rfl

/-- **A line means what it means without the blanks around it.** -/
theorem LineMeaning.ofLine_pad {before after : Text} (hbefore : IsGap before) (hafter : IsGap after)
    (line : Text) : ofLine (before ++ line ++ after) = ofLine line := by
  rw [← ofLine_trim, Text.trim_append_right hafter.allBlank, Text.trim_append_left hbefore.allBlank,
    ofLine_trim]

namespace Diagram

/-! ## 2. One edit -/

/-- One edit of the lines of a text that concerns noise: a line that is passed over is put in
somewhere, or blanks are put around a line. -/
inductive NoiseEdit : List Text → List Text → Prop
  | insert (front back : List Text) {line : Text} (noise : IsNoise line)
      (oneLine : Text.lineFeed ∉ line) : NoiseEdit (front ++ back) (front ++ line :: back)
  | pad (front back : List Text) (line : Text) {before after : Text} (isGap_before : IsGap before)
      (isGap_after : IsGap after) :
      NoiseEdit (front ++ line :: back) (front ++ (before ++ line ++ after) :: back)

/-- The edges that some lines write. -/
def edgesIn (lines : List Text) : List EdgeLine :=
  lines.filterMap fun line => (LineMeaning.ofLine line).edge?

theorem edgesIn_append_cons (front back : List Text) (line : Text) :
    edgesIn (front ++ line :: back)
      = edgesIn front ++ (LineMeaning.ofLine line).edge?.toList ++ edgesIn back := by
  rw [edgesIn, List.filterMap_append, List.filterMap_cons, List.append_assoc]
  cases (LineMeaning.ofLine line).edge? <;> rfl

variable {ls ks : List Text}

/-- **An edit leaves the edges as they are.** -/
theorem NoiseEdit.edgesIn_eq (h : NoiseEdit ls ks) : edgesIn ls = edgesIn ks := by
  cases h with
  | insert front back noise _ =>
    rw [edgesIn_append_cons, noise.edge?_eq_none, Option.toList_none, List.append_nil, edgesIn,
      List.filterMap_append]
    rfl
  | pad front back line isGap_before isGap_after =>
    rw [edgesIn_append_cons, edgesIn_append_cons,
      LineMeaning.ofLine_pad isGap_before isGap_after]

/-- **An edit neither makes nor joins lines inside a line.** -/
theorem NoiseEdit.oneLine_iff (h : NoiseEdit ls ks) :
    (∀ line ∈ ls, Text.lineFeed ∉ line) ↔ ∀ line ∈ ks, Text.lineFeed ∉ line := by
  cases h with
  | insert front back _ oneLine =>
    rw [List.forall_mem_append, List.forall_mem_append, List.forall_mem_cons]
    exact and_congr_right fun _ => (and_iff_right oneLine).symm
  | @pad front back line before after isGap_before isGap_after =>
    have hline : Text.lineFeed ∉ before ++ line ++ after ↔ Text.lineFeed ∉ line := by
      simp only [List.mem_append, not_or, isGap_before.oneLine, isGap_after.oneLine,
        not_false_eq_true, true_and, and_true]
    rw [List.forall_mem_append, List.forall_mem_append, List.forall_mem_cons,
      List.forall_mem_cons, hline]

/-! ## 3. Any edits -/

/-- **Edits in either direction** leave the edges as they are, and keep lines apart. -/
theorem edgesIn_eq_of_edits (h : Relation.EqvGen NoiseEdit ls ks) :
    edgesIn ls = edgesIn ks ∧
      ((∀ line ∈ ls, Text.lineFeed ∉ line) ↔ ∀ line ∈ ks, Text.lineFeed ∉ line) := by
  induction h with
  | rel _ _ edit => exact ⟨edit.edgesIn_eq, edit.oneLine_iff⟩
  | refl => exact ⟨rfl, Iff.rfl⟩
  | symm _ _ _ ih => exact ⟨ih.1.symm, ih.2.symm⟩
  | trans _ _ _ _ _ ih ih' => exact ⟨ih.1.trans ih'.1, ih.2.trans ih'.2⟩

theorem edgeLines_joinLines_of_edits {text : Text}
    (h : Relation.EqvGen NoiseEdit (Text.lines text) ks) (hne : ks ≠ []) :
    edgeLines (Text.joinLines ks) = edgeLines text := by
  obtain ⟨hedges, honeLine⟩ := edgesIn_eq_of_edits h
  have hfree : ∀ line ∈ ks, Text.lineFeed ∉ line :=
    honeLine.mp fun _ => Text.lineFeed_notMem_of_mem_lines
  have hlines : Text.lines (Text.joinLines ks) = ks := Text.lines_joinLines hne hfree
  calc edgeLines (Text.joinLines ks)
      = edgesIn (Text.lines (Text.joinLines ks)) := rfl
    _ = edgesIn ks := by rw [hlines]
    _ = edgesIn (Text.lines text) := hedges.symm
    _ = edgeLines text := rfl

/-- **Noise is transparent.**  Let the lines of a text be edited: any number of lines that are
blank, comments or not recognized are put in or taken out, anywhere, and any blanks that end no
line are put around lines or taken away.  As long as a line is left in the end, the text of the
edited lines has the same graph as before, and the same summary, or both have none. -/
theorem noise_is_transparent {text : Text} {edited : List Text}
    (h : Relation.EqvGen NoiseEdit (Text.lines text) edited) (hne : edited ≠ []) :
    graph (Text.joinLines edited) = graph text ∧
    summary? (Text.joinLines edited) = summary? text := by
  have hgraph : graph (Text.joinLines edited) = graph text := by
    rw [graph, graph, edgeLines_joinLines_of_edits h hne]
  have hsummary : summary? (Text.joinLines edited) = summary? text := by
    simp only [summary?, hgraph]
  exact ⟨hgraph, hsummary⟩

/-- A comment is taken out, a line that is not recognized is put in between the edges, and an edge
is moved to the right and given a carriage return. -/
theorem edited_noise_is_not_heard :
    Relation.EqvGen NoiseEdit (Text.lines "// old\nA --> B\nb -.-> C".toText)
      ["\u3000A --> B\r".toText, "A -> ?".toText, "b -.-> C".toText] ∧
    graph "\u3000A --> B\r\nA -> ?\nb -.-> C".toText
      = graph "// old\nA --> B\nb -.-> C".toText ∧
    summary? "\u3000A --> B\r\nA -> ?\nb -.-> C".toText
      = summary? "// old\nA --> B\nb -.-> C".toText := by
  have hold : IsNoise "// old".toText := by decide +kernel
  have hnew : IsNoise "A -> ?".toText := by decide +kernel
  have hbefore : IsGap "\u3000".toText := by decide
  have hafter : IsGap "\r".toText := by decide
  have hdelete : NoiseEdit ["A --> B".toText, "b -.-> C".toText]
      (Text.lines "// old\nA --> B\nb -.-> C".toText) :=
    .insert [] ["A --> B".toText, "b -.-> C".toText] hold (by decide)
  have hinsert : NoiseEdit ["A --> B".toText, "b -.-> C".toText]
      ["A --> B".toText, "A -> ?".toText, "b -.-> C".toText] :=
    .insert ["A --> B".toText] ["b -.-> C".toText] hnew (by decide)
  have hpad : NoiseEdit ["A --> B".toText, "A -> ?".toText, "b -.-> C".toText]
      ["\u3000A --> B\r".toText, "A -> ?".toText, "b -.-> C".toText] :=
    .pad [] ["A -> ?".toText, "b -.-> C".toText] "A --> B".toText hbefore hafter
  have hedits : Relation.EqvGen NoiseEdit (Text.lines "// old\nA --> B\nb -.-> C".toText)
      ["\u3000A --> B\r".toText, "A -> ?".toText, "b -.-> C".toText] :=
    .trans _ _ _ (.symm _ _ (.rel _ _ hdelete)) (.trans _ _ _ (.rel _ _ hinsert) (.rel _ _ hpad))
  obtain ⟨hgraph, hsummary⟩ := noise_is_transparent hedits (by simp)
  exact ⟨hedits, hgraph, hsummary⟩

end Diagram

end ArrowNotation
