/-
# Line feeds with and without carriage returns

A text that was written where lines end in a carriage return and a line feed is the same document
as the one in which its lines end in line feeds alone.  Lines are cut at line feeds only, so a
carriage return before a line feed becomes the last character of its line; there it is a blank at
the end like any other, and no reading sees those.

Nothing is asked of carriage returns in other places.  They stay where they are.
-/
import ArrowNotation.Proofs.Diagram.TrimmedLines

namespace ArrowNotation

namespace Text

/-- A text in which every line end is written as a line feed alone: without the carriage returns
that stand immediately before a line feed. -/
def withLineFeeds : Text → Text
  | [] => []
  | c :: rest =>
    if c = carriageReturn ∧ rest.head? = some lineFeed then withLineFeeds rest
    else c :: withLineFeeds rest

example : withLineFeeds "A --> B\r\n\r\n\r\rC\r".toText = "A --> B\n\n\r\rC\r".toText := by
  decide +kernel

/-- A character put in front keeps two lines equal up to blanks at their ends. -/
theorem trimRight_cons_congr {s t : Text} (c : CodePoint) (h : trimRight s = trimRight t) :
    trimRight (c :: s) = trimRight (c :: t) := by
  rw [trimRight, trimRight, h]

/-- **The lines stay the same up to blanks at their ends.** -/
theorem map_trimRight_lines_withLineFeeds : ∀ t : Text,
    (lines (withLineFeeds t)).map trimRight = (lines t).map trimRight
  | [] => rfl
  | c :: rest => by
    have ih := map_trimRight_lines_withLineFeeds rest
    unfold withLineFeeds
    split
    · -- The carriage return is a line of blanks in front of the line feed.
      next h =>
      obtain ⟨rfl, hfeed⟩ := h
      obtain ⟨others, rfl⟩ := List.head?_eq_some_iff.mp hfeed
      rw [ih]
      rfl
    · by_cases hc : c = lineFeed
      · subst hc
        rw [lines, lines, splitAt_separator, splitAt_separator, List.map_cons, List.map_cons]
        exact congrArg _ ih
      · obtain ⟨line, others, h⟩ := List.exists_cons_of_ne_nil (lines_ne_nil rest)
        obtain ⟨line', others', h'⟩ :=
          List.exists_cons_of_ne_nil (lines_ne_nil (withLineFeeds rest))
        rw [h, h', List.map_cons, List.map_cons, List.cons.injEq] at ih
        rw [lines, lines, splitAt_cons hc h, splitAt_cons hc h', List.map_cons, List.map_cons,
          trimRight_cons_congr c ih.1, ih.2]

end Text

namespace Diagram

/-- **Carriage returns before line feeds are never seen.**  The graph, the trace and the log
records, the strict reading with what it reports, the diagnostics with all their positions, the
summary and the description of a text are those of the text with its line ends written as line
feeds alone. -/
theorem readings_withLineFeeds (t : Text) :
    graph (Text.withLineFeeds t) = graph t ∧
    (trace (Text.withLineFeeds t) = trace t ∧ log (Text.withLineFeeds t) = log t) ∧
    strictGraph (Text.withLineFeeds t) = strictGraph t ∧
    diagnostics (Text.withLineFeeds t) = diagnostics t ∧
    summary? (Text.withLineFeeds t) = summary? t ∧
    description (Text.withLineFeeds t) = description t := by
  have hright := Text.map_trimRight_lines_withLineFeeds t
  have htrim := map_trim_of_map_trimRight hright
  have htrace := trace_congr htrim
  exact ⟨graph_congr htrim, ⟨htrace, by rw [log, log, htrace]⟩, strictGraph_congr htrim,
    diagnostics_congr hright, summary?_congr htrim, description_congr htrim⟩

end Diagram

end ArrowNotation
