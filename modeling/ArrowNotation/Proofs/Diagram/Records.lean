/-
# No text forges a log record

The log of a reading quotes lines of the text, and whoever writes the text chooses what is quoted.
Yet the text cannot write records of its own.

* **One line each.**  A record is printable (`TraceEvent.isPrintable_of_mem_message`), so no line of
  the text can end it and begin another.
* **One meaning each.**  A record that notes a line can be read: its message begins in its own way,
  the number ends where the digits end, and the rest is a quoted text (`TraceEvent.noted?_message`).
  So the log gives back the numbers and the contents of exactly the lines that were passed over, and
  only the last record, which is the summary, gives back nothing.
-/
import ArrowNotation.Proofs.Diagram.Faults
import ArrowNotation.Proofs.Text.Quoted

namespace ArrowNotation

/-! ## 1. Numbers in a message -/

def CodePoint.isDigit (c : CodePoint) : Bool := c.digit?.isSome

namespace Text

/-- The number that decimal digits write. -/
def decimalValue (digits : Text) : Nat :=
  digits.foldl (fun value c => 10 * value + (c.toNat - 0x30)) 0

/-- **The digits of a number write the number.** -/
theorem decimalValue_ofNat (n : Nat) : decimalValue (ofNat n) = n := by
  rw [decimalValue, ofNat, List.foldl_map]
  exact Nat.ofDigitChars_toDigits (by decide) (by decide)

theorem of_mem_ofNat {c : CodePoint} {n : Nat} (h : c ∈ ofNat n) :
    c.isDigit = true ∧ isPrintable c = true := by
  obtain ⟨digit, hdigit, rfl⟩ := List.mem_map.mp h
  have hrange : 0x30 ≤ digit.toNat ∧ digit.toNat ≤ 0x39 := by
    have h := Nat.isDigit_of_mem_toDigits (by decide) (by decide) hdigit
    simpa [Char.isDigit, UInt32.le_iff_toNat_le] using h
  refine ⟨?_, isPrintable_of_ascii (by rw [CodePoint.toNat_ofChar]; omega)
    (by rw [CodePoint.toNat_ofChar]; omega)⟩
  rw [CodePoint.isDigit, CodePoint.digit?, CodePoint.toNat_ofChar, if_pos hrange]
  rfl

/-- What stands at the beginning is found there. -/
theorem afterStart?_append (start rest : Text) : afterStart? start (start ++ rest) = some rest :=
  afterStart?_eq_some_iff.mpr rfl

end Text

namespace Diagram

namespace TraceEvent

/-! ## 2. Messages -/

/-- How a note about a line begins. -/
def noteStart : Text := "Skipping unrecognized line ".toText

/-- What stands between the number of a line and its content. -/
def noteMiddle : Text := ": ".toText

/-- The number and the content of the line that a message notes, if it is a note about a line. -/
def noted? (message : Text) : Option (Nat × Text) := do
  let rest ← Text.afterStart? noteStart message
  let quoted ← Text.afterStart? noteMiddle (rest.dropWhile CodePoint.isDigit)
  let content ← Text.unquoted? quoted
  return (Text.decimalValue (rest.takeWhile CodePoint.isDigit), content)

/-- **A note about a line can be read**; the summary is no such note. -/
theorem noted?_message (event : TraceEvent) :
    noted? event.message = match event with
      | passedOver lineNumber content => some (lineNumber, content)
      | finished _ _ => none := by
  cases event with
  | passedOver lineNumber content =>
    have hdigits : ∀ c ∈ Text.ofNat lineNumber, c.isDigit = true := fun c hc =>
      (Text.of_mem_ofNat hc).1
    have htake : (Text.ofNat lineNumber ++ (noteMiddle ++ Text.quoted content)).takeWhile
        CodePoint.isDigit = Text.ofNat lineNumber := by
      rw [List.takeWhile_append_of_pos hdigits]
      exact List.append_nil _
    have hdrop : (Text.ofNat lineNumber ++ (noteMiddle ++ Text.quoted content)).dropWhile
        CodePoint.isDigit = noteMiddle ++ Text.quoted content := by
      rw [List.dropWhile_append_of_pos hdigits]
      rfl
    have hmessage : (passedOver lineNumber content).message
        = noteStart ++ (Text.ofNat lineNumber ++ (noteMiddle ++ Text.quoted content)) := by
      simp only [message, noteStart, noteMiddle, List.append_assoc]
    simp only [noted?, hmessage, Text.afterStart?_append, Option.bind_eq_bind, Option.bind_some,
      htake, hdrop, Text.unquoted?_quoted, Text.decimalValue_ofNat, Option.pure_def]
  | finished nodeCount edgeCount => rfl

/-- Notes about different lines are worded differently. -/
theorem passedOver_eq_of_message_eq {lineNumber otherNumber : Nat} {content other : Text}
    (h : (passedOver lineNumber content).message = (passedOver otherNumber other).message) :
    lineNumber = otherNumber ∧ content = other := by
  have hread := noted?_message (passedOver lineNumber content)
  rw [h, noted?_message (passedOver otherNumber other), Option.some.injEq, Prod.mk.injEq] at hread
  exact ⟨hread.1.symm, hread.2.symm⟩

theorem isPrintable_of_mem_fixed {c : CodePoint} (h : c ∈ noteStart ++ noteMiddle
    ++ "Parsed diagram: ".toText ++ " nodes, ".toText ++ " edges".toText) :
    Text.isPrintable c = true := by
  have hall : ∀ c ∈ noteStart ++ noteMiddle ++ "Parsed diagram: ".toText ++ " nodes, ".toText
      ++ " edges".toText, 0x20 ≤ c.toNat ∧ c.toNat < 0x7F := by decide
  exact Text.isPrintable_of_ascii (hall c h).1 (hall c h).2

/-- **Messages are printable.** -/
theorem isPrintable_of_mem_message {event : TraceEvent} {c : CodePoint} (h : c ∈ event.message) :
    Text.isPrintable c = true := by
  cases event with
  | passedOver lineNumber content =>
    simp only [message, List.mem_append] at h
    rcases h with ((h | h) | h) | h
    · exact isPrintable_of_mem_fixed (by simp [noteStart, h])
    · exact (Text.of_mem_ofNat h).2
    · exact isPrintable_of_mem_fixed (by simp [noteMiddle, h])
    · exact Text.isPrintable_of_mem_quoted h
  | finished nodeCount edgeCount =>
    simp only [message, List.mem_append] at h
    rcases h with (((h | h) | h) | h) | h
    · exact isPrintable_of_mem_fixed (by simp [h])
    · exact (Text.of_mem_ofNat h).2
    · exact isPrintable_of_mem_fixed (by simp [h])
    · exact (Text.of_mem_ofNat h).2
    · exact isPrintable_of_mem_fixed (by simp [h])

end TraceEvent

/-! ## 3. The log -/

theorem exists_event_of_mem_log {text : Text} {record : LogRecord} (h : record ∈ log text) :
    ∃ event : TraceEvent, record = ⟨.debug, event.message⟩ := by
  obtain ⟨event, -, rfl⟩ := List.mem_map.mp h
  exact ⟨event, rfl⟩

/-- **The log gives back the lines that were passed over.** -/
theorem map_noted?_log (text : Text) :
    (log text).map (fun record => TraceEvent.noted? record.message) =
      ((faultyLines text).map fun i => some (i + 1, Text.trim (text.lineAt i))) ++ [none] := by
  have hread : ∀ i, TraceEvent.noted? (TraceEvent.passedOver (i + 1)
      (Text.trim (text.lineAt i))).message = some (i + 1, Text.trim (text.lineAt i)) := fun i =>
    TraceEvent.noted?_message _
  rw [log, List.map_map, trace_eq, List.map_append, List.map_map]
  simp only [Function.comp_def, hread]
  rfl

/-- **No text forges a log record.**

* Every record is for debugging and consists of printable characters, none of which is a control, a
  surrogate, or a blank other than the space.
* The last record is the summary, with the size of the graph, and no other record begins as a
  summary does.
* Each of the others gives back the number and the content of the line that it notes, and together
  they give back all lines that were passed over, in order.  So no two lines with one number and
  different contents are noted in the same words, in this text or in any others. -/
theorem records_cannot_be_forged (text : Text) :
    (∀ record ∈ log text, record.level = .debug ∧
      ∀ c ∈ record.message, Text.isPrintable c = true ∧ Text.IsPlain c) ∧
    (∃ notes : List LogRecord,
      log text = notes ++ [⟨.debug, "Parsed diagram: ".toText
        ++ Text.ofNat (graph text).nodes.length ++ " nodes, ".toText
        ++ Text.ofNat (graph text).edges.length ++ " edges".toText⟩] ∧
      ∀ record ∈ notes, ¬ "Parsed diagram".toText <+: record.message) ∧
    (log text).map (fun record => TraceEvent.noted? record.message) =
      ((faultyLines text).map fun i => some (i + 1, Text.trim (text.lineAt i))) ++ [none] ∧
    (∀ (number : Nat) (content other : Text), (TraceEvent.passedOver number content).message
      = (TraceEvent.passedOver number other).message → content = other) := by
  refine ⟨?_, ?_, map_noted?_log text, ?_⟩
  · intro record hrecord
    obtain ⟨event, rfl⟩ := exists_event_of_mem_log hrecord
    refine ⟨rfl, ?_⟩
    intro c hc
    have hprintable := TraceEvent.isPrintable_of_mem_message hc
    exact ⟨hprintable, Text.isPlain_of_isPrintable hprintable⟩
  · refine ⟨(faultyLines text).map fun i =>
      ⟨.debug, (TraceEvent.passedOver (i + 1) (Text.trim (text.lineAt i))).message⟩, ?_, ?_⟩
    · rw [log, trace_eq, List.map_append, List.map_map]
      rfl
    · intro record hrecord hsummary
      obtain ⟨i, -, rfl⟩ := List.mem_map.mp hrecord
      obtain ⟨rest, hrest⟩ := hsummary
      cases hrest
  · intro number content other h
    exact (TraceEvent.passedOver_eq_of_message_eq h).2

/-- A line that looks like a summary behind something that ends a line for many readers: its record
is one line, in which both are quoted, and it gives back the line. -/
theorem imitated_summary_is_quoted :
    (⟨.debug, "Skipping unrecognized line 2: 'oops\\u2028Parsed diagram: 9 nodes'".toText⟩
      : LogRecord) ∈ log "A --> B\noops\u2028Parsed diagram: 9 nodes".toText ∧
    (∀ c ∈ "Skipping unrecognized line 2: 'oops\\u2028Parsed diagram: 9 nodes'".toText,
      Text.isPrintable c = true ∧ Text.IsPlain c) ∧
    (log "A --> B\noops\u2028Parsed diagram: 9 nodes".toText).map
        (fun record => TraceEvent.noted? record.message)
      = [some (2, "oops\u2028Parsed diagram: 9 nodes".toText), none] := by
  obtain ⟨hprintable, -, hnoted, -⟩ :=
    records_cannot_be_forged "A --> B\noops\u2028Parsed diagram: 9 nodes".toText
  have hfaults : faultyLines "A --> B\noops\u2028Parsed diagram: 9 nodes".toText = [1] := by
    decide +kernel
  have hmem : (⟨.debug,
      "Skipping unrecognized line 2: 'oops\\u2028Parsed diagram: 9 nodes'".toText⟩
      : LogRecord) ∈ log "A --> B\noops\u2028Parsed diagram: 9 nodes".toText := by
    rw [log, trace_eq, hfaults]
    refine List.mem_map.mpr ⟨_, List.mem_append_left _ (List.mem_singleton.mpr rfl), ?_⟩
    decide +kernel
  refine ⟨hmem, (hprintable _ hmem).2, ?_⟩
  rw [hnoted, hfaults]
  decide +kernel

end Diagram

end ArrowNotation
