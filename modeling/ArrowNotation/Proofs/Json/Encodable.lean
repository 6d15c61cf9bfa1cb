/-
# Values that can be written

An answer can be written when every text in it can be encoded, and a refusal quotes a value only
if its numbers are finite as well.  What the diagram part of the service says about a text holds
nothing but words of its own, numbers, and stretches of the text and of its composed form, so it
can be encoded if the text can: the graph (`Diagram.isEncodable_toJson_graph`), the diagnostics
(`Diagram.isEncodable_diagnostics`) and the details of a read error
(`Service.isEncodable_readErrorDetail`).  A summary holds no part of the text at all
(`Diagram.isEncodable_summary`).
-/
import ArrowNotation.Proofs.Diagram.Faults
import ArrowNotation.Proofs.Graph.WellFormed
import ArrowNotation.Proofs.Text.Encodable
import ArrowNotation.Service.Answer

namespace ArrowNotation

namespace Json

/-! ## 1. Values inside values -/

section All

variable {onNumber : Number → Bool} {onText : Text → Bool}

theorem allItems_eq_true_iff : ∀ {items : List Json},
    allItems onNumber onText items = true ↔ ∀ v ∈ items, v.all onNumber onText = true
  | [] => by simp [allItems]
  | v :: items => by
    rw [allItems, Bool.and_eq_true, allItems_eq_true_iff, List.forall_mem_cons]

theorem allMembers_eq_true_iff : ∀ {members : List (Text × Json)},
    allMembers onNumber onText members = true ↔
      ∀ m ∈ members, onText m.1 = true ∧ m.2.all onNumber onText = true
  | [] => by simp [allMembers]
  | (name, v) :: members => by
    rw [allMembers, Bool.and_eq_true, Bool.and_eq_true, allMembers_eq_true_iff,
      List.forall_mem_cons]

end All

/-- Whether a value can be quoted in an answer: all its numbers are finite and all its texts can
be encoded. -/
def isWritable (v : Json) : Bool := v.isFinite && v.isEncodable

theorem isEncodable_array_iff {items : List Json} :
    (array items).isEncodable = true ↔ ∀ v ∈ items, v.isEncodable = true :=
  allItems_eq_true_iff

theorem isEncodable_object_iff {members : List (Text × Json)} :
    (object members).isEncodable = true ↔
      ∀ m ∈ members, Text.isEncodable m.1 = true ∧ m.2.isEncodable = true :=
  allMembers_eq_true_iff

@[simp] theorem isEncodable_null : null.isEncodable = true := rfl

@[simp] theorem isEncodable_bool (b : Bool) : (bool b).isEncodable = true := rfl

@[simp] theorem isEncodable_ofNat (n : Nat) : (ofNat n).isEncodable = true := rfl

@[simp] theorem isEncodable_string (t : Text) : (string t).isEncodable = Text.isEncodable t := rfl

theorem isEncodable_ofText? {label : Option Text}
    (h : ∀ t, label = some t → Text.isEncodable t = true) : (ofText? label).isEncodable = true := by
  cases label with
  | none => rfl
  | some t => exact h t rfl

end Json

/-! ## 2. Graphs -/

theorem Node.isEncodable_toJson {node : Node} (hid : Text.isEncodable node.id = true)
    (hlabel : Text.isEncodable node.label = true) : node.toJson.isEncodable = true := by
  simp [Node.toJson, Json.isEncodable_object_iff, Text.isEncodable_toText, hid, hlabel]

theorem Connector.isEncodable_token (c : Connector) : Text.isEncodable c.token = true := by
  cases c <;> decide

theorem Edge.isEncodable_toJson {e : Edge} (hsource : Text.isEncodable e.source = true)
    (htarget : Text.isEncodable e.target = true)
    (hlabel : ∀ t, e.label = some t → Text.isEncodable t = true) :
    e.toJson.isEncodable = true := by
  simp [Edge.toJson, Json.isEncodable_object_iff, Text.isEncodable_toText, hsource, htarget,
    Connector.isEncodable_token, Json.isEncodable_ofText? hlabel]

namespace Diagram

theorem isEncodable_parts_of_mem_edgeLines {text : Text} (h : Text.isEncodable text = true)
    {w : EdgeLine} (hw : w ∈ edgeLines text) :
    Text.isEncodable w.source = true ∧ Text.isEncodable w.target = true ∧
      ∀ label, w.label = some label → Text.isEncodable label = true := by
  obtain ⟨line, hline, hread⟩ := exists_line_of_mem_edgeLines hw
  exact EdgeLine.isEncodable_parts
    (Text.isEncodable_trim (Text.isEncodable_of_mem_lines h hline)) hread

theorem isEncodable_of_mem_mentions {text : Text} (h : Text.isEncodable text = true) {id : Text}
    (hid : id ∈ mentions (edgeLines text)) : Text.isEncodable id = true := by
  obtain ⟨w, hw, rfl | rfl⟩ := mem_mentions_iff.mp hid
  · exact (isEncodable_parts_of_mem_edgeLines h hw).1
  · exact (isEncodable_parts_of_mem_edgeLines h hw).2.1

/-- **The graph of a text can be written if the text can be encoded.** -/
theorem isEncodable_toJson_graph {text : Text} (h : Text.isEncodable text = true) :
    (graph text).toJson.isEncodable = true := by
  have hnode : ∀ node ∈ (graph text).nodes, Text.isEncodable node.id = true ∧
      Text.isEncodable node.label = true := by
    intro node hnode
    obtain ⟨hlabel, hid⟩ := Graph.label_eq_and_mem_mentions hnode
    have hencodable := isEncodable_of_mem_mentions h hid
    exact ⟨hencodable, hlabel ▸ hencodable⟩
  have hend : ∀ id ∈ Graph.ends (graph text).edges, Text.isEncodable id = true := by
    intro id hid
    obtain ⟨node, hmem, rfl⟩ := List.mem_map.mp ((Graph.mem_ids_iff_mem_ends _).mpr hid)
    exact (hnode node hmem).1
  have hedge : ∀ e ∈ (graph text).edges, e.toJson.isEncodable = true := by
    intro e he
    have hsource := hend e.source (Graph.mem_ends_iff.mpr ⟨e, he, Or.inl rfl⟩)
    have htarget := hend e.target (Graph.mem_ends_iff.mpr ⟨e, he, Or.inr rfl⟩)
    refine Edge.isEncodable_toJson hsource htarget ?_
    rw [graph, Graph.edges_ofEdgeLines] at he
    obtain ⟨w, hw, rfl⟩ := List.mem_map.mp he
    exact (isEncodable_parts_of_mem_edgeLines h hw).2.2
  simp only [Graph.toJson, Json.isEncodable_object_iff, List.forall_mem_cons,
    Text.isEncodable_toText, Json.isEncodable_array_iff, List.forall_mem_map, true_and]
  exact ⟨fun node hmem => Node.isEncodable_toJson (hnode node hmem).1 (hnode node hmem).2, hedge,
    by simp⟩

/-! ## 3. Diagnostics and summaries -/

theorem Diagnostic.isEncodable_toJson_ofLine {line : Text} (h : Text.isEncodable line = true)
    (index : Nat) : (Diagnostic.ofLine index line).toJson.isEncodable = true := by
  simp [Diagnostic.toJson, Diagnostic.ofLine, Json.isEncodable_object_iff,
    Text.isEncodable_toText, Text.isEncodable_trim h]

/-- A line of an encodable text can be encoded, and so can the empty text behind the last. -/
theorem isEncodable_lineAt {text : Text} (h : Text.isEncodable text = true) {i : Nat}
    (hi : i ∈ faultyLines text) : Text.isEncodable (text.lineAt i) = true := by
  have hlt := (mem_faultyLines_iff.mp hi).1
  rw [Text.lineAt_eq_getElem hlt]
  exact Text.isEncodable_of_mem_lines h (List.getElem_mem hlt)

/-- **The diagnostics of a text can be written if the text can be encoded.** -/
theorem isEncodable_diagnostics {text : Text} (h : Text.isEncodable text = true) :
    (Json.array ((diagnostics text).map Diagnostic.toJson)).isEncodable = true := by
  rw [Json.isEncodable_array_iff, diagnostics_eq, List.forall_mem_map, List.forall_mem_map]
  exact fun i hi => Diagnostic.isEncodable_toJson_ofLine (isEncodable_lineAt h hi) i

/-- **A summary can be written whatever the text.** -/
theorem isEncodable_summary (text : Text) :
    (((summary? text).map Summary.toJson).getD .null).isEncodable = true := by
  cases summary? text with
  | none => rfl
  | some s =>
    simp [Summary.toJson, Summary.text, Json.isEncodable_object_iff, Text.isEncodable_toText]

end Diagram

/-! ## 4. Refusals -/

/-- The words for a fault are fixed, except for the names of its place. -/
theorem Fault.isEncodable_toJson {fault : Fault}
    (h : ∀ step ∈ fault.place, step.toJson.isEncodable = true) :
    fault.toJson.isEncodable = true := by
  have hcode : Text.isEncodable fault.kind.code = true := by
    cases fault.kind <;> exact Text.isEncodable_toText _
  have hmessage : Text.isEncodable fault.kind.message = true := by
    cases fault.kind with
    | notObject shape => cases shape <;> decide
    | notConnector => decide
    | _ => exact Text.isEncodable_toText _
  simpa [Fault.toJson, Json.isEncodable_object_iff, Json.isEncodable_array_iff,
    Text.isEncodable_toText, hcode, hmessage] using h

/-- **The details of a read error can be written if the line that they quote can be.** -/
theorem Service.isEncodable_readErrorDetail {e : Diagram.ReadError}
    (h : ∀ number content, e = .unrecognizedLine number content →
      Text.isEncodable content = true) : (readErrorDetail e).isEncodable = true := by
  cases e with
  | unrecognizedLine number content =>
    simp [readErrorDetail, Diagram.ReadError.message, Json.isEncodable_object_iff,
      Text.isEncodable_toText, h number content rfl]
  | noNodes =>
    simp [readErrorDetail, Diagram.ReadError.message, Json.isEncodable_object_iff,
      Text.isEncodable_toText]

end ArrowNotation
