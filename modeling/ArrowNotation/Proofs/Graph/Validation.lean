/-
# Graphs from JSON values

A JSON value is taken for a graph if everything that a graph needs is there and of the right kind.
Otherwise all that is wrong is reported, each fault once and in order, and nothing else is.

What is right and what is wrong is said without the decoder.  `Graph.IsWellTyped` says what a value
has to be, and `Graph.IsReadFrom` which graph it stands for.  `Graph.HasFault` says which faults a
value has: a value is at fault where it is of the wrong kind itself, and what is inside it counts
only if it is not.

* **The report.**  The faults of a part are gathered under the step that leads to the part, fields
  in the order of declaration and items by number, so the report holds exactly the faults of the value
  (`Graph.mem_faults_decode_iff`) in the order of their places
  (`Graph.isAscending_faults_decode`).
* **The result.**  It is the graph that the value stands for (`Graph.decode_eq_ok_iff`).  It does
  not depend on members that no field asks for (`Graph.keeps_decode`), and a graph that is written as
  JSON is read back as it was (`Graph.decode_toJson`).
-/
import ArrowNotation.Diagram.Basic
import ArrowNotation.Json.Encode
import ArrowNotation.Proofs.Json.Faults
import ArrowNotation.Proofs.Json.Pruning

namespace ArrowNotation

open Decoded

/-! ## 1. Nodes -/

namespace Node

/-- A value that is an object with a string at every field of a node. -/
def IsWellTyped (v : Json) : Prop :=
  ∃ members, v = .object members ∧
    (∃ id, Json.member? "id".toText members = some (.string id)) ∧
    ∃ label, Json.member? "label".toText members = some (.string label)

/-- The node that an object stands for has the strings at its fields. -/
def IsReadFrom (node : Node) (v : Json) : Prop :=
  ∃ members, v = .object members ∧
    Json.member? "id".toText members = some (.string node.id) ∧
    Json.member? "label".toText members = some (.string node.label)

/-- The faults of a value that should be a node: it is no object, or a field is missing, or there is
no string at a field. -/
inductive HasFault : Json → Fault → Prop
  | notObject {v : Json} (h : ∀ members, v ≠ .object members) :
      HasFault v ⟨.notObject .node, [], v⟩
  | missing {members : List (Text × Json)} {name : Text} (hname : name ∈ Shape.node.fieldNames)
      (h : Json.member? name members = none) :
      HasFault (.object members) ⟨.missing, [.field name], .object members⟩
  | notString {members : List (Text × Json)} {name : Text} {v : Json}
      (hname : name ∈ Shape.node.fieldNames) (h : Json.member? name members = some v)
      (hv : ∀ t, v ≠ .string t) :
      HasFault (.object members) ⟨.notString, [.field name], v⟩

/-- **A node is what its object stands for.** -/
theorem decode_eq_ok_iff {v : Json} {node : Node} : decode v = .ok node ↔ node.IsReadFrom v := by
  cases v with
  | object members =>
    simp only [decode, map_eq_ok_iff, both_eq_ok_iff, required_eq_ok_iff, decodeString_eq_ok_iff,
      exists_eq_right]
    constructor
    · rintro ⟨⟨id, label⟩, ⟨hid, hlabel⟩, rfl⟩
      exact ⟨members, rfl, hid, hlabel⟩
    · rintro ⟨_, hsame, hid, hlabel⟩
      obtain rfl := Json.object.inj hsame
      exact ⟨(node.id, node.label), ⟨hid, hlabel⟩, rfl⟩
  | _ => simp [decode, fault, IsReadFrom]

theorem isOk_decode_iff {v : Json} : (decode v).isOk = true ↔ IsWellTyped v := by
  cases v with
  | object members =>
    simp [decode, isOk_required_iff, isOk_decodeString_iff, IsWellTyped]
  | _ => simp [decode, IsWellTyped]

theorem isReasoned_decode (v : Json) : IsReasoned (decode v) := by
  cases v with
  | object members =>
    exact ((isReasoned_required isPlain_decodeString.isReasoned).both
      (isReasoned_required isPlain_decodeString.isReasoned)).map _
  | _ => exact isReasoned_fault _ _

/-- The faults of an object are those of its two fields. -/
theorem faults_decode_object (members : List (Text × Json)) :
    (decode (.object members)).faults
      = Shape.node.fieldNames.flatMap fun name => (required name decodeString members).faults := by
  simp [decode, Shape.fieldNames]

/-- **Exactly the faults of a node are reported.** -/
theorem mem_faults_decode_iff {v : Json} {f : Fault} : f ∈ (decode v).faults ↔ HasFault v f := by
  cases v with
  | object members =>
    simp only [faults_decode_object, List.mem_flatMap, mem_faults_required_iff,
      isPlain_decodeString.exists_mem_faults_iff, isOk_decodeString_iff, not_exists]
    constructor
    · rintro ⟨name, hname, ⟨h, rfl⟩ | ⟨w, h, hw, rfl⟩⟩
      · exact HasFault.missing hname h
      · exact HasFault.notString hname h hw
    · intro h
      cases h with
      | notObject h => exact absurd rfl (h members)
      | @missing _ name hname h => exact ⟨name, hname, Or.inl ⟨h, rfl⟩⟩
      | @notString _ name w hname h hw => exact ⟨name, hname, Or.inr ⟨w, h, hw, rfl⟩⟩
  | _ =>
    constructor
    · intro h
      rw [List.mem_singleton.mp h]
      exact HasFault.notObject (by simp)
    · intro h
      cases h with
      | notObject h => exact List.mem_singleton_self _

theorem isAscending_faults_decode (v : Json) : Fault.IsAscending (decode v).faults := by
  cases v with
  | object members =>
    have hparts : (decode (.object members)).faults = [
        (PlaceStep.field "id".toText, (required "id".toText decodeString members).faults),
        (.field "label".toText, (required "label".toText decodeString members).faults)
        ].flatMap Prod.snd := by
      simp [decode]
    rw [hparts]
    refine Fault.isAscending_flatMap Shape.node.pairwise_fieldNames ?_
    have hstring := isPlain_decodeString.isAscending
    simp [ascendsUnder_required hstring]
  | _ => exact Fault.isAscending_singleton _

/-- Members that are no fields of a node do not count. -/
theorem keeps_decode {keep : List PlaceStep → Text → Bool}
    (hkeep : ∀ name ∈ Shape.node.fieldNames, keep [] name = true) : Keeps decode keep := by
  intro v node hok
  cases v with
  | object members =>
    rw [decode, map_eq_ok_iff] at hok
    obtain ⟨⟨id, label⟩, hboth, rfl⟩ := hok
    obtain ⟨hid, hlabel⟩ := both_eq_ok_iff.mp hboth
    have hid' := required_pruneMembers (hkeep _ (by decide)) keeps_decodeString hid
    have hlabel' := required_pruneMembers (hkeep _ (by decide)) keeps_decodeString hlabel
    rw [Json.prune, decode, map_eq_ok_iff]
    exact ⟨(id, label), both_eq_ok_iff.mpr ⟨hid', hlabel'⟩, rfl⟩
  | _ => exact absurd hok (by simp [decode, fault])

/-- A node is read back as it was. -/
theorem decode_toJson (node : Node) : decode node.toJson = .ok node := rfl

end Node

/-! ## 2. Edges -/

namespace Edge

/-- A value that is an object with a string at both ends of an edge, a token as its connector, and
as its label nothing, `null` or a string. -/
def IsWellTyped (v : Json) : Prop :=
  ∃ members, v = .object members ∧
    (∃ source, Json.member? "source_id".toText members = some (.string source)) ∧
    (∃ target, Json.member? "target_id".toText members = some (.string target)) ∧
    (∃ connector : Connector,
      Json.member? "connector_type".toText members = some (.string connector.token)) ∧
    ∀ w, Json.member? "label".toText members = some w → w = .null ∨ ∃ label, w = .string label

/-- The edge that an object stands for has what stands at its fields; `null` at the label is as good
as nothing. -/
def IsReadFrom (edge : Edge) (v : Json) : Prop :=
  ∃ members, v = .object members ∧
    Json.member? "source_id".toText members = some (.string edge.source) ∧
    Json.member? "target_id".toText members = some (.string edge.target) ∧
    Json.member? "connector_type".toText members = some (.string edge.connector.token) ∧
    (Json.member? "label".toText members).getD .null = .ofText? edge.label

/-- The faults of a value that should be an edge: it is no object, or a field other than the label
is missing, or what stands at a field is not what should stand there. -/
inductive HasFault : Json → Fault → Prop
  | notObject {v : Json} (h : ∀ members, v ≠ .object members) :
      HasFault v ⟨.notObject .edge, [], v⟩
  | missing {members : List (Text × Json)} {name : Text}
      (hname : name ∈ ["source_id".toText, "target_id".toText, "connector_type".toText])
      (h : Json.member? name members = none) :
      HasFault (.object members) ⟨.missing, [.field name], .object members⟩
  | notString {members : List (Text × Json)} {name : Text} {v : Json}
      (hname : name ∈ ["source_id".toText, "target_id".toText])
      (h : Json.member? name members = some v) (hv : ∀ t, v ≠ .string t) :
      HasFault (.object members) ⟨.notString, [.field name], v⟩
  | notConnector {members : List (Text × Json)} {v : Json}
      (h : Json.member? "connector_type".toText members = some v)
      (hv : ∀ connector : Connector, v ≠ .string connector.token) :
      HasFault (.object members) ⟨.notConnector, [.field "connector_type".toText], v⟩
  | notLabel {members : List (Text × Json)} {v : Json}
      (h : Json.member? "label".toText members = some v) (hnull : v ≠ .null)
      (hv : ∀ t, v ≠ .string t) :
      HasFault (.object members) ⟨.notString, [.field "label".toText], v⟩

/-- **An edge is what its object stands for.** -/
theorem decode_eq_ok_iff {v : Json} {edge : Edge} : decode v = .ok edge ↔ edge.IsReadFrom v := by
  cases v with
  | object members =>
    have habsent : decodeString? .null = .ok none := rfl
    simp only [decode, map_eq_ok_iff, both_eq_ok_iff, required_eq_ok_iff,
      optional_eq_ok_iff habsent, decodeString_eq_ok_iff, decodeString?_eq_ok_iff,
      Connector.decode_eq_ok_iff, exists_eq_right]
    constructor
    · rintro ⟨⟨source, target, connector, label⟩, ⟨hsource, htarget, hconnector, hlabel⟩, rfl⟩
      exact ⟨members, rfl, hsource, htarget, hconnector, hlabel⟩
    · rintro ⟨_, hsame, hsource, htarget, hconnector, hlabel⟩
      obtain rfl := Json.object.inj hsame
      exact ⟨(edge.source, edge.target, edge.connector, edge.label),
        ⟨hsource, htarget, hconnector, hlabel⟩, rfl⟩
  | _ => simp [decode, fault, IsReadFrom]

theorem isOk_decode_iff {v : Json} : (decode v).isOk = true ↔ IsWellTyped v := by
  cases v with
  | object members =>
    simp [decode, isOk_required_iff, isOk_optional_iff, isOk_decodeString_iff,
      isOk_decodeString?_iff, Connector.isOk_decode_iff, IsWellTyped]
  | _ => simp [decode, IsWellTyped]

theorem isReasoned_decode (v : Json) : IsReasoned (decode v) := by
  cases v with
  | object members =>
    exact ((isReasoned_required isPlain_decodeString.isReasoned).both
      ((isReasoned_required isPlain_decodeString.isReasoned).both
        ((isReasoned_required Connector.isPlain_decode.isReasoned).both
          (isReasoned_optional isPlain_decodeString?.isReasoned)))).map _
  | _ => exact isReasoned_fault _ _

/-- **Exactly the faults of an edge are reported.** -/
theorem mem_faults_decode_iff {v : Json} {f : Fault} : f ∈ (decode v).faults ↔ HasFault v f := by
  cases v with
  | object members =>
    simp only [decode, faults_map, faults_both, List.mem_append, mem_faults_required_iff,
      mem_faults_optional_iff, isPlain_decodeString.exists_mem_faults_iff,
      isPlain_decodeString?.exists_mem_faults_iff, Connector.isPlain_decode.exists_mem_faults_iff,
      isOk_decodeString_iff, isOk_decodeString?_iff, Connector.isOk_decode_iff, not_exists, not_or]
    constructor
    · rintro ((⟨h, rfl⟩ | ⟨w, h, hw, rfl⟩) | (⟨h, rfl⟩ | ⟨w, h, hw, rfl⟩) |
        (⟨h, rfl⟩ | ⟨w, h, hw, rfl⟩) | ⟨w, h, ⟨hnull, hw⟩, rfl⟩)
      · exact HasFault.missing (by simp) h
      · exact HasFault.notString (by simp) h hw
      · exact HasFault.missing (by simp) h
      · exact HasFault.notString (by simp) h hw
      · exact HasFault.missing (by simp) h
      · exact HasFault.notConnector h hw
      · exact HasFault.notLabel h hnull hw
    · intro h
      cases h with
      | notObject h => exact absurd rfl (h members)
      | missing hname h =>
        simp only [List.mem_cons, List.not_mem_nil, or_false] at hname
        rcases hname with rfl | rfl | rfl
        · exact Or.inl (Or.inl ⟨h, rfl⟩)
        · exact Or.inr (Or.inl (Or.inl ⟨h, rfl⟩))
        · exact Or.inr (Or.inr (Or.inl (Or.inl ⟨h, rfl⟩)))
      | notString hname h hw =>
        simp only [List.mem_cons, List.not_mem_nil, or_false] at hname
        rcases hname with rfl | rfl
        · exact Or.inl (Or.inr ⟨_, h, hw, rfl⟩)
        · exact Or.inr (Or.inl (Or.inr ⟨_, h, hw, rfl⟩))
      | notConnector h hw => exact Or.inr (Or.inr (Or.inl (Or.inr ⟨_, h, hw, rfl⟩)))
      | notLabel h hnull hw => exact Or.inr (Or.inr (Or.inr ⟨_, h, ⟨hnull, hw⟩, rfl⟩))
  | _ =>
    constructor
    · intro h
      rw [List.mem_singleton.mp h]
      exact HasFault.notObject (by simp)
    · intro h
      cases h with
      | notObject h => exact List.mem_singleton_self _

theorem isAscending_faults_decode (v : Json) : Fault.IsAscending (decode v).faults := by
  cases v with
  | object members =>
    have hparts : (decode (.object members)).faults = [
        (PlaceStep.field "source_id".toText,
          (required "source_id".toText decodeString members).faults),
        (.field "target_id".toText, (required "target_id".toText decodeString members).faults),
        (.field "connector_type".toText,
          (required "connector_type".toText Connector.decode members).faults),
        (.field "label".toText, (optional "label".toText none decodeString? members).faults)
        ].flatMap Prod.snd := by
      simp [decode]
    rw [hparts]
    refine Fault.isAscending_flatMap Shape.edge.pairwise_fieldNames ?_
    have hstring := isPlain_decodeString.isAscending
    have hconnector := Connector.isPlain_decode.isAscending
    have hlabel := isPlain_decodeString?.isAscending
    simp [ascendsUnder_required hstring, ascendsUnder_required hconnector,
      ascendsUnder_optional hlabel]
  | _ => exact Fault.isAscending_singleton _

/-- Members that are no fields of an edge do not count. -/
theorem keeps_decode {keep : List PlaceStep → Text → Bool}
    (hkeep : ∀ name ∈ Shape.edge.fieldNames, keep [] name = true) : Keeps decode keep := by
  intro v edge hok
  cases v with
  | object members =>
    rw [decode, map_eq_ok_iff] at hok
    obtain ⟨⟨source, target, connector, label⟩, hboth, rfl⟩ := hok
    obtain ⟨hsource, hboth⟩ := both_eq_ok_iff.mp hboth
    obtain ⟨htarget, hboth⟩ := both_eq_ok_iff.mp hboth
    obtain ⟨hconnector, hlabel⟩ := both_eq_ok_iff.mp hboth
    have hsource' := required_pruneMembers (hkeep _ (by decide)) keeps_decodeString hsource
    have htarget' := required_pruneMembers (hkeep _ (by decide)) keeps_decodeString htarget
    have hconnector' := required_pruneMembers (hkeep _ (by decide)) keeps_decodeConnector hconnector
    have hlabel' := optional_pruneMembers (hkeep _ (by decide)) keeps_decodeString? hlabel
    rw [Json.prune, decode, map_eq_ok_iff]
    exact ⟨(source, target, connector, label), both_eq_ok_iff.mpr ⟨hsource',
      both_eq_ok_iff.mpr ⟨htarget', both_eq_ok_iff.mpr ⟨hconnector', hlabel'⟩⟩⟩, rfl⟩
  | _ => exact absurd hok (by simp [decode, fault])

/-- An edge is read back as it was. -/
theorem decode_toJson (edge : Edge) : decode edge.toJson = .ok edge :=
  decode_eq_ok_iff.mpr ⟨_, rfl, rfl, rfl, rfl, rfl⟩

end Edge

/-! ## 3. Graphs -/

/-- A value that is an array, with a property of every item. -/
def Json.IsArrayOf (p : Json → Prop) (v : Json) : Prop :=
  ∃ items, v = .array items ∧ ∀ item ∈ items, p item

namespace Graph

/-- A value that is an object with an array of nodes and an array of edges, each of which may be
left out. -/
def IsWellTyped (v : Json) : Prop :=
  ∃ members, v = .object members ∧
    (∀ w, Json.member? "nodes".toText members = some w → w.IsArrayOf Node.IsWellTyped) ∧
    ∀ w, Json.member? "edges".toText members = some w → w.IsArrayOf Edge.IsWellTyped

/-- The graph that an object stands for has the nodes and the edges that the items of its arrays
stand for; no array is as good as an empty one. -/
def IsReadFrom (g : Graph) (v : Json) : Prop :=
  ∃ members, v = .object members ∧
    (∃ items, (Json.member? "nodes".toText members).getD (.array []) = .array items ∧
      List.Forall₂ (fun item node => Node.IsReadFrom node item) items g.nodes) ∧
    ∃ items, (Json.member? "edges".toText members).getD (.array []) = .array items ∧
      List.Forall₂ (fun item edge => Edge.IsReadFrom edge item) items g.edges

/-- The faults of a value that should be a graph: it is no object, or what stands at a field is no
array, or an item of one of the arrays has a fault. -/
inductive HasFault : Json → Fault → Prop
  | notObject {v : Json} (h : ∀ members, v ≠ .object members) :
      HasFault v ⟨.notObject .graph, [], v⟩
  | notArray {members : List (Text × Json)} {name : Text} {v : Json}
      (hname : name ∈ Shape.graph.fieldNames) (h : Json.member? name members = some v)
      (hv : ∀ items, v ≠ .array items) :
      HasFault (.object members) ⟨.notArray, [.field name], v⟩
  | node {members : List (Text × Json)} {items : List Json} {i : Nat} {item : Json} {f : Fault}
      (h : Json.member? "nodes".toText members = some (.array items)) (hi : items[i]? = some item)
      (hf : Node.HasFault item f) :
      HasFault (.object members) ((f.under (.index i)).under (.field "nodes".toText))
  | edge {members : List (Text × Json)} {items : List Json} {i : Nat} {item : Json} {f : Fault}
      (h : Json.member? "edges".toText members = some (.array items)) (hi : items[i]? = some item)
      (hf : Edge.HasFault item f) :
      HasFault (.object members) ((f.under (.index i)).under (.field "edges".toText))

/-- **A graph is what its object stands for.** -/
theorem decode_eq_ok_iff {v : Json} {g : Graph} : decode v = .ok g ↔ g.IsReadFrom v := by
  cases v with
  | object members =>
    have hnoNodes : decodeArray Node.decode (.array []) = .ok [] := rfl
    have hnoEdges : decodeArray Edge.decode (.array []) = .ok [] := rfl
    simp only [decode, map_eq_ok_iff, both_eq_ok_iff, optional_eq_ok_iff hnoNodes,
      optional_eq_ok_iff hnoEdges, decodeArray_eq_ok_iff, Node.decode_eq_ok_iff,
      Edge.decode_eq_ok_iff]
    constructor
    · rintro ⟨⟨nodes, edges⟩, ⟨hnodes, hedges⟩, rfl⟩
      exact ⟨members, rfl, hnodes, hedges⟩
    · rintro ⟨_, hsame, hnodes, hedges⟩
      obtain rfl := Json.object.inj hsame
      exact ⟨(g.nodes, g.edges), ⟨hnodes, hedges⟩, rfl⟩
  | _ => simp [decode, fault, IsReadFrom]

theorem isOk_decode_iff {v : Json} : (decode v).isOk = true ↔ IsWellTyped v := by
  cases v with
  | object members =>
    simp [decode, isOk_optional_iff, isOk_decodeArray_iff, Node.isOk_decode_iff,
      Edge.isOk_decode_iff, IsWellTyped, Json.IsArrayOf]
  | _ => simp [decode, IsWellTyped]

theorem isReasoned_decode (v : Json) : IsReasoned (decode v) := by
  cases v with
  | object members =>
    exact ((isReasoned_optional (isReasoned_decodeArray Node.isReasoned_decode)).both
      (isReasoned_optional (isReasoned_decodeArray Edge.isReasoned_decode))).map _
  | _ => exact isReasoned_fault _ _

/-- **Exactly the faults of a graph are reported.** -/
theorem mem_faults_decode_iff {v : Json} {f : Fault} : f ∈ (decode v).faults ↔ HasFault v f := by
  cases v with
  | object members =>
    simp only [decode, faults_map, faults_both, List.mem_append, mem_faults_optional_iff,
      mem_faults_decodeArray_iff, Node.mem_faults_decode_iff, Edge.mem_faults_decode_iff]
    constructor
    · rintro (⟨w, h, inner, ⟨hw, rfl⟩ | ⟨items, i, item, rfl, hi, f, hf, rfl⟩, rfl⟩ |
        ⟨w, h, inner, ⟨hw, rfl⟩ | ⟨items, i, item, rfl, hi, f, hf, rfl⟩, rfl⟩)
      · exact HasFault.notArray (by decide) h hw
      · exact HasFault.node h hi hf
      · exact HasFault.notArray (by decide) h hw
      · exact HasFault.edge h hi hf
    · intro h
      cases h with
      | notObject h => exact absurd rfl (h members)
      | @notArray _ name w hname h hw =>
        simp only [Shape.fieldNames, List.mem_cons, List.not_mem_nil, or_false] at hname
        rcases hname with rfl | rfl
        · exact Or.inl ⟨w, h, _, Or.inl ⟨hw, rfl⟩, rfl⟩
        · exact Or.inr ⟨w, h, _, Or.inl ⟨hw, rfl⟩, rfl⟩
      | node h hi hf => exact Or.inl ⟨_, h, _, Or.inr ⟨_, _, _, rfl, hi, _, hf, rfl⟩, rfl⟩
      | edge h hi hf => exact Or.inr ⟨_, h, _, Or.inr ⟨_, _, _, rfl, hi, _, hf, rfl⟩, rfl⟩
  | _ =>
    constructor
    · intro h
      rw [List.mem_singleton.mp h]
      exact HasFault.notObject (by simp)
    · intro h
      cases h with
      | notObject h => exact List.mem_singleton_self _

theorem isAscending_faults_decode (v : Json) : Fault.IsAscending (decode v).faults := by
  cases v with
  | object members =>
    have hparts : (decode (.object members)).faults = [
        (PlaceStep.field "nodes".toText,
          (optional "nodes".toText [] (decodeArray Node.decode) members).faults),
        (.field "edges".toText,
          (optional "edges".toText [] (decodeArray Edge.decode) members).faults)
        ].flatMap Prod.snd := by
      simp [decode]
    rw [hparts]
    refine Fault.isAscending_flatMap Shape.graph.pairwise_fieldNames ?_
    have hnodes := isAscending_decodeArray Node.isAscending_faults_decode
    have hedges := isAscending_decodeArray Edge.isAscending_faults_decode
    simp [ascendsUnder_optional hnodes, ascendsUnder_optional hedges]
  | _ => exact Fault.isAscending_singleton _

/-- The names of the fields that the objects of a graph have, by the places of the objects. -/
def declared : List PlaceStep → List Text
  | [] => Shape.graph.fieldNames
  | [.field name, .index _] =>
    if name = "nodes".toText then Shape.node.fieldNames
    else if name = "edges".toText then Shape.edge.fieldNames
    else []
  | _ => []

/-- **Members that are no fields of a graph, a node or an edge do not count.** -/
theorem keeps_decode {keep : List PlaceStep → Text → Bool}
    (hkeep : ∀ place, ∀ name ∈ declared place, keep place name = true) : Keeps decode keep := by
  intro v g hok
  cases v with
  | object members =>
    rw [decode, map_eq_ok_iff] at hok
    obtain ⟨⟨nodes, edges⟩, hboth, rfl⟩ := hok
    obtain ⟨hnodes, hedges⟩ := both_eq_ok_iff.mp hboth
    have hnodes' := optional_pruneMembers (hkeep [] _ (by decide))
      (keeps_decodeArray fun i => Node.keeps_decode (hkeep [.field "nodes".toText, .index i])) hnodes
    have hedges' := optional_pruneMembers (hkeep [] _ (by decide))
      (keeps_decodeArray fun i => Edge.keeps_decode (hkeep [.field "edges".toText, .index i])) hedges
    rw [Json.prune, decode, map_eq_ok_iff]
    exact ⟨(nodes, edges), both_eq_ok_iff.mpr ⟨hnodes', hedges'⟩, rfl⟩
  | _ => exact absurd hok (by simp [decode, fault])

/-- **A graph is read back as it was.** -/
theorem decode_toJson (g : Graph) : decode g.toJson = .ok g := by
  refine decode_eq_ok_iff.mpr ⟨_, rfl, ⟨_, rfl, ?_⟩, _, rfl, ?_⟩
  · refine List.forall₂_map_left_iff.mpr (List.forall₂_same.mpr ?_)
    exact fun node _ => Node.decode_eq_ok_iff.mp (Node.decode_toJson node)
  · refine List.forall₂_map_left_iff.mpr (List.forall₂_same.mpr ?_)
    exact fun edge _ => Edge.decode_eq_ok_iff.mp (Edge.decode_toJson edge)

/-! ## 4. Validation -/

/-- **A value is taken for a graph exactly if it is well typed, and otherwise all that is wrong with
it is reported.**

* If it is well typed, the graph is the one that the value stands for.  Undeclared members do not
  change it, and it is read back from its own JSON, as the graph of any text is.
* If not, the faults that are reported are those of the value, one at each place, in the order of
  the places. -/
theorem validation_is_exact (v : Json) :
    ((∃ g, decode v = .ok g) ↔ IsWellTyped v) ∧
    (∀ g, decode v = .ok g ↔ g.IsReadFrom v) ∧
    (∀ g, decode v = .ok g →
      (∀ keep : List PlaceStep → Text → Bool,
        (∀ place, ∀ name ∈ declared place, keep place name = true) →
          decode (v.prune keep) = .ok g) ∧
      decode g.toJson = .ok g) ∧
    (∀ text, decode (Diagram.graph text).toJson = .ok (Diagram.graph text)) ∧
    ∀ faults, decode v = .error faults →
      faults ≠ [] ∧ (∀ f, f ∈ faults ↔ HasFault v f) ∧
      (faults.map Fault.place).Nodup ∧ Fault.IsAscending faults := by
  refine ⟨isOk_iff.symm.trans isOk_decode_iff, fun g => decode_eq_ok_iff, ?_,
    fun text => decode_toJson _, ?_⟩
  · intro g hok
    exact ⟨fun keep hkeep => keeps_decode hkeep v g hok, decode_toJson g⟩
  · intro faults herror
    have hfaults : (decode v).faults = faults := by rw [herror]; rfl
    have hreason := isReasoned_decode v
    have hascending := isAscending_faults_decode v
    rw [IsReasoned, hfaults, herror] at hreason
    rw [hfaults] at hascending
    refine ⟨?_, ?_, Fault.nodup_place_of_isAscending hascending, hascending⟩
    · exact fun hnil => absurd (hreason.mpr hnil) Bool.false_ne_true
    · intro f
      rw [← hfaults]
      exact mem_faults_decode_iff

/-- A graph of one node, with a title and a colour. -/
def withUndeclaredMembers : Json :=
  .object [("title".toText, .bool true),
    ("nodes".toText, .array [.object [("id".toText, .string "A".toText),
      ("colour".toText, .object [("id".toText, .null)]), ("label".toText, .string "A".toText)]])]

/-- An edge without a target and with a number for a label, beside nodes that are no array. -/
def withThreeFaults : Json :=
  .object [("edges".toText, .array [.object [("source_id".toText, .string "A".toText),
      ("connector_type".toText, .string "-->".toText), ("label".toText, .ofNat 1)]]),
    ("nodes".toText, .null)]

/-- The title and the colour are left out, and the graph is the same.  The three faults are reported
with the nodes first, although the edges are written first. -/
theorem titles_do_not_count_and_faults_are_sorted :
    decode (withUndeclaredMembers.prune fun place name => (declared place).contains name)
      = .ok ⟨[⟨"A".toText, "A".toText⟩], []⟩ ∧
    ∃ faults, decode withThreeFaults = .error faults ∧
      faults.map Fault.place = [
        [.field "nodes".toText],
        [.field "edges".toText, .index 0, .field "target_id".toText],
        [.field "edges".toText, .index 0, .field "label".toText]] ∧
      (faults.map Fault.place).Nodup ∧ Fault.IsAscending faults := by
  refine ⟨?_, _, rfl, rfl, ?_⟩
  · refine ((validation_is_exact withUndeclaredMembers).2.2.1 _ rfl).1 _ ?_
    intro place name hname
    exact List.contains_iff_mem.mpr hname
  · exact ((validation_is_exact withThreeFaults).2.2.2.2 _ rfl).2.2

end Graph

end ArrowNotation
