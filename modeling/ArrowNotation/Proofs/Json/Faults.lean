/-
# The faults of a decoded value

Decoding goes on after a fault and collects what it finds.  This module says what the parts of a
decoder do to the list of faults, so that the list of a whole value is known from the lists of its
parts.

* **Membership.**  Whatever is decoded field by field, or item by item, has the faults of the fields
  or items one after the other, each with one step more in front of its place.
* **Order.**  If the steps go up, in the order of declaration or of numbers, and the faults below
  each step stand in the order of their places, so do all of them (`Fault.isAscending_flatMap`).
  In that order no place is before itself, so no place has two faults
  (`Fault.nodup_place_of_isAscending`).
* **Values.**  Parts that have a value together are parts that each have one, and where there is no
  value there is a fault (`Decoded.IsReasoned`).
-/
import ArrowNotation.Proofs.Json.Reading
import Mathlib.Data.List.Nodup

namespace ArrowNotation

/-! ## 1. The order of places -/

/-- The names of the fields of a shape, in the order in which they are declared. -/
def Shape.fieldNames : Shape → List Text
  | node => ["id".toText, "label".toText]
  | edge => ["source_id".toText, "target_id".toText, "connector_type".toText, "label".toText]
  | graph => ["nodes".toText, "edges".toText]
  | textRequest => ["text".toText]
  | lineRequest => ["line".toText]

theorem Shape.nodup_fieldNames (shape : Shape) : shape.fieldNames.Nodup := by
  cases shape <;> decide

/-- One step comes before another: it leads to a field that the same shape declares before, or to an
item with a smaller number. -/
inductive PlaceStep.Before : PlaceStep → PlaceStep → Prop
  | field {shape : Shape} {name other : Text} (h : [name, other].Sublist shape.fieldNames) :
      Before (field name) (field other)
  | index {i k : Nat} (h : i < k) : Before (index i) (index k)

theorem Shape.pairwise_fieldNames (shape : Shape) :
    (shape.fieldNames.map PlaceStep.field).Pairwise PlaceStep.Before :=
  List.pairwise_map.mpr (List.pairwise_iff_forall_sublist.mpr PlaceStep.Before.field)

theorem PlaceStep.not_before_self (step : PlaceStep) : ¬ step.Before step := by
  intro h
  cases h with
  | @field shape name _ h => exact List.nodup_iff_sublist.mp shape.nodup_fieldNames name h
  | index h => exact absurd h (Nat.lt_irrefl _)

namespace Fault

/-- Faults in the order of their places: where the ways to two of them part, the first takes the
step that comes before. -/
def IsAscending (faults : List Fault) : Prop :=
  faults.Pairwise fun f f' => List.Lex PlaceStep.Before f.place f'.place

theorem isAscending_nil : IsAscending [] := List.Pairwise.nil

theorem isAscending_singleton (f : Fault) : IsAscending [f] := List.pairwise_singleton _ f

/-- **Faults in order are at different places.** -/
theorem nodup_place_of_isAscending {faults : List Fault} (h : IsAscending faults) :
    (faults.map place).Nodup := by
  refine List.pairwise_map.mpr (h.imp ?_)
  intro f f' hlex heq
  rw [heq] at hlex
  exact List.lex_irrefl PlaceStep.not_before_self _ hlex

/-! ## 2. Parts one after the other -/

/-- Faults that stand in order under one step. -/
def AscendsUnder (step : PlaceStep) (faults : List Fault) : Prop :=
  ∃ inner, IsAscending inner ∧ inner.map (under step) = faults

/-- One step more in front of all places does not change their order. -/
theorem AscendsUnder.isAscending {step : PlaceStep} {faults : List Fault}
    (h : AscendsUnder step faults) : IsAscending faults := by
  obtain ⟨inner, hinner, rfl⟩ := h
  exact List.pairwise_map.mpr (hinner.imp fun hlex => List.Lex.cons hlex)

theorem AscendsUnder.exists_place_eq_cons {step : PlaceStep} {faults : List Fault} {f : Fault}
    (h : AscendsUnder step faults) (hf : f ∈ faults) : ∃ place, f.place = step :: place := by
  obtain ⟨inner, -, rfl⟩ := h
  obtain ⟨g, -, rfl⟩ := List.mem_map.mp hf
  exact ⟨g.place, rfl⟩

/-- **Parts in order, each with its faults in order, have all faults in order.** -/
theorem isAscending_flatMap : ∀ {parts : List (PlaceStep × List Fault)},
    (parts.map Prod.fst).Pairwise PlaceStep.Before → (∀ part ∈ parts, AscendsUnder part.1 part.2) →
      IsAscending (parts.flatMap Prod.snd)
  | [], _, _ => isAscending_nil
  | part :: parts, hsteps, hparts => by
    rw [List.map_cons, List.pairwise_cons] at hsteps
    rw [List.forall_mem_cons] at hparts
    have hrest : IsAscending (parts.flatMap Prod.snd) := isAscending_flatMap hsteps.2 hparts.2
    refine List.pairwise_append.mpr ⟨hparts.1.isAscending, hrest, ?_⟩
    intro f hf f' hf'
    obtain ⟨other, hother, hf'⟩ := List.mem_flatMap.mp hf'
    obtain ⟨place, hplace⟩ := hparts.1.exists_place_eq_cons hf
    obtain ⟨place', hplace'⟩ := (hparts.2 other hother).exists_place_eq_cons hf'
    rw [hplace, hplace']
    exact List.Lex.rel (hsteps.1 other.1 (List.mem_map_of_mem hother))

end Fault

/-! ## 3. Results -/

namespace Decoded

variable {α β : Type}

/-- The faults that were found, none if there is a value. -/
def faults : Decoded α → List Fault
  | .ok _ => []
  | .error found => found

/-- A result that gives a reason: where there is no value, there is a fault. -/
def IsReasoned (d : Decoded α) : Prop := d.isOk = true ↔ d.faults = []

/-! ### Single faults -/

@[simp] theorem faults_ok (a : α) : faults (.ok a) = [] := rfl

@[simp] theorem faults_fault (kind : FaultKind) (v : Json) :
    (fault kind v : Decoded α).faults = [⟨kind, [], v⟩] := rfl

@[simp] theorem isOk_fault (kind : FaultKind) (v : Json) :
    (fault kind v : Decoded α).isOk = false := rfl

theorem isReasoned_ok (a : α) : IsReasoned (.ok a) := iff_of_true rfl rfl

theorem isReasoned_fault (kind : FaultKind) (v : Json) :
    IsReasoned (fault kind v : Decoded α) :=
  iff_of_false Bool.false_ne_true (List.cons_ne_nil _ _)

/-! ### One part -/

@[simp] theorem faults_map (f : α → β) (d : Decoded α) : faults (d.map f) = d.faults := by
  cases d <;> rfl

@[simp] theorem isOk_map (f : α → β) (d : Decoded α) :
    (Except.map f d : Decoded β).isOk = d.isOk := by
  cases d <;> rfl

@[simp] theorem faults_under (step : PlaceStep) (d : Decoded α) :
    (under step d).faults = d.faults.map (Fault.under step) := by
  cases d <;> rfl

@[simp] theorem isOk_under (step : PlaceStep) (d : Decoded α) : (under step d).isOk = d.isOk := by
  cases d <;> rfl

theorem IsReasoned.map {d : Decoded α} (h : IsReasoned d) (f : α → β) : IsReasoned (d.map f) := by
  rwa [IsReasoned, isOk_map, faults_map]

theorem IsReasoned.under {d : Decoded α} (h : IsReasoned d) (step : PlaceStep) :
    IsReasoned (under step d) := by
  rwa [IsReasoned, isOk_under, faults_under, List.map_eq_nil_iff]

/-! ### Two parts -/

@[simp] theorem faults_both (d : Decoded α) (e : Decoded β) :
    (both d e).faults = d.faults ++ e.faults := by
  cases d <;> cases e <;> simp [both, faults]

@[simp] theorem isOk_both (d : Decoded α) (e : Decoded β) :
    (both d e).isOk = (d.isOk && e.isOk) := by
  cases d <;> cases e <;> rfl

theorem IsReasoned.both {d : Decoded α} {e : Decoded β} (hd : IsReasoned d) (he : IsReasoned e) :
    IsReasoned (both d e) := by
  rw [IsReasoned, isOk_both, faults_both, Bool.and_eq_true, List.append_eq_nil_iff]
  exact and_congr hd he

/-! ### Items -/

section Items

variable {decode : Json → Decoded α}

/-- **The faults of a list are those of its items**, by number. -/
theorem faults_items : ∀ (i : Nat) (values : List Json),
    (items decode i values).faults
      = (values.zipIdx i).flatMap fun p => (decode p.1).faults.map (Fault.under (.index p.2))
  | _, [] => rfl
  | i, v :: values => by
    rw [items, faults_map, faults_both, faults_under, faults_items (i + 1) values,
      List.zipIdx_cons, List.flatMap_cons]

theorem isOk_items : ∀ (i : Nat) (values : List Json),
    (items decode i values).isOk = values.all fun v => (decode v).isOk
  | _, [] => rfl
  | i, v :: values => by
    rw [items, isOk_map, isOk_both, isOk_under, isOk_items (i + 1) values, List.all_cons]

theorem isReasoned_items (h : ∀ v, IsReasoned (decode v)) : ∀ (i : Nat) (values : List Json),
    IsReasoned (items decode i values)
  | _, [] => isReasoned_ok []
  | i, v :: values =>
    (((h v).under (.index i)).both (isReasoned_items h (i + 1) values)).map _

theorem mem_faults_items_iff {values : List Json} {f : Fault} :
    f ∈ (items decode 0 values).faults ↔
      ∃ i v, values[i]? = some v ∧ ∃ inner ∈ (decode v).faults, inner.under (.index i) = f := by
  simp only [faults_items, List.mem_flatMap, List.mem_map, List.mem_zipIdx_iff_getElem?]
  constructor
  · rintro ⟨p, hp, hf⟩
    exact ⟨p.2, p.1, hp, hf⟩
  · rintro ⟨i, v, hv, hf⟩
    exact ⟨(v, i), hv, hf⟩

/-- **Items are read in order.** -/
theorem isAscending_items (h : ∀ v, Fault.IsAscending (decode v).faults) (i : Nat)
    (values : List Json) : Fault.IsAscending (items decode i values).faults := by
  have hparts : (items decode i values).faults
      = ((values.zipIdx i).map fun p =>
          (PlaceStep.index p.2, (decode p.1).faults.map (Fault.under (.index p.2)))).flatMap
            Prod.snd := by
    rw [faults_items, List.flatMap_map]
  have hnumbers : ((values.zipIdx i).map Prod.snd).Pairwise (· < ·) := by
    rw [List.zipIdx_map_snd]
    exact List.pairwise_lt_range'
  rw [hparts]
  refine Fault.isAscending_flatMap ?_ ?_
  · rw [List.map_map]
    exact List.pairwise_map.mpr ((List.pairwise_map.mp hnumbers).imp PlaceStep.Before.index)
  · intro part hpart
    obtain ⟨p, -, rfl⟩ := List.mem_map.mp hpart
    exact ⟨(decode p.1).faults, h p.1, rfl⟩

end Items

end Decoded

/-! ## 4. Fields -/

section Fields

open Decoded

variable {α : Type} {name : Text} {decode : Json → Decoded α} {members : List (Text × Json)}

/-- **What is wrong at a field that must be there**: it is missing, or its value has a fault. -/
theorem mem_faults_required_iff {f : Fault} :
    f ∈ (required name decode members).faults ↔
      (Json.member? name members = none ∧ f = ⟨.missing, [.field name], .object members⟩) ∨
      ∃ v, Json.member? name members = some v ∧
        ∃ inner ∈ (decode v).faults, inner.under (.field name) = f := by
  rw [required_eq, faults_under]
  cases Json.member? name members <;> simp [Fault.under]

/-- **What is wrong at a field that may be absent**: its value has a fault. -/
theorem mem_faults_optional_iff {absent : α} {f : Fault} :
    f ∈ (optional name absent decode members).faults ↔
      ∃ v, Json.member? name members = some v ∧
        ∃ inner ∈ (decode v).faults, inner.under (.field name) = f := by
  rw [optional_eq, faults_under]
  cases Json.member? name members <;> simp

theorem isOk_required_iff :
    (required name decode members).isOk = true ↔
      ∃ v, Json.member? name members = some v ∧ (decode v).isOk = true := by
  rw [required_eq, isOk_under]
  cases Json.member? name members <;> simp

theorem isOk_optional_iff {absent : α} :
    (optional name absent decode members).isOk = true ↔
      ∀ v, Json.member? name members = some v → (decode v).isOk = true := by
  rw [optional_eq, isOk_under]
  cases Json.member? name members with
  | none => exact iff_of_true rfl (by simp)
  | some v => simp

theorem isReasoned_required (h : ∀ v, IsReasoned (decode v)) :
    IsReasoned (required name decode members) := by
  rw [required_eq]
  refine IsReasoned.under ?_ _
  cases Json.member? name members with
  | none => exact isReasoned_fault _ _
  | some v => exact h v

theorem isReasoned_optional (h : ∀ v, IsReasoned (decode v)) {absent : α} :
    IsReasoned (optional name absent decode members) := by
  rw [optional_eq]
  refine IsReasoned.under ?_ _
  cases Json.member? name members with
  | none => exact isReasoned_ok _
  | some v => exact h v

theorem ascendsUnder_required (h : ∀ v, Fault.IsAscending (decode v).faults) :
    Fault.AscendsUnder (.field name) (required name decode members).faults := by
  rw [required_eq, faults_under]
  refine ⟨_, ?_, rfl⟩
  cases Json.member? name members with
  | none => exact Fault.isAscending_singleton _
  | some v => exact h v

theorem ascendsUnder_optional (h : ∀ v, Fault.IsAscending (decode v).faults) {absent : α} :
    Fault.AscendsUnder (.field name) (optional name absent decode members).faults := by
  rw [optional_eq, faults_under]
  refine ⟨_, ?_, rfl⟩
  cases Json.member? name members with
  | none => exact Fault.isAscending_nil
  | some v => exact h v

end Fields

/-! ## 5. Arrays -/

section Arrays

open Decoded

variable {α : Type} {decode : Json → Decoded α}

theorem isOk_decodeArray_iff {v : Json} :
    (decodeArray decode v).isOk = true ↔
      ∃ values, v = .array values ∧ ∀ item ∈ values, (decode item).isOk = true := by
  cases v with
  | array values => simp [decodeArray, isOk_items]
  | _ => simp [decodeArray]

/-- **What is wrong with an array**: it is none, or one of its items has a fault. -/
theorem mem_faults_decodeArray_iff {v : Json} {f : Fault} :
    f ∈ (decodeArray decode v).faults ↔
      ((∀ values, v ≠ .array values) ∧ f = ⟨.notArray, [], v⟩) ∨
      ∃ values i item, v = .array values ∧ values[i]? = some item ∧
        ∃ inner ∈ (decode item).faults, inner.under (.index i) = f := by
  cases v with
  | array values => simp [decodeArray, mem_faults_items_iff]
  | _ => simp [decodeArray]

theorem isReasoned_decodeArray (h : ∀ v, IsReasoned (decode v)) (v : Json) :
    IsReasoned (decodeArray decode v) := by
  cases v with
  | array values => exact isReasoned_items h 0 values
  | _ => exact isReasoned_fault _ _

theorem isAscending_decodeArray (h : ∀ v, Fault.IsAscending (decode v).faults) (v : Json) :
    Fault.IsAscending (decodeArray decode v).faults := by
  cases v with
  | array values => exact isAscending_items h 0 values
  | _ => exact Fault.isAscending_singleton _

end Arrays

/-! ## 6. Values read in one piece -/

/-- A decoder that reads a value in one piece: it gives what the value stands for, or it finds one
fault, of the value itself. -/
def Decoded.IsPlain {α : Type} (decode : Json → Decoded α) (kind : FaultKind) : Prop :=
  ∀ v, (decode v).isOk = true ∨ decode v = fault kind v

namespace Decoded.IsPlain

variable {α : Type} {decode : Json → Decoded α} {kind : FaultKind} {v : Json}

theorem faults_eq (h : IsPlain decode kind) (v : Json) :
    (decode v).faults = if (decode v).isOk = true then [] else [⟨kind, [], v⟩] := by
  rcases h v with hok | hfault
  · obtain ⟨a, ha⟩ := isOk_iff.mp hok
    rw [if_pos hok, ha, faults_ok]
  · rw [hfault, if_neg (by simp), faults_fault]

/-- **Such a decoder finds a fault where it gives nothing.** -/
theorem mem_faults_iff (h : IsPlain decode kind) {f : Fault} :
    f ∈ (decode v).faults ↔ ¬ (decode v).isOk = true ∧ f = ⟨kind, [], v⟩ := by
  rw [h.faults_eq]
  split <;> simp_all

theorem isReasoned (h : IsPlain decode kind) (v : Json) : IsReasoned (decode v) := by
  rw [IsReasoned, h.faults_eq]
  split <;> simp_all

/-- Seen from one step further out, the fault has that step as its place. -/
theorem exists_mem_faults_iff (h : IsPlain decode kind) {step : PlaceStep} {f : Fault} :
    (∃ inner ∈ (decode v).faults, inner.under step = f) ↔
      ¬ (decode v).isOk = true ∧ f = ⟨kind, [step], v⟩ := by
  constructor
  · rintro ⟨inner, hinner, rfl⟩
    obtain ⟨hbad, rfl⟩ := h.mem_faults_iff.mp hinner
    exact ⟨hbad, rfl⟩
  · rintro ⟨hbad, rfl⟩
    exact ⟨⟨kind, [], v⟩, h.mem_faults_iff.mpr ⟨hbad, rfl⟩, rfl⟩

theorem isAscending (h : IsPlain decode kind) (v : Json) : Fault.IsAscending (decode v).faults := by
  rw [h.faults_eq]
  split
  · exact Fault.isAscending_nil
  · exact Fault.isAscending_singleton _

end Decoded.IsPlain

theorem isPlain_decodeString : Decoded.IsPlain decodeString .notString := by
  intro v
  cases v with
  | string t => exact Or.inl rfl
  | _ => exact Or.inr rfl

theorem isOk_decodeString_iff {v : Json} :
    (decodeString v).isOk = true ↔ ∃ t, v = .string t :=
  Decoded.isOk_iff.trans (exists_congr fun _ => decodeString_eq_ok_iff)

theorem isPlain_decodeString? : Decoded.IsPlain decodeString? .notString := by
  intro v
  cases v with
  | string t => exact Or.inl rfl
  | null => exact Or.inl rfl
  | _ => exact Or.inr rfl

theorem isOk_decodeString?_iff {v : Json} :
    (decodeString? v).isOk = true ↔ v = .null ∨ ∃ t, v = .string t := by
  cases v <;>
    simp [decodeString?, decodeString, Except.isOk, Except.toBool, Decoded.fault, Except.map]

theorem Connector.isPlain_decode : Decoded.IsPlain Connector.decode .notConnector := by
  intro v
  cases v with
  | string t =>
    rw [Connector.decode_string]
    cases Connector.ofToken? t with
    | some c => exact Or.inl rfl
    | none => exact Or.inr rfl
  | _ => exact Or.inr rfl

theorem Connector.isOk_decode_iff {v : Json} :
    (Connector.decode v).isOk = true ↔ ∃ c : Connector, v = .string c.token :=
  Decoded.isOk_iff.trans (exists_congr fun _ => Connector.decode_eq_ok_iff)

end ArrowNotation
