/-
# What is read from a JSON value

A decoder is made of parts: of fields that must be there and fields that may be absent, of arrays,
and of strings and connectors at the bottom.  For each part this module says from which values it
gives a result and which result that is.  Where and why there is none is said in `Json/Faults`.
-/
import ArrowNotation.Json.Decode
import Mathlib.Data.List.Forall2

namespace ArrowNotation

namespace Decoded

variable {α β : Type}

/-! ## 1. Parts put together -/

theorem isOk_iff {d : Decoded α} : d.isOk = true ↔ ∃ a, d = .ok a := by
  cases d <;> simp [Except.isOk, Except.toBool]

theorem map_eq_ok_iff {f : α → β} {d : Decoded α} {b : β} :
    d.map f = .ok b ↔ ∃ a, d = .ok a ∧ f a = b := by
  cases d <;> simp [Except.map]

theorem under_eq_ok_iff {step : PlaceStep} {d : Decoded α} {a : α} :
    under step d = .ok a ↔ d = .ok a := by
  cases d <;> simp [under]

theorem both_eq_ok_iff {d : Decoded α} {e : Decoded β} {p : α × β} :
    both d e = .ok p ↔ d = .ok p.1 ∧ e = .ok p.2 := by
  cases d <;> cases e <;> simp [both, Prod.ext_iff]

/-- **Items are read one by one.** -/
theorem items_eq_ok_iff {decode : Json → Decoded α} : ∀ {i : Nat} {values : List Json} {as : List α},
    items decode i values = .ok as ↔ List.Forall₂ (fun v a => decode v = .ok a) values as
  | _, [], as => by
    rw [items, List.forall₂_nil_left_iff, Except.ok.injEq]
    exact eq_comm
  | i, v :: values, as => by
    rw [items, map_eq_ok_iff, List.forall₂_cons_left_iff]
    constructor
    · rintro ⟨⟨a, rest⟩, hboth, rfl⟩
      obtain ⟨hfirst, hrest⟩ := both_eq_ok_iff.mp hboth
      exact ⟨a, rest, under_eq_ok_iff.mp hfirst, items_eq_ok_iff.mp hrest, rfl⟩
    · rintro ⟨a, rest, hfirst, hrest, rfl⟩
      exact ⟨(a, rest), both_eq_ok_iff.mpr
        ⟨under_eq_ok_iff.mpr hfirst, items_eq_ok_iff.mpr hrest⟩, rfl⟩

end Decoded

/-! ## 2. Fields -/

section Fields

open Decoded

variable {α : Type} {name : Text} {decode : Json → Decoded α} {members : List (Text × Json)} {a : α}

theorem required_eq (name : Text) (decode : Json → Decoded α) (members : List (Text × Json)) :
    required name decode members
      = under (.field name)
          ((Json.member? name members).elim (fault .missing (.object members)) decode) := by
  unfold required
  cases Json.member? name members <;> rfl

theorem optional_eq (name : Text) (absent : α) (decode : Json → Decoded α)
    (members : List (Text × Json)) :
    optional name absent decode members
      = under (.field name) ((Json.member? name members).elim (.ok absent) decode) := by
  unfold optional
  cases Json.member? name members <;> rfl

/-- **A field that must be there is read from its value.** -/
theorem required_eq_ok_iff :
    required name decode members = .ok a ↔
      ∃ w, Json.member? name members = some w ∧ decode w = .ok a := by
  rw [required_eq, under_eq_ok_iff]
  cases Json.member? name members <;> simp [fault]

/-- **A field that may be absent is read as it would be from any value that stands for its
absence.** -/
theorem optional_eq_ok_iff {absent : α} {default : Json} (hdefault : decode default = .ok absent) :
    optional name absent decode members = .ok a ↔
      decode ((Json.member? name members).getD default) = .ok a := by
  rw [optional_eq, under_eq_ok_iff]
  cases Json.member? name members with
  | none => rw [Option.elim_none, Option.getD_none, hdefault]
  | some w => rw [Option.elim_some, Option.getD_some]

end Fields

/-! ## 3. Values -/

theorem decodeString_eq_ok_iff {v : Json} {t : Text} : decodeString v = .ok t ↔ v = .string t := by
  cases v <;> simp [decodeString, Decoded.fault]

theorem decodeString?_eq_ok_iff {v : Json} {t : Option Text} :
    decodeString? v = .ok t ↔ v = .ofText? t := by
  cases v <;> cases t <;>
    simp [decodeString?, decodeString, Decoded.fault, Except.map, Json.ofText?]

theorem Connector.decode_string (t : Text) :
    Connector.decode (.string t)
      = (Connector.ofToken? t).elim (Decoded.fault .notConnector (.string t)) Except.ok := by
  simp only [Connector.decode]
  cases Connector.ofToken? t <;> rfl

theorem Connector.decode_token (c : Connector) : Connector.decode (.string c.token) = .ok c := by
  rw [Connector.decode_string, Connector.ofToken?_token]
  rfl

/-- **A connector is read from its token and from nothing else.** -/
theorem Connector.decode_eq_ok_iff {v : Json} {c : Connector} :
    Connector.decode v = .ok c ↔ v = .string c.token := by
  constructor
  · intro h
    cases v with
    | string t =>
      rw [Connector.decode_string] at h
      cases hc : Connector.ofToken? t with
      | some d =>
        rw [hc] at h
        obtain rfl : d = c := Except.ok.inj h
        rw [Connector.token_of_ofToken? hc]
      | none =>
        rw [hc] at h
        exact absurd h (by simp [Decoded.fault])
    | _ => exact absurd h (by simp [Connector.decode, Decoded.fault])
  · rintro rfl
    exact Connector.decode_token c

/-- **An array is read item by item.** -/
theorem decodeArray_eq_ok_iff {α : Type} {decode : Json → Decoded α} {v : Json} {as : List α} :
    decodeArray decode v = .ok as ↔
      ∃ values, v = .array values ∧ List.Forall₂ (fun w a => decode w = .ok a) values as := by
  cases v with
  | array values => simp [decodeArray, Decoded.items_eq_ok_iff]
  | _ => simp [decodeArray, Decoded.fault]

end ArrowNotation
