/-
# Members that no field asks for

A value may have members that its decoder does not ask for, in any object at any depth.  Taking some
of them out is a walk over the whole value, told at each place which names to keep
(`Json.prune`).

A decoder is not disturbed by it if the names that it asks for are kept: what is found under such a
name is the old value, pruned in its turn (`Json.member?_pruneMembers`).  So what a value was
decoded as is what the pruned value is decoded as, by one lemma for each kind of field and one for
arrays.
-/
import ArrowNotation.Proofs.Json.Reading

namespace ArrowNotation

namespace Json

/-! ## 1. The walk -/

mutual

/-- A value without the members, at any depth, whose names are not to be kept at their place. -/
def prune (keep : List PlaceStep → Text → Bool) : Json → Json
  | null => null
  | bool b => bool b
  | number n => number n
  | string t => string t
  | array items => array (pruneItems keep 0 items)
  | object members => object (pruneMembers keep members)

/-- The items of an array, from a number on. -/
def pruneItems (keep : List PlaceStep → Text → Bool) (i : Nat) : List Json → List Json
  | [] => []
  | v :: items =>
    prune (fun place => keep (.index i :: place)) v :: pruneItems keep (i + 1) items

/-- The members of an object. -/
def pruneMembers (keep : List PlaceStep → Text → Bool) : List (Text × Json) → List (Text × Json)
  | [] => []
  | (name, v) :: members =>
    if keep [] name then
      (name, prune (fun place => keep (.field name :: place)) v) :: pruneMembers keep members
    else pruneMembers keep members

end

variable {keep : List PlaceStep → Text → Bool}

/-- **Under a name that is kept stands the old value, pruned.** -/
theorem member?_pruneMembers {name : Text} (hname : keep [] name = true) :
    ∀ members : List (Text × Json),
      member? name (pruneMembers keep members)
        = (member? name members).map (prune fun place => keep (.field name :: place))
  | [] => rfl
  | (other, v) :: members => by
    have ih := member?_pruneMembers hname members
    by_cases h : other = name
    · subst h
      simp [pruneMembers, hname, member?]
    · have hskip : member? name ((other, v) :: members) = member? name members := by
        simp [member?, h]
      rw [hskip, ← ih, pruneMembers]
      split
      · simp [member?, h]
      · rfl

end Json

/-! ## 2. Decoders -/

/-- A decoder gives the same for a value and for the value pruned, if it gives anything. -/
def Decoded.Keeps {α : Type} (decode : Json → Decoded α) (keep : List PlaceStep → Text → Bool) :
    Prop :=
  ∀ v a, decode v = .ok a → decode (v.prune keep) = .ok a

namespace Decoded

variable {α : Type} {decode : Json → Decoded α} {keep : List PlaceStep → Text → Bool}

theorem keeps_of_prune_eq (h : ∀ v a, decode v = .ok a → v.prune keep = v) : Keeps decode keep := by
  intro v a hok
  rw [h v a hok, hok]

theorem keeps_decodeString : Keeps decodeString keep := by
  refine keeps_of_prune_eq ?_
  intro v t hok
  obtain rfl := decodeString_eq_ok_iff.mp hok
  rw [Json.prune]

theorem keeps_decodeString? : Keeps decodeString? keep := by
  refine keeps_of_prune_eq ?_
  intro v t hok
  obtain rfl := decodeString?_eq_ok_iff.mp hok
  cases t with
  | none => rw [Json.ofText?, Json.prune]
  | some t => rw [Json.ofText?, Json.prune]

theorem keeps_decodeConnector : Keeps Connector.decode keep := by
  refine keeps_of_prune_eq ?_
  intro v c hok
  obtain rfl := Connector.decode_eq_ok_iff.mp hok
  rw [Json.prune]

/-- **Pruned items are read as before.** -/
theorem forall₂_pruneItems (h : ∀ i, Keeps decode fun place => keep (.index i :: place)) :
    ∀ (i : Nat) {values : List Json} {as : List α},
      List.Forall₂ (fun v a => decode v = .ok a) values as →
        List.Forall₂ (fun v a => decode v = .ok a) (Json.pruneItems keep i values) as
  | _, _, _, .nil => by
    rw [Json.pruneItems]
    exact .nil
  | i, _, _, .cons hfirst hrest => by
    rw [Json.pruneItems]
    exact .cons (h i _ _ hfirst) (forall₂_pruneItems h (i + 1) hrest)

theorem keeps_decodeArray (h : ∀ i, Keeps decode fun place => keep (.index i :: place)) :
    Keeps (decodeArray decode) keep := by
  intro v as hok
  obtain ⟨values, rfl, hitems⟩ := decodeArray_eq_ok_iff.mp hok
  rw [Json.prune]
  exact decodeArray_eq_ok_iff.mpr ⟨_, rfl, forall₂_pruneItems h 0 hitems⟩

section Fields

variable {name : Text} {members : List (Text × Json)} {a : α}
  (hname : keep [] name = true) (h : Keeps decode fun place => keep (.field name :: place))

include hname h

/-- **A field that must be there is read as before, if its name is kept.** -/
theorem required_pruneMembers (hok : required name decode members = .ok a) :
    required name decode (Json.pruneMembers keep members) = .ok a := by
  obtain ⟨w, hw, hread⟩ := required_eq_ok_iff.mp hok
  refine required_eq_ok_iff.mpr ⟨_, ?_, h w a hread⟩
  rw [Json.member?_pruneMembers hname, hw]
  rfl

/-- **And so is a field that may be absent.** -/
theorem optional_pruneMembers {absent : α} (hok : optional name absent decode members = .ok a) :
    optional name absent decode (Json.pruneMembers keep members) = .ok a := by
  rw [optional_eq, under_eq_ok_iff] at hok ⊢
  rw [Json.member?_pruneMembers hname]
  cases hm : Json.member? name members with
  | none => rwa [hm] at hok
  | some v =>
    rw [hm] at hok
    exact h v a hok

end Fields

end Decoded

end ArrowNotation
