/-
# Keys are in lower case

A registry keeps a node under the lower-case text of its identifier, and a lookup puts the
identifier that is asked for in lower case as well.  Lower case is final (`Text.lower_lower`), so it
makes no difference whether one asks for an identifier or for its key, and to register the key of an
identifier that is registered is only a repetition.
-/
import ArrowNotation.Proofs.Registry.Mentions
import ArrowNotation.Proofs.Text.LetterCase

namespace ArrowNotation

namespace Registry

/-! ## 1. Lookups -/

@[simp] theorem node?_lower (r : Registry) (id : Text) : r.node? (Text.lower id) = r.node? id := by
  rw [node?, node?, Text.lower_lower]

@[simp] theorem contains_lower (r : Registry) (id : Text) :
    r.contains (Text.lower id) = r.contains id := by
  rw [contains, contains, node?_lower]

/-! ## 2. Registrations -/

/-- **What has been registered is found** under the spelling that the registration answered. -/
theorem find?_register (r : Registry) (id : Text) :
    (r.register id).2.find? id = some (r.register id).1 := by
  cases h : r.find? id with
  | some registered => rw [ids_register_of_some h, h]
  | none =>
    obtain ⟨hid, hids⟩ := ids_register_of_none h
    rw [find?_eq] at h
    rw [find?_eq, hids, hid, List.find?_append, h, Option.none_or]
    exact List.find?_cons_of_pos (by simp)

/-- What is found stays found, whatever is registered afterwards. -/
theorem find?_registerAll_of_some {r : Registry} {id registered : Text}
    (h : r.find? id = some registered) (others : List Text) :
    (r.registerAll others).find? id = some registered := by
  rw [find?_eq] at h
  rw [find?_eq, ids_registerAll, List.find?_append, h, Option.some_or]

/-- **To register what has been registered is a repetition**, also in lower case, and also when
other identifiers have come in between. -/
theorem register_lower_registerAll (r : Registry) (id : Text) (others : List Text) :
    ((r.register id).2.registerAll others).register (Text.lower id)
      = ((r.register id).1, (r.register id).2.registerAll others) := by
  have hfound : ((r.register id).2.registerAll others).find? (Text.lower id)
      = some (r.register id).1 := by
    rw [find?, node?_lower]
    exact find?_registerAll_of_some (find?_register r id) others
  exact ids_register_of_some hfound

end Registry

@[simp] theorem Graph.node?_lower (g : Graph) (id : Text) :
    g.node? (Text.lower id) = g.node? id := by
  simp only [Graph.node?, Text.lower_lower]

/-! ## 3. All together -/

/-- **Keys are stable.**  Putting a text in lower case twice is putting it in lower case once.  So
in every registry an identifier and its key have the same node and are both contained or both not.
Once the identifier has been registered, and whatever has been registered since, the registration of
its key gives the same answer and changes nothing.  In every graph an identifier and its key lead to
the same node. -/
theorem Registry.keys_are_stable :
    (∀ t : Text, Text.lower (Text.lower t) = Text.lower t) ∧
    (∀ (r : Registry) (id : Text),
      r.node? (Text.lower id) = r.node? id ∧
      r.contains (Text.lower id) = r.contains id ∧
      ∀ others : List Text, ((r.register id).2.registerAll others).register (Text.lower id)
        = ((r.register id).1, (r.register id).2.registerAll others)) ∧
    (∀ (g : Graph) (id : Text), g.node? (Text.lower id) = g.node? id) :=
  ⟨Text.lower_lower,
    fun r id => ⟨r.node?_lower id, r.contains_lower id, r.register_lower_registerAll id⟩,
    Graph.node?_lower⟩

end ArrowNotation
