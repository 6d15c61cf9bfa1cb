/-
# Registries of identifiers

A registry keeps the identifiers it is given in the order of their first mention.  Two
identifiers with the same lower-case text are one: the spelling seen first is the one that
stays.

It holds every node twice: in an index, where it is found under its key, and in a list, which
gives the order.  The index and the list always say the same, and so does each node, which is
labelled with its own spelling; both facts are part of the type, so a registration has to keep
them.
-/
import ArrowNotation.Graph.Basic

namespace ArrowNotation

/-- The nodes of the identifiers mentioned so far: an index that finds them by the lower-case
text of their identifiers, and a list in the order of their first mention. -/
structure Registry where
  index : List (Text × Node)
  nodes : List Node
  index_eq : index = nodes.map fun node => (Text.lower node.id, node)
  label_eq : ∀ node ∈ nodes, node.label = node.id

namespace Registry

def empty : Registry := ⟨[], [], rfl, by simp⟩

/-! ## 1. Questions -/

/-- The node that the index has under a key. -/
def atKey? (r : Registry) (key : Text) : Option Node :=
  (r.index.find? fun entry => entry.1 = key).map Prod.snd

/-- The node of the registered spelling of an identifier. -/
def node? (r : Registry) (id : Text) : Option Node := r.atKey? (Text.lower id)

/-- The registered spelling of an identifier. -/
def find? (r : Registry) (id : Text) : Option Text := (r.node? id).map Node.id

/-- Whether an identifier is registered, letter case aside. -/
def contains (r : Registry) (id : Text) : Bool := (r.node? id).isSome

/-- How many identifiers are registered. -/
def size (r : Registry) : Nat := r.nodes.length

def ids (r : Registry) : List Text := r.nodes.map Node.id

/-! ## 2. Registration -/

/-- The node of an identifier, which is labelled with its own spelling. -/
def node (id : Text) : Node := ⟨id, id⟩

/-- The registry with a node put at the end, in the index under the given key. -/
def push (r : Registry) (id key : Text) (hkey : key = Text.lower id) : Registry where
  index := r.index ++ [(key, node id)]
  nodes := r.nodes ++ [node id]
  index_eq := by simp [r.index_eq, hkey, node]
  label_eq := by
    intro n hn
    rcases List.mem_append.mp hn with hn | hn
    · exact r.label_eq n hn
    · obtain rfl := List.mem_singleton.mp hn
      rfl

/-- The registered spelling of an identifier, which is its own if it was not registered before,
and the registry that holds it. -/
def register (r : Registry) (id : Text) : Text × Registry :=
  let key := Text.lower id
  match r.atKey? key with
  | some registered => (registered.id, r)
  | none => (id, r.push id key rfl)

/-! ## 3. Through the list of identifiers -/

@[simp] theorem ids_empty : empty.ids = [] := rfl

@[simp] theorem length_ids (r : Registry) : r.ids.length = r.size := by simp [ids, size]

@[simp] theorem ids_push (r : Registry) (id key : Text) (hkey : key = Text.lower id) :
    (r.push id key hkey).ids = r.ids ++ [id] := by simp [ids, push, node]

/-- **The nodes are those of the identifiers.** -/
theorem nodes_eq_map_ids (r : Registry) : r.nodes = r.ids.map node := by
  rw [ids, List.map_map]
  conv => lhs; rw [← List.map_id r.nodes]
  refine List.map_congr_left ?_
  rintro ⟨id, label⟩ hn
  obtain rfl : label = id := r.label_eq _ hn
  rfl

/-- **The index finds the first node with a key**, which the list could be searched for as
well. -/
theorem node?_eq_find?_nodes (r : Registry) (id : Text) :
    r.node? id = r.nodes.find? fun node => Text.lower node.id = Text.lower id := by
  rw [node?, atKey?, r.index_eq, List.find?_map, Option.map_map]
  exact Option.map_id'

/-- **The registered spelling is the first identifier with the same lower-case text.** -/
theorem find?_eq (r : Registry) (id : Text) :
    r.find? id = r.ids.find? fun x => Text.lower x = Text.lower id := by
  rw [find?, node?_eq_find?_nodes, ids, List.find?_map]
  rfl

/-- The node that is found is that of the registered spelling. -/
theorem node?_eq_map_find? (r : Registry) (id : Text) : r.node? id = (r.find? id).map node := by
  rw [find?_eq, node?_eq_find?_nodes, nodes_eq_map_ids, List.find?_map]
  rfl

theorem ids_register_of_some {r : Registry} {id registered : Text}
    (h : r.find? id = some registered) : r.register id = (registered, r) := by
  obtain ⟨n, hn, rfl⟩ := Option.map_eq_some_iff.mp h
  rw [node?] at hn
  simp only [register, hn]

theorem ids_register_of_none {r : Registry} {id : Text} (h : r.find? id = none) :
    (r.register id).1 = id ∧ (r.register id).2.ids = r.ids ++ [id] := by
  have hn : r.node? id = none := Option.map_eq_none_iff.mp h
  rw [node?] at hn
  simp only [register, hn, ids_push, and_self]

end Registry

end ArrowNotation
