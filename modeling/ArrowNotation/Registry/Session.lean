/-
# Registry sessions

Several registries, told apart by numbers, and a list of steps, each of which concerns one of
them.  A step never touches another registry than its own, and only a registration changes
that one.
-/
import ArrowNotation.Registry.Basic

namespace ArrowNotation

namespace Registry

/-! ## 1. One registry -/

/-- What a registry can be told or asked.  The question whether something is contained may also
be put about a value that is no text. -/
inductive Step where
  | register (id : Text)
  | node (id : Text)
  | contains (id : Option Text)
  | size
  | nodes
  deriving DecidableEq

/-- What a registry answers. -/
inductive StepAnswer where
  | id (id : Text)
  | node (node : Option Node)
  | truth (b : Bool)
  | count (n : Nat)
  | nodes (nodes : List Node)
  deriving DecidableEq

/-- The answer to a step, and the registry after it. -/
def step (r : Registry) : Step → StepAnswer × Registry
  | .register id => ((.id (r.register id).1), (r.register id).2)
  | .node id => (.node (r.node? id), r)
  | .contains (some id) => (.truth (r.contains id), r)
  | .contains none => (.truth false, r)
  | .size => (.count r.size, r)
  | .nodes => (.nodes r.nodes, r)

/-! ## 2. Many registries -/

/-- A registry for every number. -/
abbrev Family := Nat → Registry

def Family.empty : Family := fun _ => Registry.empty

/-- A family with one registry replaced. -/
def Family.set (rs : Family) (index : Nat) (r : Registry) : Family :=
  fun i => if i = index then r else rs i

/-- The answers to a list of steps, each with the number of its registry. -/
def Family.run (rs : Family) : List (Nat × Step) → List StepAnswer
  | [] => []
  | (index, s) :: steps =>
    let (answer, r) := (rs index).step s
    answer :: (rs.set index r).run steps

end Registry

end ArrowNotation
