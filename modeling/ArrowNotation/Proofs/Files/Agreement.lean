/-
# Trees that differ in bytes only

Two file trees agree on some names if they have the same directories with the same entries in
the same order, and the same files, and hold the same bytes in every file at one of these names.
What the other files hold is left open.

Such trees cannot be told apart by walking: the same walks come to the same ends and fail for
the same reasons (`AgreeOn.lookUp`).  What is found at the end agrees again, so only who reads a
file outside the names sees a difference.
-/
import ArrowNotation.Proofs.Files.Walk

namespace ArrowNotation.FileTree

open FilePath (follow)

/-! ## 1. Agreement -/

mutual

/-- Two trees, both at the names `here`, agree on some names. -/
inductive AgreeOn (kept : List Text → Prop) : (here : List Text) → FileTree → FileTree → Prop
  | file {here : List Text} {content content' : Bytes} (h : kept here → content = content') :
    AgreeOn kept here (.file content) (.file content')
  | directory {here : List Text} {entries entries' : List (Text × FileTree)}
    (h : EntriesAgreeOn kept here entries entries') :
    AgreeOn kept here (.directory entries) (.directory entries')

/-- The entries of two directories, both at the names `here`, agree on some names. -/
inductive EntriesAgreeOn (kept : List Text → Prop) :
    (here : List Text) → List (Text × FileTree) → List (Text × FileTree) → Prop
  | nil {here : List Text} : EntriesAgreeOn kept here [] []
  | cons {here : List Text} {name : Text} {child child' : FileTree}
    {entries entries' : List (Text × FileTree)}
    (head : AgreeOn kept (here ++ [name]) child child')
    (tail : EntriesAgreeOn kept here entries entries') :
    EntriesAgreeOn kept here ((name, child) :: entries) ((name, child') :: entries')

end

variable {kept : List Text → Prop} {here : List Text} {tree tree' : FileTree}

/-! ## 2. What lies at the end of names -/

theorem EntriesAgreeOn.find? (name : Text) : ∀ {entries entries' : List (Text × FileTree)},
    EntriesAgreeOn kept here entries entries' →
      Option.Rel (AgreeOn kept (here ++ [name]))
        ((entries.find? fun entry => entry.1 = name).map Prod.snd)
        ((entries'.find? fun entry => entry.1 = name).map Prod.snd)
  | _, _, .nil => .none
  | (other, _) :: _, _, .cons head tail => by
    by_cases h : other = name
    · subst h
      simpa using Option.Rel.some head
    · simpa [h] using tail.find? name

/-- **An entry is there in both trees or in neither**, and the two agree again. -/
theorem AgreeOn.child? (h : AgreeOn kept here tree tree') (name : Text) :
    Option.Rel (AgreeOn kept (here ++ [name])) (tree.child? name) (tree'.child? name) := by
  cases h with
  | file _ => exact .none
  | directory h => exact h.find? name

/-- **The same names lead somewhere in both trees**, and what lies there agrees again. -/
theorem AgreeOn.find? : ∀ {here : List Text} {tree tree' : FileTree} (names : List Text),
    AgreeOn kept here tree tree' →
      Option.Rel (AgreeOn kept (here ++ names)) (tree.find? names) (tree'.find? names)
  | here, _, _, [], h => by
    rw [List.append_nil]
    exact .some h
  | here, tree, tree', name :: names, h => by
    simp only [FileTree.find?]
    have hchild := h.child? name
    generalize tree.child? name = child, tree'.child? name = child' at hchild ⊢
    cases hchild with
    | none => exact .none
    | some hchild => simpa using AgreeOn.find? names hchild

theorem AgreeOn.exists_directory_iff (h : AgreeOn kept [] tree tree') (names : List Text) :
    (∃ entries, tree.find? names = some (.directory entries)) ↔
      ∃ entries', tree'.find? names = some (.directory entries') := by
  have hfound := h.find? names
  generalize tree.find? names = found, tree'.find? names = found' at hfound ⊢
  cases hfound with
  | none => simp
  | some hfound => cases hfound <;> simp

/-! ## 3. Walks -/

/-- Two walks come to the same: both fail for the same reason, or both come to the names `there`
and what they find agrees. -/
inductive SameEnd (kept : List Text → Prop) (there : List Text) :
    Except WalkError FileTree → Except WalkError FileTree → Prop
  | failed (cause : WalkError) : SameEnd kept there (.error cause) (.error cause)
  | found {found found' : FileTree} (h : AgreeOn kept there found found') :
    SameEnd kept there (.ok found) (.ok found')

/-- **Walks come to the same in trees that agree**, step by step. -/
theorem AgreeOn.walk (h : AgreeOn kept [] tree tree') : ∀ (steps here : List Text),
    SameEnd kept (steps.foldl follow here) (tree.walk here steps) (tree'.walk here steps)
  | [], here => by
    have hfound := h.find? here
    simp only [FileTree.walk]
    generalize tree.find? here = found, tree'.find? here = found' at hfound ⊢
    cases hfound with
    | none => exact .failed _
    | some hfound => exact .found hfound
  | step :: steps, here => by
    -- A step is taken in both trees or in neither, so both walks go on from the same names.
    by_cases hdirectory : ∃ entries, tree.find? here = some (.directory entries)
    · obtain ⟨entries', hentries'⟩ := (h.exists_directory_iff here).mp hdirectory
      obtain ⟨entries, hentries⟩ := hdirectory
      rw [walk_cons hentries, walk_cons hentries']
      split
      · exact .failed _
      · exact h.walk steps (follow here step)
    · have hdirectory' := mt (h.exists_directory_iff here).mpr hdirectory
      rw [not_exists] at hdirectory hdirectory'
      rw [walk_cons_of_not_directory hdirectory, walk_cons_of_not_directory hdirectory']
      exact .failed _

/-- **The same path is answered in the same way in trees that agree.** -/
theorem AgreeOn.lookUp (h : AgreeOn kept [] tree tree') (p : FilePath) :
    SameEnd kept (FilePath.collapse p.stored.steps) (tree.lookUp p) (tree'.lookUp p) := by
  rw [FileTree.lookUp, FileTree.lookUp]
  split
  · exact .failed _
  · exact h.walk p.stored.steps []

end ArrowNotation.FileTree
