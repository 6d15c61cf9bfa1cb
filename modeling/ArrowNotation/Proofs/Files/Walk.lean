/-
# Where a walk leads

A walk and a collapsed path say different things about the same steps.  The walk stops at the
first step that does not start in a directory; collapsing a path does not look at the tree at
all.  Where both give an answer it is the same one: a walk that comes to an end has come to the
collapsed names (`Leads.eq_foldl`).

`Leads` says what it means that steps lead somewhere, without the lengths of names and the kinds
of errors that belong to a walk, and `walk_eq_ok_iff` says that a walk finds what lies there.

A walk takes its steps in the spelling of the file system.  To collapse a path and to spell it can
be done in either order (`FilePath.collapse_stored`).
-/
import ArrowNotation.Files.Tree
import ArrowNotation.Proofs.Files.Name

namespace ArrowNotation

/-! ## 1. One step -/

namespace FilePath

/-- The names after one more step. -/
def follow (names : List Text) (step : Text) : List Text :=
  if step = parentStep then names.dropLast else names ++ [step]

theorem collapse_eq_foldl (steps : List Text) : collapse steps = steps.foldl follow [] := rfl

theorem collapse_append_name {last : Text} (h : last ≠ parentStep) (front : List Text) :
    collapse (front ++ [last]) = collapse front ++ [last] := by
  simp [collapse_eq_foldl, follow, h]

/-- **A path is spelled as its collapsed path is.** -/
theorem collapse_stored (steps : List Text) :
    collapse (steps.map Text.stored) = (collapse steps).map Text.stored := by
  have hfollow : ∀ (steps names : List Text),
      (steps.map Text.stored).foldl follow (names.map Text.stored)
        = (steps.foldl follow names).map Text.stored := by
    intro steps
    induction steps with
    | nil => exact fun names => rfl
    | cons step steps ih =>
      intro names
      have hstep : follow (names.map Text.stored) (Text.stored step)
          = (follow names step).map Text.stored := by
        simp only [follow, Text.stored_eq_parentStep_iff]
        split
        · rw [List.map_dropLast]
        · rw [List.map_append, List.map_singleton]
      rw [List.map_cons, List.foldl_cons, hstep, ih, List.foldl_cons]
  exact hfollow steps []

/-- A path that is short enough, with names that are short enough. -/
structure Fits (p : FilePath) : Prop where
  path : p.text.nameBytes.length ≤ FileTree.maxPathLength
  names : ∀ step ∈ p.steps, step.nameBytes.length ≤ FileTree.maxNameLength

/-- The names are as long in the spelling of the file system. -/
theorem Fits.names_stored {p : FilePath} (h : p.Fits) :
    ∀ step ∈ p.stored.steps, step.nameBytes.length ≤ FileTree.maxNameLength := by
  intro step hstep
  obtain ⟨name, hname, rfl⟩ := List.mem_map.mp hstep
  rw [Text.nameBytes_stored]
  exact h.names name hname

theorem names_of_stored {p : FilePath}
    (h : ∀ step ∈ p.stored.steps, step.nameBytes.length ≤ FileTree.maxNameLength) :
    ∀ step ∈ p.steps, step.nameBytes.length ≤ FileTree.maxNameLength := by
  intro step hstep
  rw [← Text.nameBytes_stored]
  exact h _ (List.mem_map_of_mem hstep)

end FilePath

namespace FileTree

open FilePath (follow)

/-- The steps of a path lead from one place in a tree to another, if each of them starts in a
directory and something lies at the end. -/
inductive Leads (tree : FileTree) : (here steps there : List Text) → Prop
  | stay {here : List Text} {found : FileTree} (h : tree.find? here = some found) :
    Leads tree here [] here
  | step {here steps there : List Text} {step : Text} {entries : List (Text × FileTree)}
    (h : tree.find? here = some (directory entries))
    (rest : Leads tree (follow here step) steps there) : Leads tree here (step :: steps) there

variable {tree found : FileTree} {entries : List (Text × FileTree)}
variable {here there steps : List Text} {name step : Text}

/-! ## 2. What lies at the end of names -/

theorem find?_append : ∀ (tree : FileTree) (names rest : List Text),
    tree.find? (names ++ rest) = (tree.find? names).bind fun found => found.find? rest
  | _, [], _ => rfl
  | tree, name :: names, rest => by
    simp only [List.cons_append, find?]
    cases tree.child? name with
    | none => rfl
    | some child => exact find?_append child names rest

/-- What lies at the end of one more name is an entry of what lies there without it. -/
theorem find?_append_name (tree : FileTree) (names : List Text) (name : Text) :
    tree.find? (names ++ [name]) = (tree.find? names).bind fun found => found.child? name := by
  rw [find?_append]
  congr
  funext found
  simp only [find?]
  cases found.child? name <;> rfl

theorem isDirectory_of_child?_eq_some (h : tree.child? name = some found) :
    tree.isDirectory = true := by
  cases tree with
  | file content => simp [child?, FileTree.entries] at h
  | directory entries => rfl

/-! ## 3. Steps -/

/-- **Steps lead to the collapsed names, if they lead anywhere.** -/
theorem Leads.eq_foldl (h : Leads tree here steps there) : there = steps.foldl follow here := by
  induction h with
  | stay => rfl
  | step _ _ ih => exact ih

theorem leads_nil_iff : Leads tree here [] there ↔ here = there ∧ (tree.find? here).isSome := by
  constructor
  · rintro ⟨h⟩
    exact ⟨rfl, by simp [h]⟩
  · rintro ⟨rfl, h⟩
    exact .stay (Option.some_get h).symm

theorem leads_cons_iff (h : tree.find? here = some (directory entries)) :
    Leads tree here (step :: steps) there ↔ Leads tree (follow here step) steps there := by
  constructor
  · rintro (_ | ⟨_, rest⟩)
    exact rest
  · exact .step h

theorem not_leads_cons (h : ∀ entries, tree.find? here ≠ some (directory entries)) :
    ¬ Leads tree here (step :: steps) there := by
  rintro (_ | ⟨hdirectory, _⟩)
  exact h _ hdirectory

/-! ## 4. Walks -/

theorem walk_cons (h : tree.find? here = some (directory entries)) :
    tree.walk here (step :: steps) =
      if maxNameLength < step.nameBytes.length then .error .nameTooLong
      else tree.walk (follow here step) steps := by
  rw [walk, h]
  simp only [follow, apply_ite (fun names => tree.walk names steps)]

theorem walk_cons_of_not_directory (h : ∀ entries, tree.find? here ≠ some (directory entries)) :
    tree.walk here (step :: steps) = .error .missing := by
  rw [walk]
  split
  · exact absurd ‹_› (h _)
  · rfl

/-- **A walk finds what its steps lead to**, if no name on the way is too long. -/
theorem walk_eq_ok_iff : ∀ (steps here : List Text),
    tree.walk here steps = .ok found ↔
      (∀ step ∈ steps, step.nameBytes.length ≤ maxNameLength) ∧
        ∃ there, Leads tree here steps there ∧ tree.find? there = some found
  | [], here => by
    simp only [walk, leads_nil_iff, List.not_mem_nil, false_implies, implies_true, true_and]
    cases h : tree.find? here with
    | none => simp
    | some other => simp [h]
  | step :: steps, here => by
    -- Without a directory to start in there is no step, neither of the walk nor of `Leads`.
    by_cases h : ∃ entries, tree.find? here = some (directory entries)
    · obtain ⟨entries, h⟩ := h
      simp only [walk_cons h, leads_cons_iff h, List.forall_mem_cons]
      split
      · have hlong : ¬ step.nameBytes.length ≤ maxNameLength := by omega
        simp [hlong]
      · have hshort : step.nameBytes.length ≤ maxNameLength := by omega
        simp [hshort, walk_eq_ok_iff steps]
    · rw [not_exists] at h
      simp [walk_cons_of_not_directory h, not_leads_cons h]

/-- A walk calls a name too long only where there is such a name. -/
theorem exists_long_of_walk : ∀ {steps here : List Text},
    tree.walk here steps = .error .nameTooLong →
      ∃ step ∈ steps, maxNameLength < step.nameBytes.length
  | [], here, h => by
    rw [walk] at h
    split at h <;> cases h
  | step :: steps, here, h => by
    by_cases hdirectory : ∃ entries, tree.find? here = some (directory entries)
    · obtain ⟨entries, hdirectory⟩ := hdirectory
      rw [walk_cons hdirectory] at h
      split at h
      · exact ⟨step, List.mem_cons_self, ‹_›⟩
      · obtain ⟨long, hmem, hlong⟩ := exists_long_of_walk h
        exact ⟨long, List.mem_cons_of_mem _ hmem, hlong⟩
    · rw [not_exists] at hdirectory
      rw [walk_cons_of_not_directory hdirectory] at h
      cases h

/-- **What is found at a path is what its steps lead to from the top**, if the path fits. -/
theorem lookUp_eq_ok_iff {p : FilePath} :
    tree.lookUp p = .ok found ↔
      p.Fits ∧ tree.find? (FilePath.collapse p.stored.steps) = some found ∧
        Leads tree [] p.stored.steps (FilePath.collapse p.stored.steps) := by
  rw [lookUp, FilePath.collapse_eq_foldl]
  constructor
  · intro h
    split at h
    · cases h
    · obtain ⟨hnames, there, hleads, hfound⟩ := (walk_eq_ok_iff _ _).mp h
      obtain rfl := hleads.eq_foldl
      exact ⟨⟨by omega, FilePath.names_of_stored hnames⟩, hfound, hleads⟩
  · rintro ⟨hfits, hfound, hleads⟩
    rw [if_neg (Nat.not_lt.mpr hfits.path)]
    exact (walk_eq_ok_iff _ _).mpr ⟨hfits.names_stored, _, hleads, hfound⟩

/-- At a path that fits, nothing is called too long. -/
theorem lookUp_ne_nameTooLong {p : FilePath} (h : p.Fits) :
    tree.lookUp p ≠ .error .nameTooLong := by
  intro hlong
  rw [lookUp, if_neg (Nat.not_lt.mpr h.path)] at hlong
  obtain ⟨step, hmem, hstep⟩ := exists_long_of_walk hlong
  exact absurd (h.names_stored step hmem) (Nat.not_le.mpr hstep)

end FileTree

end ArrowNotation
