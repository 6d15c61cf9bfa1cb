/-
# Putting something into a tree

What is put at the end of names is found there.  In the directory that holds it one entry is new or
replaced, and the other entries stay what they were and where they were; nothing else can be said in
general, because directories are made on the way where they are missing.

Entries are kept as a keyed list is (`setEntry_eq_update`), so what lies under one name after the
change of another is a law of keyed lists.
-/
import ArrowNotation.Proofs.Files.Walk
import ArrowNotation.Proofs.KeyedLists

namespace ArrowNotation.FileTree

variable {tree place : FileTree} {entries : List (Text × FileTree)} {names : List Text}

/-! ## 1. Entries -/

/-- The entries of a directory are a keyed list. -/
theorem setEntry_eq_update (name : Text) (new : FileTree) : ∀ entries : List (Text × FileTree),
    setEntry name new entries = Keyed.update name (fun _ => new) entries
  | [] => rfl
  | (other, old) :: entries => by
    rw [setEntry, Keyed.update, setEntry_eq_update name new entries]

theorem child?_eq_find? (tree : FileTree) (name : Text) :
    tree.child? name = Keyed.find? name tree.entries := rfl

/-- **Only the entry with the name changes.** -/
theorem find?_setEntry (name other : Text) (new : FileTree) (entries : List (Text × FileTree)) :
    Keyed.find? other (setEntry name new entries)
      = if name = other then some new else Keyed.find? other entries := by
  rw [setEntry_eq_update, Keyed.find?_update]

theorem nodup_names_setEntry {name : Text} {new : FileTree} (h : (entries.map Prod.fst).Nodup) :
    ((setEntry name new entries).map Prod.fst).Nodup := by
  rw [setEntry_eq_update]
  exact Keyed.nodup_keys_update h

/-! ## 2. Trees -/

/-- **Names that lead to a place lead to it still** when something is put below it, and only what is
below has changed. -/
theorem find?_insert_append : ∀ {tree : FileTree} {names : List Text} (new : FileTree)
    (rest : List Text), tree.find? names = some place →
      (insert new (names ++ rest) tree).find? names = some (insert new rest place)
  | tree, [], new, rest, h => by
    obtain rfl := Option.some.inj h
    rfl
  | tree, name :: names, new, rest, h => by
    rw [find?] at h
    cases hchild : tree.child? name with
    | none => simp [hchild] at h
    | some child =>
      rw [hchild] at h
      have ih := find?_insert_append new rest h
      have hnew : (insert new (name :: (names ++ rest)) tree).child? name
          = some (insert new (names ++ rest) child) := by
        rw [insert, hchild, child?_eq_find?, entries, find?_setEntry, if_pos rfl]
        rfl
      rw [List.cons_append, find?, hnew]
      exact ih

/-- **A directory in which something is put** has one entry set. -/
theorem find?_insert_entry (h : tree.find? names = some (directory entries)) (name : Text)
    (new : FileTree) :
    (insert new (names ++ [name]) tree).find? names
      = some (directory (setEntry name new entries)) :=
  find?_insert_append new [name] h

end ArrowNotation.FileTree
