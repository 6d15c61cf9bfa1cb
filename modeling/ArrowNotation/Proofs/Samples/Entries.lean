/-
# One line for each entry

The listing has a line for each entry of the directory that is a sample by its name, and what a line
says follows from that entry alone.

* **Which lines, in which order.**  The file names of the listing are those of the entries, sorted
  (`mem_fileNames_iff`, `pairwise_fileNames`).  The listing shows shorter names than it is sorted
  by, so the names that are shown need not be in order.
* **What a line says.**  Each line is made of a file name and of what lies under it
  (`listing_eq_map_lineOf`).  An entry that holds no text has a line without a description, and this
  is all that can go wrong with it.
* **Changes.**  One entry that is made or replaced changes what lies under its own name
  (`Holds.entryAt?_withEntry`); several, under distinct names, change it in the same way in any
  order (`Holds.entryAt?_withEntries`).  As a sorted list of distinct names is known from its
  members, the listing is known from what lies under the names (`Holds.listing_eq_of_entryAt?_eq`).
-/
import ArrowNotation.Proofs.Files.Insertion
import ArrowNotation.Proofs.Samples.Listing
import ArrowNotation.Proofs.Text.Encodable
import ArrowNotation.Settings

namespace ArrowNotation

namespace SampleDirectory

variable {d d' : SampleDirectory} {entries entries' : List (Text × FileTree)}
variable {fileName other : Text} {entry new : FileTree}

/-! ## 1. Entries and file names -/

/-- The entry of the directory that is called by a file name. -/
def entryAt? (d : SampleDirectory) (fileName : Text) : Option FileTree :=
  d.tree.find? (d.location ++ [fileName])

/-- The file names of the samples, in the order of the listing. -/
def fileNames (d : SampleDirectory) : List Text := d.sampleEntries.map Prod.fst

/-- The line of a file name, made of what lies under it. -/
def lineOf (d : SampleDirectory) (fileName : Text) : Listed where
  name := Sample.nameOf fileName
  description := ((d.entryAt? fileName).map Sample.descriptionOf).getD []

/-- The directory is there and holds some entries, with distinct names. -/
structure Holds (d : SampleDirectory) (entries : List (Text × FileTree)) : Prop where
  found : d.tree.find? d.location = some (.directory entries)
  nodup : (entries.map Prod.fst).Nodup

/-- The directory is missing, or it holds some entries with distinct names. -/
def HasDistinctNames (d : SampleDirectory) : Prop :=
  d.directory? = none ∨ ∃ entries, d.Holds entries

theorem Holds.hasDistinctNames (h : d.Holds entries) : d.HasDistinctNames := Or.inr ⟨entries, h⟩

theorem hasDistinctNames_of_isWellNamed (hd : d.tree.IsWellNamed) : d.HasDistinctNames := by
  rw [HasDistinctNames, directory?]
  cases hfound : d.tree.find? d.location with
  | none => exact Or.inl rfl
  | some place =>
    cases place with
    | file content => exact Or.inl rfl
    | directory entries =>
      cases (hd.find? hfound).2 with
      | directory nodup names children => exact Or.inr ⟨entries, hfound, nodup⟩

theorem HasDistinctNames.exists_holds {place : FileTree} (hd : d.HasDistinctNames)
    (hplace : d.directory? = some place) : ∃ entries, d.Holds entries := by
  rcases hd with hnone | hholds
  · rw [hnone] at hplace
    cases hplace
  · exact hholds

theorem Holds.directory?_eq (h : d.Holds entries) :
    d.directory? = some (.directory entries) := by
  rw [directory?, h.found]
  rfl

/-- What is called by a file name is found among the entries. -/
theorem Holds.entryAt?_eq (h : d.Holds entries) (fileName : Text) :
    d.entryAt? fileName = Keyed.find? fileName entries := by
  rw [entryAt?, FileTree.find?_append_name, h.found]
  rfl

theorem Holds.mem_sampleEntries_iff (h : d.Holds entries) :
    (fileName, entry) ∈ d.sampleEntries ↔
      Sample.isFileName fileName = true ∧ d.entryAt? fileName = some entry := by
  constructor
  · intro hmem
    obtain ⟨hname, others, hfound, hmem⟩ := SampleDirectory.mem_sampleEntries_iff.mp hmem
    rw [h.found, Option.some.injEq, FileTree.directory.injEq] at hfound
    subst hfound
    exact ⟨hname, by rw [h.entryAt?_eq, Keyed.find?_of_mem h.nodup hmem]⟩
  · rintro ⟨hname, hentry⟩
    exact mem_sampleEntries_of_find? hname hentry

theorem sampleEntries_eq_nil (h : d.directory? = none) : d.sampleEntries = [] := by
  rw [sampleEntries, h]

theorem entryAt?_eq_none (h : d.directory? = none) (fileName : Text) :
    d.entryAt? fileName = none := by
  cases hentry : d.entryAt? fileName with
  | none => rfl
  | some entry =>
    obtain ⟨directory, hdirectory, -⟩ := exists_entry_iff.mpr hentry
    rw [h] at hdirectory
    cases hdirectory

/-- **The file names of the listing** are those of the entries that are samples by their names. -/
theorem mem_fileNames_iff (hd : d.HasDistinctNames) :
    fileName ∈ d.fileNames ↔
      Sample.isFileName fileName = true ∧ ∃ entry, d.entryAt? fileName = some entry := by
  rcases hd with hnone | ⟨entries, h⟩
  · simp [fileNames, sampleEntries_eq_nil hnone, entryAt?_eq_none hnone]
  · constructor
    · intro hmem
      obtain ⟨⟨name, entry⟩, hentry, rfl⟩ := List.mem_map.mp hmem
      obtain ⟨hname, hfound⟩ := h.mem_sampleEntries_iff.mp hentry
      exact ⟨hname, entry, hfound⟩
    · rintro ⟨hname, entry, hfound⟩
      exact List.mem_map.mpr ⟨_, h.mem_sampleEntries_iff.mpr ⟨hname, hfound⟩, rfl⟩

/-! ## 2. Order -/

theorem pairwise_atMost_fileNames (d : SampleDirectory) :
    d.fileNames.Pairwise fun a b => Text.atMost a b = true := by
  rw [fileNames, List.pairwise_map, sampleEntries]
  split
  · refine List.pairwise_mergeSort ?_ ?_ _
    · intro a b c
      exact Text.atMost_trans
    · intro a b
      exact Text.atMost_total a.1 b.1
  · exact List.Pairwise.nil

theorem nodup_fileNames (hd : d.HasDistinctNames) :
    d.fileNames.Nodup := by
  rcases hd with hnone | ⟨entries, h⟩
  · rw [fileNames, sampleEntries_eq_nil hnone]
    exact List.nodup_nil
  · have hperm : d.sampleEntries.Perm
        (entries.filter fun entry => Sample.isFileName entry.1) := by
      rw [sampleEntries, h.directory?_eq]
      exact List.mergeSort_perm _ _
    rw [fileNames, (hperm.map Prod.fst).nodup_iff]
    exact h.nodup.sublist (List.filter_sublist.map Prod.fst)

/-- **The file names go up**, and none stands twice. -/
theorem pairwise_fileNames (hd : d.HasDistinctNames) :
    d.fileNames.Pairwise fun a b => Text.atMost a b = true ∧ a ≠ b :=
  (pairwise_atMost_fileNames d).and (nodup_fileNames hd)

/-- **The file names are known from which they are.** -/
theorem Holds.fileNames_eq_of_mem_iff (h : d.Holds entries) (h' : d'.Holds entries')
    (hmem : ∀ fileName, fileName ∈ d.fileNames ↔ fileName ∈ d'.fileNames) :
    d.fileNames = d'.fileNames := by
  have hperm : d.fileNames.Perm d'.fileNames :=
    (List.perm_ext_iff_of_nodup (nodup_fileNames h.hasDistinctNames)
      (nodup_fileNames h'.hasDistinctNames)).mpr hmem
  exact List.Perm.eq_of_pairwise (fun _ _ _ _ => Text.atMost_antisymm)
    (pairwise_atMost_fileNames d) (pairwise_atMost_fileNames d') hperm

/-! ## 3. Lines -/

/-- **Each line is made of a file name and what lies under it.** -/
theorem listing_eq_map_lineOf (hd : d.HasDistinctNames) :
    d.listing = d.fileNames.map d.lineOf := by
  rcases hd with hnone | ⟨entries, h⟩
  · rw [listing, fileNames, sampleEntries_eq_nil hnone]
    rfl
  · rw [listing, fileNames, List.map_map]
    refine List.map_congr_left ?_
    rintro ⟨fileName, entry⟩ hmem
    obtain ⟨-, hentry⟩ := h.mem_sampleEntries_iff.mp hmem
    rw [Function.comp_apply, lineOf, hentry]
    rfl

/-- **The listing is known from what lies under the names of samples.** -/
theorem Holds.listing_eq_of_entryAt?_eq (h : d.Holds entries) (h' : d'.Holds entries')
    (hentry : ∀ fileName, Sample.isFileName fileName = true →
      d.entryAt? fileName = d'.entryAt? fileName) : d.listing = d'.listing := by
  have hfileNames : d.fileNames = d'.fileNames := by
    refine h.fileNames_eq_of_mem_iff h' ?_
    intro fileName
    rw [mem_fileNames_iff h.hasDistinctNames, mem_fileNames_iff h'.hasDistinctNames]
    refine and_congr_right ?_
    intro hname
    rw [hentry fileName hname]
  rw [listing_eq_map_lineOf h.hasDistinctNames, listing_eq_map_lineOf h'.hasDistinctNames,
    hfileNames]
  refine List.map_congr_left ?_
  intro fileName hmem
  rw [lineOf, lineOf, hentry fileName ((mem_fileNames_iff h'.hasDistinctNames).mp hmem).1]

/-! ## 4. Changes -/

/-- The directory with one entry made or replaced. -/
def withEntry (d : SampleDirectory) (fileName : Text) (new : FileTree) : SampleDirectory :=
  d.inTree (FileTree.insert new (d.location ++ [fileName]) d.tree)

/-- The directory with entries made or replaced one after the other. -/
def withEntries (d : SampleDirectory) (steps : List (Text × FileTree)) : SampleDirectory :=
  steps.foldl (fun d step => d.withEntry step.1 step.2) d

theorem Holds.withEntry (h : d.Holds entries) (fileName : Text) (new : FileTree) :
    (d.withEntry fileName new).Holds (FileTree.setEntry fileName new entries) :=
  ⟨FileTree.find?_insert_entry h.found fileName new, FileTree.nodup_names_setEntry h.nodup⟩

/-- **One entry that is made or replaced changes nothing but itself.** -/
theorem Holds.entryAt?_withEntry (h : d.Holds entries) (fileName other : Text) (new : FileTree) :
    (d.withEntry fileName new).entryAt? other
      = if fileName = other then some new else d.entryAt? other := by
  rw [(h.withEntry fileName new).entryAt?_eq, FileTree.find?_setEntry, h.entryAt?_eq]

theorem Holds.withEntries : ∀ {d : SampleDirectory} {entries : List (Text × FileTree)},
    d.Holds entries → ∀ steps : List (Text × FileTree),
      ∃ entries', (d.withEntries steps).Holds entries'
  | _, entries, h, [] => ⟨entries, h⟩
  | _, _, h, (fileName, new) :: steps => (h.withEntry fileName new).withEntries steps

/-- **What lies under a name after a run of changes** under distinct names: what was put there, or
what lay there before. -/
theorem Holds.entryAt?_withEntries : ∀ {d : SampleDirectory} {entries : List (Text × FileTree)},
    d.Holds entries → ∀ {steps : List (Text × FileTree)}, (steps.map Prod.fst).Nodup →
      ∀ fileName : Text, (d.withEntries steps).entryAt? fileName
        = (Keyed.find? fileName steps).or (d.entryAt? fileName)
  | _, _, _, [], _, _ => rfl
  | d, _, h, (first, new) :: steps, hnodup, fileName => by
    rw [List.map_cons, List.nodup_cons] at hnodup
    have ih := (h.withEntry first new).entryAt?_withEntries hnodup.2 fileName
    rw [h.entryAt?_withEntry] at ih
    refine ih.trans ?_
    by_cases hfirst : first = fileName
    · subst hfirst
      rw [if_pos rfl, Keyed.find?_cons_self, Keyed.find?_eq_none hnodup.1, Option.none_or,
        Option.some_or]
    · rw [if_neg hfirst, Keyed.find?_cons_of_ne hfirst]

/-- **Replacing an entry changes its own line.** -/
theorem Holds.listing_withEntry (h : d.Holds entries) (hentry : d.entryAt? fileName = some entry)
    (new : FileTree) : (d.withEntry fileName new).listing = d.fileNames.map fun other =>
      if other = fileName then ⟨Sample.nameOf fileName, Sample.descriptionOf new⟩
      else d.lineOf other := by
  have h' := h.withEntry fileName new
  have hfileNames : (d.withEntry fileName new).fileNames = d.fileNames := by
    refine h'.fileNames_eq_of_mem_iff h ?_
    intro other
    rw [mem_fileNames_iff h'.hasDistinctNames, mem_fileNames_iff h.hasDistinctNames,
      h.entryAt?_withEntry]
    by_cases hother : fileName = other
    · subst hother
      simp [hentry]
    · rw [if_neg hother]
  rw [listing_eq_map_lineOf h'.hasDistinctNames, hfileNames]
  refine List.map_congr_left ?_
  intro other _
  rw [lineOf, h.entryAt?_withEntry]
  by_cases hother : fileName = other
  · subst hother
    rw [if_pos rfl, if_pos rfl]
    rfl
  · rw [if_neg hother, if_neg (Ne.symm hother)]
    rfl

/-- **Entries can be made in any order.** -/
theorem Holds.listing_withEntries_of_perm (h : d.Holds entries)
    {steps steps' : List (Text × FileTree)} (hperm : steps.Perm steps')
    (hnodup : (steps.map Prod.fst).Nodup) :
    (d.withEntries steps).listing = (d.withEntries steps').listing := by
  obtain ⟨made, hmade⟩ := h.withEntries steps
  obtain ⟨made', hmade'⟩ := h.withEntries steps'
  refine hmade.listing_eq_of_entryAt?_eq hmade' ?_
  intro fileName _
  have hnodup' : (steps'.map Prod.fst).Nodup := (hperm.map Prod.fst).nodup_iff.mp hnodup
  rw [h.entryAt?_withEntries hnodup, h.entryAt?_withEntries hnodup',
    Keyed.find?_eq_of_perm hnodup hperm]

/-! ## 5. Names elsewhere -/

theorem names_of_fetch_eq_notFound {name unknown : Text} {available : List Text}
    (h : d.fetch name = .error (.notFound unknown available)) :
    unknown = name ∧ available = d.listing.map Listed.name := by
  rw [fetch, names_eq] at h
  split at h
  · next cause hcause =>
    obtain ⟨step, -, hstep⟩ := List.exists_of_findSome?_eq_some hcause
    rw [Except.error.inj h] at hstep
    exact absurd hstep (objection?_ne_notFound step unknown available)
  · cases hcontent : d.content name with
    | ok content =>
      rw [hcontent] at h
      cases htext : Sample.textOf? content <;> simp [htext] at h
    | error cause =>
      cases cause with
      | missing =>
        rw [hcontent] at h
        simp only [Except.error.injEq, FetchError.notFound.injEq] at h
        exact ⟨h.1.symm, h.2.symm⟩
      | nameTooLong => simp [hcontent] at h

/-- **In a directory that is missing no name is found.** -/
theorem fetch_eq_notFound_of_missing (h : d.directory? = none) {name : Text}
    (hnull : Text.null ∉ name) (hwritable : Text.isWritable name = true)
    (hfits : (d.pathOf name).Fits) :
    d.fetch name = .error (.notFound name []) := by
  have hreaches : ¬ ∃ fileName bytes, d.Reaches name fileName bytes := by
    rintro ⟨fileName, bytes, hreached⟩
    obtain ⟨directory, hdirectory, -⟩ := hreached.isEntry
    rw [h] at hdirectory
    cases hdirectory
  rw [fetch_eq_notFound hnull hwritable hfits hreaches, listing_eq_nil h]
  rfl

/-- **A start notes the names of the listing**, or that the directory is missing. -/
theorem exists_startupLog_eq (d : SampleDirectory) (path : Text) :
    ∃ connectors, startupLog d path = [connectors,
      if d.directory?.isSome then
        ⟨.info, "Available sample diagrams: ".toText
          ++ Text.quotedList (d.listing.map Listed.name)⟩
      else ⟨.warning, "Samples directory does not exist: ".toText ++ path⟩] := by
  rw [startupLog, names_eq]
  cases d.directory? with
  | none => exact ⟨_, rfl⟩
  | some directory => exact ⟨_, rfl⟩

end SampleDirectory

end ArrowNotation
