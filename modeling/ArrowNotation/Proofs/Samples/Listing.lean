/-
# What the listed names lead to

The listing takes the ending off the file names, and a fetch puts it on again.  The one undoes the
other for every file name but one: a file called `.diagram` would be left without a name, so it is
listed with its ending, and a fetch looks for `.diagram.diagram`.

* **Names.**  Beyond that file name, the listed name with the ending is the file name
  (`Sample.nameOf_append_ending`), and as no entry is called by a slash or by one of the steps, the
  path of the name is the path of the entry (`SampleDirectory.pathOf_of_isEntryName`).
* **Files.**  So the name of a listed file reaches that file.  It may still be too long to be read
  and may hold no text, but it is not missing (`SampleDirectory.fetch_ne_notFound`).
* **Directories.**  A directory with the ending is listed as well, and there is nothing to fetch.

What is said of the names of entries is what every file system grants: they are no steps, hold no
slash and no null character, are spelled as it gives them back, and are distinct within a directory
(`FileTree.IsWellNamed`).
-/
import ArrowNotation.Proofs.KeyedLists
import ArrowNotation.Proofs.Samples.Confinement

namespace ArrowNotation

namespace FileTree

/-! ## 1. Names of entries -/

/-- What can be the name of an entry of a directory, in the spelling of the file system. -/
structure IsEntryName (name : Text) : Prop where
  ne_nil : name ≠ []
  ne_here : name ≠ hereStep
  ne_parent : name ≠ parentStep
  slash_notMem : Text.slash ∉ name
  null_notMem : Text.null ∉ name
  stored_eq : Text.stored name = name

instance (name : Text) : Decidable (IsEntryName name) :=
  decidable_of_iff (name ≠ [] ∧ name ≠ hereStep ∧ name ≠ parentStep ∧ Text.slash ∉ name ∧
      Text.null ∉ name ∧ Text.stored name = name)
    ⟨fun ⟨h₁, h₂, h₃, h₄, h₅, h₆⟩ => ⟨h₁, h₂, h₃, h₄, h₅, h₆⟩,
      fun ⟨h₁, h₂, h₃, h₄, h₅, h₆⟩ => ⟨h₁, h₂, h₃, h₄, h₅, h₆⟩⟩

/-- A tree in which the entries of every directory have distinct names, which can be names of
entries. -/
inductive IsWellNamed : FileTree → Prop
  | file (content : Bytes) : IsWellNamed (file content)
  | directory {entries : List (Text × FileTree)} (nodup : (entries.map Prod.fst).Nodup)
    (names : ∀ entry ∈ entries, IsEntryName entry.1)
    (children : ∀ entry ∈ entries, IsWellNamed entry.2) : IsWellNamed (directory entries)

variable {tree found : FileTree} {entries : List (Text × FileTree)}
variable {here names : List Text} {name : Text}

/-- An entry that is found has the name of an entry, and its own entries are named well. -/
theorem IsWellNamed.child? (h : tree.IsWellNamed) (hchild : tree.child? name = some found) :
    IsEntryName name ∧ found.IsWellNamed := by
  cases h with
  | file content => cases hchild
  | directory nodup names children =>
    have hmem := Keyed.mem_of_find? hchild
    exact ⟨names _ hmem, children _ hmem⟩

/-- **What is found at the end of names** is named well, as are the names on the way. -/
theorem IsWellNamed.find? : ∀ {tree : FileTree} {names : List Text}, tree.IsWellNamed →
    tree.find? names = some found → (∀ name ∈ names, IsEntryName name) ∧ found.IsWellNamed
  | tree, [], h, hfound => by
    obtain rfl := Option.some.inj hfound
    exact ⟨by simp, h⟩
  | tree, name :: names, h, hfound => by
    rw [FileTree.find?] at hfound
    cases hchild : tree.child? name with
    | none => simp [hchild] at hfound
    | some child =>
      rw [hchild] at hfound
      obtain ⟨hname, hwell⟩ := h.child? hchild
      obtain ⟨hnames, hend⟩ := hwell.find? hfound
      exact ⟨List.forall_mem_cons.mpr ⟨hname, hnames⟩, hend⟩

theorem IsWellNamed.child?_of_mem (h : (FileTree.directory entries).IsWellNamed)
    (hmem : (name, found) ∈ entries) :
    (FileTree.directory entries).child? name = some found := by
  cases h with
  | directory nodup names children => exact Keyed.find?_of_mem nodup hmem

/-- **Names lead to what lies at their end**, if none of them is a step to the parent. -/
theorem leads_of_find? : ∀ {here names : List Text}, tree.find? (here ++ names) = some found →
    (∀ name ∈ names, name ≠ parentStep) → Leads tree here names (here ++ names)
  | here, [], hfound, _ => by
    rw [List.append_nil] at hfound ⊢
    exact .stay hfound
  | here, name :: names, hfound, hnames => by
    obtain ⟨hname, hnames⟩ := List.forall_mem_cons.mp hnames
    have happend : here ++ name :: names = here ++ [name] ++ names := List.append_cons here name names
    obtain ⟨place, hplace, hrest⟩ := Option.bind_eq_some_iff.mp (find?_append tree here _ ▸ hfound)
    have hdirectory : place.isDirectory = true := by
      rw [find?] at hrest
      cases hchild : place.child? name with
      | none => simp [hchild] at hrest
      | some child => exact isDirectory_of_child?_eq_some hchild
    cases place with
    | file content => cases hdirectory
    | directory entries =>
      rw [happend] at hfound ⊢
      have hrest : Leads tree (here ++ [name]) names (here ++ [name] ++ names) :=
        leads_of_find? hfound hnames
      refine .step hplace ?_
      rwa [FilePath.follow, if_neg hname]

/-- **A walk whose steps lead somewhere does not miss it.**  It may stop at a name that is too
long. -/
theorem Leads.walk_ne_missing {steps there : List Text} (h : Leads tree here steps there) :
    tree.walk here steps ≠ .error .missing := by
  induction h with
  | stay h => simp [walk, h]
  | step h rest ih =>
    rw [walk_cons h]
    split
    · simp
    · exact ih

theorem Leads.lookUp_ne_missing {p : FilePath} {there : List Text}
    (h : Leads tree [] p.stored.steps there) : tree.lookUp p ≠ .error .missing := by
  rw [lookUp]
  split
  · simp
  · exact h.walk_ne_missing

end FileTree

open FileTree (IsEntryName)

/-! ## 2. File names and names of samples -/

/-- A path that is written as one name is a step of that name. -/
theorem FilePath.ofText_of_isEntryName {name : Text} (h : IsEntryName name) :
    ofText name = ⟨[], [name]⟩ := by
  have hroot : rootOf name = [] := by
    obtain ⟨c, rest, rfl⟩ := List.exists_cons_of_ne_nil h.ne_nil
    have hc : c ≠ Text.slash := fun hc => h.slash_notMem (by simp [hc])
    simp [rootOf, hc]
  rw [ofText, hroot, Text.splitAt_eq_singleton h.slash_notMem, List.filter_cons_of_pos,
    List.filter_nil]
  simp [h.ne_nil, h.ne_here]

namespace Sample

/-- **The name of a sample by its file name.** -/
theorem nameOf_append (stem : Text) :
    nameOf (stem ++ ending) = if stem = [] then ending else stem := by
  have htake : (stem ++ ending).take ((stem ++ ending).length - ending.length) = stem := by
    rw [List.length_append, Nat.add_sub_cancel, List.take_left]
  rw [nameOf, htake]
  split
  · next hnil => rw [hnil, List.nil_append]
  · rfl

/-- **The ending is put on again**, if more than the ending is there. -/
theorem nameOf_append_ending {fileName : Text} (h : isFileName fileName = true)
    (hne : fileName ≠ ending) : nameOf fileName ++ ending = fileName := by
  obtain ⟨stem, rfl⟩ := List.isSuffixOf_iff_suffix.mp h
  have hstem : stem ≠ [] := by
    rintro rfl
    exact hne rfl
  rw [nameOf_append, if_neg hstem]

/-- A file that is called by the ending alone keeps it. -/
theorem nameOf_ending : nameOf ending = ending := nameOf_append []

end Sample

namespace SampleDirectory

variable {d : SampleDirectory} {name fileName : Text} {found : FileTree} {bytes : Bytes}

/-- **The path of a name** is that of an entry of the directory. -/
theorem pathOf_of_isEntryName (d : SampleDirectory) (h : IsEntryName (name ++ Sample.ending)) :
    d.pathOf name = ⟨[Text.slash], d.location ++ [name ++ Sample.ending]⟩ := by
  rw [pathOf, FilePath.ofText_of_isEntryName h, FilePath.seenFrom, if_pos rfl]

theorem null_notMem (h : IsEntryName (name ++ Sample.ending)) : Text.null ∉ name := fun hmem =>
  h.null_notMem (List.mem_append_left _ hmem)

theorem isWritable_of_isEntryName (h : IsEntryName (name ++ Sample.ending)) :
    Text.isWritable name = true := by
  have hwritable := Text.isWritable_of_stored_eq h.stored_eq
  rw [Text.isWritable, List.all_append, Bool.and_eq_true] at hwritable
  exact hwritable.1

theorem stored_pathOf_of_isEntryName (h : IsEntryName (name ++ Sample.ending)) :
    (d.pathOf name).stored = d.pathOf name := by
  rw [pathOf_of_isEntryName d h, FilePath.stored, List.map_append, d.map_stored_location,
    List.map_singleton, h.stored_eq]

/-! ## 3. Entries of the directory -/

theorem mem_sampleEntries_iff :
    (fileName, found) ∈ d.sampleEntries ↔
      Sample.isFileName fileName = true ∧
        ∃ entries, d.tree.find? d.location = some (.directory entries) ∧
          (fileName, found) ∈ entries := by
  rw [sampleEntries, directory?]
  cases d.tree.find? d.location with
  | none => simp
  | some place =>
    cases place with
    | file content =>
      have hnone : Option.filter FileTree.isDirectory (some (.file content)) = none := rfl
      simp [hnone]
    | directory entries =>
      have hsome : Option.filter FileTree.isDirectory (some (.directory entries))
          = some (.directory entries) := rfl
      simp [hsome, FileTree.entries, and_comm]

/-- **A listed sample is an entry of the directory**, and its name is that of an entry. -/
theorem find?_of_mem_sampleEntries (hd : d.tree.IsWellNamed)
    (h : (fileName, found) ∈ d.sampleEntries) :
    Sample.isFileName fileName = true ∧ IsEntryName fileName ∧
      d.tree.find? (d.location ++ [fileName]) = some found := by
  obtain ⟨hfileName, entries, hdirectory, hmem⟩ := mem_sampleEntries_iff.mp h
  obtain ⟨-, hwell⟩ := hd.find? hdirectory
  have hchild := hwell.child?_of_mem hmem
  refine ⟨hfileName, (hwell.child? hchild).1, ?_⟩
  rw [FileTree.find?_append_name, hdirectory]
  exact hchild

/-- The listed name with the ending is the name of the entry, unless there is nothing but the
ending. -/
theorem find?_nameOf (hd : d.tree.IsWellNamed) (h : (fileName, found) ∈ d.sampleEntries)
    (hne : fileName ≠ Sample.ending) :
    IsEntryName (Sample.nameOf fileName ++ Sample.ending) ∧
      d.tree.find? (d.location ++ [Sample.nameOf fileName ++ Sample.ending]) = some found := by
  obtain ⟨hfileName, hentryName, hfound⟩ := find?_of_mem_sampleEntries hd h
  rw [Sample.nameOf_append_ending hfileName hne]
  exact ⟨hentryName, hfound⟩

/-- What has the name of a sample file and lies in the directory is listed. -/
theorem mem_sampleEntries_of_find? (hfileName : Sample.isFileName fileName = true)
    (hfound : d.tree.find? (d.location ++ [fileName]) = some found) :
    (fileName, found) ∈ d.sampleEntries := by
  rw [FileTree.find?_append_name] at hfound
  obtain ⟨place, hplace, hchild⟩ := Option.bind_eq_some_iff.mp hfound
  cases place with
  | file content => cases hchild
  | directory entries =>
    exact mem_sampleEntries_iff.mpr ⟨hfileName, entries, hplace, Keyed.mem_of_find? hchild⟩

/-- **A line is listed for each entry of the directory whose name is one of a sample.** -/
theorem mem_listing_iff (hd : d.tree.IsWellNamed) {line : Listed} :
    line ∈ d.listing ↔ ∃ fileName found, Sample.isFileName fileName = true ∧
      d.tree.find? (d.location ++ [fileName]) = some found ∧
      line = ⟨Sample.nameOf fileName, Sample.descriptionOf found⟩ := by
  constructor
  · intro h
    obtain ⟨⟨fileName, found⟩, hmem, rfl⟩ := List.mem_map.mp h
    obtain ⟨hfileName, -, hfound⟩ := find?_of_mem_sampleEntries hd hmem
    exact ⟨fileName, found, hfileName, hfound, rfl⟩
  · rintro ⟨fileName, found, hfileName, hfound, rfl⟩
    exact List.mem_map.mpr ⟨_, mem_sampleEntries_of_find? hfileName hfound, rfl⟩

/-! ## 4. What a name reaches -/

/-- **A name reaches the file that is called like it**, with the ending. -/
theorem reaches_of_find? (hd : d.tree.IsWellNamed) (hname : IsEntryName (name ++ Sample.ending))
    (hfound : d.tree.find? (d.location ++ [name ++ Sample.ending]) = some (.file bytes)) :
    d.Reaches name (name ++ Sample.ending) bytes := by
  have hstored := stored_pathOf_of_isEntryName (d := d) hname
  have hleads : d.tree.Leads [] (d.pathOf name).stored.steps
      (d.location ++ [name ++ Sample.ending]) := by
    rw [hstored, pathOf_of_isEntryName d hname]
    have hnames := (hd.find? hfound).1
    exact FileTree.leads_of_find? hfound fun step hstep => (hnames step hstep).ne_parent
  exact ⟨hleads, List.isSuffixOf_iff_suffix.mpr (List.suffix_append name Sample.ending),
    exists_entry_iff.mpr hfound, isSpelled_of_stored_eq hstored hleads⟩

theorem find?_of_reaches (hname : IsEntryName (name ++ Sample.ending))
    (h : d.Reaches name fileName bytes) :
    d.tree.find? (d.location ++ [name ++ Sample.ending]) = some (.file bytes) := by
  have hleads := h.leads.eq_foldl
  rw [stored_pathOf_of_isEntryName hname, pathOf_of_isEntryName d hname,
    ← FilePath.collapse_eq_foldl,
    FilePath.collapse_append_name hname.ne_parent] at hleads
  obtain ⟨-, hlast⟩ := List.append_inj' hleads rfl
  rw [← hlast]
  exact exists_entry_iff.mp h.isEntry

/-- A name that reaches a file is not missing, also where its path is too long. -/
theorem content_ne_missing (h : d.Reaches name fileName bytes) :
    d.content name ≠ .error .missing := by
  have hcollapse : FilePath.collapse (d.pathOf name).stored.steps = d.location ++ [fileName] :=
    h.leads.eq_foldl.symm
  rw [content_eq, if_pos h.isSpelled]
  cases hlookUp : d.tree.lookUp (d.pathOf name) with
  | ok last =>
    obtain ⟨-, hlast, -⟩ := FileTree.lookUp_eq_ok_iff.mp hlookUp
    rw [hcollapse, exists_entry_iff.mp h.isEntry] at hlast
    obtain rfl := Option.some.inj hlast
    simp [bytesOf]
  | error cause =>
    cases cause with
    | missing => exact absurd hlookUp h.leads.lookUp_ne_missing
    | nameTooLong => simp [bytesOf]

/-! ## 5. Answers -/

theorem objection?_ne_notFound (step unknown : Text) (available : List Text) :
    objection? step ≠ some (.notFound unknown available) := by
  unfold objection?
  split
  · simp
  · split <;> simp

/-- A name that reaches a file is not reported as unknown. -/
theorem fetch_ne_notFound (h : d.Reaches name fileName bytes) (unknown : Text)
    (available : List Text) : d.fetch name ≠ .error (.notFound unknown available) := by
  rw [fetch]
  split
  · next cause hcause =>
    obtain ⟨step, -, hstep⟩ := List.exists_of_findSome?_eq_some hcause
    intro hnotFound
    rw [Except.error.inj hnotFound] at hstep
    exact objection?_ne_notFound step unknown available hstep
  · cases hcontent : d.content name with
    | ok content => cases htext : Sample.textOf? content <;> simp [htext]
    | error cause =>
      cases cause with
      | missing => exact absurd hcontent (content_ne_missing h)
      | nameTooLong => simp

/-- **A name that reaches a file is never answered with the status 404.** -/
theorem sampleAnswer_ne_notFound (h : d.Reaches name fileName bytes) (body : Json) :
    Service.sampleAnswer d name ≠ .reply 404 body := by
  rw [Service.sampleAnswer]
  cases hfetch : d.fetch name with
  | ok s =>
    simp only [Service.Answer.success]
    split <;> simp
  | error cause =>
    cases cause with
    | notFound unknown available => exact absurd hfetch (fetch_ne_notFound h unknown available)
    | unusableName => simp
    | unwritableName => simp
    | nameTooLong => simp
    | undecodable => simp

/-- **A name to which no file belongs is answered with the status 404**, if its path fits. -/
theorem sampleAnswer_eq_notFound (hname : IsEntryName (name ++ Sample.ending))
    (hfits : (d.pathOf name).Fits)
    (hnone : ∀ bytes, d.tree.find? (d.location ++ [name ++ Sample.ending]) ≠ some (.file bytes)) :
    Service.sampleAnswer d name = .refusal 404 (Service.detail (.string
      (notFoundMessage name (d.listing.map Listed.name)))) [] := by
  have hreaches : ¬ ∃ fileName bytes, d.Reaches name fileName bytes := by
    rintro ⟨fileName, bytes, h⟩
    exact hnone bytes (find?_of_reaches hname h)
  rw [Service.sampleAnswer, fetch_eq_notFound (null_notMem hname)
    (isWritable_of_isEntryName hname) hfits hreaches]

/-- **What is fetched under the name of a file has the description of the file.** -/
theorem description_of_fetch (hname : IsEntryName (name ++ Sample.ending))
    (hfound : d.tree.find? (d.location ++ [name ++ Sample.ending]) = some (.file bytes))
    {s : Fetched} (hs : d.fetch name = .ok s) :
    Diagram.description s.content = Sample.descriptionOf (.file bytes) := by
  obtain ⟨-, fileName, bytes', hreaches, htext⟩ := exists_reaches_of_fetch hs
  have hsame := find?_of_reaches hname hreaches
  rw [hfound, Option.some.injEq, FileTree.file.injEq] at hsame
  rw [Sample.descriptionOf, hsame, htext, Option.map_some, Option.getD_some]

/-- **What a listed name leads to.**  Let the entries of every directory be named as entries are.

* A line is listed exactly if it is that of an entry of the directory whose name is one of a sample.
* A listed file that is called by more than the ending is never answered with the status 404 under
  its listed name, and if it is given, its description is the listed one.  If its path fits, it is
  given exactly when it holds a text.
* A listed directory is answered with the status 404, though the answer names it as a sample.
* So is a file that is called by the ending alone, which is listed as it is called.  Only if there
  is a file that is called by the ending twice, that file is given in its place. -/
theorem listed_names_lead_back (d : SampleDirectory) (hd : d.tree.IsWellNamed) :
    (∀ line, line ∈ d.listing ↔ ∃ fileName found, Sample.isFileName fileName = true ∧
      d.tree.find? (d.location ++ [fileName]) = some found ∧
      line = ⟨Sample.nameOf fileName, Sample.descriptionOf found⟩) ∧
    (∀ fileName bytes, (fileName, .file bytes) ∈ d.sampleEntries → fileName ≠ Sample.ending →
      (∀ body, Service.sampleAnswer d (Sample.nameOf fileName) ≠ .reply 404 body) ∧
      (∀ s, d.fetch (Sample.nameOf fileName) = .ok s →
        Diagram.description s.content = Sample.descriptionOf (.file bytes)) ∧
      ((d.pathOf (Sample.nameOf fileName)).Fits →
        d.fetch (Sample.nameOf fileName) = (Sample.textOf? bytes).elim (.error .undecodable)
          fun text => .ok ⟨Sample.nameOf fileName, text⟩)) ∧
    (∀ fileName entries, (fileName, .directory entries) ∈ d.sampleEntries →
      fileName ≠ Sample.ending → (d.pathOf (Sample.nameOf fileName)).Fits →
      Service.sampleAnswer d (Sample.nameOf fileName) = .refusal 404 (Service.detail (.string
        (notFoundMessage (Sample.nameOf fileName) (d.listing.map Listed.name)))) []) ∧
    Sample.nameOf Sample.ending = Sample.ending ∧
    ((∀ bytes, (Sample.ending ++ Sample.ending, .file bytes) ∉ d.sampleEntries) →
      (d.pathOf Sample.ending).Fits →
      Service.sampleAnswer d Sample.ending = .refusal 404 (Service.detail (.string
        (notFoundMessage Sample.ending (d.listing.map Listed.name)))) []) := by
  refine ⟨fun line => mem_listing_iff hd, ?_, ?_, Sample.nameOf_ending, ?_⟩
  · intro fileName bytes hmem hne
    obtain ⟨hname, hfound⟩ := find?_nameOf hd hmem hne
    have hreaches := reaches_of_find? hd hname hfound
    exact ⟨sampleAnswer_ne_notFound hreaches, fun s hs => description_of_fetch hname hfound hs,
      fun hfits => fetch_of_reaches (null_notMem hname) (isWritable_of_isEntryName hname) hfits
        hreaches⟩
  · intro fileName entries hmem hne hfits
    obtain ⟨hname, hfound⟩ := find?_nameOf hd hmem hne
    refine sampleAnswer_eq_notFound hname hfits ?_
    intro bytes hfile
    rw [hfound] at hfile
    cases hfile
  · intro hnone hfits
    have hname : IsEntryName (Sample.ending ++ Sample.ending) := by decide
    refine sampleAnswer_eq_notFound hname hfits ?_
    intro bytes hfile
    exact hnone bytes (mem_sampleEntries_of_find? (by decide) hfile)

/-- Two files and a directory.  One of the files is called by the ending alone. -/
def withBareEnding : SampleDirectory where
  tree := .directory [("samples".toText, .directory [
    (".diagram".toText, .file [0x2F, 0x2F, 0x61]),
    ("a.b.diagram".toText, .file [0x2F, 0x2F, 0x62]),
    ("x.diagram".toText, .directory [])])]
  location := ["samples".toText]
  isStored := Text.stored_of_mem_singleton "samples"

theorem isWellNamed_withBareEnding : withBareEnding.tree.IsWellNamed := by
  refine .directory (by decide) (by decide) ?_
  intro entry hentry
  obtain rfl := List.mem_singleton.mp hentry
  refine .directory (by decide) (by decide) ?_
  intro entry hentry
  simp only [List.mem_cons, List.not_mem_nil, or_false] at hentry
  rcases hentry with rfl | rfl | rfl
  · exact .file _
  · exact .file _
  · exact .directory List.nodup_nil (by simp) (by simp)

theorem mem_sampleEntries_withBareEnding :
    (".diagram".toText, .file [0x2F, 0x2F, 0x61]) ∈ withBareEnding.sampleEntries ∧
      ("a.b.diagram".toText, .file [0x2F, 0x2F, 0x62]) ∈ withBareEnding.sampleEntries ∧
      ("x.diagram".toText, .directory []) ∈ withBareEnding.sampleEntries :=
  ⟨mem_sampleEntries_of_find? (by decide) rfl, mem_sampleEntries_of_find? (by decide) rfl,
    mem_sampleEntries_of_find? (by decide) rfl⟩

/-- The file with a dot in its name is given under its listed name.  The directory and the file that
is called by the ending alone are not. -/
theorem dotted_name_is_found :
    withBareEnding.tree.IsWellNamed ∧
      withBareEnding.fetch "a.b".toText = .ok ⟨"a.b".toText, "//b".toText⟩ ∧
      (∀ body, Service.sampleAnswer withBareEnding "a.b".toText ≠ .reply 404 body) ∧
      Diagram.description "//b".toText = Sample.descriptionOf (.file [0x2F, 0x2F, 0x62]) ∧
      (∀ name ∈ ["x".toText, ".diagram".toText],
        Service.sampleAnswer withBareEnding name = .refusal 404 (Service.detail (.string
          (notFoundMessage name (withBareEnding.listing.map Listed.name)))) []) := by
  obtain ⟨-, hdotted, hdirectory⟩ := mem_sampleEntries_withBareEnding
  obtain ⟨-, hfiles, hdirectories, -, hbare⟩ :=
    listed_names_lead_back withBareEnding isWellNamed_withBareEnding
  obtain ⟨hanswer, hdescription, hfetch⟩ := hfiles _ _ hdotted (by decide)
  refine ⟨isWellNamed_withBareEnding, hfetch ⟨by decide, by decide⟩, hanswer,
    hdescription _ rfl, ?_⟩
  intro name hname
  simp only [List.mem_cons, List.not_mem_nil, or_false] at hname
  rcases hname with rfl | rfl
  · exact hdirectories _ _ hdirectory (by decide) ⟨by decide, by decide⟩
  · refine hbare ?_ ⟨by decide, by decide⟩
    intro bytes hmem
    obtain ⟨-, -, hfound⟩ := find?_of_mem_sampleEntries isWellNamed_withBareEnding hmem
    cases hfound

/-- **A listed name need not be known.**  In the same directory the listing shows the bare ending,
with the description of its file, and the directory, and both are missing when they are fetched. -/
theorem listed_name_is_unknown :
    ⟨".diagram".toText, "a".toText⟩ ∈ withBareEnding.listing ∧
      withBareEnding.fetch ".diagram".toText
        = .error (.notFound ".diagram".toText withBareEnding.names) ∧
      ⟨"x".toText, []⟩ ∈ withBareEnding.listing ∧
      withBareEnding.fetch "x".toText = .error (.notFound "x".toText withBareEnding.names) := by
  obtain ⟨hbare, -, hdirectory⟩ := mem_sampleEntries_withBareEnding
  have hline : (⟨Sample.nameOf ".diagram".toText,
      Sample.descriptionOf (.file [0x2F, 0x2F, 0x61])⟩ : Listed)
      = ⟨".diagram".toText, "a".toText⟩ := by decide +kernel
  exact ⟨List.mem_map.mpr ⟨_, hbare, hline⟩, rfl, List.mem_map.mpr ⟨_, hdirectory, rfl⟩, rfl⟩

end SampleDirectory

end ArrowNotation
