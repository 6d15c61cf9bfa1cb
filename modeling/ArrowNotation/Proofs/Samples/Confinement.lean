/-
# No name reaches outside the directory of samples

The name of a sample may hold slashes and parent steps, and it may be absolute, so the path it
stands for can be any path that ends in `.diagram`.  Whether it is one of the directory is
decided on the collapsed path, but the file is read along the path as it is written, and the two
need not meet: a walk fails at a parent step after a missing name, where collapsing goes on.

They cannot part in the harmful way.  A walk that comes to an end has come to the collapsed
names, so a file that is read is an entry of the directory (`content_eq_ok_iff`).  Every other
name that fits is not found.

All this is about names that can be written.  A name with a surrogate that stands for no byte is not
looked for at all, and what it is answered is no 404 (`fetch_eq_unwritableName`).

That no answer depends on what other files hold is then a statement about two trees.  If they
agree on the samples, walks come to the same in both, and what is read at the end is the same,
because a walk that is answered ends at a sample (`content_eq_of_agreeOn`).
-/
import ArrowNotation.Proofs.Files.Agreement
import ArrowNotation.Service.Answer

namespace ArrowNotation

open FileTree (AgreeOn EntriesAgreeOn)

/-! ## 1. Names of files -/

/-- **The name of a sample file is a name**, not one of the steps that lead nowhere or up. -/
theorem Sample.ne_of_isFileName {fileName : Text} (h : Sample.isFileName fileName = true) :
    fileName ≠ [] ∧ fileName ≠ hereStep ∧ fileName ≠ parentStep := by
  have hlength : Sample.ending.length ≤ fileName.length :=
    (List.isSuffixOf_iff_suffix.mp h).length_le
  refine ⟨?_, ?_, ?_⟩ <;>
  · rintro rfl
    exact absurd hlength (by decide)

/-- The path of a name with the ending of samples ends in the name of a sample file. -/
theorem Sample.exists_steps_eq_append (name : Text) :
    ∃ front last, (FilePath.ofText (name ++ Sample.ending)).steps = front ++ [last] ∧
      Sample.isFileName last = true := by
  obtain ⟨front, last, h⟩ :=
    Text.exists_splitAt_append (by decide : Text.slash ∉ Sample.ending) name
  have hlast : Sample.isFileName (last ++ Sample.ending) = true :=
    List.isSuffixOf_iff_suffix.mpr (List.suffix_append last Sample.ending)
  obtain ⟨hne, hhere, -⟩ := Sample.ne_of_isFileName hlast
  refine ⟨front.filter fun step => step ≠ [] ∧ step ≠ hereStep, last ++ Sample.ending, ?_, hlast⟩
  simp only [FilePath.ofText, h, List.filter_append]
  rw [List.filter_cons_of_pos (by simp [hne, hhere]), List.filter_nil]

theorem Sample.isFileName_stored {fileName : Text} (h : Sample.isFileName fileName = true) :
    Sample.isFileName (Text.stored fileName) = true := by
  obtain ⟨stem, rfl⟩ := List.isSuffixOf_iff_suffix.mp h
  have hending : ∀ c ∈ Sample.ending, c.toNat < 0x80 := by decide
  obtain ⟨front, hfront⟩ := Text.exists_stored_append hending stem
  rw [hfront]
  exact List.isSuffixOf_iff_suffix.mpr (List.suffix_append front Sample.ending)

namespace SampleDirectory

variable {d : SampleDirectory} {name fileName : Text} {bytes : Bytes}

/-- **The collapsed path of a name ends in the name of a sample file.** -/
theorem exists_collapse_pathOf (d : SampleDirectory) (name : Text) :
    ∃ front last, FilePath.collapse (d.pathOf name).steps = front ++ [last] ∧
      Sample.isFileName last = true := by
  obtain ⟨front, last, hsteps, hlast⟩ := Sample.exists_steps_eq_append name
  have hparent : last ≠ parentStep := (Sample.ne_of_isFileName hlast).2.2
  rw [pathOf, FilePath.seenFrom]
  split
  · refine ⟨FilePath.collapse (d.location ++ front), last, ?_, hlast⟩
    rw [hsteps, ← List.append_assoc, FilePath.collapse_append_name hparent]
  · refine ⟨FilePath.collapse front, last, ?_, hlast⟩
    rw [hsteps, FilePath.collapse_append_name hparent]

/-- The names that lead to the directory are spelled as they are. -/
theorem map_stored_location (d : SampleDirectory) : d.location.map Text.stored = d.location := by
  rw [List.map_congr_left d.isStored, List.map_id']

/-- **Where the collapsed path is one of the directory, the walk is to a sample file in it.** -/
theorem exists_collapse_stored
    (h : (FilePath.collapse (d.pathOf name).steps).dropLast = d.location) :
    ∃ last, FilePath.collapse (d.pathOf name).stored.steps = d.location ++ [last] ∧
      Sample.isFileName last = true := by
  obtain ⟨front, last, hcollapse, hlast⟩ := d.exists_collapse_pathOf name
  rw [hcollapse, List.dropLast_concat] at h
  refine ⟨Text.stored last, ?_, Sample.isFileName_stored hlast⟩
  rw [FilePath.stored, FilePath.collapse_stored, hcollapse, h, List.map_append,
    d.map_stored_location, List.map_singleton]

/-! ## 2. What can be read -/

/-- The name of a sample reaches a file: its path leads to a direct entry of the directory, a
file whose name ends in `.diagram`, and where it is written out the directory is spelled as it is.
The last matters only for names with surrogates (`reaches_iff_of_isEncodable`). -/
structure Reaches (d : SampleDirectory) (name fileName : Text) (bytes : Bytes) : Prop where
  leads : d.tree.Leads [] (d.pathOf name).stored.steps (d.location ++ [fileName])
  isFileName : Sample.isFileName fileName = true
  isEntry : ∃ directory, d.directory? = some directory ∧
    directory.child? fileName = some (.file bytes)
  isSpelled : (FilePath.collapse (d.pathOf name).steps).dropLast = d.location

/-- A path in the spelling of the file system spells the directory as it is. -/
theorem isSpelled_of_stored_eq (hstored : (d.pathOf name).stored = d.pathOf name)
    (hleads : d.tree.Leads [] (d.pathOf name).stored.steps (d.location ++ [fileName])) :
    (FilePath.collapse (d.pathOf name).steps).dropLast = d.location := by
  have hcollapse := hleads.eq_foldl
  rw [hstored] at hcollapse
  rw [FilePath.collapse_eq_foldl, ← hcollapse, List.dropLast_concat]

/-- What a step of the path of a name holds stands in the name or in the ending. -/
theorem mem_of_mem_steps {step : Text} {c : CodePoint}
    (hstep : step ∈ (FilePath.ofText (name ++ Sample.ending)).steps) (hc : c ∈ step) :
    c ∈ name ∨ c ∈ Sample.ending :=
  List.mem_append.mp (Text.mem_of_mem_splitAt (List.mem_filter.mp hstep).1 hc)

theorem stored_pathOf (d : SampleDirectory) (h : Text.isEncodable name = true) :
    (d.pathOf name).stored = d.pathOf name := by
  have hsteps : ∀ step ∈ (FilePath.ofText (name ++ Sample.ending)).steps,
      Text.stored step = step := by
    intro step hstep
    refine Text.stored_of_isEncodable (List.all_eq_true.mpr ?_)
    intro c hc
    rcases mem_of_mem_steps hstep hc with hname | hending
    · exact List.all_eq_true.mp h c hname
    · exact (by decide : ∀ c ∈ Sample.ending, (!c.isSurrogate) = true) c hending
  have hmap : (FilePath.ofText (name ++ Sample.ending)).steps.map Text.stored
      = (FilePath.ofText (name ++ Sample.ending)).steps := by
    rw [List.map_congr_left hsteps, List.map_id']
  rw [pathOf, FilePath.seenFrom]
  split
  · rw [FilePath.stored, List.map_append, d.map_stored_location, hmap]
  · rw [FilePath.stored, hmap]

/-- **What a name without surrogates reaches** is a sample file in the directory to which its path
leads. -/
theorem reaches_iff_of_isEncodable (h : Text.isEncodable name = true) :
    d.Reaches name fileName bytes ↔
      d.tree.Leads [] (d.pathOf name).steps (d.location ++ [fileName]) ∧
        Sample.isFileName fileName = true ∧
          ∃ directory, d.directory? = some directory ∧
            directory.child? fileName = some (.file bytes) := by
  have hstored := d.stored_pathOf h
  constructor
  · rintro ⟨hleads, hname, hentry, -⟩
    exact ⟨hstored ▸ hleads, hname, hentry⟩
  · rintro ⟨hleads, hname, hentry⟩
    rw [← hstored] at hleads
    exact ⟨hleads, hname, hentry, isSpelled_of_stored_eq hstored hleads⟩

/-- The entries of the directory are what lies one name after it. -/
theorem exists_entry_iff {found : FileTree} :
    (∃ directory, d.directory? = some directory ∧ directory.child? fileName = some found) ↔
      d.tree.find? (d.location ++ [fileName]) = some found := by
  rw [FileTree.find?_append_name, Option.bind_eq_some_iff]
  constructor
  · rintro ⟨directory, hdirectory, hchild⟩
    exact ⟨directory, (Option.filter_eq_some_iff.mp hdirectory).1, hchild⟩
  · rintro ⟨directory, hfound, hchild⟩
    have hisDirectory := FileTree.isDirectory_of_child?_eq_some hchild
    exact ⟨directory, Option.filter_eq_some_iff.mpr ⟨hfound, hisDirectory⟩, hchild⟩

/-- What comes of a walk along the path of a name. -/
def bytesOf : Except FileTree.WalkError FileTree → Except FileTree.WalkError Bytes
  | .ok (.file bytes) => .ok bytes
  | .ok (.directory _) => .error .missing
  | .error cause => .error cause

theorem bytesOf_eq_ok_iff {found : Except FileTree.WalkError FileTree} :
    bytesOf found = .ok bytes ↔ found = .ok (.file bytes) := by
  unfold bytesOf
  split <;> simp

theorem bytesOf_eq_nameTooLong_iff {found : Except FileTree.WalkError FileTree} :
    bytesOf found = .error .nameTooLong ↔ found = .error .nameTooLong := by
  unfold bytesOf
  split <;> simp

/-- A name is answered by the walk along its path, if the collapsed path is an entry of the
directory. -/
theorem content_eq (d : SampleDirectory) (name : Text) :
    d.content name =
      if (FilePath.collapse (d.pathOf name).steps).dropLast = d.location then
        bytesOf (d.tree.lookUp (d.pathOf name))
      else .error .missing := by
  rw [content]
  cases d.tree.lookUp (d.pathOf name) with
  | error cause => rfl
  | ok found => cases found <;> rfl

/-- **What can be read is what the name reaches**, if the path fits. -/
theorem content_eq_ok_iff :
    d.content name = .ok bytes ↔
      (d.pathOf name).Fits ∧ ∃ fileName, d.Reaches name fileName bytes := by
  rw [content_eq]
  constructor
  · intro h
    split at h
    case isFalse => cases h
    rename_i hlocation
    obtain ⟨hfits, hfound, hleads⟩ := FileTree.lookUp_eq_ok_iff.mp (bytesOf_eq_ok_iff.mp h)
    -- The walk came to the collapsed names, and those are an entry of the directory.
    obtain ⟨last, hcollapse, hlast⟩ := exists_collapse_stored hlocation
    rw [hcollapse] at hfound hleads
    exact ⟨hfits, last, hleads, hlast, exists_entry_iff.mpr hfound, hlocation⟩
  · rintro ⟨hfits, fileName, hreaches⟩
    have hcollapse : FilePath.collapse (d.pathOf name).stored.steps = d.location ++ [fileName] :=
      hreaches.leads.eq_foldl.symm
    have hfound := exists_entry_iff.mp hreaches.isEntry
    have hleads := hreaches.leads
    rw [← hcollapse] at hfound hleads
    rw [if_pos hreaches.isSpelled, bytesOf_eq_ok_iff]
    exact FileTree.lookUp_eq_ok_iff.mpr ⟨hfits, hfound, hleads⟩

/-- For a path that fits, no name is called too long. -/
theorem content_ne_nameTooLong (hfits : (d.pathOf name).Fits) :
    d.content name ≠ .error .nameTooLong := by
  rw [content_eq]
  intro h
  split at h
  · exact FileTree.lookUp_ne_nameTooLong hfits (bytesOf_eq_nameTooLong_iff.mp h)
  · cases h

/-- **A name that reaches nothing is missing**, if its path fits. -/
theorem content_eq_missing (hfits : (d.pathOf name).Fits)
    (hnone : ¬ ∃ fileName bytes, d.Reaches name fileName bytes) :
    d.content name = .error .missing := by
  cases h : d.content name with
  | ok bytes =>
    obtain ⟨-, fileName, hreaches⟩ := content_eq_ok_iff.mp h
    exact absurd ⟨fileName, bytes, hreaches⟩ hnone
  | error cause =>
    cases cause with
    | missing => rfl
    | nameTooLong => exact absurd h (content_ne_nameTooLong hfits)

/-! ## 3. What is fetched -/

theorem names_eq (d : SampleDirectory) : d.names = d.listing.map Listed.name := by
  simp [names, listing]

/-- What the name holds stands in a step of its path, unless it is a slash or a dot. -/
theorem exists_mem_steps {c : CodePoint} (hc : c ∈ name) (hslash : c ≠ Text.slash)
    (hdot : c ≠ CodePoint.ofChar '.') :
    ∃ step ∈ (FilePath.ofText (name ++ Sample.ending)).steps, c ∈ step := by
  obtain ⟨step, hpiece, hmem⟩ := Text.exists_mem_splitAt_iff.mpr
    ⟨List.mem_append_left Sample.ending hc, hslash⟩
  refine ⟨step, List.mem_filter.mpr ⟨hpiece, decide_eq_true ⟨List.ne_nil_of_mem hmem, ?_⟩⟩, hmem⟩
  rintro rfl
  exact hdot (List.mem_singleton.mp hmem)

/-- What cannot be written stands in a step, and all else can. -/
theorem forall_isWritable_steps_iff :
    (∀ step ∈ (FilePath.ofText (name ++ Sample.ending)).steps, Text.isWritable step = true) ↔
      Text.isWritable name = true := by
  simp only [Text.isWritable, List.all_eq_true]
  constructor
  · intro h c hc
    by_contra hwritable
    have hne : ∀ other : CodePoint, other.isWritable = true → c ≠ other := by
      rintro other hother rfl
      exact hwritable hother
    obtain ⟨step, hstep, hmem⟩ := exists_mem_steps hc (hne _ (by decide)) (hne _ (by decide))
    exact hwritable (h step hstep c hmem)
  · intro h step hstep c hc
    rcases mem_of_mem_steps hstep hc with hname | hending
    · exact h c hname
    · exact (by decide : ∀ c ∈ Sample.ending, c.isWritable = true) c hending

theorem objection?_of_mem_steps (hnull : Text.null ∉ name) {step : Text}
    (hstep : step ∈ (FilePath.ofText (name ++ Sample.ending)).steps) :
    objection? step = if Text.isWritable step then none else some .unwritableName := by
  have hstepNull : Text.null ∉ step := by
    intro hc
    rcases mem_of_mem_steps hstep hc with hname | hending
    · exact hnull hname
    · exact absurd hending (by decide)
  rw [objection?, if_neg hstepNull]
  cases Text.isWritable step <;> rfl

/-- **What stands against a name without a null character** is only that it cannot be written. -/
theorem findSome?_objection? (hnull : Text.null ∉ name) :
    (FilePath.ofText (name ++ Sample.ending)).steps.findSome? objection?
      = if Text.isWritable name then none else some .unwritableName := by
  cases hfound : (FilePath.ofText (name ++ Sample.ending)).steps.findSome? objection? with
  | none =>
    have hsteps : ∀ step ∈ (FilePath.ofText (name ++ Sample.ending)).steps,
        Text.isWritable step = true := by
      intro step hstep
      have hnone := List.findSome?_eq_none_iff.mp hfound step hstep
      rw [objection?_of_mem_steps hnull hstep] at hnone
      simpa using hnone
    rw [forall_isWritable_steps_iff.mp hsteps]
    rfl
  | some cause =>
    obtain ⟨step, hstep, hcause⟩ := List.exists_of_findSome?_eq_some hfound
    rw [objection?_of_mem_steps hnull hstep, Option.ite_none_left_eq_some] at hcause
    have hname : ¬ Text.isWritable name = true := fun h =>
      hcause.1 (forall_isWritable_steps_iff.mpr h step hstep)
    rw [if_neg hname, hcause.2]

/-- **A name that cannot be written is not looked for.** -/
theorem fetch_eq_unwritableName (hnull : Text.null ∉ name)
    (hwritable : Text.isWritable name = false) : d.fetch name = .error .unwritableName := by
  rw [fetch, findSome?_objection? hnull, hwritable]
  rfl

/-- **A sample that is fetched is a file that its name reaches**, decoded. -/
theorem exists_reaches_of_fetch {s : Fetched} (h : d.fetch name = .ok s) :
    s.name = name ∧
      ∃ fileName bytes, d.Reaches name fileName bytes ∧ Sample.textOf? bytes = some s.content := by
  rw [fetch] at h
  split at h
  case h_1 => cases h
  split at h
  case h_1 => cases h
  case h_2 => cases h
  case h_3 bytes hcontent =>
    obtain ⟨-, fileName, hreaches⟩ := content_eq_ok_iff.mp hcontent
    cases htext : Sample.textOf? bytes with
    | none => simp [htext] at h
    | some text =>
      simp only [htext, Except.ok.injEq] at h
      subst h
      exact ⟨rfl, fileName, bytes, hreaches, htext⟩

/-- **A name that reaches a file is answered with its text**, or not at all if it holds none. -/
theorem fetch_of_reaches (hnull : Text.null ∉ name) (hwritable : Text.isWritable name = true)
    (hfits : (d.pathOf name).Fits) (hreaches : d.Reaches name fileName bytes) :
    d.fetch name = (Sample.textOf? bytes).elim (.error .undecodable) fun text =>
      .ok ⟨name, text⟩ := by
  have hcontent : d.content name = .ok bytes := content_eq_ok_iff.mpr ⟨hfits, fileName, hreaches⟩
  rw [fetch, findSome?_objection? hnull, if_pos hwritable]
  cases htext : Sample.textOf? bytes <;> simp [hcontent, htext]

/-- **A name that reaches nothing is not found**, and the answer names the samples there are. -/
theorem fetch_eq_notFound (hnull : Text.null ∉ name) (hwritable : Text.isWritable name = true)
    (hfits : (d.pathOf name).Fits) (hnone : ¬ ∃ fileName bytes, d.Reaches name fileName bytes) :
    d.fetch name = .error (.notFound name (d.listing.map Listed.name)) := by
  rw [fetch, findSome?_objection? hnull, if_pos hwritable, content_eq_missing hfits hnone, names_eq]

/-! ## 4. Two trees -/

/-- The names that lead to a sample file in the directory. -/
def IsSamplePath (d : SampleDirectory) (names : List Text) : Prop :=
  ∃ fileName, names = d.location ++ [fileName] ∧ Sample.isFileName fileName = true

/-- The same directory in another tree. -/
def inTree (d : SampleDirectory) (tree : FileTree) : SampleDirectory := { d with tree }

variable {tree' : FileTree}

@[simp] theorem tree_inTree : (d.inTree tree').tree = tree' := rfl

@[simp] theorem location_inTree : (d.inTree tree').location = d.location := rfl

@[simp] theorem pathOf_inTree : (d.inTree tree').pathOf name = d.pathOf name := rfl

/-- **What can be read does not depend on other files**, nor why it cannot. -/
theorem content_eq_of_agreeOn (h : AgreeOn d.IsSamplePath [] d.tree tree') (name : Text) :
    (d.inTree tree').content name = d.content name := by
  have hend := h.lookUp (d.pathOf name)
  rw [content_eq, content_eq, pathOf_inTree, tree_inTree, location_inTree]
  split
  · rename_i hlocation
    -- A walk that is answered ends at a sample, where both trees hold the same bytes.
    have hkept : d.IsSamplePath (FilePath.collapse (d.pathOf name).stored.steps) :=
      exists_collapse_stored hlocation
    generalize d.tree.lookUp (d.pathOf name) = found, tree'.lookUp (d.pathOf name) = found'
      at hend ⊢
    cases hend with
    | failed cause => rfl
    | found hfound =>
      cases hfound with
      | file hbytes => rw [hbytes hkept]
      | directory _ => rfl
  · rfl

/-- The samples among the entries of a directory, in its own order: file names and
descriptions. -/
def described (entries : List (Text × FileTree)) : List (Text × Text) :=
  (entries.filter fun entry => Sample.isFileName entry.1).map fun entry =>
    (entry.1, Sample.descriptionOf entry.2)

theorem listing_eq_nil (h : d.directory? = none) : d.listing = [] := by
  simp [listing, sampleEntries, h]

/-- The listing depends on nothing but file names and descriptions. -/
theorem listing_eq_map_described {entries : List (Text × FileTree)}
    (h : d.directory? = some (.directory entries)) :
    d.listing = ((described entries).mergeSort fun a b => Text.atMost a.1 b.1).map
      fun line => ⟨Sample.nameOf line.1, line.2⟩ := by
  have hsort : (described entries).mergeSort (fun a b => Text.atMost a.1 b.1) =
      ((entries.filter fun entry => Sample.isFileName entry.1).mergeSort
        fun a b => Text.atMost a.1 b.1).map fun entry =>
          (entry.1, Sample.descriptionOf entry.2) := by
    rw [described, ← List.map_mergeSort]
    exact fun _ _ _ _ => rfl
  rw [hsort, List.map_map, listing, sampleEntries, h]
  rfl

/-- Entries that agree on the samples are described alike. -/
theorem described_eq_of_entriesAgreeOn : ∀ {entries entries' : List (Text × FileTree)},
    EntriesAgreeOn d.IsSamplePath d.location entries entries' →
      described entries' = described entries
  | _, _, .nil => rfl
  | (name, _) :: _, _, .cons head tail => by
    have ih := described_eq_of_entriesAgreeOn tail
    rw [described, described] at ih ⊢
    by_cases hname : Sample.isFileName name = true
    · have hkept : d.IsSamplePath (d.location ++ [name]) := ⟨name, rfl, hname⟩
      cases head with
      | file hbytes => simpa [hname, hbytes hkept] using ih
      | directory _ => simpa [hname, Sample.descriptionOf] using ih
    · simpa [hname] using ih

/-- The directory is there in both trees or in neither, and its entries agree. -/
theorem directory?_of_agreeOn (h : AgreeOn d.IsSamplePath [] d.tree tree') :
    (d.directory? = none ∧ (d.inTree tree').directory? = none) ∨
      ∃ entries entries', d.directory? = some (.directory entries) ∧
        (d.inTree tree').directory? = some (.directory entries') ∧
        EntriesAgreeOn d.IsSamplePath d.location entries entries' := by
  have hfound := h.find? d.location
  rw [directory?, directory?, tree_inTree, location_inTree]
  generalize d.tree.find? d.location = found, tree'.find? d.location = found' at hfound ⊢
  cases hfound with
  | none => exact Or.inl ⟨rfl, rfl⟩
  | some hfound =>
    cases hfound with
    | file _ => exact Or.inl ⟨rfl, rfl⟩
    | directory hentries => exact Or.inr ⟨_, _, rfl, rfl, hentries⟩

/-- **The listing does not depend on other files.** -/
theorem listing_eq_of_agreeOn (h : AgreeOn d.IsSamplePath [] d.tree tree') :
    (d.inTree tree').listing = d.listing := by
  rcases directory?_of_agreeOn h with
    ⟨hnone, hnone'⟩ | ⟨entries, entries', hentries, hentries', hagree⟩
  · rw [listing_eq_nil hnone, listing_eq_nil hnone']
  · rw [listing_eq_map_described hentries, listing_eq_map_described hentries',
      described_eq_of_entriesAgreeOn hagree]

/-- **No fetch depends on other files.** -/
theorem fetch_eq_of_agreeOn (h : AgreeOn d.IsSamplePath [] d.tree tree') (name : Text) :
    (d.inTree tree').fetch name = d.fetch name := by
  have hnames : (d.inTree tree').names = d.names := by
    rw [names_eq, names_eq, listing_eq_of_agreeOn h]
  rw [fetch, fetch, content_eq_of_agreeOn h, hnames]

/-! ## 5. Calls -/

/-- A call: for the listing, or for a sample by its name. -/
inductive Call where
  | listing
  | fetch (name : Text)
  deriving DecidableEq

/-- The reply to a call: the lines of the listing, or a sample with its graph. -/
inductive Reply where
  | listing (lines : List Listed)
  | fetched (result : Except FetchError (Fetched × Graph))

/-- The reply of a directory to a call. -/
def reply (d : SampleDirectory) : Call → Reply
  | .listing => .listing d.listing
  | .fetch name => .fetched ((d.fetch name).map fun s => (s, s.graph))

theorem reply_eq_of_agreeOn (h : AgreeOn d.IsSamplePath [] d.tree tree') (call : Call) :
    (d.inTree tree').reply call = d.reply call := by
  cases call with
  | listing => rw [reply, reply, listing_eq_of_agreeOn h]
  | fetch name => rw [reply, reply, fetch_eq_of_agreeOn h]

/-! ## 6. Confinement -/

/-- **No name reaches outside the directory of samples.**  A fetch gives nothing but the text of
a file that the path of the name leads to, an entry of the directory whose name ends in
`.diagram`.  Where the path fits and can be written, such a file is given if it holds a text, and
any other name is refused as not found, with the names of the listing in their order.  A name that
cannot be written fails for that reason alone.  So what the other files of the tree hold has no
influence on the replies to any calls. -/
theorem confined_to_directory (d : SampleDirectory) :
    (∀ name : Text, Text.null ∉ name →
      (∀ s, d.fetch name = .ok s → s.name = name ∧
        ∃ fileName bytes, d.Reaches name fileName bytes ∧
          Sample.textOf? bytes = some s.content) ∧
      (Text.isWritable name = false → d.fetch name = .error .unwritableName) ∧
      (Text.isWritable name = true → (d.pathOf name).Fits →
        (∀ fileName bytes, d.Reaches name fileName bytes →
          d.fetch name = (Sample.textOf? bytes).elim (.error .undecodable) fun text =>
            .ok ⟨name, text⟩) ∧
        ((¬ ∃ fileName bytes, d.Reaches name fileName bytes) →
          d.fetch name = .error (.notFound name (d.listing.map Listed.name)) ∧
          Service.sampleAnswer d name = .refusal 404 (Service.detail (.string
            (notFoundMessage name (d.listing.map Listed.name)))) []))) ∧
    ∀ tree' : FileTree, AgreeOn d.IsSamplePath [] d.tree tree' →
      ∀ calls : List Call, calls.map (d.inTree tree').reply = calls.map d.reply := by
  refine ⟨fun name hnull => ⟨fun s h => exists_reaches_of_fetch h,
    fun hwritable => fetch_eq_unwritableName hnull hwritable,
    fun hwritable hfits => ⟨?_, ?_⟩⟩, ?_⟩
  · intro fileName bytes hreaches
    exact fetch_of_reaches hnull hwritable hfits hreaches
  · intro hnone
    have hfetch := fetch_eq_notFound hnull hwritable hfits hnone
    refine ⟨hfetch, ?_⟩
    rw [Service.sampleAnswer, hfetch]
  · intro tree' h calls
    exact List.map_congr_left fun call _ => reply_eq_of_agreeOn h call

/-- A directory with one sample, and a file beside the directory that has a name like one. -/
def withNeighbour (bytes : Bytes) : SampleDirectory where
  tree := .directory [("srv".toText, .directory [
    ("samples".toText, .directory [("ok.diagram".toText, .file [0x41, 0x2D, 0x2D, 0x3E, 0x42])]),
    ("secret.diagram".toText, .file bytes)])]
  location := ["srv".toText, "samples".toText]
  isStored := by simp

/-- A detour through the parent directory finds the sample; the file beside the directory is not
found, and two directories that differ in its bytes give the same replies. -/
theorem neighbour_is_not_found :
    (withNeighbour [0x42]).fetch "../samples/ok".toText =
        .ok ⟨"../samples/ok".toText, "A-->B".toText⟩ ∧
      (withNeighbour [0x42]).fetch "../secret".toText =
        .error (.notFound "../secret".toText ["ok".toText]) ∧
      [Call.listing, .fetch "../secret".toText].map (withNeighbour []).reply =
        [Call.listing, .fetch "../secret".toText].map (withNeighbour [0x42]).reply := by
  obtain ⟨hnames, hcalls⟩ := confined_to_directory (withNeighbour [0x42])
  have hdetour := (hnames "../samples/ok".toText (by decide)).2.2 (by decide) ⟨by decide, by decide⟩
  have hbesides := (hnames "../secret".toText (by decide)).2.2 (by decide) ⟨by decide, by decide⟩
  refine ⟨?_, ?_, ?_⟩
  · have hreaches : (withNeighbour [0x42]).Reaches "../samples/ok".toText "ok.diagram".toText
        [0x41, 0x2D, 0x2D, 0x3E, 0x42] := by
      refine (reaches_iff_of_isEncodable (by decide)).mpr ⟨?_, by decide, _, rfl, rfl⟩
      exact .step rfl (.step rfl (.step rfl (.step rfl (.step rfl (.stay rfl)))))
    rw [hdetour.1 _ _ hreaches]
    rfl
  · have hnone : ¬ ∃ fileName bytes,
        (withNeighbour [0x42]).Reaches "../secret".toText fileName bytes := by
      rintro ⟨fileName, bytes, hreaches⟩
      have hlength := congrArg List.length hreaches.leads.eq_foldl
      rw [List.length_append, List.length_singleton] at hlength
      exact absurd hlength (by decide)
    have hlisting : (withNeighbour [0x42]).listing.map Listed.name = ["ok".toText] := by
      have hdescribed : described [("ok.diagram".toText, .file [0x41, 0x2D, 0x2D, 0x3E, 0x42])] =
          [("ok.diagram".toText, [])] := by decide
      rw [listing_eq_map_described rfl, hdescribed, List.mergeSort_singleton]
      rfl
    rw [(hbesides.2 hnone).1, hlisting]
  · have hbeside : ¬ (withNeighbour [0x42]).IsSamplePath
        ["srv".toText, "secret.diagram".toText] := by
      rintro ⟨fileName, hpath, -⟩
      simpa [withNeighbour] using congrArg List.length hpath
    refine hcalls (withNeighbour []).tree ?_ _
    exact .directory (.cons (.directory (.cons
      (.directory (.cons (.file fun _ => rfl) .nil))
      (.cons (.file fun hkept => absurd hkept hbeside) .nil))) .nil)

/-- **A name that reaches nothing need not be called unknown.**  Half of a surrogate pair holds no
null character and reaches no file, and yet it is not answered with the status 404. -/
theorem lone_surrogate_is_not_unknown :
    Text.null ∉ [CodePoint.ofNat 0xD800] ∧
      (¬ ∃ fileName bytes, (withNeighbour []).Reaches [.ofNat 0xD800] fileName bytes) ∧
      (withNeighbour []).fetch [.ofNat 0xD800] = .error .unwritableName ∧
      ∀ body, Service.sampleAnswer (withNeighbour []) [.ofNat 0xD800] ≠ .reply 404 body := by
  have hnull : Text.null ∉ [CodePoint.ofNat 0xD800] := by decide
  have hfetch : (withNeighbour []).fetch [.ofNat 0xD800] = .error .unwritableName :=
    fetch_eq_unwritableName hnull (by decide)
  refine ⟨hnull, ?_, hfetch, ?_⟩
  · rintro ⟨fileName, bytes, hreaches⟩
    have hcontent := content_eq_ok_iff.mpr ⟨⟨by decide, by decide⟩, fileName, hreaches⟩
    have hmissing : (withNeighbour []).content [.ofNat 0xD800] = .error .missing := rfl
    rw [hmissing] at hcontent
    cases hcontent
  · intro body hanswer
    rw [Service.sampleAnswer, hfetch] at hanswer
    cases hanswer

end SampleDirectory

end ArrowNotation
