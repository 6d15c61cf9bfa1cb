/-
# The listing of samples is always given

A sample that cannot be read is listed without a description, so it cannot keep the listing from
being made.  Nor can it keep the listing from being written: a description comes out of a strict
decoder and holds no surrogate (`Sample.isEncodable_descriptionOf`), and so the answer fails at most
for the name of a file.

The main statement puts this together with what `Proofs.Samples.Entries` says of the lines: each of
them belongs to one entry, and the other entries, their number and the order in which they were made
do not enter into it.
-/
import ArrowNotation.Proofs.Samples.Entries
import ArrowNotation.Proofs.Service.TextRequests

namespace ArrowNotation

/-! ## 1. Texts of samples -/

namespace Sample

/-- Line ends are unified to line feeds, and all else is kept. -/
theorem eq_or_mem_of_mem_unifyLineEnds {c : CodePoint} : ∀ {t : Text},
    c ∈ unifyLineEnds t → c = Text.lineFeed ∨ c ∈ t
  | [], h => absurd h List.not_mem_nil
  | d :: rest, h => by
    unfold unifyLineEnds at h
    split at h
    · split at h
      · exact Or.inl (List.mem_singleton.mp h)
      · next e others =>
        split at h
        · rcases List.mem_cons.mp h with hc | hc
          · exact Or.inl hc
          · exact (eq_or_mem_of_mem_unifyLineEnds hc).imp_right fun hmem =>
              List.mem_cons_of_mem _ (List.mem_cons_of_mem _ hmem)
        · rcases List.mem_cons.mp h with hc | hc
          · exact Or.inl hc
          · exact (eq_or_mem_of_mem_unifyLineEnds hc).imp_right (List.mem_cons_of_mem _)
    · rcases List.mem_cons.mp h with rfl | hc
      · exact Or.inr List.mem_cons_self
      · exact (eq_or_mem_of_mem_unifyLineEnds hc).imp_right (List.mem_cons_of_mem _)

/-- **The text of a sample can be encoded.** -/
theorem isEncodable_of_textOf? {bytes : Bytes} {text : Text} (h : textOf? bytes = some text) :
    Text.isEncodable text = true := by
  obtain ⟨decoded, hdecoded, rfl⟩ := Option.map_eq_some_iff.mp h
  have hencodable := Text.isEncodable_iff.mp (Text.isEncodable_of_decodeUtf8 hdecoded)
  refine Text.isEncodable_iff.mpr ?_
  intro c hc
  rcases eq_or_mem_of_mem_unifyLineEnds hc with rfl | hmem
  · decide
  · exact hencodable c hmem

end Sample

theorem Diagram.isEncodable_description {text : Text} (h : Text.isEncodable text = true) :
    Text.isEncodable (description text) = true := by
  unfold description
  split
  · next line hline =>
    have hencodable := Text.isEncodable_of_mem_lines h (List.mem_of_find?_eq_some hline)
    refine Text.isEncodable_trim (Text.isEncodable_of_mem (Text.isEncodable_trim hencodable) ?_)
    intro c hc
    exact List.mem_of_mem_drop hc
  · rfl

namespace Sample

/-- **The description of an entry can be encoded**, whatever the entry is. -/
theorem isEncodable_descriptionOf (entry : FileTree) :
    Text.isEncodable (descriptionOf entry) = true := by
  cases entry with
  | directory entries => rfl
  | file content =>
    rw [descriptionOf]
    cases htext : textOf? content with
    | none => rfl
    | some text => exact Diagram.isEncodable_description (isEncodable_of_textOf? htext)

theorem isEncodable_nameOf {fileName : Text} (h : Text.isEncodable fileName = true) :
    Text.isEncodable (nameOf fileName) = true := by
  unfold nameOf
  dsimp only
  split
  · exact h
  · exact Text.isEncodable_of_mem h fun c hc => List.mem_of_mem_take hc

end Sample

/-! ## 2. The answer -/

namespace Service

/-- The answer to a request for the listing. -/
def getListing (d : SampleDirectory) (body : Body) (contentType : Option Text) : Answer :=
  answer d ⟨.get, basePath ++ "/samples".toText, body, contentType⟩

/-- **The listing is given**, if the names of the files can be written. -/
theorem getListing_eq_reply {d : SampleDirectory} (body : Body) (contentType : Option Text)
    (hnames : ∀ fileName ∈ d.fileNames, Text.isEncodable fileName = true) :
    getListing d body contentType = .reply 200 (.array (d.listing.map listedJson)) := by
  have hpath : endpointAt? (basePath ++ "/samples".toText) = some .listing :=
    endpointAt?_of_mem_fixedPaths (basePath ++ "/samples".toText, .listing) (by simp [fixedPaths])
  have hanswer : getListing d body contentType = .success (.array (d.listing.map listedJson)) := by
    simp only [getListing, answer, hpath]
    rfl
  rw [hanswer]
  refine (Answer.gives_success _).eq_reply (Json.isEncodable_array_iff.mpr ?_)
  intro v hv
  obtain ⟨line, hline, rfl⟩ := List.mem_map.mp hv
  obtain ⟨⟨fileName, entry⟩, hmem, rfl⟩ := List.mem_map.mp hline
  have hname := Sample.isEncodable_nameOf (hnames fileName (List.mem_map.mpr ⟨_, hmem, rfl⟩))
  simp [listedJson, Json.isEncodable_object_iff, Text.isEncodable_toText, hname,
    Sample.isEncodable_descriptionOf]

end Service

/-! ## 3. All together -/

namespace SampleDirectory

/-- **Every entry has its own line.**  Let the entries of every directory be named as entries are.

* The listing has a line for each entry of the directory that is a sample by its name, in ascending
  order of the file names.
* A line shows the name of its entry without the ending, and the description of the text that the
  entry holds: a file of well-formed UTF-8, with its line ends unified.  Any other file and any
  directory has an empty description.
* If an entry is replaced by anything else, its own line is the only one that changes.
* Entries that are made in another order give the same listing.
* The listing is the answer to a request for it, if the names of the files can be written.
* A start notes the names of the listing, and the answer to an unknown name shows them as well, in
  the same order.  If the directory is missing there are none, and a start warns of it. -/
theorem each_entry_has_its_own_line (d : SampleDirectory) (hd : d.tree.IsWellNamed) :
    (d.listing = d.fileNames.map d.lineOf ∧
      d.fileNames.Pairwise (fun a b => Text.atMost a b = true ∧ a ≠ b) ∧
      ∀ fileName, fileName ∈ d.fileNames ↔
        Sample.isFileName fileName = true ∧ ∃ entry, d.entryAt? fileName = some entry) ∧
    ((∀ fileName entry, d.entryAt? fileName = some entry →
        d.lineOf fileName = ⟨Sample.nameOf fileName, Sample.descriptionOf entry⟩) ∧
      (∀ entries, Sample.descriptionOf (.directory entries) = []) ∧
      ∀ bytes, Sample.descriptionOf (.file bytes) =
        ((Text.decodeUtf8 false bytes).map fun text =>
          Diagram.description (Sample.unifyLineEnds text)).getD []) ∧
    (∀ fileName old new, d.entryAt? fileName = some old →
      (d.withEntry fileName new).listing = d.fileNames.map fun other =>
        if other = fileName then ⟨Sample.nameOf fileName, Sample.descriptionOf new⟩
        else d.lineOf other) ∧
    (∀ place, d.directory? = some place → ∀ steps steps' : List (Text × FileTree),
      steps.Perm steps' → (steps.map Prod.fst).Nodup →
      (d.withEntries steps).listing = (d.withEntries steps').listing) ∧
    ((∀ fileName ∈ d.fileNames, Text.isEncodable fileName = true) → ∀ body contentType,
      Service.getListing d body contentType
        = .reply 200 (.array (d.listing.map Service.listedJson))) ∧
    ((∀ path, ∃ connectors, startupLog d path = [connectors,
        if d.directory?.isSome then
          ⟨.info, "Available sample diagrams: ".toText
            ++ Text.quotedList (d.listing.map Listed.name)⟩
        else ⟨.warning, "Samples directory does not exist: ".toText ++ path⟩]) ∧
      (∀ name unknown available, d.fetch name = .error (.notFound unknown available) →
        Service.sampleAnswer d name = .refusal 404 (Service.detail (.string
          (notFoundMessage name (d.listing.map Listed.name)))) []) ∧
      (d.directory? = none → d.listing = [] ∧
        ∀ name, Text.null ∉ name → Text.isWritable name = true → (d.pathOf name).Fits →
          d.fetch name = .error (.notFound name []))) := by
  have hdistinct := hasDistinctNames_of_isWellNamed hd
  refine ⟨⟨listing_eq_map_lineOf hdistinct, pairwise_fileNames hdistinct,
    fun fileName => mem_fileNames_iff hdistinct⟩, ⟨?_, fun entries => rfl, ?_⟩, ?_, ?_, ?_,
    exists_startupLog_eq d, ?_, ?_⟩
  · intro fileName entry hentry
    rw [lineOf, hentry]
    rfl
  · intro bytes
    rw [Sample.descriptionOf, Sample.textOf?, Option.map_map]
    rfl
  · intro fileName old new hentry
    obtain ⟨directory, hdirectory, -⟩ := exists_entry_iff.mpr hentry
    obtain ⟨entries, h⟩ := hdistinct.exists_holds hdirectory
    exact h.listing_withEntry hentry new
  · intro place hdirectory steps steps' hperm hnodup
    obtain ⟨entries, h⟩ := hdistinct.exists_holds hdirectory
    exact h.listing_withEntries_of_perm hperm hnodup
  · intro hnames body contentType
    exact Service.getListing_eq_reply body contentType hnames
  · intro name unknown available h
    obtain ⟨rfl, rfl⟩ := names_of_fetch_eq_notFound h
    rw [Service.sampleAnswer, h]
  · intro hnone
    refine ⟨listing_eq_nil hnone, ?_⟩
    intro name hnull hwritable hfits
    exact fetch_eq_notFound_of_missing hnone hnull hwritable hfits

/-- A directory with a file that is no text, a file with a comment, and a file that is no sample. -/
def withUnreadable : SampleDirectory where
  tree := .directory [("samples".toText, .directory [
    ("a-b.diagram".toText, .file [0xFF]),
    ("a.diagram".toText, .file [0x2F, 0x2F, 0x61, 0x0D]),
    ("notes".toText, .file [])])]
  location := ["samples".toText]
  isStored := Text.stored_of_mem_singleton "samples"

theorem isWellNamed_withUnreadable : withUnreadable.tree.IsWellNamed := by
  refine .directory (by decide) (by decide) ?_
  intro entry hentry
  obtain rfl := List.mem_singleton.mp hentry
  refine .directory (by decide) (by decide) ?_
  intro entry hentry
  simp only [List.mem_cons, List.not_mem_nil, or_false] at hentry
  rcases hentry with rfl | rfl | rfl <;> exact .file _

theorem fileNames_withUnreadable :
    withUnreadable.fileNames = ["a-b.diagram".toText, "a.diagram".toText] := by
  have hsorted : withUnreadable.sampleEntries = [
      ("a-b.diagram".toText, .file [0xFF]),
      ("a.diagram".toText, .file [0x2F, 0x2F, 0x61, 0x0D])] :=
    List.mergeSort_of_pairwise (by decide)
  rw [fileNames, hsorted]
  rfl

/-- The file that is no text is listed without a description, before the other one though its name
comes later.  With a directory in the place of the other file both are listed, and the order in
which they are put there does not matter. -/
theorem unreadable_sample_is_listed :
    withUnreadable.tree.IsWellNamed ∧
      withUnreadable.listing
        = [⟨"a-b".toText, []⟩, ⟨"a".toText, "a".toText⟩] ∧
      withUnreadable.entryAt? "a.diagram".toText = some (.file [0x2F, 0x2F, 0x61, 0x0D]) ∧
      (withUnreadable.withEntry "a.diagram".toText (.directory [])).listing
        = [⟨"a-b".toText, []⟩, ⟨"a".toText, []⟩] ∧
      (withUnreadable.withEntries
          [("c.diagram".toText, .file []), ("b.diagram".toText, .directory [])]).listing
        = (withUnreadable.withEntries
          [("b.diagram".toText, .directory []), ("c.diagram".toText, .file [])]).listing ∧
      Service.getListing withUnreadable (.bytes []) none = .reply 200 (.array
        (withUnreadable.listing.map Service.listedJson)) := by
  obtain ⟨⟨hlisting, -, -⟩, -, hreplaced, horder, hgiven, -⟩ :=
    each_entry_has_its_own_line withUnreadable isWellNamed_withUnreadable
  have hentry : withUnreadable.entryAt? "a.diagram".toText
      = some (.file [0x2F, 0x2F, 0x61, 0x0D]) := rfl
  refine ⟨isWellNamed_withUnreadable, ?_, hentry, ?_, ?_, ?_⟩
  · rw [hlisting, fileNames_withUnreadable]
    decide +kernel
  · rw [hreplaced _ _ _ hentry, fileNames_withUnreadable]
    decide +kernel
  · exact horder _ rfl _ _ (.swap _ _ _) (by decide)
  · refine hgiven ?_ _ _
    rw [fileNames_withUnreadable]
    decide

end SampleDirectory

end ArrowNotation
