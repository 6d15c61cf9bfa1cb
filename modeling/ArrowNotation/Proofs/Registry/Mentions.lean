/-
# A registry is what has been mentioned

Whatever a registry answers follows from the list of identifiers that it was given: it holds the
first mention of each, letter case aside, and it spells every other mention as the first one.

* **One step.**  A registration answers the first spelling (`fst_register`) and keeps the
  identifier if its key is new (`ids_register`).
* **A run.**  Registering one identifier after the other leaves the first occurrences
  (`ids_registerAll`), and written edges are resolved as if every identifier that they mention
  had been known from the start (`snd_resolve`).  This is possible because later mentions never
  change the spelling of earlier ones.

Hence a graph of written edges is described without a registry (`Graph.nodes_ofEdgeLines`,
`Graph.edges_ofEdgeLines`).
-/
import ArrowNotation.Diagram.Basic
import ArrowNotation.Proofs.FirstOccurrences

namespace ArrowNotation

/-! ## 1. First spellings -/

/-- The first of some identifiers that equals a given one, letter case aside; the given one
itself if there is none. -/
def firstSpelling (ids : List Text) (id : Text) : Text :=
  (ids.find? fun x => Text.lower x = Text.lower id).getD id

theorem firstSpelling_of_some {ids : List Text} {id first : Text}
    (h : (ids.find? fun x => Text.lower x = Text.lower id) = some first) :
    firstSpelling ids id = first := by
  rw [firstSpelling, h, Option.getD_some]

theorem firstSpelling_of_none {ids : List Text} {id : Text}
    (h : (ids.find? fun x => Text.lower x = Text.lower id) = none) :
    firstSpelling ids id = id := by
  rw [firstSpelling, h, Option.getD_none]

theorem isSome_find?_lower_iff {ids : List Text} {id : Text} :
    (ids.find? fun x => Text.lower x = Text.lower id).isSome ↔
      Text.lower id ∈ ids.map Text.lower := by
  simp [List.find?_isSome]

theorem firstSpelling_of_notMem {ids : List Text} {id : Text}
    (h : Text.lower id ∉ ids.map Text.lower) : firstSpelling ids id = id := by
  refine firstSpelling_of_none ?_
  rw [← Option.not_isSome_iff_eq_none]
  exact fun hsome => h (isSome_find?_lower_iff.mp hsome)

/-- **The first spelling differs in letter case only.** -/
theorem lower_firstSpelling (ids : List Text) (id : Text) :
    Text.lower (firstSpelling ids id) = Text.lower id := by
  cases h : ids.find? fun x => Text.lower x = Text.lower id with
  | none => rw [firstSpelling_of_none h]
  | some first =>
    rw [firstSpelling_of_some h]
    simpa using List.find?_some h

/-- **Among the identifiers of a list, first spellings tell apart what keys tell apart.** -/
theorem firstSpelling_eq_iff {ids : List Text} {x y : Text} (hx : x ∈ ids) :
    firstSpelling ids x = firstSpelling ids y ↔ Text.lower x = Text.lower y := by
  constructor
  · intro h
    rw [← lower_firstSpelling ids x, h, lower_firstSpelling]
  · intro h
    have hsome : (ids.find? fun z => Text.lower z = Text.lower x).isSome :=
      isSome_find?_lower_iff.mpr (List.mem_map_of_mem hx)
    obtain ⟨first, hfirst⟩ := Option.isSome_iff_exists.mp hsome
    rw [firstSpelling_of_some hfirst, firstSpelling_of_some (h ▸ hfirst)]

theorem firstSpelling_of_mem_distinctBy {ids : List Text} {id : Text}
    (h : id ∈ distinctBy Text.lower [] ids) : firstSpelling ids id = id :=
  firstSpelling_of_some (find?_eq_some_of_mem_distinctBy h)

/-- Only first occurrences count for spellings. -/
theorem firstSpelling_distinctBy (ids : List Text) (id : Text) :
    firstSpelling (distinctBy Text.lower [] ids) id = firstSpelling ids id := by
  rw [firstSpelling, firstSpelling, find?_distinctBy ids (by simp)]

theorem firstSpelling_append_of_mem {ids : List Text} (others : List Text) {id : Text}
    (h : Text.lower id ∈ ids.map Text.lower) :
    firstSpelling (ids ++ others) id = firstSpelling ids id := by
  obtain ⟨first, hfirst⟩ := Option.isSome_iff_exists.mp (isSome_find?_lower_iff.mpr h)
  rw [firstSpelling, firstSpelling, List.find?_append, hfirst, Option.some_or]

theorem firstSpelling_append_of_notMem {ids : List Text} (others : List Text) {id : Text}
    (h : Text.lower id ∉ ids.map Text.lower) :
    firstSpelling (ids ++ others) id = firstSpelling others id := by
  have hnone : (ids.find? fun x => Text.lower x = Text.lower id) = none := by
    rw [← Option.not_isSome_iff_eq_none]
    exact fun hsome => h (isSome_find?_lower_iff.mp hsome)
  rw [firstSpelling, firstSpelling, List.find?_append, hnone, Option.none_or]

/-- What is mentioned after an identifier does not change its spelling. -/
theorem firstSpelling_append_cons_self (ids others : List Text) (id : Text) :
    firstSpelling (ids ++ id :: others) id = firstSpelling ids id := by
  by_cases h : Text.lower id ∈ ids.map Text.lower
  · exact firstSpelling_append_of_mem _ h
  · rw [firstSpelling_append_of_notMem _ h, firstSpelling_of_notMem h]
    exact firstSpelling_of_some (List.find?_cons_of_pos (by simp))

/-! ## 2. One registration -/

namespace Registry

/-- **A registration answers the first spelling.** -/
theorem fst_register (r : Registry) (id : Text) : (r.register id).1 = firstSpelling r.ids id := by
  cases h : r.find? id with
  | none =>
    rw [(ids_register_of_none h).1, firstSpelling_of_none (by rw [← find?_eq, h])]
  | some registered =>
    rw [ids_register_of_some h, firstSpelling_of_some (by rw [← find?_eq, h])]

theorem find?_eq_none_iff (r : Registry) (id : Text) :
    r.find? id = none ↔ Text.lower id ∉ r.ids.map Text.lower := by
  rw [find?_eq, ← isSome_find?_lower_iff, Option.not_isSome_iff_eq_none]

/-- **A registration keeps an identifier whose key is new, and nothing else changes.** -/
theorem ids_register (r : Registry) (id : Text) :
    (r.register id).2.ids = r.ids ++ distinctBy Text.lower (r.ids.map Text.lower) [id] := by
  rw [distinctBy_singleton]
  by_cases h : Text.lower id ∈ r.ids.map Text.lower
  · have hne : r.find? id ≠ none := fun hnone => (r.find?_eq_none_iff id).mp hnone h
    obtain ⟨registered, hsome⟩ := Option.ne_none_iff_exists'.mp hne
    rw [if_pos h, ids_register_of_some hsome, List.append_nil]
  · rw [if_neg h, (ids_register_of_none ((r.find?_eq_none_iff id).mpr h)).2]

/-- After a registration identifiers are spelled as if it had only been noted. -/
theorem firstSpelling_ids_register_append (r : Registry) (id : Text) (others : List Text)
    (x : Text) :
    firstSpelling ((r.register id).2.ids ++ others) x
      = firstSpelling (r.ids ++ id :: others) x := by
  rw [ids_register, distinctBy_singleton]
  by_cases h : Text.lower id ∈ r.ids.map Text.lower
  · rw [if_pos h, List.append_nil]
    by_cases hx : Text.lower x ∈ r.ids.map Text.lower
    · rw [firstSpelling_append_of_mem _ hx, firstSpelling_append_of_mem _ hx]
    · have hne : Text.lower id ≠ Text.lower x := fun e => hx (e ▸ h)
      rw [firstSpelling_append_of_notMem _ hx, firstSpelling_append_of_notMem _ hx,
        firstSpelling, firstSpelling, List.find?_cons_of_neg (by simpa using hne)]
  · rw [if_neg h, List.append_assoc, List.singleton_append]

/-! ## 3. Runs of registrations -/

/-- Register one identifier after the other. -/
def registerAll (r : Registry) (ids : List Text) : Registry :=
  ids.foldl (fun r id => (r.register id).2) r

/-- **A run of registrations keeps the first occurrences of the new keys.** -/
theorem ids_registerAll (r : Registry) (ids : List Text) :
    (r.registerAll ids).ids = r.ids ++ distinctBy Text.lower (r.ids.map Text.lower) ids := by
  have h := foldl_eq_append_distinctBy Text.lower Registry.ids (fun id => id) ids_register r ids
  rwa [List.map_id'] at h

theorem ids_registerAll_empty (ids : List Text) :
    (empty.registerAll ids).ids = distinctBy Text.lower [] ids := by
  rw [ids_registerAll, ids_empty, List.map_nil, List.nil_append]

end Registry

/-! ## 4. Written edges -/

/-- The identifiers that written edges mention, the source of each before its target. -/
def mentions (written : List EdgeLine) : List Text :=
  written.flatMap fun w => [w.source, w.target]

@[simp] theorem mentions_nil : mentions [] = [] := rfl

@[simp] theorem mentions_cons (w : EdgeLine) (written : List EdgeLine) :
    mentions (w :: written) = w.source :: w.target :: mentions written := rfl

@[simp] theorem mentions_append (written others : List EdgeLine) :
    mentions (written ++ others) = mentions written ++ mentions others :=
  List.flatMap_append

theorem mem_mentions_iff {written : List EdgeLine} {id : Text} :
    id ∈ mentions written ↔ ∃ w ∈ written, id = w.source ∨ id = w.target := by
  simp [mentions]

theorem source_mem_mentions {written : List EdgeLine} {w : EdgeLine} (h : w ∈ written) :
    w.source ∈ mentions written :=
  mem_mentions_iff.mpr ⟨w, h, Or.inl rfl⟩

theorem target_mem_mentions {written : List EdgeLine} {w : EdgeLine} (h : w ∈ written) :
    w.target ∈ mentions written :=
  mem_mentions_iff.mpr ⟨w, h, Or.inr rfl⟩

/-- The edge of a written edge whose ends are spelled as in a list of identifiers. -/
def EdgeLine.spelledAs (ids : List Text) (w : EdgeLine) : Edge :=
  ⟨firstSpelling ids w.source, firstSpelling ids w.target, w.connector, w.label⟩

namespace Registry

/-- Resolving written edges registers what they mention. -/
theorem fst_resolve : ∀ (r : Registry) (written : List EdgeLine),
    (r.resolve written).1 = r.registerAll (mentions written)
  | _, [] => rfl
  | r, w :: written =>
    fst_resolve ((r.register w.source).2.register w.target).2 written

/-- **Every edge is spelled as if all mentions had been known from the start.** -/
theorem snd_resolve : ∀ (r : Registry) (written : List EdgeLine),
    (r.resolve written).2 = written.map (EdgeLine.spelledAs (r.ids ++ mentions written))
  | _, [] => rfl
  | r, w :: written => by
    -- What carries the induction: the registered identifiers, followed by those still to come,
    -- spell everything the same way before and after each registration.
    let r₁ := (r.register w.source).2
    let r₂ := (r₁.register w.target).2
    have hrest : ∀ x, firstSpelling (r₂.ids ++ mentions written) x
        = firstSpelling (r.ids ++ mentions (w :: written)) x := by
      intro x
      rw [firstSpelling_ids_register_append, firstSpelling_ids_register_append, mentions_cons]
    have hsource : (r.register w.source).1
        = firstSpelling (r.ids ++ mentions (w :: written)) w.source := by
      rw [fst_register, mentions_cons, firstSpelling_append_cons_self]
    have htarget : (r₁.register w.target).1
        = firstSpelling (r.ids ++ mentions (w :: written)) w.target := by
      rw [fst_register, ← firstSpelling_append_cons_self r₁.ids (mentions written),
        firstSpelling_ids_register_append, mentions_cons]
    have hothers : (r₂.resolve written).2
        = written.map (EdgeLine.spelledAs (r.ids ++ mentions (w :: written))) := by
      rw [snd_resolve r₂ written]
      refine List.map_congr_left ?_
      intro v _
      simp only [EdgeLine.spelledAs, hrest]
    calc (r.resolve (w :: written)).2
        = ⟨(r.register w.source).1, (r₁.register w.target).1, w.connector, w.label⟩
            :: (r₂.resolve written).2 := rfl
      _ = (w :: written).map (EdgeLine.spelledAs (r.ids ++ mentions (w :: written))) := by
          rw [hsource, htarget, hothers, List.map_cons, EdgeLine.spelledAs]

end Registry

/-! ## 5. Graphs of written edges -/

namespace Graph

/-- **The nodes are the first mentions.** -/
theorem nodes_ofEdgeLines (written : List EdgeLine) :
    (ofEdgeLines written).nodes
      = (distinctBy Text.lower [] (mentions written)).map Registry.node := by
  rw [← Registry.ids_registerAll_empty, ← Registry.fst_resolve, ← Registry.nodes_eq_map_ids]
  rfl

/-- **The edges are the written ones, spelled by first mentions.** -/
theorem edges_ofEdgeLines (written : List EdgeLine) :
    (ofEdgeLines written).edges = written.map (EdgeLine.spelledAs (mentions written)) := by
  have h := Registry.snd_resolve Registry.empty written
  rw [Registry.ids_empty, List.nil_append] at h
  exact h

theorem map_id_nodes_ofEdgeLines (written : List EdgeLine) :
    (ofEdgeLines written).nodes.map Node.id = distinctBy Text.lower [] (mentions written) := by
  rw [nodes_ofEdgeLines, List.map_map]
  exact List.map_id' _

/-- **The keys of the nodes are those of the mentions.** -/
theorem mem_keys_ofEdgeLines_iff {written : List EdgeLine} {key : Text} :
    (key ∈ (ofEdgeLines written).nodes.map fun node => Text.lower node.id) ↔
      key ∈ (mentions written).map Text.lower := by
  have h : key ∈ (distinctBy Text.lower [] (mentions written)).map Text.lower ↔
      key ∈ (mentions written).map Text.lower ∧ key ∉ [] := mem_keys_distinctBy
  rw [← map_id_nodes_ofEdgeLines, List.map_map] at h
  exact h.trans (and_iff_left (by simp))

/-- **A graph of written edges is empty exactly when nothing is written.** -/
theorem isEmpty_ofEdgeLines_iff (written : List EdgeLine) :
    (ofEdgeLines written).isEmpty = true ↔ written = [] := by
  rw [isEmpty, List.isEmpty_iff, nodes_ofEdgeLines, List.map_eq_nil_iff,
    distinctBy_nil_eq_nil_iff]
  cases written <;> simp

end Graph

end ArrowNotation
