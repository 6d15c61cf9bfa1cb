/-
# Components are classes

The components of a multigraph are found by work in a certain order: blocks are merged, edge by
edge.  What is found has a description without any order.  It is the division of the vertices
into the classes of the least equivalence that relates the two ends of every edge.

* **Blocks.**  One pair more makes two classes one (`connection_concat`), and one merge does the
  same with blocks (`Blocks.merge`), so after all pairs two elements share a block exactly when the
  pairs connect them (`blocks_ofPairs`).
* **Counting.**  Hence there are as many blocks as classes (`length_ofPairs`).
* **Renaming.**  The number of classes does not depend on the names of the elements, as long as
  different elements have different names, nor on the order and the repetitions in which the
  elements and the pairs are listed (`classCount_of_renaming`).

The vertices of the multigraph of a graph are the identifiers of its nodes and the ends of its
edges, each of them once (`Multigraph.ids_ofGraph`), so the conditions of all this are met
whatever the graph (`Multigraph.length_components`).
-/
import ArrowNotation.Graph.Multigraph
import ArrowNotation.Proofs.Graph.WellFormed
import Mathlib.Data.Setoid.Basic
import Mathlib.SetTheory.Cardinal.Finite

namespace ArrowNotation

namespace Components

variable {α β : Type} {elements : List α} {pairs : List (α × α)} {blocks : List (List α)}

/-! ## 1. Elements connected by pairs -/

/-- The least equivalence that relates the two elements of every pair. -/
def connection (pairs : List (α × α)) : Setoid α :=
  Relation.EqvGen.setoid fun a b => (a, b) ∈ pairs

theorem connection_of_mem {a b : α} (h : (a, b) ∈ pairs) :
    connection pairs a b := Relation.EqvGen.rel a b h

/-- An equivalence that relates the elements of every pair relates all that the pairs
connect. -/
theorem connection_le {s : Setoid α} (h : ∀ a b, (a, b) ∈ pairs → s a b) :
    connection pairs ≤ s := by
  intro a b hab
  induction hab with
  | rel a b hab => exact h a b hab
  | refl a => exact s.refl a
  | symm a b _ ih => exact s.symm ih
  | trans a b c _ _ ihab ihbc => exact s.trans ihab ihbc

/-- Without pairs every element stands alone. -/
theorem connection_nil {a b : α} : connection [] a b ↔ a = b := by
  constructor
  · intro h
    have hle : connection [] ≤ (⊥ : Setoid α) := connection_le (by simp)
    exact hle h
  · rintro rfl
    exact (connection []).refl a

/-- The pairs connect an element to one of two others. -/
def Meets (pairs : List (α × α)) (a b x : α) : Prop := connection pairs a x ∨ connection pairs b x

theorem Meets.trans {a b x y : α} (h : Meets pairs a b x) (hxy : connection pairs x y) :
    Meets pairs a b y :=
  h.imp (fun h => Setoid.trans' _ h hxy) fun h => Setoid.trans' _ h hxy

/-- The classes of two elements made one. -/
def joined (pairs : List (α × α)) (a b : α) : Setoid α where
  r x y := connection pairs x y ∨ Meets pairs a b x ∧ Meets pairs a b y
  iseqv := by
    constructor
    · exact fun x => Or.inl ((connection pairs).refl x)
    · rintro x y (h | ⟨hx, hy⟩)
      · exact Or.inl (Setoid.symm' _ h)
      · exact Or.inr ⟨hy, hx⟩
    · rintro x y z (h | ⟨hx, hy⟩) (h' | ⟨hy', hz⟩)
      · exact Or.inl (Setoid.trans' _ h h')
      · exact Or.inr ⟨hy'.trans (Setoid.symm' _ h), hz⟩
      · exact Or.inr ⟨hx, hy.trans h'⟩
      · exact Or.inr ⟨hx, hz⟩

/-- **What one more pair connects.**  The classes of its two elements become one, and no other
class changes. -/
theorem connection_concat (pairs : List (α × α)) (a b : α) :
    connection (pairs ++ [(a, b)]) = joined pairs a b := by
  apply le_antisymm
  · refine connection_le fun c d hcd => ?_
    rcases List.mem_append.mp hcd with hcd | hcd
    · exact Or.inl (connection_of_mem hcd)
    · obtain ⟨rfl, rfl⟩ := Prod.mk.inj (List.mem_singleton.mp hcd)
      exact Or.inr ⟨Or.inl ((connection pairs).refl c), Or.inr ((connection pairs).refl d)⟩
  · have hle : connection pairs ≤ connection (pairs ++ [(a, b)]) :=
      connection_le fun c d h => connection_of_mem (List.mem_append_left _ h)
    have hab : connection (pairs ++ [(a, b)]) a b := connection_of_mem (by simp)
    -- Whoever is connected to one of the two elements is connected to the first of them.
    have hmeets : ∀ {x}, Meets pairs a b x → connection (pairs ++ [(a, b)]) a x := by
      rintro x (h | h)
      · exact hle h
      · exact Setoid.trans' _ hab (hle h)
    rintro x y (h | ⟨hx, hy⟩)
    · exact hle h
    · exact Setoid.trans' _ (Setoid.symm' _ (hmeets hx)) (hmeets hy)

/-! ## 2. Blocks -/

/-- A division of elements into blocks that are not empty, where two elements share a block
exactly when the pairs connect them. -/
structure Blocks (elements : List α) (pairs : List (α × α)) (blocks : List (List α)) : Prop where
  ne_nil : ∀ block ∈ blocks, block ≠ []
  perm : blocks.flatten.Perm elements
  mem_iff : ∀ block ∈ blocks, ∀ a ∈ block, ∀ b ∈ elements, b ∈ block ↔ connection pairs a b

theorem Blocks.exists_mem (h : Blocks elements pairs blocks) {a : α} (ha : a ∈ elements) :
    ∃ block ∈ blocks, a ∈ block :=
  List.mem_flatten.mp (h.perm.mem_iff.mpr ha)

theorem Blocks.mem_elements (h : Blocks elements pairs blocks) {block : List α}
    (hblock : block ∈ blocks) {a : α} (ha : a ∈ block) : a ∈ elements :=
  h.perm.mem_iff.mp (List.mem_flatten.mpr ⟨block, hblock, ha⟩)

/-- A block holds one of two elements exactly when what else is in it meets them. -/
theorem Blocks.holds_iff (h : Blocks elements pairs blocks) {a b : α} (ha : a ∈ elements)
    (hb : b ∈ elements) {block : List α} (hblock : block ∈ blocks) {x : α} (hx : x ∈ block) :
    a ∈ block ∨ b ∈ block ↔ Meets pairs a b x := by
  rw [h.mem_iff block hblock x hx a ha, h.mem_iff block hblock x hx b hb]
  exact or_congr (Setoid.comm' _) (Setoid.comm' _)

/-- At first every element is a block of its own. -/
theorem blocks_singletons (elements : List α) :
    Blocks elements [] (elements.map fun a => [a]) where
  ne_nil := by
    intro block hblock
    obtain ⟨a, -, rfl⟩ := List.mem_map.mp hblock
    simp
  perm := by rw [← List.flatMap_def, List.flatMap_singleton']
  mem_iff := by
    intro block hblock a ha b _
    obtain ⟨c, -, rfl⟩ := List.mem_map.mp hblock
    obtain rfl := List.mem_singleton.mp ha
    rw [List.mem_singleton, connection_nil]
    exact eq_comm

variable [DecidableEq α]

/-- A merge moves elements between blocks, and no more. -/
theorem flatten_merge_perm (blocks : List (List α)) (a b : α) :
    (merge blocks a b).flatten.Perm blocks.flatten := by
  have hflatten : (merge blocks a b).flatten =
      ((blocks.filter fun block => a ∈ block ∨ b ∈ block) ++
        blocks.filter fun block => ¬ (a ∈ block ∨ b ∈ block)).flatten := by
    rw [merge]
    split <;> simp_all
  have hsplit := List.filter_append_perm (fun block => decide (a ∈ block ∨ b ∈ block)) blocks
  rw [hflatten]
  simpa using hsplit.flatten

/-- **The new block** holds what meets one of the two elements. -/
theorem Blocks.mem_new_iff (h : Blocks elements pairs blocks) {a b : α} (ha : a ∈ elements)
    (hb : b ∈ elements) {x : α} (hx : x ∈ elements) :
    x ∈ (blocks.filter fun block => a ∈ block ∨ b ∈ block).flatten ↔ Meets pairs a b x := by
  simp only [List.mem_flatten, List.mem_filter, decide_eq_true_eq]
  constructor
  · rintro ⟨block, ⟨hblock, hholds⟩, hxb⟩
    exact (h.holds_iff ha hb hblock hxb).mp hholds
  · intro hmeets
    obtain ⟨block, hblock, hxb⟩ := h.exists_mem hx
    exact ⟨block, ⟨hblock, (h.holds_iff ha hb hblock hxb).mpr hmeets⟩, hxb⟩

/-- A merge makes one new block, and the blocks that hold neither element stay. -/
theorem Blocks.merge_eq (h : Blocks elements pairs blocks) {a : α} (ha : a ∈ elements) (b : α) :
    merge blocks a b = (blocks.filter fun block => a ∈ block ∨ b ∈ block).flatten ::
      blocks.filter fun block => ¬ (a ∈ block ∨ b ∈ block) := by
  obtain ⟨block, hblock, hab⟩ := h.exists_mem ha
  have hmem : block ∈ blocks.filter fun block => a ∈ block ∨ b ∈ block :=
    List.mem_filter.mpr ⟨hblock, decide_eq_true (Or.inl hab)⟩
  exact if_neg (List.ne_nil_of_mem hmem)

/-- **A merge adds a pair.** -/
theorem Blocks.merge (h : Blocks elements pairs blocks) {a b : α} (ha : a ∈ elements)
    (hb : b ∈ elements) : Blocks elements (pairs ++ [(a, b)]) (merge blocks a b) where
  ne_nil := by
    intro block hblock
    rw [h.merge_eq ha b] at hblock
    rcases List.mem_cons.mp hblock with rfl | hblock
    · exact List.ne_nil_of_mem ((h.mem_new_iff ha hb ha).mpr (Or.inl ((connection pairs).refl a)))
    · exact h.ne_nil block (List.mem_filter.mp hblock).1
  perm := (flatten_merge_perm blocks a b).trans h.perm
  mem_iff := by
    intro block hblock x hx y hy
    have hxe : x ∈ elements :=
      ((flatten_merge_perm blocks a b).trans h.perm).mem_iff.mp
        (List.mem_flatten.mpr ⟨block, hblock, hx⟩)
    rw [h.merge_eq ha b] at hblock
    rw [connection_concat]
    rcases List.mem_cons.mp hblock with rfl | hblock
    · have hmeets := (h.mem_new_iff ha hb hxe).mp hx
      rw [h.mem_new_iff ha hb hy]
      constructor
      · exact fun hy' => Or.inr ⟨hmeets, hy'⟩
      · rintro (hxy | ⟨-, hy'⟩)
        · exact hmeets.trans hxy
        · exact hy'
    · obtain ⟨hblock, hout⟩ := List.mem_filter.mp hblock
      have hmeets : ¬ Meets pairs a b x := fun hmeets =>
        of_decide_eq_true hout ((h.holds_iff ha hb hblock hx).mpr hmeets)
      rw [h.mem_iff block hblock x hx y hy]
      exact (or_iff_left fun hboth => hmeets hboth.1).symm

/-- A run of merges adds its pairs to those of before. -/
theorem Blocks.foldl_merge : ∀ {done : List (α × α)} {blocks : List (List α)}
    (pairs : List (α × α)), Blocks elements done blocks →
      (∀ p ∈ pairs, p.1 ∈ elements ∧ p.2 ∈ elements) →
      Blocks elements (done ++ pairs)
        (pairs.foldl (fun blocks pair => Components.merge blocks pair.1 pair.2) blocks)
  | done, _, [], h, _ => by rwa [List.append_nil]
  | done, blocks, (a, b) :: pairs, h, hends => by
    obtain ⟨ha, hb⟩ := hends (a, b) (by simp)
    rw [List.append_cons]
    exact (h.merge ha hb).foldl_merge pairs fun p hp => hends p (List.mem_cons_of_mem _ hp)

/-- **Two elements share a block exactly when the pairs connect them.** -/
theorem blocks_ofPairs (hends : ∀ p ∈ pairs, p.1 ∈ elements ∧ p.2 ∈ elements) :
    Blocks elements pairs (ofPairs elements pairs) :=
  (blocks_singletons elements).foldl_merge pairs hends

omit [DecidableEq α]

/-! ## 3. Counting -/

/-- How many classes the pairs leave among the elements of a list. -/
noncomputable def classCount (elements : List α) (pairs : List (α × α)) : Nat :=
  Nat.card (Quotient ((connection pairs).comap fun a : {a // a ∈ elements} => a.1))

theorem Blocks.eq_of_mem (h : Blocks elements pairs blocks) (hnodup : elements.Nodup)
    {i j : Fin blocks.length} {a : α} (hi : a ∈ blocks[i]) (hj : a ∈ blocks[j]) : i = j := by
  have hdisjoint := (List.nodup_flatten.mp (h.perm.nodup_iff.mpr hnodup)).2
  rw [List.pairwise_iff_getElem] at hdisjoint
  rcases lt_trichotomy i j with hij | hij | hij
  · exact absurd hj (List.disjoint_left.mp (hdisjoint i j i.2 j.2 hij) hi)
  · exact hij
  · exact absurd hi (List.disjoint_left.mp (hdisjoint j i j.2 i.2 hij) hj)

/-- **There are as many blocks as classes.** -/
theorem Blocks.length_eq (h : Blocks elements pairs blocks) (hnodup : elements.Nodup) :
    blocks.length = classCount elements pairs := by
  have hblock : ∀ a : {a // a ∈ elements}, ∃ i : Fin blocks.length, a.1 ∈ blocks[i] := by
    intro a
    obtain ⟨block, hblock, ha⟩ := h.exists_mem a.2
    obtain ⟨i, hi, rfl⟩ := List.getElem_of_mem hblock
    exact ⟨⟨i, hi⟩, ha⟩
  choose number hnumber using hblock
  have hker : (connection pairs).comap (fun a : {a // a ∈ elements} => a.1)
      = Setoid.ker number := by
    refine Setoid.ext fun a b => ?_
    have hmem := h.mem_iff _ (List.getElem_mem (number a).2) a.1 (hnumber a) b.1 b.2
    rw [Setoid.comap_rel, ← hmem, Setoid.ker_def]
    constructor
    · exact fun hb => h.eq_of_mem hnodup hb (hnumber b)
    · intro he
      have hb := hnumber b
      rwa [← he] at hb
  have hsurjective : Function.Surjective number := by
    intro i
    obtain ⟨a, ha⟩ := List.exists_mem_of_ne_nil _ (h.ne_nil _ (List.getElem_mem i.2))
    have hae : a ∈ elements := h.mem_elements (List.getElem_mem i.2) ha
    exact ⟨⟨a, hae⟩, h.eq_of_mem hnodup (hnumber ⟨a, hae⟩) ha⟩
  rw [classCount, hker, Nat.card_congr (Setoid.quotientKerEquivOfSurjective number hsurjective),
    Nat.card_eq_fintype_card, Fintype.card_fin]

/-- **The blocks into which pairs divide distinct elements are as many as the classes.** -/
theorem length_ofPairs [DecidableEq α] (hnodup : elements.Nodup)
    (hends : ∀ p ∈ pairs, p.1 ∈ elements ∧ p.2 ∈ elements) :
    (ofPairs elements pairs).length = classCount elements pairs :=
  (blocks_ofPairs hends).length_eq hnodup

/-! ## 4. Renaming -/

section Renaming

variable {names : List β} {links : List (β × β)} {f : α → β}

theorem connection_of_renaming (hlinks : ∀ p, p ∈ links ↔ p ∈ pairs.map (Prod.map f f)) {a b : α}
    (h : connection pairs a b) : connection links (f a) (f b) := by
  have hle : connection pairs ≤ (connection links).comap f := by
    refine connection_le fun c d hcd => connection_of_mem ?_
    exact (hlinks _).mpr (List.mem_map_of_mem (f := Prod.map f f) hcd)
  exact hle h

/-- Connected names are equal or the names of connected elements. -/
theorem exists_connection_of_links (hinj : ∀ a ∈ elements, ∀ b ∈ elements, f a = f b → a = b)
    (hends : ∀ p ∈ pairs, p.1 ∈ elements ∧ p.2 ∈ elements)
    (hlinks : ∀ p, p ∈ links ↔ p ∈ pairs.map (Prod.map f f)) {k l : β} (h : connection links k l) :
    k = l ∨ ∃ a ∈ elements, ∃ b ∈ elements, f a = k ∧ f b = l ∧ connection pairs a b := by
  induction h with
  | rel k l hkl =>
    obtain ⟨⟨a, b⟩, hab, heq⟩ := List.mem_map.mp ((hlinks _).mp hkl)
    obtain ⟨rfl, rfl⟩ := Prod.mk.inj heq
    exact Or.inr ⟨a, (hends _ hab).1, b, (hends _ hab).2, rfl, rfl, connection_of_mem hab⟩
  | refl k => exact Or.inl rfl
  | symm k l _ ih =>
    rcases ih with rfl | ⟨a, ha, b, hb, hak, hbl, hab⟩
    · exact Or.inl rfl
    · exact Or.inr ⟨b, hb, a, ha, hbl, hak, Setoid.symm' _ hab⟩
  | trans k l m _ _ ih ih' =>
    rcases ih with rfl | ⟨a, ha, b, hb, hak, hbl, hab⟩
    · exact ih'
    · rcases ih' with rfl | ⟨c, hc, d, hd, hcl, hdm, hcd⟩
      · exact Or.inr ⟨a, ha, b, hb, hak, hbl, hab⟩
      · obtain rfl := hinj b hb c hc (hbl.trans hcl.symm)
        exact Or.inr ⟨a, ha, d, hd, hak, hdm, Setoid.trans' _ hab hcd⟩

/-- **Names and order do not matter for the number of classes.**  The names are those of the
elements and the links those of the pairs, in any order and any number. -/
theorem classCount_of_renaming (hinj : ∀ a ∈ elements, ∀ b ∈ elements, f a = f b → a = b)
    (hends : ∀ p ∈ pairs, p.1 ∈ elements ∧ p.2 ∈ elements)
    (hnames : ∀ k, k ∈ names ↔ k ∈ elements.map f)
    (hlinks : ∀ p, p ∈ links ↔ p ∈ pairs.map (Prod.map f f)) :
    classCount names links = classCount elements pairs := by
  let rename : {a // a ∈ elements} → {k // k ∈ names} :=
    fun a => ⟨f a.1, (hnames _).mpr (List.mem_map_of_mem a.2)⟩
  have hbijective : Function.Bijective rename := by
    constructor
    · intro a b hab
      exact Subtype.ext (hinj a.1 a.2 b.1 b.2 (congrArg Subtype.val hab))
    · rintro ⟨k, hk⟩
      obtain ⟨a, ha, rfl⟩ := List.mem_map.mp ((hnames k).mp hk)
      exact ⟨⟨a, ha⟩, rfl⟩
  have hconnection : ∀ a b : {a // a ∈ elements},
      connection pairs a.1 b.1 ↔ connection links (f a.1) (f b.1) := by
    intro a b
    refine ⟨connection_of_renaming hlinks, fun h => ?_⟩
    rcases exists_connection_of_links hinj hends hlinks h with
      heq | ⟨c, hc, d, hd, hca, hdb, hcd⟩
    · rw [hinj a.1 a.2 b.1 b.2 heq]
    · rwa [hinj c hc a.1 a.2 hca, hinj d hd b.1 b.2 hdb] at hcd
  exact (Nat.card_congr
    (Quotient.congr (Equiv.ofBijective rename hbijective) hconnection)).symm

end Renaming

end Components

/-! ## 5. The components of a graph -/

namespace Multigraph

/-- Labelling and touching a vertex alike add it to the end if it is new. -/
theorem map_fst_eq_append {vertices new : List (Text × Option Text)} {x : Text}
    (h : new.map Prod.fst = if x ∈ vertices.map Prod.fst then vertices.map Prod.fst
      else vertices.map Prod.fst ++ [x]) :
    new.map Prod.fst
      = vertices.map Prod.fst ++ distinctBy id ((vertices.map Prod.fst).map id) [x] := by
  rw [h, List.map_id, distinctBy_singleton]
  by_cases hx : x ∈ vertices.map Prod.fst <;> simp [hx]

/-- **The vertices are the identifiers of the nodes and then the ends of the edges**, each of
them once, at its first occurrence. -/
theorem ids_ofGraph (g : Graph) :
    (ofGraph g).ids = distinctBy id [] (g.nodes.map Node.id ++ Graph.ends g.edges) := by
  have hnodes : (labelledVertices g.nodes).map Prod.fst
      = distinctBy id [] (g.nodes.map Node.id) :=
    foldl_eq_append_distinctBy id (List.map Prod.fst) Node.id
      (fun _ node => map_fst_eq_append (map_fst_setLabel node.id node.label _)) [] g.nodes
  have hends : touchEnds (labelledVertices g.nodes) g.edges
      = (Graph.ends g.edges).foldl (fun vertices x => touch x vertices)
          (labelledVertices g.nodes) := by
    rw [Graph.ends, List.foldl_flatMap]
    rfl
  have htouched := foldl_eq_append_distinctBy id (List.map Prod.fst) (fun x => x)
    (fun _ x => map_fst_eq_append (map_fst_touch x _))
    (labelledVertices g.nodes) (Graph.ends g.edges)
  rw [List.map_id', ← hends, hnodes] at htouched
  rw [ids, ofGraph, htouched, distinctBy_append, List.append_nil]
  congr 1
  exact distinctBy_congr _ fun k => mem_keys_distinctBy.trans (and_iff_left (by simp))

theorem nodup_ids_ofGraph (g : Graph) : (ofGraph g).ids.Nodup := by
  have h := nodup_keys_distinctBy id [] (g.nodes.map Node.id ++ Graph.ends g.edges)
  rwa [List.map_id, ← ids_ofGraph] at h

theorem mem_ids_ofGraph_iff {g : Graph} {x : Text} :
    x ∈ (ofGraph g).ids ↔ x ∈ g.nodes.map Node.id ∨ x ∈ Graph.ends g.edges := by
  rw [ids_ofGraph, mem_distinctBy_id_iff, List.mem_append]

/-- The two ends of each edge. -/
def endPairs (edges : List Edge) : List (Text × Text) :=
  edges.map fun edge => (edge.source, edge.target)

theorem endPairs_mem_ids {g : Graph} :
    ∀ p ∈ endPairs g.edges, p.1 ∈ (ofGraph g).ids ∧ p.2 ∈ (ofGraph g).ids := by
  intro p hp
  obtain ⟨e, he, rfl⟩ := List.mem_map.mp hp
  exact ⟨mem_ids_ofGraph_iff.mpr (Or.inr (Graph.mem_ends_iff.mpr ⟨e, he, Or.inl rfl⟩)),
    mem_ids_ofGraph_iff.mpr (Or.inr (Graph.mem_ends_iff.mpr ⟨e, he, Or.inr rfl⟩))⟩

/-- **The components of a graph are as many as the classes of its vertices.** -/
theorem length_components (g : Graph) :
    (ofGraph g).components.length
      = Components.classCount (ofGraph g).ids (endPairs g.edges) :=
  Components.length_ofPairs (nodup_ids_ofGraph g) endPairs_mem_ids

end Multigraph

end ArrowNotation
