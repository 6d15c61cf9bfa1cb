/-
# What the multigraph of a graph keeps

The multigraph of a graph regroups the edges, by their sources and then by their targets, and
merges what is said of a vertex in several places.  Nothing is lost by it and nothing is added,
also for graphs that no text has: with nodes that are repeated, and with ends that are no nodes.

* **Vertices.**  A vertex has the label of the last node with its identifier, if there is one.
  Touching a vertex never changes a label (`find?_touch_getD`).
* **One insertion.**  An edge goes to the end of those with the same ends, under the next number,
  and the edges with other ends stay as they are (`parallelAt_insertEdge`).  So the edges under
  two ends are those of the graph in order, numbered from zero (`between_ofGraph`).
* **The whole list.**  Under distinct sources and distinct targets, what is listed with certain ends
  is what is kept under them (`filter_keyedEdges`).  Two lists that agree on all such parts are
  permutations of one another (`Keyed.perm_of_filter_eq`).
-/
import ArrowNotation.Proofs.Graph.Components
import ArrowNotation.Proofs.KeyedLists

namespace ArrowNotation

namespace Multigraph

/-! ## 1. Labels -/

/-- A label that is given replaces the one of before. -/
theorem find?_setLabel (id label x : Text) (vertices : List (Text × Option Text)) :
    Keyed.find? x (setLabel id label vertices)
      = if id = x then some (some label) else Keyed.find? x vertices :=
  Keyed.find?_update id x _ vertices

/-- **Touching a vertex does not change a label.** -/
theorem find?_touch_getD (id x : Text) (vertices : List (Text × Option Text)) :
    (Keyed.find? x (touch id vertices)).getD none = (Keyed.find? x vertices).getD none := by
  rw [touch, Keyed.find?_update]
  by_cases h : id = x
  · rw [if_pos h, h, Option.getD_some]
  · rw [if_neg h]

theorem find?_touchEnds_getD (x : Text) : ∀ (edges : List Edge)
    (vertices : List (Text × Option Text)),
    (Keyed.find? x (touchEnds vertices edges)).getD none = (Keyed.find? x vertices).getD none
  | [], _ => rfl
  | e :: edges, vertices => by
    have ih := find?_touchEnds_getD x edges (touch e.target (touch e.source vertices))
    rw [find?_touch_getD, find?_touch_getD] at ih
    exact ih

theorem labelledVertices_concat (nodes : List Node) (node : Node) :
    labelledVertices (nodes ++ [node])
      = setLabel node.id node.label (labelledVertices nodes) := by
  rw [labelledVertices, List.foldl_append]
  rfl

/-- **The last node with an identifier gives the label.** -/
theorem find?_labelledVertices (x : Text) (nodes : List Node) :
    Keyed.find? x (labelledVertices nodes)
      = (nodes.filter fun node => node.id = x).getLast?.map fun node => some node.label := by
  induction nodes using List.reverseRecOn with
  | nil => rfl
  | append_singleton nodes node ih =>
    rw [labelledVertices_concat, find?_setLabel, List.filter_append]
    by_cases h : node.id = x
    · simp [h]
    · simpa [h] using ih

/-- **The vertices and their labels.** -/
theorem vertices_ofGraph (g : Graph) :
    (ofGraph g).vertices = (ofGraph g).ids.map fun x =>
      (x, (g.nodes.filter fun node => node.id = x).getLast?.map Node.label) := by
  refine Keyed.eq_map_of_find? (nodup_ids_ofGraph g) ?_
  intro x hx
  obtain ⟨⟨x, label⟩, hmem, rfl⟩ := List.mem_map.mp hx
  have hfound : Keyed.find? x (ofGraph g).vertices = some label :=
    Keyed.find?_of_mem (nodup_ids_ofGraph g) hmem
  have hlabel : (Keyed.find? x (ofGraph g).vertices).getD none
      = (Keyed.find? x (labelledVertices g.nodes)).getD none :=
    find?_touchEnds_getD x g.edges (labelledVertices g.nodes)
  rw [hfound, Option.getD_some, find?_labelledVertices] at hlabel
  rw [hfound, hlabel]
  cases (g.nodes.filter fun node => node.id = x).getLast? <;> rfl

/-! ## 2. Edges under two ends -/

/-- The edges of a list with certain ends. -/
def withEnds (source target : Text) (edges : List Edge) : List Edge :=
  edges.filter fun e => e.source = source ∧ e.target = target

/-- Attributes under the numbers from zero on. -/
def numbered (attributes : List Attributes) : Parallel := attributes.zipIdx.map Prod.swap

theorem keys_numbered (attributes : List Attributes) :
    (numbered attributes).map Prod.fst = List.range attributes.length := by
  rw [numbered, List.map_map, List.range_eq_range']
  exact List.zipIdx_map_snd 0 attributes

/-- The number of the edges there are is not yet a key. -/
theorem length_notMem_keys_numbered (attributes : List Attributes) :
    attributes.length ∉ (numbered attributes).map Prod.fst := by
  rw [keys_numbered, List.mem_range]
  omega

theorem newKey_numbered (attributes : List Attributes) :
    newKey (numbered attributes) = attributes.length := by
  have hlength : (numbered attributes).length = attributes.length := by simp [numbered]
  have hnew := length_notMem_keys_numbered attributes
  rw [newKey, hlength, List.range'_succ, List.find?_cons_of_pos (by simpa using hnew),
    Option.getD_some]

/-- **One more parallel edge gets the next number.** -/
theorem addParallel_numbered (a : Attributes) (attributes : List Attributes) :
    addParallel a (numbered attributes) = numbered (attributes ++ [a]) := by
  rw [addParallel, newKey_numbered,
    Keyed.update_of_notMem (length_notMem_keys_numbered attributes)]
  simp [numbered, List.zipIdx_append]

/-- **What one insertion does.**  It adds the edge to those with the same ends and changes no
other. -/
theorem parallelAt_insertEdge (kept : Adjacency) (e : Edge) (source target : Text) :
    parallelAt (insertEdge kept e) source target =
      if e.source = source ∧ e.target = target then
        addParallel (.ofEdge e) (parallelAt kept source target)
      else parallelAt kept source target := by
  unfold parallelAt insertEdge
  rw [Keyed.find?_update]
  by_cases hs : e.source = source
  · subst hs
    rw [if_pos rfl, Option.bind_some, Keyed.find?_update]
    by_cases ht : e.target = target
    · subst ht
      rw [if_pos rfl, if_pos ⟨rfl, rfl⟩, Option.getD_some]
      cases Keyed.find? e.source kept <;> rfl
    · rw [if_neg ht, if_neg fun h => ht h.2]
      cases Keyed.find? e.source kept <;> rfl
  · rw [if_neg hs, if_neg fun h => hs h.1]

theorem parallelAt_vertices (ids : List Text) (source target : Text) :
    parallelAt (ids.map fun id => (id, [])) source target = [] := by
  unfold parallelAt
  cases h : Keyed.find? source (ids.map fun id => (id, ([] : List (Text × Parallel)))) with
  | none => rfl
  | some successors =>
    obtain ⟨_, -, heq⟩ := List.mem_map.mp (Keyed.mem_of_find? h)
    rw [← (Prod.mk.inj heq).2]
    rfl

/-- **What a run of insertions keeps under two ends**: the edges with these ends in order,
numbered from zero. -/
theorem parallelAt_foldl_insertEdge {kept : Adjacency} {source target : Text}
    (h : parallelAt kept source target = []) (edges : List Edge) :
    parallelAt (edges.foldl insertEdge kept) source target
      = numbered ((withEnds source target edges).map Attributes.ofEdge) := by
  -- A number depends on the edges before, so the induction takes edges off the end.
  induction edges using List.reverseRecOn with
  | nil => exact h
  | append_singleton edges e ih =>
    rw [List.foldl_append, List.foldl_cons, List.foldl_nil, parallelAt_insertEdge, ih, withEnds,
      withEnds, List.filter_append]
    by_cases he : e.source = source ∧ e.target = target
    · rw [if_pos he, addParallel_numbered, List.filter_cons_of_pos (by simpa using he),
        List.map_append]
      rfl
    · rw [if_neg he, List.filter_cons_of_neg (by simpa using he), List.filter_nil,
        List.append_nil]

/-- **The edges from one vertex to another** are those of the graph in order, numbered from
zero. -/
theorem between_ofGraph (g : Graph) (source target : Text) :
    (ofGraph g).between source target
      = numbered ((withEnds source target g.edges).map Attributes.ofEdge) :=
  parallelAt_foldl_insertEdge (parallelAt_vertices _ source target) g.edges

/-! ## 3. The list of all edges -/

/-- What is kept under distinct sources and, under each of them, distinct targets. -/
structure IsDistinct (kept : Adjacency) : Prop where
  sources : (kept.map Prod.fst).Nodup
  targets : ∀ entry ∈ kept, (entry.2.map Prod.fst).Nodup

/-- **An insertion keeps the ends distinct.** -/
theorem IsDistinct.insertEdge {kept : Adjacency} (h : IsDistinct kept) (e : Edge) :
    IsDistinct (insertEdge kept e) where
  sources := Keyed.nodup_keys_update h.sources
  targets := by
    intro entry hentry
    rcases Keyed.mem_of_mem_update hentry with hold | rfl
    · exact h.targets entry hold
    · refine Keyed.nodup_keys_update ?_
      cases hfound : Keyed.find? e.source kept with
      | none => exact List.nodup_nil
      | some successors => exact h.targets _ (Keyed.mem_of_find? hfound)

theorem IsDistinct.foldl_insertEdge : ∀ {kept : Adjacency} (edges : List Edge),
    IsDistinct kept → IsDistinct (edges.foldl Multigraph.insertEdge kept)
  | _, [], h => h
  | _, e :: edges, h => (h.insertEdge e).foldl_insertEdge edges

theorem isDistinct_adjacency (g : Graph) : IsDistinct (ofGraph g).adjacency := by
  refine IsDistinct.foldl_insertEdge _ ⟨?_, ?_⟩
  · rw [List.map_map]
    simpa [Function.comp_def] using nodup_ids_ofGraph g
  · intro entry hentry
    obtain ⟨_, -, rfl⟩ := List.mem_map.mp hentry
    exact List.nodup_nil

theorem ends_of_mem_listed {source target : Text} {parallel : Parallel} {e : KeyedEdge}
    (h : e ∈ listed source target parallel) : e.source = source ∧ e.target = target := by
  obtain ⟨_, -, rfl⟩ := List.mem_map.mp h
  exact ⟨rfl, rfl⟩

/-- **What is listed with certain ends is what is kept under them.** -/
theorem filter_keyedEdges {m : Multigraph} (h : IsDistinct m.adjacency) (source target : Text) :
    (m.keyedEdges.filter fun e => e.source = source ∧ e.target = target)
      = listed source target (m.between source target) := by
  -- Other sources and, under this source, other targets contribute nothing.
  have hsources : ∀ entry ∈ m.adjacency, entry.1 ≠ source →
      ((entry.2.flatMap fun below => listed entry.1 below.1 below.2).filter
        fun e => e.source = source ∧ e.target = target) = [] := by
    intro entry _ hne
    refine List.filter_eq_nil_iff.mpr ?_
    intro e he hends
    obtain ⟨_, -, hlisted⟩ := List.mem_flatMap.mp he
    exact hne ((ends_of_mem_listed hlisted).1.symm.trans (of_decide_eq_true hends).1)
  have htargets : ∀ successors, ∀ entry ∈ (successors : List (Text × Parallel)),
      entry.1 ≠ target →
      ((listed source entry.1 entry.2).filter
        fun e => e.source = source ∧ e.target = target) = [] := by
    intro successors entry _ hne
    refine List.filter_eq_nil_iff.mpr ?_
    intro e he hends
    exact hne ((ends_of_mem_listed he).2.symm.trans (of_decide_eq_true hends).2)
  unfold keyedEdges between parallelAt
  rw [List.filter_flatMap, Keyed.flatMap_eq_of_find? h.sources hsources]
  cases hs : Keyed.find? source m.adjacency with
  | none => rfl
  | some successors =>
    have hnodup : (successors.map Prod.fst).Nodup := h.targets _ (Keyed.mem_of_find? hs)
    rw [Option.map_some, Option.getD_some, Option.bind_some, List.filter_flatMap,
      Keyed.flatMap_eq_of_find? hnodup (htargets successors)]
    cases Keyed.find? target successors with
    | none => rfl
    | some parallel =>
      refine List.filter_eq_self.mpr ?_
      intro e he
      exact decide_eq_true (ends_of_mem_listed he)

/-! ## 4. The multigraph of a graph -/

theorem ends_of_mem_withEnds {source target : Text} {edges : List Edge} {e : Edge}
    (h : e ∈ withEnds source target edges) :
    e ∈ edges ∧ e.source = source ∧ e.target = target :=
  ⟨(List.mem_filter.mp h).1, of_decide_eq_true (List.mem_filter.mp h).2⟩

/-- **What is listed with certain ends** are the edges of the graph with these ends, in their order,
numbered from zero. -/
theorem filter_keyedEdges_ofGraph (g : Graph) (source target : Text) :
    ((ofGraph g).keyedEdges.filter fun e => e.source = source ∧ e.target = target)
      = (withEnds source target g.edges).zipIdx.map fun (e, k) =>
          ⟨e.source, e.target, k, .ofEdge e⟩ := by
  rw [filter_keyedEdges (isDistinct_adjacency g), between_ofGraph, numbered, listed,
    List.zipIdx_map, List.map_map, List.map_map]
  refine List.map_congr_left ?_
  rintro ⟨e, k⟩ he
  obtain ⟨-, rfl, rfl⟩ := ends_of_mem_withEnds (List.fst_mem_of_mem_zipIdx he)
  rfl

/-- **The listed edges are those of the graph**, in another order. -/
theorem perm_keyedEdges_ofGraph (g : Graph) :
    ((ofGraph g).keyedEdges.map fun e =>
        (e.source, e.target, e.attributes.token, e.attributes.label)).Perm
      (g.edges.map fun e => (e.source, e.target, e.connector.token, e.label)) := by
  refine Keyed.perm_of_filter_eq (fun record => (record.1, record.2.1)) ?_
  rintro ⟨source, target⟩
  simp only [List.filter_map, Function.comp_def, Prod.mk.injEq]
  rw [filter_keyedEdges_ofGraph, List.map_map]
  calc (withEnds source target g.edges).zipIdx.map _
      = ((withEnds source target g.edges).zipIdx.map Prod.fst).map fun e =>
          (e.source, e.target, e.connector.token, e.label) := by
        rw [List.map_map]
        rfl
    _ = (withEnds source target g.edges).map fun e =>
          (e.source, e.target, e.connector.token, e.label) := by rw [List.zipIdx_map_fst]

/-- **How many edges there are from one vertex to another.** -/
theorem length_between_ofGraph (g : Graph) (source target : Text) :
    ((ofGraph g).between source target).length = (withEnds source target g.edges).length := by
  rw [between_ofGraph, numbered, List.length_map, List.length_zipIdx, List.length_map]

theorem mem_ids_of_mem_withEnds {g : Graph} {source target : Text} {e : Edge}
    (h : e ∈ withEnds source target g.edges) :
    source ∈ (ofGraph g).ids ∧ target ∈ (ofGraph g).ids := by
  obtain ⟨he, rfl, rfl⟩ := ends_of_mem_withEnds h
  exact endPairs_mem_ids (e.source, e.target) (List.mem_map_of_mem he)

theorem withEnds_eq_nil {g : Graph} {source target : Text}
    (h : source ∉ (ofGraph g).ids ∨ target ∉ (ofGraph g).ids) :
    withEnds source target g.edges = [] := by
  refine List.eq_nil_iff_forall_not_mem.mpr ?_
  intro e he
  obtain ⟨hsource, htarget⟩ := mem_ids_of_mem_withEnds he
  rcases h with h | h
  · exact h hsource
  · exact h htarget

/-- **If no node is repeated and all edges end at nodes, the vertices are the nodes**, with their
labels. -/
theorem vertices_eq_nodes {g : Graph} (hnodup : (g.nodes.map Node.id).Nodup)
    (hends : ∀ x ∈ Graph.ends g.edges, x ∈ g.nodes.map Node.id) :
    (ofGraph g).vertices = g.nodes.map fun node => (node.id, some node.label) := by
  have hids : (ofGraph g).ids = g.nodes.map Node.id := by
    rw [ids_ofGraph, distinctBy_append, distinctBy_eq_self (by rwa [List.map_id]) (by simp),
      distinctBy_eq_nil (by simpa using hends), List.append_nil]
  rw [vertices_ofGraph, hids, List.map_map]
  refine List.map_congr_left ?_
  intro node hnode
  have hlast : (g.nodes.filter fun other => other.id = node.id).getLast? = some node := by
    rw [filter_eq_singleton_of_nodup hnodup hnode, List.getLast?_singleton]
  rw [Function.comp_apply, hlast, Option.map_some]

/-- **The vertices of the graph of a text are its nodes.** -/
theorem vertices_ofGraph_graph (text : Text) :
    (ofGraph (Diagram.graph text)).vertices
      = (Diagram.graph text).nodes.map fun node => (node.id, some node.label) := by
  refine vertices_eq_nodes ?_ ?_
  · refine List.Nodup.of_map Text.lower ?_
    rw [List.map_map]
    exact Graph.nodup_keys_ofEdgeLines (Diagram.edgeLines text)
  · intro x hx
    exact (Graph.mem_ids_iff_mem_ends (Diagram.edgeLines text)).mpr hx

/-- **The multigraph of a graph keeps everything and adds nothing.**  The graph may be any: nodes
may be repeated, and edges may end at identifiers of no node.

* Every identifier is a vertex once, in the order of the first occurrences among the nodes and then
  among the ends of the edges.
* A vertex has the label of the last node with its identifier, and none if there is no such node.
* The listed edges are a permutation of the edges of the graph, with ends, tokens and labels.
* The edges from one vertex to another are listed in their order in the graph, with the numbers from
  zero on as keys.
* So there are as many of them as edges of the graph with exactly these ends, and none if one of the
  two is no vertex.
* If the graph is that of a text, the vertices with their labels are its nodes in order. -/
theorem multigraph_keeps_graph (g : Graph) :
    (ofGraph g).ids.Nodup ∧
    (ofGraph g).ids = distinctBy id [] (g.nodes.map Node.id ++ Graph.ends g.edges) ∧
    (ofGraph g).vertices = (ofGraph g).ids.map (fun x =>
      (x, (g.nodes.filter fun node => node.id = x).getLast?.map Node.label)) ∧
    ((ofGraph g).keyedEdges.map fun e =>
        (e.source, e.target, e.attributes.token, e.attributes.label)).Perm
      (g.edges.map fun e => (e.source, e.target, e.connector.token, e.label)) ∧
    (∀ source target,
      ((ofGraph g).keyedEdges.filter fun e => e.source = source ∧ e.target = target)
        = (withEnds source target g.edges).zipIdx.map fun (e, k) =>
            ⟨e.source, e.target, k, ⟨e.connector.token, e.label⟩⟩) ∧
    (∀ source target,
      ((ofGraph g).between source target).length = (withEnds source target g.edges).length ∧
        (source ∉ (ofGraph g).ids ∨ target ∉ (ofGraph g).ids →
          ((ofGraph g).between source target).length = 0)) ∧
    (∀ text, g = Diagram.graph text →
      (ofGraph g).vertices = g.nodes.map fun node => (node.id, some node.label)) := by
  refine ⟨nodup_ids_ofGraph g, ids_ofGraph g, vertices_ofGraph g, perm_keyedEdges_ofGraph g,
    filter_keyedEdges_ofGraph g, ?_, ?_⟩
  · intro source target
    refine ⟨length_between_ofGraph g source target, fun hunknown => ?_⟩
    rw [length_between_ofGraph, withEnds_eq_nil hunknown, List.length_nil]
  · rintro text rfl
    exact vertices_ofGraph_graph text

/-- Two nodes with one identifier, an end that is no node, and a loop.  The last edge is listed
before the second, under the source that came first. -/
example :
    let a := "A".toText
    let b := "B".toText
    let m := ofGraph ⟨[⟨a, "1".toText⟩, ⟨a, "2".toText⟩],
      [⟨a, b, .solidArrow, none⟩, ⟨b, b, .solidLine, none⟩, ⟨a, b, .thickArrow, some a⟩]⟩
    m.vertices = [(a, some "2".toText), (b, none)] ∧
      m.keyedEdges = [⟨a, b, 0, ⟨"-->".toText, none⟩⟩, ⟨a, b, 1, ⟨"==>".toText, some a⟩⟩,
        ⟨b, b, 0, ⟨"---".toText, none⟩⟩] := by decide

end Multigraph

end ArrowNotation
