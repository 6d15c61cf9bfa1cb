/-
# Registries answer from their histories

Several registries are told and asked things in any order.  Whatever one of them answers
follows from its own history, the identifiers that were registered in it before: the other
registries do not matter, nor what was asked, nor a registration that was only a repetition.

* **One step.**  A step registers at most one identifier (`snd_step`), and its answer is a
  function of the history (`fst_step_registerAll`).
* **A run.**  After any steps a registry is what its own registrations made of it
  (`after_apply`).  This is the frame argument and the invariant in one: each registry is
  carried through the steps of the others unchanged, and through its own by `snd_step`.
-/
import ArrowNotation.Proofs.Registry.Mentions
import ArrowNotation.Registry.Session

namespace ArrowNotation

namespace Registry

/-! ## 1. Histories -/

/-- The identifiers that a step registers: one or none. -/
def Step.registered : Step → List Text
  | .register id => [id]
  | _ => []

/-- The identifiers that steps register in one of several registries, in order. -/
def history (index : Nat) (steps : List (Nat × Step)) : List Text :=
  steps.flatMap fun (i, s) => if i = index then s.registered else []

/-- The answer that a history gives to a step. -/
def Step.answerFrom (history : List Text) : Step → StepAnswer
  | .register id => .id (firstSpelling (history ++ [id]) id)
  | .node id => .node ((history.find? fun y => Text.lower y = Text.lower id).map Registry.node)
  | .contains (some id) => .truth (history.find? fun y => Text.lower y = Text.lower id).isSome
  | .contains none => .truth false
  | .size => .count (distinctBy Text.lower [] history).length
  | .nodes => .nodes ((distinctBy Text.lower [] history).map Registry.node)

theorem history_cons_self (index : Nat) (s : Step) (steps : List (Nat × Step)) :
    history index ((index, s) :: steps) = s.registered ++ history index steps := by
  simp [history]

theorem history_cons_of_ne {i index : Nat} (h : i ≠ index) (s : Step)
    (steps : List (Nat × Step)) : history index ((i, s) :: steps) = history index steps := by
  simp [history, h]

theorem history_append (index : Nat) (steps more : List (Nat × Step)) :
    history index (steps ++ more) = history index steps ++ history index more :=
  List.flatMap_append

/-! ## 2. One step -/

/-- **A step registers its identifier, if it has one, and does nothing else.** -/
theorem snd_step (r : Registry) (s : Step) : (r.step s).2 = r.registerAll s.registered := by
  cases s with
  | contains id => cases id <;> rfl
  | _ => rfl

/-- A search through what a history leaves is a search through the history. -/
theorem find?_registerAll_empty (history : List Text) (id : Text) :
    (empty.registerAll history).find? id
      = history.find? fun y => Text.lower y = Text.lower id := by
  rw [find?_eq, ids_registerAll_empty, find?_distinctBy history (by simp)]

theorem contains_eq_isSome_find? (r : Registry) (id : Text) :
    r.contains id = (r.find? id).isSome := by
  rw [contains, node?_eq_map_find?, Option.isSome_map]

/-- **The answer to a step is a function of the history.** -/
theorem fst_step_registerAll (history : List Text) (s : Step) :
    ((empty.registerAll history).step s).1 = s.answerFrom history := by
  have hids := ids_registerAll_empty history
  cases s with
  | register id =>
    have hfirst : firstSpelling (distinctBy Text.lower [] history) id
        = firstSpelling (history ++ [id]) id := by
      rw [firstSpelling_distinctBy, firstSpelling_append_cons_self]
    show StepAnswer.id ((empty.registerAll history).register id).1 = _
    rw [fst_register, hids, hfirst, Step.answerFrom]
  | node id =>
    show StepAnswer.node ((empty.registerAll history).node? id) = _
    rw [node?_eq_map_find?, find?_registerAll_empty, Step.answerFrom]
  | contains id =>
    cases id with
    | none => rfl
    | some id =>
      show StepAnswer.truth ((empty.registerAll history).contains id) = _
      rw [contains_eq_isSome_find?, find?_registerAll_empty, Step.answerFrom]
  | size =>
    show StepAnswer.count (empty.registerAll history).size = _
    rw [← length_ids, hids, Step.answerFrom]
  | nodes =>
    show StepAnswer.nodes (empty.registerAll history).nodes = _
    rw [nodes_eq_map_ids, hids, Step.answerFrom]

/-- **A step without a new key changes nothing.** -/
theorem registerAll_registered_eq_self {r : Registry} {s : Step}
    (h : ∀ id ∈ s.registered, Text.lower id ∈ r.ids.map Text.lower) :
    r.registerAll s.registered = r := by
  cases s with
  | register id =>
    have hne : r.find? id ≠ none := fun hnone =>
      (r.find?_eq_none_iff id).mp hnone (h id (by simp [Step.registered]))
    obtain ⟨registered, hsome⟩ := Option.ne_none_iff_exists'.mp hne
    show (r.register id).2 = r
    rw [ids_register_of_some hsome]
  | _ => rfl

/-! ## 3. Runs -/

theorem registerAll_append (r : Registry) (ids others : List Text) :
    r.registerAll (ids ++ others) = (r.registerAll ids).registerAll others :=
  List.foldl_append

namespace Family

/-- The registries after a list of steps. -/
def after (rs : Family) : List (Nat × Step) → Family
  | [] => rs
  | (index, s) :: steps => (rs.set index ((rs index).step s).2).after steps

theorem set_self (rs : Family) (index : Nat) : rs.set index (rs index) = rs := by
  funext i
  unfold set
  split
  · next h => rw [h]
  · rfl

/-- **After any steps a registry is what its own registrations made of it.** -/
theorem after_apply : ∀ (rs : Family) (steps : List (Nat × Step)) (index : Nat),
    rs.after steps index = (rs index).registerAll (history index steps)
  | _, [], _ => rfl
  | rs, (i, s) :: steps, index => by
    have ih := after_apply (rs.set i ((rs i).step s).2) steps index
    rw [after, ih, set]
    -- A step on another registry leaves this one, and its history, as they are.
    by_cases h : index = i
    · subst h
      rw [if_pos rfl, snd_step, history_cons_self, registerAll_append]
    · rw [if_neg h, history_cons_of_ne (Ne.symm h)]

theorem run_cons (rs : Family) (index : Nat) (s : Step) (steps : List (Nat × Step)) :
    rs.run ((index, s) :: steps)
      = ((rs index).step s).1 :: (rs.set index ((rs index).step s).2).run steps := rfl

/-- Each answer is given by the registry as the steps before have left it. -/
theorem getElem?_run : ∀ (rs : Family) (steps : List (Nat × Step)) (k : Nat),
    (rs.run steps)[k]?
      = steps[k]?.map fun (index, s) => ((rs.after (steps.take k) index).step s).1
  | _, [], _ => by simp [run]
  | _, (_, _) :: _, 0 => by simp [run, after]
  | rs, (i, s) :: steps, k + 1 => by
    have ih := getElem?_run (rs.set i ((rs i).step s).2) steps k
    simpa [run, after] using ih

theorem run_append : ∀ (rs : Family) (steps more : List (Nat × Step)),
    rs.run (steps ++ more) = rs.run steps ++ (rs.after steps).run more
  | _, [], _ => rfl
  | rs, (i, s) :: steps, more => by
    have ih := run_append (rs.set i ((rs i).step s).2) steps more
    simpa [run, after] using ih

theorem mem_keys_after_empty_iff (steps : List (Nat × Step)) (index : Nat) (k : Text) :
    k ∈ (empty.after steps index).ids.map Text.lower ↔
      k ∈ (history index steps).map Text.lower := by
  have hids : (empty.after steps index).ids = distinctBy Text.lower [] (history index steps) := by
    rw [after_apply]
    exact ids_registerAll_empty (history index steps)
  have hkeys : k ∈ (distinctBy Text.lower [] (history index steps)).map Text.lower ↔
      k ∈ (history index steps).map Text.lower ∧ k ∉ [] := mem_keys_distinctBy
  rw [hids, hkeys]
  exact and_iff_left (by simp)

/-- **Every registry answers from its own history.**  Take any steps on any registries.

* Each step is answered as the identifiers say that were registered before it in the registry
  that it concerns, and there is one answer for each step.
* Whatever steps follow, the nodes of a registry stay, in their order, at the front.
* A step that registers nothing, or an identifier that its registry has already, is answered
  as well, and all answers after it are what they would have been without it. -/
theorem answers_from_own_history (steps : List (Nat × Step)) :
    (∀ k : Nat, (empty.run steps)[k]?
      = steps[k]?.map fun (index, s) => s.answerFrom (history index (steps.take k))) ∧
    (∀ (more : List (Nat × Step)) (index : Nat),
      (empty.after steps index).nodes <+: (empty.after (steps ++ more) index).nodes) ∧
    (∀ (index : Nat) (s : Step) (more : List (Nat × Step)),
      (∀ id ∈ s.registered, Text.lower id ∈ (history index steps).map Text.lower) →
      ∃ others,
        empty.run (steps ++ (index, s) :: more)
          = empty.run steps ++ s.answerFrom (history index steps) :: others ∧
        empty.run (steps ++ more) = empty.run steps ++ others) := by
  have hanswer : ∀ (before : List (Nat × Step)) (index : Nat) (s : Step),
      ((empty.after before index).step s).1 = s.answerFrom (history index before) := by
    intro before index s
    rw [after_apply]
    exact fst_step_registerAll (history index before) s
  refine ⟨?_, ?_, ?_⟩
  · intro k
    rw [getElem?_run]
    simp only [hanswer]
  · intro more index
    rw [after_apply, after_apply, history_append, registerAll_append,
      nodes_eq_map_ids (((empty index).registerAll (history index steps)).registerAll _),
      ids_registerAll, List.map_append, ← nodes_eq_map_ids]
    exact List.prefix_append _ _
  · intro index s more hs
    have hsame : (empty.after steps index).registerAll s.registered = empty.after steps index := by
      refine registerAll_registered_eq_self ?_
      intro id hid
      exact (mem_keys_after_empty_iff steps index _).mpr (hs id hid)
    refine ⟨(empty.after steps).run more, ?_, run_append empty steps more⟩
    rw [run_append, run_cons, hanswer, snd_step, hsame, set_self]

/-- A registration of the same identifier in capitals, in the middle of steps on two registries,
is answered with the spelling seen first and changes nothing. -/
theorem repetition_in_capitals_changes_nothing :
    (∀ id ∈ (Step.register "ÉTÉ".toText).registered,
      Text.lower id ∈ (history 0 [(0, .register "Été".toText)]).map Text.lower) ∧
    ∃ others,
      empty.run ([(0, .register "Été".toText)] ++
          (0, .register "ÉTÉ".toText) :: [(1, .contains (some "été".toText)), (0, .nodes)])
        = empty.run [(0, .register "Été".toText)] ++ .id "Été".toText :: others ∧
      empty.run ([(0, .register "Été".toText)] ++ [(1, .contains (some "été".toText)), (0, .nodes)])
        = empty.run [(0, .register "Été".toText)] ++ others := by
  have hkey : ∀ id ∈ (Step.register "ÉTÉ".toText).registered,
      Text.lower id ∈ (history 0 [(0, .register "Été".toText)]).map Text.lower := by
    decide +kernel
  have hanswer : (Step.register "ÉTÉ".toText).answerFrom (history 0 [(0, .register "Été".toText)])
      = .id "Été".toText := by decide +kernel
  have h := (answers_from_own_history [(0, .register "Été".toText)]).2.2 0
    (.register "ÉTÉ".toText) [(1, .contains (some "été".toText)), (0, .nodes)] hkey
  rw [hanswer] at h
  exact ⟨hkey, h⟩

end Family

end Registry

end ArrowNotation
