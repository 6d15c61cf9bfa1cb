/-
# Where composed forms can be cut

The composed form of a text in two parts is not, as a rule, that of the first part followed by
that of the second: a mark at the front of the second belongs to the last character of the first.
But no mark moves past a base character, and if that base character joins nothing, neither does
composition (`orderMarks_append_base`, `compose_append_base`).  So a composed form can be cut in
front of the characters of a boundary and behind them (`composed_append_of_head`,
`composed_append_of_last`), and it holds none that the text did not hold
(`eq_false_of_mem_composed`).

With blanks and slashes for the boundary this says that composition commutes with trimming
(`composed_trim`) and that a composed text begins with the same slashes
(`isPrefixOf_slashes_composed`).
-/
import ArrowNotation.Proofs.Text.Boundary
import ArrowNotation.Proofs.Text.Trimming
import Mathlib.Data.List.DropRight

namespace ArrowNotation.Text

/-! ## 1. The order of marks

A base character stays where it is, and nothing moves past it. -/

theorem insertMark_of_base {c : CodePoint} (hc : combiningClass c = 0) (t : Text) :
    insertMark c t = c :: t := by
  cases t with
  | nil => rfl
  | cons d rest => simp [insertMark, hc]

/-- A mark stays in front of the base character that follows. -/
theorem insertMark_append_base {c : CodePoint} (hc : combiningClass c = 0) (d : CodePoint)
    (u : Text) : ∀ t : Text, insertMark d (t ++ c :: u) = insertMark d t ++ c :: u
  | [] => by simp [insertMark, hc]
  | e :: t => by
    have ih := insertMark_append_base hc d u t
    by_cases h : 0 < combiningClass e ∧ combiningClass e < combiningClass d
    · simp only [List.cons_append, insertMark, if_pos h, ih]
    · simp only [List.cons_append, insertMark, if_neg h]

/-- **Marks are put into order on each side of a base character.** -/
theorem orderMarks_append_base {c : CodePoint} (hc : combiningClass c = 0) (u : Text) :
    ∀ t : Text, orderMarks (t ++ c :: u) = orderMarks t ++ c :: orderMarks u
  | [] => insertMark_of_base hc (orderMarks u)
  | d :: t => by
    have ih := orderMarks_append_base hc u t
    calc orderMarks (d :: t ++ c :: u)
        = insertMark d (orderMarks (t ++ c :: u)) := rfl
      _ = insertMark d (orderMarks t) ++ c :: orderMarks u := by
          rw [ih, insertMark_append_base hc]
      _ = orderMarks (d :: t) ++ c :: orderMarks u := rfl

theorem insertMark_perm (c : CodePoint) : ∀ t : Text, (insertMark c t).Perm (c :: t)
  | [] => List.Perm.refl _
  | d :: t => by
    have ih := insertMark_perm c t
    unfold insertMark
    split
    · exact (ih.cons d).trans (List.Perm.swap c d t)
    · exact List.Perm.refl _

/-- No mark is lost or added. -/
theorem orderMarks_perm : ∀ t : Text, (orderMarks t).Perm t
  | [] => List.Perm.refl _
  | d :: t => (insertMark_perm d (orderMarks t)).trans ((orderMarks_perm t).cons d)

/-! ## 2. Composition -/

/-- What the next character makes of a base over the marks that are held, if it reaches it and
composes with it. -/
def joined? (base : CodePoint) (held : Text) (c : CodePoint) : Option CodePoint :=
  if held.getLast?.all fun mark => combiningClass mark < combiningClass c then
    composePair? base c
  else none

theorem composeAfter_cons (base : CodePoint) (held : Text) (c : CodePoint) (rest : Text) :
    composeAfter base held (c :: rest) =
      (joined? base held c).elim
        (if combiningClass c = 0 then base :: held ++ composeAfter c [] rest
          else composeAfter base (held ++ [c]) rest)
        fun composite => composeAfter composite held rest := by
  rw [composeAfter, joined?]
  cases held.getLast? with
  | none => cases composePair? base c <;> simp
  | some mark =>
    by_cases hmark : combiningClass mark < combiningClass c
    · cases composePair? base c <;> simp [hmark]
    · simp [hmark]

/-- **One step of composition.**  The next character joins the base, or it is a base character
and takes over, or it is a mark and is held. -/
theorem composeAfter_cons_cases (base : CodePoint) (held : Text) (c : CodePoint) :
    (∃ composite, composePair? base c = some composite ∧
      ∀ rest, composeAfter base held (c :: rest) = composeAfter composite held rest) ∨
    (combiningClass c = 0 ∧
      ∀ rest, composeAfter base held (c :: rest) = base :: held ++ composeAfter c [] rest) ∨
    (combiningClass c ≠ 0 ∧
      ∀ rest, composeAfter base held (c :: rest) = composeAfter base (held ++ [c]) rest) := by
  simp only [composeAfter_cons]
  cases hjoined : joined? base held c with
  | some composite =>
    unfold joined? at hjoined
    split at hjoined
    · exact Or.inl ⟨composite, hjoined, fun _ => rfl⟩
    · exact absurd hjoined (by simp)
  | none =>
    by_cases hc : combiningClass c = 0
    · exact Or.inr (Or.inl ⟨hc, fun _ => if_pos hc⟩)
    · exact Or.inr (Or.inr ⟨hc, fun _ => if_neg hc⟩)

/-- A base character that never comes second takes over from whatever stands before it. -/
theorem composeAfter_append_base {c : CodePoint} (hc : combiningClass c = 0)
    (hsecond : ∀ a, composePair? a c = none) (u : Text) : ∀ (t : Text) (base : CodePoint)
    (held : Text), composeAfter base held (t ++ c :: u)
      = composeAfter base held t ++ composeAfter c [] u
  | [], base, held => by
    rcases composeAfter_cons_cases base held c with ⟨composite, hpair, -⟩ | ⟨-, hstep⟩ | ⟨hne, -⟩
    · rw [hsecond] at hpair
      exact absurd hpair (by simp)
    · exact hstep u
    · exact absurd hc hne
  | d :: t, base, held => by
    rw [List.cons_append]
    rcases composeAfter_cons_cases base held d with ⟨composite, -, hstep⟩ | ⟨-, hstep⟩ | ⟨-, hstep⟩
    · rw [hstep, hstep, composeAfter_append_base hc hsecond u t]
    · rw [hstep, hstep, composeAfter_append_base hc hsecond u t, List.append_assoc]
    · rw [hstep, hstep, composeAfter_append_base hc hsecond u t]

/-- A character that never comes first joins nothing that follows it. -/
theorem composeAfter_of_inert {c : CodePoint} (hfirst : ∀ b, composePair? c b = none) :
    ∀ (u held : Text), composeAfter c held u = c :: held ++ compose u
  | [], held => by simp [composeAfter, compose]
  | d :: u, held => by
    rcases composeAfter_cons_cases c held d with ⟨composite, hpair, -⟩ | ⟨hd, hstep⟩ | ⟨hd, hstep⟩
    · rw [hfirst] at hpair
      exact absurd hpair (by simp)
    · rw [hstep, compose, if_pos hd]
    · rw [hstep, composeAfter_of_inert hfirst u, compose, if_neg hd, List.cons_append,
        List.append_assoc, List.singleton_append, List.cons_append]

/-- **Composition does not reach over a base character that joins nothing.** -/
theorem compose_append_base {c : CodePoint} (hc : combiningClass c = 0)
    (hfirst : ∀ b, composePair? c b = none) (hsecond : ∀ a, composePair? a c = none) (u : Text) :
    ∀ t : Text, compose (t ++ c :: u) = compose t ++ c :: compose u
  | [] => by
    show compose (c :: u) = c :: compose u
    rw [compose, if_pos hc, composeAfter_of_inert hfirst]
    rfl
  | d :: t => by
    have ih := compose_append_base hc hfirst hsecond u t
    rw [List.cons_append, compose, compose]
    by_cases hd : combiningClass d = 0
    · rw [if_pos hd, if_pos hd, composeAfter_append_base hc hsecond,
        composeAfter_of_inert hfirst]
      rfl
    · rw [if_neg hd, if_neg hd, ih, List.cons_append]

theorem composeAfter_ne_nil : ∀ (t : Text) (base : CodePoint) (held : Text),
    composeAfter base held t ≠ []
  | [], _, _ => by simp [composeAfter]
  | c :: t, base, held => by
    rcases composeAfter_cons_cases base held c with ⟨composite, -, hstep⟩ | ⟨-, hstep⟩ | ⟨-, hstep⟩
    · rw [hstep]
      exact composeAfter_ne_nil t composite held
    · rw [hstep]
      simp
    · rw [hstep]
      exact composeAfter_ne_nil t base (held ++ [c])

theorem compose_ne_nil {t : Text} (h : t ≠ []) : compose t ≠ [] := by
  obtain ⟨c, rest, rfl⟩ := List.exists_cons_of_ne_nil h
  unfold compose
  split
  · exact composeAfter_ne_nil rest c []
  · simp

/-! ## 3. Cutting composed forms -/

namespace IsBoundary

variable {P : CodePoint → Bool}

/-- **A composed form is cut at a character of the class**, which is left as it decomposes. -/
theorem composed_append_cons (h : IsBoundary P) {c : CodePoint} (hc : P c = true) :
    ∃ d, P d = true ∧ ∀ t u, composed (t ++ c :: u) = composed t ++ d :: composed u := by
  obtain ⟨d, hd, hPd⟩ := h.decomposed hc
  have hnone : ∀ a b, P a = true ∨ P b = true → composePair? a b = none := by
    intro a b hab
    cases hpair : composePair? a b with
    | none => rfl
    | some e =>
      obtain ⟨ha, hb, -⟩ := h.of_composePair? hpair
      simp [ha, hb] at hab
  refine ⟨d, hPd, fun t u => ?_⟩
  have hdecompose : decompose (t ++ c :: u) = decompose t ++ d :: decompose u := by
    simp [decompose, hd]
  rw [composed, hdecompose, orderMarks_append_base (h.isBase hPd),
    compose_append_base (h.isBase hPd) (fun b => hnone d b (Or.inl hPd))
      (fun a => hnone a d (Or.inr hPd))]
  rfl

/-- **A composed form can be cut in front of a character of the class.** -/
theorem composed_append_of_head (h : IsBoundary P) (t : Text) {u : Text}
    (hu : ∀ c ∈ u.head?, P c = true) : composed (t ++ u) = composed t ++ composed u := by
  cases u with
  | nil => rw [List.append_nil, composed_nil, List.append_nil]
  | cons c u =>
    obtain ⟨d, -, hcut⟩ := h.composed_append_cons (hu c rfl)
    have hfront : composed (c :: u) = d :: composed u := hcut [] u
    rw [hcut, hfront]

/-- **A composed form can be cut behind a character of the class.** -/
theorem composed_append_of_last (h : IsBoundary P) {t : Text} (u : Text)
    (ht : ∀ c ∈ t.getLast?, P c = true) : composed (t ++ u) = composed t ++ composed u := by
  rcases List.eq_nil_or_concat t with rfl | ⟨t, c, rfl⟩
  · rfl
  · rw [List.concat_eq_append] at ht ⊢
    obtain ⟨d, -, hcut⟩ := h.composed_append_cons (ht c (by simp))
    rw [List.append_assoc, List.singleton_append, hcut, hcut, composed_nil, List.append_assoc,
      List.singleton_append]

/-! ### Characters of the class in a composed form -/

theorem eq_false_of_mem_composeAfter (h : IsBoundary P) : ∀ (t : Text) (base : CodePoint)
    (held : Text), P base = false → (∀ c ∈ held, P c = false) → (∀ c ∈ t, P c = false) →
    ∀ c ∈ composeAfter base held t, P c = false
  | [], base, held, hbase, hheld, _ => by
    intro c hc
    rcases List.mem_cons.mp hc with rfl | hc
    · exact hbase
    · exact hheld c hc
  | d :: t, base, held, hbase, hheld, ht => by
    obtain ⟨hd, ht⟩ := List.forall_mem_cons.mp ht
    rcases composeAfter_cons_cases base held d with
      ⟨composite, hpair, hstep⟩ | ⟨-, hstep⟩ | ⟨-, hstep⟩
    · rw [hstep]
      exact eq_false_of_mem_composeAfter h t composite held (h.of_composePair? hpair).2.2 hheld ht
    · rw [hstep]
      intro c hc
      rcases List.mem_append.mp hc with hc | hc
      · rcases List.mem_cons.mp hc with rfl | hc
        · exact hbase
        · exact hheld c hc
      · exact eq_false_of_mem_composeAfter h t d [] hd (by simp) ht c hc
    · rw [hstep]
      refine eq_false_of_mem_composeAfter h t base (held ++ [d]) hbase ?_ ht
      intro c hc
      rcases List.mem_append.mp hc with hc | hc
      · exact hheld c hc
      · obtain rfl := List.mem_singleton.mp hc
        exact hd

theorem eq_false_of_mem_compose (h : IsBoundary P) : ∀ {t : Text}, (∀ c ∈ t, P c = false) →
    ∀ c ∈ compose t, P c = false
  | [], _ => by simp [compose]
  | d :: t, ht => by
    obtain ⟨hd, ht⟩ := List.forall_mem_cons.mp ht
    unfold compose
    split
    · exact h.eq_false_of_mem_composeAfter t d [] hd (by simp) ht
    · intro c hc
      rcases List.mem_cons.mp hc with rfl | hc
      · exact hd
      · exact h.eq_false_of_mem_compose ht c hc

/-- **Composing a text makes no character of the class.** -/
theorem eq_false_of_mem_composed (h : IsBoundary P) {t : Text} (ht : ∀ c ∈ t, P c = false) :
    ∀ c ∈ composed t, P c = false := by
  refine h.eq_false_of_mem_compose ?_
  intro d hd
  obtain ⟨c, hc, hdc⟩ := List.mem_flatMap.mp ((orderMarks_perm _).mem_iff.mp hd)
  cases hPd : P d with
  | false => rfl
  | true =>
    rw [← h.of_mem_decomposeChar hdc hPd]
    exact ht c hc

end IsBoundary

/-- **A composed form is empty only if the text was.** -/
theorem composed_eq_nil_iff {t : Text} : composed t = [] ↔ t = [] := by
  constructor
  · intro h
    by_contra hne
    obtain ⟨c, rest, rfl⟩ := List.exists_cons_of_ne_nil hne
    have hdecompose : decompose (c :: rest) ≠ [] := by
      simp [decompose, decomposeChar_ne_nil]
    have horder : orderMarks (decompose (c :: rest)) ≠ [] := by
      intro hnil
      have hperm := orderMarks_perm (decompose (c :: rest))
      rw [hnil] at hperm
      exact hdecompose (List.nil_perm.mp hperm)
    exact compose_ne_nil horder h
  · rintro rfl
    rfl

namespace IsBoundary

variable {P : CodePoint → Bool}

/-- **A composed form begins with a character of the class only if the text does.** -/
theorem exists_mem_head?_of_composed (h : IsBoundary P) {t : Text} {d : CodePoint}
    (hd : d ∈ (composed t).head?) (hPd : P d = true) : ∃ c ∈ t.head?, P c = true := by
  cases t with
  | nil => exact absurd hd (by simp)
  | cons c rest =>
    refine ⟨c, rfl, ?_⟩
    by_contra hc
    -- The text in front of the first character of the class is composed by itself.
    let front := (c :: rest).takeWhile fun e => !P e
    let others := (c :: rest).dropWhile fun e => !P e
    have hfront : front ≠ [] := by simp [front, hc]
    have hothers : ∀ e ∈ others.head?, P e = true := by
      intro e he
      have hnot := List.head?_dropWhile_not (fun e => !P e) (c :: rest)
      rw [Option.mem_def] at he
      rw [he] at hnot
      simpa using hnot
    have hcut : composed (c :: rest) = composed front ++ composed others := by
      rw [← h.composed_append_of_head front hothers, List.takeWhile_append_dropWhile]
    rw [hcut, List.head?_append_of_ne_nil _ (mt composed_eq_nil_iff.mp hfront)] at hd
    have hfree : ∀ e ∈ front, P e = false := by
      intro e he
      simpa using List.mem_takeWhile_imp he
    have hfalse := h.eq_false_of_mem_composed hfree d (List.mem_of_head? hd)
    rw [hPd] at hfalse
    exact absurd hfalse (by simp)

/-- **A composed form ends with a character of the class only if the text does.** -/
theorem exists_mem_getLast?_of_composed (h : IsBoundary P) {t : Text} {d : CodePoint}
    (hd : d ∈ (composed t).getLast?) (hPd : P d = true) : ∃ c ∈ t.getLast?, P c = true := by
  rcases List.eq_nil_or_concat t with rfl | ⟨rest, c, rfl⟩
  · exact absurd hd (by simp)
  · rw [List.concat_eq_append] at hd ⊢
    refine ⟨c, by simp, ?_⟩
    by_contra hc
    -- The text behind the last character of the class is composed by itself.
    let others := (rest ++ [c]).rdropWhile fun e => !P e
    let back := (rest ++ [c]).rtakeWhile fun e => !P e
    have hback : back ≠ [] := by simp [back, List.rtakeWhile_concat, hc]
    have hothers : ∀ e ∈ others.getLast?, P e = true := by
      intro e he
      obtain ⟨hne, rfl⟩ := List.mem_getLast?_eq_getLast he
      simpa using List.rdropWhile_last_not _ _ hne
    have hcut : composed (rest ++ [c]) = composed others ++ composed back := by
      rw [← h.composed_append_of_last back hothers, List.rdropWhile_append_rtakeWhile]
    rw [hcut, List.getLast?_append_of_ne_nil _ (mt composed_eq_nil_iff.mp hback)] at hd
    have hfree : ∀ e ∈ back, P e = false := by
      intro e he
      simpa using List.mem_rtakeWhile_imp he
    have hfalse := h.eq_false_of_mem_composed hfree d (List.mem_of_getLast? hd)
    rw [hPd] at hfalse
    exact absurd hfalse (by simp)

end IsBoundary

/-! ## 4. Blanks and slashes -/

/-- Blanks compose to blanks. -/
theorem AllBlank.composed : ∀ {t : Text}, AllBlank t → AllBlank (composed t)
  | [], _ => allBlank_nil
  | c :: t, h => by
    obtain ⟨hc, ht⟩ : isBlank c = true ∧ AllBlank t := List.forall_mem_cons.mp h
    obtain ⟨d, hd, hcut⟩ := isBoundary_isBlank.composed_append_cons hc
    have hfront : Text.composed (c :: t) = d :: Text.composed t := hcut [] t
    rw [hfront]
    exact List.forall_mem_cons.mpr ⟨hd, ht.composed⟩

theorem IsTrimmed.composed {t : Text} (h : IsTrimmed t) : IsTrimmed (composed t) where
  head := by
    intro d hd
    cases hblank : isBlank d with
    | false => rfl
    | true =>
      obtain ⟨c, hc, hcblank⟩ := isBoundary_isBlank.exists_mem_head?_of_composed hd hblank
      rw [← hcblank]
      exact h.head c hc
  last := by
    intro d hd
    cases hblank : isBlank d with
    | false => rfl
    | true =>
      obtain ⟨c, hc, hcblank⟩ := isBoundary_isBlank.exists_mem_getLast?_of_composed hd hblank
      rw [← hcblank]
      exact h.last c hc

/-- **Trimming and composing commute.** -/
theorem composed_trim (t : Text) : composed (trim t) = trim (composed t) := by
  obtain ⟨before, after, hbefore, hafter, ht⟩ := exists_trim t
  have hcut : composed t = composed before ++ composed (trim t) ++ composed after := by
    conv => lhs; rw [ht]
    rw [isBoundary_isBlank.composed_append_of_head _ fun c hc => hafter c (List.mem_of_head? hc),
      isBoundary_isBlank.composed_append_of_last _
        fun c hc => hbefore c (List.mem_of_getLast? hc)]
  rw [hcut, trim_append_append hbefore.composed (isTrimmed_trim t).composed hafter.composed]

/-- **A composed text begins with the same slashes.** -/
theorem isPrefixOf_slashes_composed : ∀ (n : Nat) (t : Text),
    (List.replicate n (CodePoint.ofChar '/')).isPrefixOf (composed t)
      = (List.replicate n (CodePoint.ofChar '/')).isPrefixOf t
  | 0, _ => rfl
  | n + 1, [] => rfl
  | n + 1, c :: t => by
    have hslash : ∀ d, isSlash d = true ↔ CodePoint.ofChar '/' = d := by
      intro d
      rw [← CodePoint.toNat_inj]
      simp [isSlash, eq_comm]
    by_cases hc : isSlash c = true
    · obtain ⟨d, hd, hcut⟩ := isBoundary_isSlash.composed_append_cons hc
      have hfront : composed (c :: t) = d :: composed t := hcut [] t
      rw [hfront, ← (hslash c).mp hc, ← (hslash d).mp hd, List.replicate_succ,
        List.isPrefixOf_cons_cons, List.isPrefixOf_cons_cons, isPrefixOf_slashes_composed n t]
    · -- Neither text begins with a slash.
      have hne : CodePoint.ofChar '/' ≠ c := fun e => hc ((hslash c).mpr e)
      rw [List.replicate_succ, List.isPrefixOf_cons_cons, beq_eq_false_iff_ne.mpr hne,
        Bool.false_and]
      cases hcomposed : composed (c :: t) with
      | nil => rfl
      | cons d rest =>
        have hd : CodePoint.ofChar '/' ≠ d := by
          intro e
          obtain ⟨c', hc', hslash'⟩ := isBoundary_isSlash.exists_mem_head?_of_composed
            (t := c :: t) (d := d) (by simp [hcomposed]) ((hslash d).mpr e)
          obtain rfl : c = c' := by simpa using hc'
          exact hc hslash'
        rw [List.isPrefixOf_cons_cons, beq_eq_false_iff_ne.mpr hd, Bool.false_and]

end ArrowNotation.Text
