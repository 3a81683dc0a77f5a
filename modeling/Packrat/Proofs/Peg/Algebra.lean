import Packrat.Proofs.Peg.Inside
import Packrat.Proofs.Peg.Verdict

/-!
# Proofs — Peg — Algebra

Laws of the combinators.  Sequences in sequences and choices in choices can be written flat, any
number of rounds is an optional one or more, and what may not be absent has to be there.

* What matchers yield obeys the laws: `Yields.flat_sequence`, `Yields.flat_firstOf`,
  `Yields.zeroOrMore_optional`.
* So do attempts, since the insides of the two sides of a law try the same matchers at the same
  positions (`alongside_flat_all`, `alongside_flat_first`, `abreast_repetitions`).  Matchers that
  are on one side only are no references to rules, so nobody is aborted for them, and they fail
  where one of their parts does.

**Laws** (`combinator_laws`): the sides of a law give the same answer or are aborted for the same
cause, and come to the same furthest failure, whatever else is in the grammar and whether outcomes
are remembered or not.
-/

namespace Packrat

open Attempt

variable {rules : List (String × Matcher)} {tokens : List Token} {F : Matcher → Prop}
  {cfg : Config} {m a : Matcher} {ms : List Matcher} {p depth i j k : Nat} {o : Answer}
  {s s' t t' : State}

/-! ### Answers -/

theorem Node.group_group (n n' n'' : Node) :
    Node.group [Node.group [n, n'], n''] = Node.group [n, Node.group [n', n'']] := by
  simp [Node.group, Node.spliced, Node.isGroup]

theorem Node.group_empty (ns : List Node) :
    Node.group [Node.empty, Node.group ns] = Node.group ns := by
  simp [Node.group, Node.spliced, Node.isGroup, Node.empty]

namespace Yields

/-- A sequence is the same sequence under any number. -/
theorem renumber_sequence (h : Yields rules tokens ⟨i, .sequence ms⟩ p o) (j : Nat) :
    Yields rules tokens ⟨j, .sequence ms⟩ p o := by
  induction ms generalizing p o with
  | nil => cases h; exact .sequence_nil
  | cons m ms ih =>
      cases h with
      | sequence_cons hy h => exact .sequence_cons hy (ih h)
      | sequence_head_fails hy => exact .sequence_head_fails hy
      | sequence_tail_fails hy h => exact .sequence_tail_fails hy (ih h)

theorem renumber_firstOf (h : Yields rules tokens ⟨i, .firstOf ms⟩ p o) (j : Nat) :
    Yields rules tokens ⟨j, .firstOf ms⟩ p o := by
  induction ms generalizing o with
  | nil => cases h; exact .firstOf_nil
  | cons m ms ih =>
      cases h with
      | firstOf_head hy => exact .firstOf_head hy
      | firstOf_tail hy h => exact .firstOf_tail hy (ih h)
      | firstOf_fails hy h => exact .firstOf_fails hy (ih h)

theorem renumber_zeroOrMore (h : Yields rules tokens ⟨i, .zeroOrMore m⟩ p o) (j : Nat) :
    Yields rules tokens ⟨j, .zeroOrMore m⟩ p o := by
  generalize hm : (⟨i, .zeroOrMore m⟩ : Matcher) = m' at h
  induction h with
  | zeroOrMore_none hy => cases hm; exact .zeroOrMore_none hy
  | zeroOrMore_last hy => cases hm; exact .zeroOrMore_last hy
  | zeroOrMore_more hy hne _ _ ih => cases hm; exact .zeroOrMore_more hy hne (ih rfl)
  | _ => cases hm

/-- The node of a sequence is a group. -/
theorem exists_group {n : Node} {tr : List (Trivia Token)} {e : Nat}
    (h : Yields rules tokens ⟨i, .sequence ms⟩ p (.matched n tr e)) : ∃ ns, n = Node.group ns := by
  cases h with
  | sequence_nil => exact ⟨[], rfl⟩
  | sequence_cons => exact ⟨_, rfl⟩

/-- A sequence that begins with a sequence. -/
theorem flat_sequence_head {ms' : List Matcher}
    (h : Yields rules tokens ⟨i, .sequence (⟨j, .sequence ms⟩ :: ms')⟩ p o) (k : Nat) :
    Yields rules tokens ⟨k, .sequence (ms ++ ms')⟩ p o := by
  induction ms generalizing p o with
  | nil =>
      cases h with
      | sequence_cons hy h =>
          cases hy
          obtain ⟨ns, rfl⟩ := h.exists_group
          rw [Node.group_empty]
          exact h.renumber_sequence k
      | sequence_head_fails hy => cases hy
      | sequence_tail_fails hy h => cases hy; exact h.renumber_sequence k
  | cons m ms ih =>
      cases h with
      | sequence_cons hy h =>
          cases hy with
          | sequence_cons hm hms =>
              rw [Node.group_group, List.append_assoc]
              exact .sequence_cons hm (ih (.sequence_cons hms h))
      | sequence_head_fails hy =>
          cases hy with
          | sequence_head_fails hm => exact .sequence_head_fails hm
          | sequence_tail_fails hm hms =>
              exact .sequence_tail_fails hm (ih (.sequence_head_fails hms))
      | sequence_tail_fails hy h =>
          cases hy with
          | sequence_cons hm hms =>
              exact .sequence_tail_fails hm (ih (.sequence_tail_fails hms h))

/-- **Sequences in sequences** can be written flat. -/
theorem flat_sequence (ms₁ : List Matcher) {ms₂ : List Matcher}
    (h : Yields rules tokens ⟨i, .sequence (ms₁ ++ ⟨j, .sequence ms⟩ :: ms₂)⟩ p o) (k : Nat) :
    Yields rules tokens ⟨k, .sequence (ms₁ ++ (ms ++ ms₂))⟩ p o := by
  induction ms₁ generalizing p o with
  | nil => exact flat_sequence_head h k
  | cons m ms₁ ih =>
      cases h with
      | sequence_cons hy h => exact .sequence_cons hy (ih h)
      | sequence_head_fails hy => exact .sequence_head_fails hy
      | sequence_tail_fails hy h => exact .sequence_tail_fails hy (ih h)

/-- A choice that begins with a choice. -/
theorem flat_firstOf_head {ms' : List Matcher}
    (h : Yields rules tokens ⟨i, .firstOf (⟨j, .firstOf ms⟩ :: ms')⟩ p o) (k : Nat) :
    Yields rules tokens ⟨k, .firstOf (ms ++ ms')⟩ p o := by
  induction ms generalizing o with
  | nil =>
      cases h with
      | firstOf_head hy => cases hy
      | firstOf_tail hy h => exact h.renumber_firstOf k
      | firstOf_fails hy h =>
          cases hy
          rw [Nat.max_eq_right h.within.1]
          exact h.renumber_firstOf k
  | cons m ms ih =>
      cases h with
      | firstOf_head hy =>
          cases hy with
          | firstOf_head hm => exact .firstOf_head hm
          | firstOf_tail hm hms => exact .firstOf_tail hm (ih (.firstOf_head hms))
      | firstOf_tail hy h =>
          cases hy with
          | firstOf_fails hm hms => exact .firstOf_tail hm (ih (.firstOf_tail hms h))
      | firstOf_fails hy h =>
          cases hy with
          | firstOf_fails hm hms =>
              rw [Nat.max_assoc]
              exact .firstOf_fails hm (ih (.firstOf_fails hms h))

/-- **Choices in choices** can be written flat. -/
theorem flat_firstOf (ms₁ : List Matcher) {ms₂ : List Matcher}
    (h : Yields rules tokens ⟨i, .firstOf (ms₁ ++ ⟨j, .firstOf ms⟩ :: ms₂)⟩ p o) (k : Nat) :
    Yields rules tokens ⟨k, .firstOf (ms₁ ++ (ms ++ ms₂))⟩ p o := by
  induction ms₁ generalizing o with
  | nil => exact flat_firstOf_head h k
  | cons m ms₁ ih =>
      cases h with
      | firstOf_head hy => exact .firstOf_head hy
      | firstOf_tail hy h => exact .firstOf_tail hy (ih h)
      | firstOf_fails hy h => exact .firstOf_fails hy (ih h)

/-- **Any number of rounds** is an optional one or more. -/
theorem zeroOrMore_optional (h : Yields rules tokens ⟨i, .zeroOrMore a⟩ p o) (j k : Nat) :
    Yields rules tokens ⟨j, .optional ⟨k, .oneOrMore a⟩⟩ p o := by
  cases h with
  | zeroOrMore_none hy => exact .optional_none (.oneOrMore_fails hy)
  | zeroOrMore_last hy => exact .optional (.oneOrMore_last hy)
  | zeroOrMore_more hy hne h =>
      exact .optional (.oneOrMore_more hy hne (h.renumber_zeroOrMore k))

end Yields

/-! ### Sequences -/

section

variable (hF : Family rules F)
include hF

theorem tells_member (tokens : List Token) (cfg : Config) (depth : Nat) (hm : F m) :
    Tells rules tokens F m (attempt cfg (enterRule cfg rules depth) m) :=
  tells_attempt (fun _ => hF) depth fun _ => hm

theorem tells_members (cfg : Config) (depth : Nat) (hms : ∀ m ∈ ms, F m) :
    ∀ m ∈ ms, Tells rules tokens F m (attempt cfg (enterRule cfg rules depth) m) :=
  fun m hm => tells_member hF tokens cfg depth (hms m hm)

/-- Attempts of one matcher. -/
theorem alongside_attempt (depth : Nat) (hm : F m)
    (hl : (Lanes.twice rules tokens).Level F cfg s s')
    (hp : s.cursor = s'.cursor) :
    Alongside rules tokens F cfg (attempt cfg (enterRule cfg rules depth) m s)
      (attempt cfg (enterRule cfg rules depth) m s') := by
  have htells := tells_member hF tokens cfg depth hm
  refine alongside_of_abreast (Lanes.goes_attempt (Lanes.even_twice rules tokens) hF depth m hm
    s'.cursor trivial hl (by simp [hp]) (by simp)) fun hc hc' => ?_
  obtain ⟨o, hy, he⟩ := (htells hl.counted.toTruthful).exists_answer hc
  obtain ⟨o', hy', he'⟩ := (htells hl.counted'.toTruthful).exists_answer hc'
  rw [he, he', hy.unique (hp ▸ hy')]

omit hF in
theorem Alongside.andThen {α α' β β' : Type} {x : Attempt α} {x' : Attempt α'}
    {f : α → Attempt β} {f' : α' → Attempt β'} (hx : Alongside rules tokens F cfg (x s) (x' s'))
    (hf : ∀ a a' (t t' : State), (Lanes.twice rules tokens).Level F cfg t t' →
      t.cursor = t'.cursor → Alongside rules tokens F cfg (f a t) (f' a' t')) :
    Alongside rules tokens F cfg (x.andThen f s) (x'.andThen f' s') := by
  simp only [Attempt.andThen]
  generalize x s = e at hx ⊢
  generalize x' s' = e' at hx ⊢
  cases hx with
  | ok hl hp => exact hf _ _ _ _ hl hp
  | backtrack hl => exact .backtrack hl
  | abort hd => exact .abort hd

omit hF in
theorem attemptAll_cons (enter : String → Attempt Match) (m : Matcher) (ms : List Matcher) :
    attemptAll cfg enter (m :: ms) = (attempt cfg enter m).andThen fun r =>
      (attemptAll cfg enter ms).andThen fun rs => pure (r :: rs) :=
  rfl

omit hF in
theorem attemptAll_append (enter : String → Attempt Match) (ms ms' : List Matcher) :
    attemptAll cfg enter (ms ++ ms') = (attemptAll cfg enter ms).andThen fun rs =>
      (attemptAll cfg enter ms').andThen fun rs' => pure (rs ++ rs') := by
  induction ms with
  | nil =>
      funext s
      show _ = (attemptAll cfg enter ms').andThen (fun rs' => pure ([] ++ rs')) s
      simp only [List.nil_append, Attempt.andThen]
      rcases attemptAll cfg enter ms' s with ⟨_ | _, _⟩ <;> rfl
  | cons m ms ih =>
      funext s
      rw [List.cons_append, attemptAll_cons, attemptAll_cons, ih]
      simp only [Attempt.andThen]
      rcases attempt cfg enter m s with ⟨_ | r, s₁⟩
      · rfl
      · dsimp only
        rcases attemptAll cfg enter ms s₁ with ⟨_ | rs, s₂⟩
        · rfl
        · dsimp only [pure]
          rcases attemptAll cfg enter ms' s₂ with ⟨_ | _, _⟩ <;> rfl

theorem alongside_all (depth : Nat) (hms : ∀ m ∈ ms, F m)
    (hl : (Lanes.twice rules tokens).Level F cfg s s')
    (hp : s.cursor = s'.cursor) :
    Alongside rules tokens F cfg (attemptAll cfg (enterRule cfg rules depth) ms s)
      (attemptAll cfg (enterRule cfg rules depth) ms s') := by
  induction ms generalizing s s' with
  | nil => exact .ok hl hp
  | cons m ms ih =>
      obtain ⟨hm, hms⟩ := List.forall_mem_cons.mp hms
      exact (alongside_attempt hF depth hm hl hp).andThen fun _ _ _ _ hl hp =>
        (ih hms hl hp).andThen fun _ _ _ _ hl hp => .ok hl hp

/-- A sequence, and the attempts of its parts. -/
theorem alongside_sequence (depth : Nat) (hm : F ⟨i, .sequence ms⟩)
    (hl : (Lanes.twice rules tokens).Level F cfg s s') (hp : s.cursor = s'.cursor) :
    Alongside rules tokens F cfg (attempt cfg (enterRule cfg rules depth) ⟨i, .sequence ms⟩ s)
      (attemptAll cfg (enterRule cfg rules depth) ms s') := by
  have hms : ∀ m ∈ ms, F m := fun m hm' => hF.part hm hm'
  have hin := (abreast_inside cfg depth hF hm rfl hl hp).2 nofun nofun
  have htold := tells_member hF tokens cfg depth hm hl.counted.toTruthful
  have hgroup := toldGroup_attemptAll (tells_members hF cfg depth hms)
    hl.counted'.toTruthful
  change (Lanes.twice rules tokens).Abreast F cfg _ (cause? ((attemptAll cfg
    (enterRule cfg rules depth) ms).andThen grouped s')) _ ((attemptAll cfg
    (enterRule cfg rules depth) ms).andThen grouped s').2 at hin
  refine alongside_of_abreast ?_ fun hc hc' => ?_
  · simp only [Attempt.andThen] at hin
    generalize attemptAll cfg (enterRule cfg rules depth) ms s' = e at hin ⊢
    rcases e with ⟨(_ | _) | _, t⟩
    · exact hin
    · exact hin
    · exact ⟨hin.twin, hin.tally, fun hc =>
        (hin.level hc).of_alike (.refl _) ⟨rfl, rfl, fun _ _ => rfl⟩⟩
  · obtain ⟨o, hy, he⟩ := htold.exists_answer hc
    obtain ⟨o', hy', he'⟩ := hgroup.exists_answer hc' i
    rw [he, he', hy.unique (hp ▸ hy')]

/-- The parts of a sequence with a sequence in it. -/
theorem alongside_flat_all (depth : Nat) (ms₁ ms₂ : List Matcher) (hm : F ⟨i, .sequence ms⟩)
    (hms₁ : ∀ m ∈ ms₁, F m) (hms₂ : ∀ m ∈ ms₂, F m)
    (hl : (Lanes.twice rules tokens).Level F cfg s s') (hp : s.cursor = s'.cursor) :
    Alongside rules tokens F cfg
      (attemptAll cfg (enterRule cfg rules depth) (ms₁ ++ ⟨i, .sequence ms⟩ :: ms₂) s)
      (attemptAll cfg (enterRule cfg rules depth) (ms₁ ++ (ms ++ ms₂)) s') := by
  rw [attemptAll_append, attemptAll_append]
  refine (alongside_all hF depth hms₁ hl hp).andThen fun _ _ _ _ hl hp => ?_
  refine .andThen ?_ fun _ _ _ _ hl hp => .ok hl hp
  rw [attemptAll_cons, attemptAll_append]
  exact (alongside_sequence hF depth hm hl hp).andThen fun _ _ _ _ hl hp =>
    (alongside_all hF depth hms₂ hl hp).andThen fun _ _ _ _ hl hp => .ok hl hp

/-! ### Choices -/

omit hF in
theorem attemptFirst_append (enter : String → Attempt Match) (ms ms' : List Matcher) (d : Nat)
    (s : State) : attemptFirst cfg enter d (ms ++ ms') s =
      match attemptFirst cfg enter d ms s with
      | (.error (.backtrack q), t) => attemptFirst cfg enter q ms' t
      | e => e := by
  induction ms generalizing d s with
  | nil => rfl
  | cons m ms ih =>
      simp only [List.cons_append, attemptFirst]
      rcases attempt cfg enter m s with ⟨(q | c) | r, t⟩
      · exact ih _ t
      · rfl
      · rfl

omit hF in
/-- The failure of the alternatives before is reported, and makes no other difference. -/
theorem attemptFirst_deepest (cfg : Config) (enter : String → Attempt Match) (ms : List Matcher)
    (d d' : Nat) (s : State) :
    cause? (attemptFirst cfg enter d ms s) = cause? (attemptFirst cfg enter d' ms s) ∧
      stop? (attemptFirst cfg enter d ms s) = stop? (attemptFirst cfg enter d' ms s) ∧
      (attemptFirst cfg enter d ms s).2 = (attemptFirst cfg enter d' ms s).2 := by
  induction ms generalizing d d' s with
  | nil => exact ⟨rfl, rfl, rfl⟩
  | cons m ms ih =>
      simp only [attemptFirst]
      rcases attempt cfg enter m s with ⟨(q | c) | r, t⟩
      · exact ih _ _ t
      · exact ⟨rfl, rfl, rfl⟩
      · exact ⟨rfl, rfl, rfl⟩

/-- All alternatives are tried at the same position. -/
theorem cursor_attemptFirst (cfg : Config) (depth d q : Nat) (t : State)
    (hms : ∀ m ∈ ms, F m) (hs : s.Truthful rules tokens F)
    (h : attemptFirst cfg (enterRule cfg rules depth) d ms s = (.error (.backtrack q), t)) :
    t.cursor = s.cursor := by
  induction ms generalizing d s with
  | nil => cases h; rfl
  | cons m ms ih =>
      obtain ⟨hm, hms⟩ := List.forall_mem_cons.mp hms
      simp only [attemptFirst] at h
      have ht := tells_member hF tokens cfg depth hm hs
      generalize attempt cfg (enterRule cfg rules depth) m s = e at h ht
      cases ht with
      | ok => cases h
      | backtrack truthful _ back => exact (ih _ hms truthful h).trans back
      | abort => cases h

/-- After the same alternatives, what goes on side by side. -/
theorem alongside_first_append (depth : Nat) {ms₁ : List Matcher} (ms₂ ms₂' : List Matcher)
    (hms₁ : ∀ m ∈ ms₁, F m)
    (hrest : ∀ d d' (t t' : State), (Lanes.twice rules tokens).Level F cfg t t' →
      t.cursor = t'.cursor →
        Alongside rules tokens F cfg (attemptFirst cfg (enterRule cfg rules depth) d ms₂ t)
          (attemptFirst cfg (enterRule cfg rules depth) d' ms₂' t')) (d d' : Nat)
    (hl : (Lanes.twice rules tokens).Level F cfg s s') (hp : s.cursor = s'.cursor) :
    Alongside rules tokens F cfg (attemptFirst cfg (enterRule cfg rules depth) d (ms₁ ++ ms₂) s)
      (attemptFirst cfg (enterRule cfg rules depth) d' (ms₁ ++ ms₂') s') := by
  induction ms₁ generalizing d d' s s' with
  | nil => exact hrest d d' s s' hl hp
  | cons m ms₁ ih =>
      obtain ⟨hm, hms₁⟩ := List.forall_mem_cons.mp hms₁
      have htells := tells_member hF tokens cfg depth hm
      have ht := htells hl.counted.toTruthful
      have ht' := htells hl.counted'.toTruthful
      have hx := alongside_attempt hF depth hm hl hp
      simp only [List.cons_append, attemptFirst]
      generalize attempt cfg (enterRule cfg rules depth) m s = e at ht hx ⊢
      generalize attempt cfg (enterRule cfg rules depth) m s' = e' at ht' hx ⊢
      cases hx with
      | ok hl hp => exact .ok hl hp
      | backtrack hl =>
          cases ht with
          | backtrack _ _ back =>
            cases ht' with
            | backtrack _ _ back' => exact ih hms₁ _ _ hl (by rw [back, back', hp])
      | abort hd => exact .abort hd

/-- A choice, and the attempts of its alternatives. -/
theorem alongside_firstOf (depth : Nat) (hm : F ⟨i, .firstOf ms⟩) (hne : ms ≠ [])
    (hl : (Lanes.twice rules tokens).Level F cfg s s') (hp : s.cursor = s'.cursor) (d : Nat) :
    Alongside rules tokens F cfg (attempt cfg (enterRule cfg rules depth) ⟨i, .firstOf ms⟩ s)
      (attemptFirst cfg (enterRule cfg rules depth) d ms s') := by
  have hms : ∀ m ∈ ms, F m := fun m hm' => hF.part hm hm'
  have hin := (abreast_inside cfg depth hF hm rfl hl hp).2 nofun
    fun h => hne (Shape.firstOf.inj h)
  have htold := tells_member hF tokens cfg depth hm hl.counted.toTruthful
  have hchoice := toldChoice_attemptFirst (tells_members hF cfg depth hms)
    hl.counted'.toTruthful (Nat.le_refl _)
  -- the failure that the attempt begins with makes no difference
  obtain ⟨hcause, hstop, hstate⟩ :=
    attemptFirst_deepest cfg (enterRule cfg rules depth) ms s'.cursor d s'
  simp only [attemptShape] at hin
  rw [hcause, hstate] at hin
  refine alongside_of_abreast hin fun hc hc' => ?_
  obtain ⟨o, hy, he⟩ := htold.exists_answer hc
  obtain ⟨o', hy', he'⟩ := hchoice.exists_answer (hcause ▸ hc') i
  rw [he, ← hstop, he', hy.unique (hp ▸ hy')]

/-- The alternatives of a choice with a choice in it. -/
theorem alongside_flat_first (depth : Nat) (ms₁ ms₂ : List Matcher) (hm : F ⟨i, .firstOf ms⟩)
    (hne : ms ≠ []) (hms₁ : ∀ m ∈ ms₁, F m) (hms₂ : ∀ m ∈ ms₂, F m) (d d' : Nat)
    (hl : (Lanes.twice rules tokens).Level F cfg s s') (hp : s.cursor = s'.cursor) :
    Alongside rules tokens F cfg
      (attemptFirst cfg (enterRule cfg rules depth) d (ms₁ ++ ⟨i, .firstOf ms⟩ :: ms₂) s)
      (attemptFirst cfg (enterRule cfg rules depth) d' (ms₁ ++ (ms ++ ms₂)) s') := by
  refine alongside_first_append hF depth _ _ hms₁ (fun d d' t t' hl hp => ?_) d d' hl hp
  rw [attemptFirst_append]
  have hms : ∀ m ∈ ms, F m := fun m hm' => hF.part hm hm'
  have ht := tells_member hF tokens cfg depth hm hl.counted.toTruthful
  have hback := fun q u => cursor_attemptFirst hF cfg depth d' q u hms hl.counted'.toTruthful
  have hx := alongside_firstOf hF depth hm hne hl hp d'
  simp only [attemptFirst]
  generalize attempt cfg (enterRule cfg rules depth) ⟨i, .firstOf ms⟩ t = e at ht hx ⊢
  generalize attemptFirst cfg (enterRule cfg rules depth) d' ms t' = e' at hback hx ⊢
  cases hx with
  | ok hl hp => exact .ok hl hp
  | @backtrack q q' u u' hl =>
      cases ht with
      | backtrack _ _ back =>
          have hrest := alongside_first_append hF depth [] [] hms₂
            (fun _ _ _ _ hl _ => .backtrack hl) (max d q) q' hl
            (by rw [back, hback q' u' rfl, hp])
          simpa using hrest
  | abort hd => exact .abort hd

/-! ### Repetitions -/

omit hF in
theorem Course.renumber {l : List (Matcher × Nat)}
    (h : Course rules tokens ⟨i, .zeroOrMore a⟩ p l) (j : Nat) :
    Course rules tokens ⟨j, .zeroOrMore a⟩ p l := by
  generalize hm : (⟨i, .zeroOrMore a⟩ : Matcher) = m at h
  induction h with
  | nil => exact .nil
  | first hf =>
      subst hm
      cases hf
      exact .first .zeroOrMore
  | onward hf hg _ ih =>
      subst hm
      cases hf
      cases hg with
      | zeroOrMore hy hne => exact .onward .zeroOrMore (.zeroOrMore hy hne) (ih rfl)

omit hF in
/-- Whether the first round has to match makes no difference for what is tried. -/
theorem course_oneOrMore_iff {l : List (Matcher × Nat)} :
    Course rules tokens ⟨j, .oneOrMore a⟩ p l ↔ Course rules tokens ⟨i, .zeroOrMore a⟩ p l := by
  constructor
  · rintro (_ | hf | ⟨hf, hg, hc⟩)
    · exact .nil
    · cases hf
      exact .first .zeroOrMore
    · cases hf
      cases hg with
      | oneOrMore hy hne => exact .onward .zeroOrMore (.zeroOrMore hy hne) (hc.renumber i)
  · rintro (_ | hf | ⟨hf, hg, hc⟩)
    · exact .nil
    · cases hf
      exact .first .oneOrMore
    · cases hf
      cases hg with
      | zeroOrMore hy hne => exact .onward .oneOrMore (.oneOrMore hy hne) (hc.renumber j)

/-- The rounds of both repetitions go side by side. -/
theorem abreast_repetitions (depth : Nat) (hm : F ⟨i, .zeroOrMore a⟩) (hm' : F ⟨j, .oneOrMore a⟩)
    (hl : (Lanes.twice rules tokens).Level F cfg s s') (hp : s.cursor = s'.cursor) :
    (Lanes.twice rules tokens).Abreast F cfg
      (cause? (attemptShape cfg (enterRule cfg rules depth) (.zeroOrMore a) s))
      (cause? (attemptShape cfg (enterRule cfg rules depth) (.oneOrMore a) s'))
      (attemptShape cfg (enterRule cfg rules depth) (.zeroOrMore a) s).2
      (attemptShape cfg (enterRule cfg rules depth) (.oneOrMore a) s').2 := by
  have hF' : cfg.memoize = true → Family rules F := fun _ => hF
  obtain ⟨l, ht⟩ := treads_attemptShape (m := ⟨i, .zeroOrMore a⟩) rfl
    (tells_parts hF' depth fun _ => hm) hl.counted.toTruthful
  obtain ⟨l', ht'⟩ := treads_attemptShape (m := ⟨j, .oneOrMore a⟩) rfl
    (tells_parts hF' depth fun _ => hm') hl.counted'.toTruthful
  have ha : F a := hF.part hm (List.mem_singleton_self a)
  have hstart : (Lanes.twice rules tokens).start + s'.cursor = s'.cursor := Nat.zero_add _
  refine hl.trail (m := ⟨j, .oneOrMore a⟩) (j := s'.cursor) (Lanes.even_twice rules tokens)
    ht.trail ht'.trail ?_ ?_ (fun hc l₁ hl₁ => ?_) (fun hc l₁ hl₁ => ?_)
    (Lanes.agree_twice _ _ _ _) (fun m₁ k hm₁ => ⟨trivial, ?_⟩) fun _ _ _ => trivial
  · rw [hstart, ← hp]
    exact course_oneOrMore_iff.mpr ht.course
  · rw [hstart]
    exact ht'.course
  · rw [hstart, ← hp] at hl₁
    exact ht.all hc _ (course_oneOrMore_iff.mp hl₁)
  · rw [hstart] at hl₁
    exact ht'.all hc _ hl₁
  · obtain rfl := List.eq_of_mem_singleton hm₁.mem_parts
    exact Lanes.goes_attempt (Lanes.even_twice rules tokens) hF depth m₁ ha k trivial

end

/-! ### Laws -/

/-- Tried in the state, the matchers come to the same answer or are aborted for the same cause, and
the furthest failure is the same. -/
def Grammar.SameResult (g : Grammar) (cfg : Config) (s : State) (m m' : Matcher) : Prop :=
  (attemptWith cfg g.rules m s).1.map Match.answer =
      (attemptWith cfg g.rules m' s).1.map Match.answer ∧
    (attemptWith cfg g.rules m s).2.deepest = (attemptWith cfg g.rules m' s).2.deepest

/-- Attempts that end for the same cause come to the same answer if all answers of the one matcher
are answers of the other. -/
theorem answer_eq {m' : Matcher} {e e' : Ending Match} (h : Told rules tokens F m s e)
    (h' : Told rules tokens F m' s e') (hc : cause? e = cause? e')
    (hy : ∀ o, Yields rules tokens m s.cursor o → Yields rules tokens m' s.cursor o) :
    e.1.map Match.answer = e'.1.map Match.answer := by
  cases h with
  | @ok r t _ yields _ =>
      cases h' with
      | ok _ yields' _ => exact congrArg Except.ok ((hy _ yields).unique yields')
      | backtrack _ yields' _ => cases (hy _ yields).unique yields'
      | abort => cases hc
  | backtrack _ yields _ =>
      cases h' with
      | ok _ yields' _ => cases (hy _ yields).unique yields'
      | backtrack _ yields' _ => cases (hy _ yields).unique yields'; rfl
      | abort => cases hc
  | abort =>
      cases h' with
      | abort => cases hc; rfl
      | _ => cases hc

theorem cause?_orNothing (x : Attempt Match) (s : State) :
    cause? (orNothing x s) = cause? (x s) ∧ (orNothing x s).2.deepest = (x s).2.deepest := by
  simp only [orNothing, thenFrom]
  rcases x s with ⟨(_ | _) | _, _⟩ <;> exact ⟨rfl, rfl⟩

theorem cause?_ahead (x : Attempt Match) (s : State) : cause? (ahead x s) = cause? (x s) := by
  simp only [ahead, thenFrom]
  rcases x s with ⟨(_ | _) | _, _⟩ <;> rfl

theorem cause?_notAhead (x : Attempt Match) (s : State) : cause? (notAhead x s) = cause? (x s) := by
  simp only [notAhead, thenFrom]
  rcases x s with ⟨(_ | _) | _, _⟩ <;> rfl

theorem Told.exists_ok_iff {e : Ending Match} (h : Told rules tokens F m s e) :
    (∃ r, e.1 = .ok r) ↔
      cause? e = none ∧ ∃ n tr k, Yields rules tokens m s.cursor (.matched n tr k) := by
  cases h with
  | @ok r _ _ yields _ => exact iff_of_true ⟨r, rfl⟩ ⟨rfl, _, _, _, yields⟩
  | backtrack _ yields _ =>
      refine iff_of_false nofun ?_
      rintro ⟨-, n, tr, k, hy⟩
      cases hy.unique yields
  | abort => exact iff_of_false nofun fun h => nomatch h.1

section

variable {g : Grammar} (hF : Family g.rules F)
  (hl : (Lanes.twice g.rules tokens).Level F cfg s s)
include hF hl

/-- Two matchers come to the same result if trying their insides ends side by side and the one
yields what the other does. -/
theorem sameResult_of_inside {m' : Matcher} (hm : F m) (hm' : F m') (hr : m.isRule = false)
    (hr' : m'.isRule = false) (hcheck : ¬ m.Checks tokens s.cursor) (hne : m.shape ≠ .firstOf [])
    (hcheck' : ¬ m'.Checks tokens s.cursor) (hne' : m'.shape ≠ .firstOf [])
    (hin : cause? (attemptShape cfg (enterRule cfg g.rules cfg.maxDepth) m.shape s) =
        cause? (attemptShape cfg (enterRule cfg g.rules cfg.maxDepth) m'.shape s) ∧
      (attemptShape cfg (enterRule cfg g.rules cfg.maxDepth) m.shape s).2.deepest =
        (attemptShape cfg (enterRule cfg g.rules cfg.maxDepth) m'.shape s).2.deepest)
    (hy : ∀ o, Yields g.rules tokens m s.cursor o → Yields g.rules tokens m' s.cursor o) :
    g.SameResult cfg s m m' := by
  have hF' : cfg.memoize = true → Family g.rules F := fun _ => hF
  obtain ⟨hc, hx⟩ := abreast_inside cfg cfg.maxDepth hF hm hr hl rfl
  obtain ⟨hc', hx'⟩ := abreast_inside cfg cfg.maxDepth hF hm' hr' hl rfl
  refine ⟨answer_eq (tells_attempt hF' _ (fun _ => hm) hl.counted.toTruthful)
    (tells_attempt hF' _ (fun _ => hm') hl.counted.toTruthful)
    (hc.trans (hin.1.trans hc'.symm)) hy, ?_⟩
  exact (hx hcheck hne).tally.trans (hin.2.trans (hx' hcheck' hne').tally.symm)

/-- A sequence with a sequence in it, and the same written flat. -/
theorem sameResult_sequence (ms₁ ms₂ : List Matcher)
    (hm : F ⟨i, .sequence (ms₁ ++ ⟨j, .sequence ms⟩ :: ms₂)⟩)
    (hm' : F ⟨k, .sequence (ms₁ ++ (ms ++ ms₂))⟩) :
    g.SameResult cfg s ⟨i, .sequence (ms₁ ++ ⟨j, .sequence ms⟩ :: ms₂)⟩
      ⟨k, .sequence (ms₁ ++ (ms ++ ms₂))⟩ := by
  have hpart := fun m (h : m ∈ _) => hF.part hm h
  have hparts := (alongside_flat_all hF cfg.maxDepth ms₁ ms₂
    (hpart _ (List.mem_append_right _ List.mem_cons_self))
    (fun m h => hpart m (List.mem_append_left _ h))
    (fun m h => hpart m (List.mem_append_right _ (List.mem_cons_of_mem _ h))) hl rfl).andThen
    fun rs rs' t t' hl hp => (.ok (hl.of_alike (.stamped _) (.stamped _)) hp :
      Alongside g.rules tokens F cfg (grouped rs t) (grouped rs' t'))
  exact sameResult_of_inside hF hl hm hm' rfl rfl id nofun id nofun hparts.same
    fun o hy => hy.flat_sequence ms₁ k

/-- A choice with a choice in it, and the same written flat. -/
theorem sameResult_firstOf (ms₁ ms₂ : List Matcher) (hne : ms ≠ [])
    (hm : F ⟨i, .firstOf (ms₁ ++ ⟨j, .firstOf ms⟩ :: ms₂)⟩)
    (hm' : F ⟨k, .firstOf (ms₁ ++ (ms ++ ms₂))⟩) :
    g.SameResult cfg s ⟨i, .firstOf (ms₁ ++ ⟨j, .firstOf ms⟩ :: ms₂)⟩
      ⟨k, .firstOf (ms₁ ++ (ms ++ ms₂))⟩ := by
  have hpart := fun m (h : m ∈ _) => hF.part hm h
  have halternatives := alongside_flat_first hF cfg.maxDepth ms₁ ms₂
    (hpart _ (List.mem_append_right _ List.mem_cons_self)) hne
    (fun m h => hpart m (List.mem_append_left _ h))
    (fun m h => hpart m (List.mem_append_right _ (List.mem_cons_of_mem _ h))) s.cursor s.cursor
    hl rfl
  exact sameResult_of_inside hF hl hm hm' rfl rfl id (by simp) id (by simp [hne])
    halternatives.same fun o hy => hy.flat_firstOf ms₁ k

/-- Any number of rounds, and an optional one or more. -/
theorem sameResult_zeroOrMore (hm : F ⟨i, .zeroOrMore a⟩)
    (hm' : F ⟨j, .optional ⟨k, .oneOrMore a⟩⟩) :
    g.SameResult cfg s ⟨i, .zeroOrMore a⟩ ⟨j, .optional ⟨k, .oneOrMore a⟩⟩ := by
  have hsome : F ⟨k, .oneOrMore a⟩ := hF.part hm' (List.mem_singleton_self _)
  have hrounds := abreast_repetitions hF cfg.maxDepth hm hsome hl rfl
  obtain ⟨hc, hx⟩ := abreast_inside cfg cfg.maxDepth hF hsome rfl hl rfl
  obtain ⟨hc', hd'⟩ := cause?_orNothing
    (attempt cfg (enterRule cfg g.rules cfg.maxDepth) ⟨k, .oneOrMore a⟩) s
  refine sameResult_of_inside hF hl hm hm' rfl rfl id nofun id nofun ⟨?_, ?_⟩
    fun o hy => hy.zeroOrMore_optional j k
  · exact (Lanes.eq_of_twin hrounds.twin).trans (hc.symm.trans hc'.symm)
  · exact hrounds.tally.trans ((hx id nofun).tally.symm.trans hd'.symm)

/-- What may not be absent has to be there. -/
theorem matches_nextNot_nextNot (hm : F ⟨i, .nextNot ⟨j, .nextNot a⟩⟩) (hm' : F ⟨k, .next a⟩) :
    (∃ r, (attemptWith cfg g.rules ⟨i, .nextNot ⟨j, .nextNot a⟩⟩ s).1 = .ok r) ↔
      ∃ r, (attemptWith cfg g.rules ⟨k, .next a⟩ s).1 = .ok r := by
  have hF' : cfg.memoize = true → Family g.rules F := fun _ => hF
  have hnot : F ⟨j, .nextNot a⟩ := hF.part hm (List.mem_singleton_self _)
  -- all of them are aborted if the attempt of the part is
  have hinside := fun {m : Matcher} (hm : F m) (hr : m.isRule = false) =>
    (abreast_inside cfg cfg.maxDepth hF hm hr hl rfl).1
  have hc : cause? (attemptWith cfg g.rules ⟨i, .nextNot ⟨j, .nextNot a⟩⟩ s) =
      cause? (attemptWith cfg g.rules ⟨k, .next a⟩ s) := by
    refine (hinside hm rfl).trans ((cause?_notAhead _ s).trans ?_)
    refine (hinside hnot rfl).trans ((cause?_notAhead _ s).trans ?_)
    exact (cause?_ahead _ s).symm.trans (hinside hm' rfl).symm
  have ht := tells_attempt hF' cfg.maxDepth (fun _ => hm) hl.counted.toTruthful
  have ht' := tells_attempt hF' cfg.maxDepth (fun _ => hm') hl.counted.toTruthful
  rw [attemptWith, attemptWith] at hc
  rw [attemptWith, attemptWith, ht.exists_ok_iff, ht'.exists_ok_iff, hc]
  refine and_congr_right fun _ => ⟨?_, ?_⟩
  · rintro ⟨n, tr, e, hy⟩
    cases hy with
    | nextNot hy =>
        cases hy with
        | nextNot_fails hy => exact ⟨_, _, _, .next hy⟩
  · rintro ⟨n, tr, e, hy⟩
    cases hy with
    | next hy => exact ⟨_, _, _, .nextNot (.nextNot_fails hy)⟩

end

/-- A fresh state is on a level with itself, wherever the cursor is. -/
theorem level_fresh (rules : List (String × Matcher)) (tokens : List Token) (F : Matcher → Prop)
    (cfg : Config) (listening : Bool) (p : Nat) :
    (Lanes.twice rules tokens).Level F cfg ((State.start tokens listening).moveTo p)
      ((State.start tokens listening).moveTo p) := by
  have ha := State.Alike.moveTo (State.start tokens listening) p
  have hcounted := ha.counted (State.counted_start rules tokens F listening)
  have hclosed := ha.closed (State.closed_start listening : State.Closed rules tokens F _)
  exact ⟨hcounted, hcounted, fun _ => hclosed, fun _ => hclosed, rfl, fun _ _ _ _ _ _ => by simp⟩

/-- **Laws.**  For all matchers that were built, over the rules of a grammar that was built, tried
anywhere in a fresh state: sequences and choices are associative, any number of rounds is an
optional one or more, and what may not be absent has to be there. -/
theorem combinator_laws {w : Workshop} (hw : w.Reachable) {g : Grammar} (hg : g ∈ w.grammars)
    (cfg : Config) (tokens : List Token) (listening : Bool) (p : Nat) :
    let s := (State.start tokens listening).moveTo p
    (∀ i i' j j' k a b c, w.Known ⟨i, .sequence [a, ⟨i', .sequence [b, c]⟩]⟩ →
      w.Known ⟨j, .sequence [⟨j', .sequence [a, b]⟩, c]⟩ → w.Known ⟨k, .sequence [a, b, c]⟩ →
        g.SameResult cfg s ⟨i, .sequence [a, ⟨i', .sequence [b, c]⟩]⟩ ⟨k, .sequence [a, b, c]⟩ ∧
        g.SameResult cfg s ⟨j, .sequence [⟨j', .sequence [a, b]⟩, c]⟩
          ⟨k, .sequence [a, b, c]⟩) ∧
    (∀ i i' j j' k a b c, w.Known ⟨i, .firstOf [a, ⟨i', .firstOf [b, c]⟩]⟩ →
      w.Known ⟨j, .firstOf [⟨j', .firstOf [a, b]⟩, c]⟩ → w.Known ⟨k, .firstOf [a, b, c]⟩ →
        g.SameResult cfg s ⟨i, .firstOf [a, ⟨i', .firstOf [b, c]⟩]⟩ ⟨k, .firstOf [a, b, c]⟩ ∧
        g.SameResult cfg s ⟨j, .firstOf [⟨j', .firstOf [a, b]⟩, c]⟩ ⟨k, .firstOf [a, b, c]⟩) ∧
    (∀ i j k a, w.Known ⟨i, .zeroOrMore a⟩ → w.Known ⟨j, .optional ⟨k, .oneOrMore a⟩⟩ →
      g.SameResult cfg s ⟨i, .zeroOrMore a⟩ ⟨j, .optional ⟨k, .oneOrMore a⟩⟩) ∧
    ∀ i j k a, w.Known ⟨i, .nextNot ⟨j, .nextNot a⟩⟩ → w.Known ⟨k, .next a⟩ →
      ((∃ r, (attemptWith cfg g.rules ⟨i, .nextNot ⟨j, .nextNot a⟩⟩ s).1 = .ok r) ↔
        ∃ r, (attemptWith cfg g.rules ⟨k, .next a⟩ s).1 = .ok r) := by
  intro s
  have hF := hw.family hg
  have hl := level_fresh g.rules tokens w.Known cfg listening p
  refine ⟨fun i i' j j' k a b c hx hy hz => ⟨?_, ?_⟩, fun i i' j j' k a b c hx hy hz => ⟨?_, ?_⟩,
    fun i j k a hx hy => sameResult_zeroOrMore hF hl hx hy,
    fun i j k a hx hy => matches_nextNot_nextNot hF hl hx hy⟩
  · exact sameResult_sequence hF hl [a] [] hx hz
  · exact sameResult_sequence hF hl [] [c] hy hz
  · exact sameResult_firstOf hF hl [a] [] (List.cons_ne_nil _ _) hx hz
  · exact sameResult_firstOf hF hl [] [c] (List.cons_ne_nil _ _) hy hz

/-- A rule and two texts in sequence, grouped in both ways and not at all. -/
theorem grouped_sequences_agree :
    let a : Matcher := ⟨0, .rule "word"⟩
    let b : Matcher := ⟨1, .literal "b"⟩
    let c : Matcher := ⟨2, .literal "c"⟩
    let right : Matcher := ⟨4, .sequence [a, ⟨3, .sequence [b, c]⟩]⟩
    let left : Matcher := ⟨6, .sequence [⟨5, .sequence [a, b]⟩, c]⟩
    let flat : Matcher := ⟨7, .sequence [a, b, c]⟩
    let w := (((((Workshop.opened 0).called
      (.sequence [.node (.rule "word"), .many [.text "b", .text "c"]])).called
      (.sequence [.many [.matcher a, .matcher b], .matcher c])).called
      (.sequence [.matcher a, .matcher b, .matcher c])).defined "word" (.text "a")).built "word"
    let g : Grammar := ⟨⟨10, .rule "word"⟩, [("word", ⟨8, .literal "a"⟩)], ["word"]⟩
    let s := (State.start [.ofText .identifier "a" .origin,
      .ofText .identifier "b" .origin] false).moveTo 0
    w.Reachable ∧ g ∈ w.grammars ∧ w.Known right ∧ w.Known left ∧ w.Known flat ∧
      g.SameResult .standard s right flat ∧ g.SameResult .standard s left flat := by
  intro a b c right left flat w g s
  -- the parts are known as soon as the first sequence is made, and stay so
  have hparts : ∀ {w : Workshop}, w.Known right → ∀ m ∈ [a, b, c], w.Known m := by
    intro w h
    have hinner : w.Known ⟨3, .sequence [b, c]⟩ :=
      .part h (List.mem_cons_of_mem _ (List.mem_singleton_self _))
    rintro m (_ | ⟨_, hm⟩)
    · exact .part h List.mem_cons_self
    · exact .part hinner hm
  have hw : w.Reachable := by
    refine .built _ (.defined _ _ (.called _ (.called _ (.called _ (.opened 0) nofun) ?_) ?_) nofun)
    · exact hparts (.made List.mem_cons_self)
    · exact hparts (.made (List.mem_cons_of_mem _ List.mem_cons_self))
  have hg : g ∈ w.grammars := List.mem_singleton_self g
  have hflat : w.Known flat := .made (List.mem_cons_of_mem _ List.mem_cons_self)
  have hleft : w.Known left :=
    .made (List.mem_cons_of_mem _ (List.mem_cons_of_mem _ List.mem_cons_self))
  have hright : w.Known right := .made (List.mem_cons_of_mem _ (List.mem_cons_of_mem _
    (List.mem_cons_of_mem _ List.mem_cons_self)))
  have hlaws := (combinator_laws hw hg .standard [.ofText .identifier "a" .origin,
    .ofText .identifier "b" .origin] false 0).1 4 3 6 5 7 a b c hright hleft hflat
  exact ⟨hw, hg, hright, hleft, hflat, hlaws⟩

end Packrat
