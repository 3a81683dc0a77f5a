import Packrat.Proofs.Peg.Yields

/-!
# Proofs — Peg — Visits

What is tried on the way to an answer.  Trying a matcher tries its parts in a row: the part it
`TriesFirst`, and then it `GoesOn` like another matcher, since what is left of a sequence, a choice
or a repetition is again one.  `Tries m p m' p'` says that the part `m'` at `p'` is somewhere in
that row, and a `Course` is the row up to some part.  `Visits m p d m' p'` follows such steps down,
through the bodies of the rules that are referred to, and counts in `d` the rules entered;
`VisitsInside` follows at least one.  None of these says that there is an answer: a left-recursive
matcher visits itself at any depth.

* `Course.of_goesOn`, `Course.of_not_goesOn`: there is only one row.
* `Bounded.not_visitsInside_self`: where the depth is bounded, nothing comes to itself.
* `Noted m p k`: something visited fails at position `k`; `NotedInside` leaves out the matcher
  itself.
* `Yields.bounded`: a matcher that yields an answer visits nothing beyond some depth, and refers
  to no rule that is not defined.
-/

namespace Packrat

section

variable (rules : List (String × Matcher)) (tokens : List Token)

/-- The part that trying the matcher at the position tries first, at the same position. -/
inductive TriesFirst : Matcher → Nat → Matcher → Prop where
  | sequence {i p m ms} : TriesFirst ⟨i, .sequence (m :: ms)⟩ p m
  | firstOf {i p m ms} : TriesFirst ⟨i, .firstOf (m :: ms)⟩ p m
  | optional {i p m} : TriesFirst ⟨i, .optional m⟩ p m
  | zeroOrMore {i p m} : TriesFirst ⟨i, .zeroOrMore m⟩ p m
  | oneOrMore {i p m} : TriesFirst ⟨i, .oneOrMore m⟩ p m
  | next {i p m} : TriesFirst ⟨i, .next m⟩ p m
  | nextNot {i p m} : TriesFirst ⟨i, .nextNot m⟩ p m
  | token {i p k m} : TriesFirst ⟨i, .token k m⟩ p m
  | trivia {i p k m} : TriesFirst ⟨i, .trivia k m⟩ p m
  | adjacent {i p m} : Touching tokens p → TriesFirst ⟨i, .adjacent m⟩ p m

/-- After its first part, trying the first matcher at the first position goes on like trying the
second at the second. -/
inductive GoesOn : Matcher → Nat → Matcher → Nat → Prop where
  | sequence {i p m ms n tr e} : Yields rules tokens m p (.matched n tr e) →
      GoesOn ⟨i, .sequence (m :: ms)⟩ p ⟨i, .sequence ms⟩ e
  | firstOf {i p m ms q} : Yields rules tokens m p (.failed q) →
      GoesOn ⟨i, .firstOf (m :: ms)⟩ p ⟨i, .firstOf ms⟩ p
  | zeroOrMore {i p m n tr e} : Yields rules tokens m p (.matched n tr e) → e ≠ p →
      GoesOn ⟨i, .zeroOrMore m⟩ p ⟨i, .zeroOrMore m⟩ e
  | oneOrMore {i p m n tr e} : Yields rules tokens m p (.matched n tr e) → e ≠ p →
      GoesOn ⟨i, .oneOrMore m⟩ p ⟨i, .zeroOrMore m⟩ e

/-- Trying the first matcher at the first position tries the second, which is one of its parts, at
the second. -/
inductive Tries : Matcher → Nat → Matcher → Nat → Prop where
  | first {m p m₁} : TriesFirst tokens m p m₁ → Tries m p m₁ p
  | onward {m p m' p' m₁ p₁} : GoesOn rules tokens m p m' p' → Tries m' p' m₁ p₁ →
      Tries m p m₁ p₁

/-- What trying the matcher at the position tries in a row, with the positions, up to some part. -/
inductive Course : Matcher → Nat → List (Matcher × Nat) → Prop where
  | nil {m p} : Course m p []
  | first {m p m₁} : TriesFirst tokens m p m₁ → Course m p [(m₁, p)]
  | onward {m p m₁ m' p' l} : TriesFirst tokens m p m₁ → GoesOn rules tokens m p m' p' →
      Course m' p' l → Course m p ((m₁, p) :: l)

/-- Trying the first matcher at the first position comes to try the second at the second, with `d`
rules entered in between. -/
inductive Visits : Matcher → Nat → Nat → Matcher → Nat → Prop where
  | here {m p} : Visits m p 0 m p
  | part {m p m₁ p₁ d m' p'} : Tries rules tokens m p m₁ p₁ → Visits m₁ p₁ d m' p' →
      Visits m p d m' p'
  | body {i p name m d m' p'} : rules.lookup name = some m → Visits m p d m' p' →
      Visits ⟨i, .rule name⟩ p (d + 1) m' p'

/-- What is visited below the first matcher, by trying one of its parts or the body of a rule. -/
inductive VisitsInside : Matcher → Nat → Nat → Matcher → Nat → Prop where
  | part {m p m₁ p₁ d m' p'} : Tries rules tokens m p m₁ p₁ → Visits rules tokens m₁ p₁ d m' p' →
      VisitsInside m p d m' p'
  | body {i p name m d m' p'} : rules.lookup name = some m → Visits rules tokens m p d m' p' →
      VisitsInside ⟨i, .rule name⟩ p (d + 1) m' p'

/-- Something visited fails at `k`. -/
def Noted (m : Matcher) (p k : Nat) : Prop :=
  ∃ d m' p', Visits rules tokens m p d m' p' ∧ Yields rules tokens m' p' (.failed k)

/-- Something visited below the matcher fails at `k`. -/
inductive NotedInside : Matcher → Nat → Nat → Prop where
  | part {m p m₁ p₁ k} : Tries rules tokens m p m₁ p₁ → Noted rules tokens m₁ p₁ k →
      NotedInside m p k
  | body {i p name m k} : rules.lookup name = some m → Noted rules tokens m p k →
      NotedInside ⟨i, .rule name⟩ p k

/-- No more than `d` rules are entered on the way to anything visited, and all rules referred to
there are defined. -/
def Bounded (d : Nat) (m : Matcher) (p : Nat) : Prop :=
  ∀ d' m' p', Visits rules tokens m p d' m' p' →
    d' ≤ d ∧ ∀ i name, m' = ⟨i, .rule name⟩ → rules.lookup name ≠ none

end

variable {rules : List (String × Matcher)} {tokens : List Token} {m m' m₁ : Matcher}
  {p p' p₁ k d d' : Nat} {l : List (Matcher × Nat)}

/-! ### What is tried -/

theorem sizeOf_lt_of_mem_parts (h : m' ∈ m.parts) : sizeOf m' < sizeOf m := by
  obtain ⟨i, shape⟩ := m
  cases shape with
  | sequence ms | firstOf ms =>
      have : sizeOf m' < sizeOf ms := List.sizeOf_lt_of_mem h
      simp
      omega
  | optional | oneOrMore | zeroOrMore | next | nextNot | token | trivia | adjacent =>
      obtain rfl := List.eq_of_mem_singleton h
      simp
      omega
  | literal | pattern | ofKind | endOfInput | nothing | rule => cases h

theorem TriesFirst.unique {m₂ : Matcher} (h : TriesFirst tokens m p m₁)
    (h' : TriesFirst tokens m p m₂) : m₁ = m₂ := by
  cases h <;> cases h' <;> rfl

theorem TriesFirst.mem_parts (h : TriesFirst tokens m p m₁) : m₁ ∈ m.parts := by
  cases h with
  | sequence | firstOf => exact List.mem_cons_self
  | _ => exact List.mem_singleton_self _

theorem GoesOn.unique {m'' : Matcher} {p'' : Nat} (h : GoesOn rules tokens m p m' p')
    (h' : GoesOn rules tokens m p m'' p'') : m' = m'' ∧ p' = p'' := by
  cases h with
  | firstOf => cases h'; exact ⟨rfl, rfl⟩
  | sequence hy | zeroOrMore hy | oneOrMore hy =>
      cases h'
      cases hy.unique ‹_›
      exact ⟨rfl, rfl⟩

theorem GoesOn.exists_first (h : GoesOn rules tokens m p m' p') :
    ∃ m₁, TriesFirst tokens m p m₁ := by
  cases h with
  | sequence => exact ⟨_, .sequence⟩
  | firstOf => exact ⟨_, .firstOf⟩
  | zeroOrMore => exact ⟨_, .zeroOrMore⟩
  | oneOrMore => exact ⟨_, .oneOrMore⟩

/-- What is left has no other parts. -/
theorem GoesOn.mem_parts (h : GoesOn rules tokens m p m' p') (hm : m₁ ∈ m'.parts) :
    m₁ ∈ m.parts := by
  cases h with
  | sequence | firstOf => exact List.mem_cons_of_mem _ hm
  | zeroOrMore | oneOrMore => exact hm

theorem GoesOn.le_length (h : GoesOn rules tokens m p m' p') : p' ≤ max p tokens.length := by
  cases h with
  | sequence hy => exact hy.within.2
  | firstOf => exact Nat.le_max_left _ _
  | zeroOrMore hy _ => exact hy.within.2
  | oneOrMore hy _ => exact hy.within.2

theorem Tries.mem_parts (h : Tries rules tokens m p m₁ p₁) : m₁ ∈ m.parts := by
  induction h with
  | first hf => exact hf.mem_parts
  | onward hg _ ih => exact hg.mem_parts ih

theorem Tries.le_length (h : Tries rules tokens m p m₁ p₁) : p₁ ≤ max p tokens.length := by
  induction h with
  | first => exact Nat.le_max_left _ _
  | onward hg _ ih =>
      have := hg.le_length
      omega

theorem not_tries_rule {i : Nat} {name : String} :
    ¬ Tries rules tokens ⟨i, .rule name⟩ p m₁ p₁ := fun h => nomatch h.mem_parts

/-! ### Rows -/

theorem Course.tries (h : Course rules tokens m p l) :
    ∀ x ∈ l, Tries rules tokens m p x.1 x.2 := by
  induction h with
  | nil => exact List.forall_mem_nil _
  | first hf => exact List.forall_mem_singleton.mpr (.first hf)
  | onward hf hg _ ih =>
      exact List.forall_mem_cons.mpr ⟨.first hf, fun x hx => .onward hg (ih x hx)⟩

/-- Everything that is tried is in some row. -/
theorem Tries.exists_course (h : Tries rules tokens m p m₁ p₁) :
    ∃ l, Course rules tokens m p l ∧ (m₁, p₁) ∈ l := by
  induction h with
  | first hf => exact ⟨_, .first hf, List.mem_singleton_self _⟩
  | onward hg _ ih =>
      obtain ⟨l, hl, hm⟩ := ih
      obtain ⟨m₂, hf⟩ := hg.exists_first
      exact ⟨_, .onward hf hg hl, List.mem_cons_of_mem _ hm⟩

/-- Where trying a matcher goes on, so do all rows. -/
theorem Course.of_goesOn (hf : TriesFirst tokens m p m₁) (hg : GoesOn rules tokens m p m' p')
    (hl : ∀ l', Course rules tokens m' p' l' → l' <+: l) :
    ∀ l', Course rules tokens m p l' → l' <+: (m₁, p) :: l := by
  rintro l' (_ | hf' | ⟨hf', hg', hc⟩)
  · exact List.nil_prefix
  · obtain rfl := hf.unique hf'
    exact List.prefix_append _ _
  · obtain rfl := hf.unique hf'
    obtain ⟨rfl, rfl⟩ := hg.unique hg'
    exact (List.prefix_cons_inj _).mpr (hl _ hc)

theorem Course.of_not_triesFirst (hn : ∀ m₁, ¬ TriesFirst tokens m p m₁) :
    ∀ l', Course rules tokens m p l' → l' <+: [] := by
  rintro l' (_ | hf | ⟨hf, -, -⟩)
  · exact List.prefix_rfl
  · exact absurd hf (hn _)
  · exact absurd hf (hn _)

/-- Where it does not, all rows have at most the first part. -/
theorem Course.of_not_goesOn (hf : TriesFirst tokens m p m₁)
    (hg : ∀ m' p', ¬ GoesOn rules tokens m p m' p') :
    ∀ l', Course rules tokens m p l' → l' <+: [(m₁, p)] := by
  rintro l' (_ | hf' | ⟨-, hg', -⟩)
  · exact List.nil_prefix
  · obtain rfl := hf.unique hf'
    exact List.prefix_rfl
  · exact absurd hg' (hg _ _)

/-! ### What is visited -/

theorem VisitsInside.visits (h : VisitsInside rules tokens m p d m' p') :
    Visits rules tokens m p d m' p' := by
  cases h with
  | part ht hv => exact .part ht hv
  | body hl hv => exact .body hl hv

/-- What is visited is the matcher itself, or it is below. -/
theorem Visits.eq_or_inside (h : Visits rules tokens m p d m' p') :
    (d = 0 ∧ m' = m ∧ p' = p) ∨ VisitsInside rules tokens m p d m' p' := by
  cases h with
  | here => exact .inl ⟨rfl, rfl, rfl⟩
  | part ht hv => exact .inr (.part ht hv)
  | body hl hv => exact .inr (.body hl hv)

theorem Visits.trans {m'' : Matcher} {p'' : Nat} (h : Visits rules tokens m p d m' p')
    (h' : Visits rules tokens m' p' d' m'' p'') : Visits rules tokens m p (d + d') m'' p'' := by
  induction h with
  | here => rwa [Nat.zero_add]
  | part ht _ ih => exact .part ht (ih h')
  | @body _ _ _ _ d _ _ hl _ ih =>
      rw [Nat.add_right_comm]
      exact .body hl (ih h')

/-- From a position within the tokens one comes only to such positions. -/
theorem Visits.le_length (h : Visits rules tokens m p d m' p') : p' ≤ max p tokens.length := by
  induction h with
  | here => exact Nat.le_max_left _ _
  | part ht _ ih =>
      have := ht.le_length
      omega
  | body _ _ ih => exact ih

/-- Without entering a rule one comes only to smaller matchers. -/
theorem Visits.sizeOf_le (h : Visits rules tokens m p d m' p') (hd : d = 0) :
    sizeOf m' ≤ sizeOf m := by
  induction h with
  | here => exact Nat.le_refl _
  | part ht _ ih => exact Nat.le_trans (ih hd) (Nat.le_of_lt (sizeOf_lt_of_mem_parts ht.mem_parts))
  | body => cases hd

/-! ### Failures on the way -/

theorem Yields.noted (h : Yields rules tokens m p (.failed k)) : Noted rules tokens m p k :=
  ⟨0, m, p, .here, h⟩

theorem NotedInside.noted (h : NotedInside rules tokens m p k) : Noted rules tokens m p k := by
  cases h with
  | part ht hk =>
      obtain ⟨d, m', p', hv, hf⟩ := hk
      exact ⟨d, m', p', .part ht hv, hf⟩
  | body hl hk =>
      obtain ⟨d, m', p', hv, hf⟩ := hk
      exact ⟨d + 1, m', p', .body hl hv, hf⟩

/-- A failure on the way is the matcher's own, or it is below. -/
theorem noted_iff : Noted rules tokens m p k ↔
    Yields rules tokens m p (.failed k) ∨ NotedInside rules tokens m p k := by
  constructor
  · rintro ⟨d, m', p', hv, hf⟩
    cases hv with
    | here => exact .inl hf
    | part ht hv => exact .inr (.part ht ⟨_, _, _, hv, hf⟩)
    | body hl hv => exact .inr (.body hl ⟨_, _, _, hv, hf⟩)
  · rintro (h | h)
    · exact h.noted
    · exact h.noted

/-! ### Depth -/

theorem Bounded.mono (h : Bounded rules tokens d m p) (hd : d ≤ d') :
    Bounded rules tokens d' m p := fun _ _ _ hv =>
  ⟨Nat.le_trans (h _ _ _ hv).1 hd, (h _ _ _ hv).2⟩

theorem Bounded.of_tries (h : Bounded rules tokens d m p) (ht : Tries rules tokens m p m₁ p₁) :
    Bounded rules tokens d m₁ p₁ := fun _ _ _ hv => h _ _ _ (.part ht hv)

theorem Bounded.of_goesOn (h : Bounded rules tokens d m p)
    (hg : GoesOn rules tokens m p m' p') : Bounded rules tokens d m' p' := by
  intro d' m'' p'' hv
  cases hv with
  | here =>
      -- what is left of a matcher is no reference to a rule
      refine ⟨Nat.zero_le _, ?_⟩
      rintro i name rfl
      cases hg
  | part ht hv => exact h _ _ _ (.part (.onward hg ht) hv)
  | body => cases hg

theorem Bounded.of_body {i : Nat} {name : String} (hl : rules.lookup name = some m)
    (h : Bounded rules tokens (d + 1) ⟨i, .rule name⟩ p) : Bounded rules tokens d m p :=
  fun _ _ _ hv => ⟨Nat.le_of_succ_le_succ (h _ _ _ (.body hl hv)).1, (h _ _ _ (.body hl hv)).2⟩

theorem not_bounded_zero_of_lookup {i : Nat} {name : String} (hl : rules.lookup name = some m) :
    ¬ Bounded rules tokens 0 ⟨i, .rule name⟩ p := fun h =>
  absurd (h _ _ _ (.body hl .here)).1 (Nat.not_succ_le_zero 0)

/-- A matcher that comes to itself comes to itself again and again, so its depth is not bounded. -/
theorem Bounded.not_visitsInside_self (h : Bounded rules tokens d m p) :
    ¬ VisitsInside rules tokens m p d' m p := by
  intro hv
  rcases Nat.eq_zero_or_pos d' with rfl | hpos
  · cases hv with
    | part ht hv =>
        have := hv.sizeOf_le rfl
        exact absurd (sizeOf_lt_of_mem_parts ht.mem_parts) (Nat.not_lt_of_le this)
  · have hagain : ∀ n, Visits rules tokens m p (n * d') m p := by
      intro n
      induction n with
      | zero => rw [Nat.zero_mul]; exact .here
      | succ n ih => rw [Nat.succ_mul]; exact ih.trans hv.visits
    have hle := (h _ _ _ (hagain (d + 1))).1
    exact absurd hle (Nat.not_le_of_lt (Nat.lt_of_lt_of_le (Nat.lt_succ_self d)
      (Nat.le_mul_of_pos_right _ hpos)))

/-- What all parts that are tried are bounded by bounds the matcher, unless it is a rule. -/
theorem bounded_of_forall_tries (hm : m.isRule = false)
    (h : ∀ m₁ p₁, Tries rules tokens m p m₁ p₁ → Bounded rules tokens d m₁ p₁) :
    Bounded rules tokens d m p := by
  intro d' m' p' hv
  cases hv with
  | here => exact ⟨Nat.zero_le _, fun i name e => by subst e; cases hm⟩
  -- going to a part enters no rule
  | part ht hv => exact h _ _ ht _ _ _ hv
  | body => cases hm

/-- The same, for the part that is tried first and what is left. -/
theorem bounded_of_first (hm : m.isRule = false)
    (hfirst : ∀ m₁, TriesFirst tokens m p m₁ → Bounded rules tokens d m₁ p)
    (hrest : ∀ m' p', GoesOn rules tokens m p m' p' → Bounded rules tokens d m' p') :
    Bounded rules tokens d m p :=
  bounded_of_forall_tries hm fun m₁ p₁ ht => by
    cases ht with
    | first hf => exact hfirst _ hf
    | onward hg ht => exact (hrest _ _ hg).of_tries ht

theorem bounded_rule {i : Nat} {name : String} (hl : rules.lookup name = some m)
    (h : Bounded rules tokens d m p) : Bounded rules tokens (d + 1) ⟨i, .rule name⟩ p := by
  intro d' m' p' hv
  cases hv with
  | here =>
      refine ⟨Nat.zero_le _, ?_⟩
      rintro i name ⟨⟩
      rw [hl]
      nofun
  | part ht => exact absurd ht not_tries_rule
  | body hl' hv =>
      rw [hl] at hl'
      cases hl'
      exact ⟨Nat.succ_le_succ (h _ _ _ hv).1, (h _ _ _ hv).2⟩

/-- **An answer takes a bounded depth.**  By induction on the derivation: what is tried on the way
to an answer has an answer in it, and there is no other by uniqueness. -/
theorem Yields.bounded {o : Answer} (h : Yields rules tokens m p o) :
    ∃ d, Bounded rules tokens d m p := by
  induction h with
  | literal | literal_fails | pattern | pattern_fails | ofKind | ofKind_fails | sequence_nil
  | firstOf_nil | endOfInput | endOfInput_fails | nothing =>
      exact ⟨0, bounded_of_first rfl (fun _ hf => nomatch hf) fun _ _ hg => nomatch hg⟩
  | optional _ ih | optional_none _ ih | next _ ih | next_fails _ ih | nextNot _ ih
  | nextNot_fails _ ih | token _ ih | token_fails _ ih | trivia _ ih | trivia_fails _ ih
  | adjacent _ _ ih =>
      obtain ⟨d, hd⟩ := ih
      exact ⟨d, bounded_of_first rfl (fun _ hf => by cases hf; exact hd) fun _ _ hg => nomatch hg⟩
  | adjacent_fails hn =>
      refine ⟨0, bounded_of_first rfl (fun _ hf => ?_) fun _ _ hg => nomatch hg⟩
      cases hf with
      | adjacent ht => exact absurd ht hn
  | sequence_head_fails hy ih | zeroOrMore_none hy ih | oneOrMore_fails hy ih =>
      -- nothing is left where the first part fails
      obtain ⟨d, hd⟩ := ih
      refine ⟨d, bounded_of_first rfl (fun _ hf => by cases hf; exact hd) fun _ _ hg => ?_⟩
      cases hg
      cases hy.unique ‹_›
  | firstOf_head hy ih =>
      obtain ⟨d, hd⟩ := ih
      refine ⟨d, bounded_of_first rfl (fun _ hf => by cases hf; exact hd) fun _ _ hg => ?_⟩
      cases hg with
      | firstOf hy' => cases hy.unique hy'
  | zeroOrMore_last hy ih | oneOrMore_last hy ih =>
      obtain ⟨d, hd⟩ := ih
      refine ⟨d, bounded_of_first rfl (fun _ hf => by cases hf; exact hd) fun _ _ hg => ?_⟩
      cases hg
      cases hy.unique ‹_›
      contradiction
  | sequence_cons hy _ ih ih' | sequence_tail_fails hy _ ih ih' | zeroOrMore_more hy _ _ ih ih'
  | oneOrMore_more hy _ _ ih ih' =>
      obtain ⟨d, hd⟩ := ih
      obtain ⟨d', hd'⟩ := ih'
      refine ⟨max d d', bounded_of_first rfl (fun _ hf => ?_) fun _ _ hg => ?_⟩
      · cases hf
        exact hd.mono (Nat.le_max_left _ _)
      · cases hg
        cases hy.unique ‹_›
        exact hd'.mono (Nat.le_max_right _ _)
  | firstOf_tail _ _ ih ih' | firstOf_fails _ _ ih ih' =>
      obtain ⟨d, hd⟩ := ih
      obtain ⟨d', hd'⟩ := ih'
      refine ⟨max d d', bounded_of_first rfl (fun _ hf => ?_) fun _ _ hg => ?_⟩
      · cases hf
        exact hd.mono (Nat.le_max_left _ _)
      · cases hg
        exact hd'.mono (Nat.le_max_right _ _)
  | rule hl _ ih | rule_fails hl _ ih =>
      obtain ⟨d, hd⟩ := ih
      exact ⟨d + 1, bounded_rule hl hd⟩

end Packrat
