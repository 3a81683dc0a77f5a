import Packrat.Proofs.Peg.Visits

/-!
# Proofs — Peg — Lanes

Two lists of tokens side by side.  `Lanes` are the two lists, each from some position on; a *place*
is how far one is from there.  Lanes are *even* if the matchers that come up at a place do the same
in both: they match up to the same place or fail at the same place.  Then the same parts are tried
(`Even.tries_across`), and the same references to rules are visited (`Even.visits_across`).

Whether tokens touch may differ where one token is looked for that is in neither lane: in one of
them it is looked for, and in the other it is not.
-/

namespace Packrat

/-- Two lists of tokens, each from a position on, with the rules, the matchers that come up at a
place, and a relation between the furthest failures. -/
structure Lanes where
  rules : List (String × Matcher)
  tokens : List Token
  tokens' : List Token
  start : Nat
  start' : Nat
  Shared : Matcher → Nat → Prop
  Tally : Nat → Nat → Prop

variable {L : Lanes} {m m' m₁ : Matcher} {i j p p' d : Nat} {l : List (Matcher × Nat)}

theorem GoesOn.le {rules : List (String × Matcher)} {tokens : List Token}
    (h : GoesOn rules tokens m p m' p') : p ≤ p' := by
  cases h with
  | firstOf => exact Nat.le_refl _
  | sequence hy | zeroOrMore hy | oneOrMore hy => exact hy.le_stop

theorem Tries.le {rules : List (String × Matcher)} {tokens : List Token}
    (h : Tries rules tokens m p m₁ p') : p ≤ p' := by
  induction h with
  | first => exact Nat.le_refl _
  | onward hg _ ih => exact Nat.le_trans hg.le ih

namespace Lanes

/-- The matchers that come up do the same in both lanes.  Whether tokens touch is the same, too,
where it matters: where what has to be adjacent is a single token and not there, it does not. -/
structure Even (L : Lanes) : Prop where
  tries : ∀ {m m₁ i j}, L.Shared m j →
    Tries L.rules L.tokens m (L.start + j) m₁ (L.start + i) → L.Shared m₁ i
  tries' : ∀ {m m₁ i j}, L.Shared m j →
    Tries L.rules L.tokens' m (L.start' + j) m₁ (L.start' + i) → L.Shared m₁ i
  body : ∀ {n name m j}, L.Shared ⟨n, .rule name⟩ j → L.rules.lookup name = some m → L.Shared m j
  matched : ∀ {m i j}, L.Shared m j →
    ((∃ n tr, Yields L.rules L.tokens m (L.start + j) (.matched n tr (L.start + i))) ↔
      ∃ n tr, Yields L.rules L.tokens' m (L.start' + j) (.matched n tr (L.start' + i)))
  failed : ∀ {m i j}, L.Shared m j →
    (Yields L.rules L.tokens m (L.start + j) (.failed (L.start + i)) ↔
      Yields L.rules L.tokens' m (L.start' + j) (.failed (L.start' + i)))
  touching : ∀ {n m j}, L.Shared ⟨n, .adjacent m⟩ j →
    (Touching L.tokens (L.start + j) ↔ Touching L.tokens' (L.start' + j)) ∨
      m.parts = [] ∧ m.isRule = false
  /-- A failure at the same place keeps the tally. -/
  noted : ∀ {a b i}, L.Tally a b → L.Tally (max a (L.start + i)) (max b (L.start' + i))
  /-- So does one that has been noted in the other lane before. -/
  caught : ∀ {m j a b q}, L.Shared m j → L.Tally a b →
    (∀ k, Noted L.rules L.tokens m (L.start + j) k → k ≤ a) →
      Noted L.rules L.tokens' m (L.start' + j) q → L.Tally a (max b q)
  caught' : ∀ {m j a b q}, L.Shared m j → L.Tally a b →
    (∀ k, Noted L.rules L.tokens' m (L.start' + j) k → k ≤ b) →
      Noted L.rules L.tokens m (L.start + j) q → L.Tally (max a q) b

/-- The lanes the other way round. -/
def swap (L : Lanes) : Lanes :=
  ⟨L.rules, L.tokens', L.tokens, L.start', L.start, L.Shared, fun a b => L.Tally b a⟩

theorem Even.swap (h : L.Even) : L.swap.Even where
  tries := h.tries'
  tries' := h.tries
  body := h.body
  matched := fun hz => (h.matched hz).symm
  failed := fun hz => (h.failed hz).symm
  touching := fun hz => (h.touching hz).imp_left Iff.symm
  noted := h.noted
  caught := h.caught'
  caught' := h.caught

/-- At the place, the same tokens touch, if the matcher looks at that. -/
def Agree (L : Lanes) (m : Matcher) (j : Nat) : Prop :=
  ∀ n part, m = ⟨n, .adjacent part⟩ →
    (Touching L.tokens (L.start + j) ↔ Touching L.tokens' (L.start' + j))

theorem Agree.swap (h : L.Agree m j) : L.swap.Agree m j :=
  fun n part e => (h n part e).symm

/-! ### What is tried in both lanes -/

theorem Agree.triesFirst (ha : L.Agree m j) (h : TriesFirst L.tokens m (L.start + j) m₁) :
    TriesFirst L.tokens' m (L.start' + j) m₁ := by
  cases h with
  | sequence => exact .sequence
  | firstOf => exact .firstOf
  | optional => exact .optional
  | zeroOrMore => exact .zeroOrMore
  | oneOrMore => exact .oneOrMore
  | next => exact .next
  | nextNot => exact .nextNot
  | token => exact .token
  | trivia => exact .trivia
  | adjacent ht => exact .adjacent ((ha _ _ rfl).mp ht)

theorem Agree.triesFirst' (ha : L.Agree m j) (h : TriesFirst L.tokens' m (L.start' + j) m₁) :
    TriesFirst L.tokens m (L.start + j) m₁ :=
  ha.swap.triesFirst (L := L.swap) h

theorem Even.goesOn (h : L.Even)
    (hz : ∀ m₁, TriesFirst L.tokens m (L.start + j) m₁ → L.Shared m₁ j)
    (hg : GoesOn L.rules L.tokens m (L.start + j) m' (L.start + i)) :
    GoesOn L.rules L.tokens' m (L.start' + j) m' (L.start' + i) := by
  have hne : L.start + i ≠ L.start + j → L.start' + i ≠ L.start' + j := fun hne => by omega
  generalize he : L.start + i = e at hg hne
  cases hg with
  | sequence hy =>
      subst he
      obtain ⟨n, tr, hy'⟩ := (h.matched (hz _ .sequence)).mp ⟨_, _, hy⟩
      exact .sequence hy'
  | @firstOf n _ m₁ ms q hy =>
      obtain rfl : i = j := by omega
      obtain ⟨k, rfl⟩ := Nat.exists_eq_add_of_le hy.within.1
      have hf : TriesFirst L.tokens ⟨n, .firstOf (m₁ :: ms)⟩ (L.start + i) m₁ := .firstOf
      rw [Nat.add_assoc] at hy
      exact .firstOf ((h.failed (hz _ hf)).mp hy)
  | zeroOrMore hy hn =>
      subst he
      obtain ⟨n, tr, hy'⟩ := (h.matched (hz _ .zeroOrMore)).mp ⟨_, _, hy⟩
      exact .zeroOrMore hy' (hne hn)
  | oneOrMore hy hn =>
      subst he
      obtain ⟨n, tr, hy'⟩ := (h.matched (hz _ .oneOrMore)).mp ⟨_, _, hy⟩
      exact .oneOrMore hy' (hne hn)

theorem agree_of_goesOn {rules : List (String × Matcher)} {tokens : List Token}
    (h : GoesOn rules tokens m p m' p') (j : Nat) : L.Agree m' j := by
  rintro n part rfl
  cases h

theorem Even.tries_across (h : L.Even) (ha : L.Agree m j)
    (hz : ∀ m₁ i, Tries L.rules L.tokens m (L.start + j) m₁ (L.start + i) → L.Shared m₁ i)
    (ht : Tries L.rules L.tokens m (L.start + j) m₁ (L.start + i)) :
    Tries L.rules L.tokens' m (L.start' + j) m₁ (L.start' + i) := by
  generalize hp : L.start + j = p at ht
  generalize hp' : L.start + i = p' at ht
  induction ht generalizing j with
  | first hf =>
      subst hp
      obtain rfl : i = j := by omega
      exact .first (ha.triesFirst hf)
  | onward hg _ ih =>
      subst hp
      obtain ⟨k, rfl⟩ := Nat.exists_eq_add_of_le hg.le
      rw [Nat.add_assoc] at hg
      have hg' := h.goesOn (fun _ hf => hz _ _ (.first hf)) hg
      refine .onward hg' (ih (agree_of_goesOn hg _) (fun m₁ i ht => hz _ _ (.onward hg ht)) ?_ hp')
      omega

/-- Where it does matter whether tokens touch, the same ones do, or one token is looked for. -/
theorem Even.agree_or (h : L.Even) (hz : L.Shared m j) :
    L.Agree m j ∨ ∃ n part, m = ⟨n, .adjacent part⟩ ∧ part.parts = [] ∧ part.isRule = false ∧
      ¬ (Touching L.tokens (L.start + j) ↔ Touching L.tokens' (L.start' + j)) := by
  obtain ⟨n, shape⟩ := m
  by_cases hs : ∃ part, shape = .adjacent part
  · obtain ⟨part, rfl⟩ := hs
    by_cases ht : Touching L.tokens (L.start + j) ↔ Touching L.tokens' (L.start' + j)
    · exact .inl fun _ _ _ => ht
    · obtain ⟨hparts, hr⟩ := (h.touching hz).resolve_left ht
      exact .inr ⟨n, part, rfl, hparts, hr, ht⟩
  · refine .inl ?_
    rintro n part ⟨⟩
    exact absurd ⟨part, rfl⟩ hs

/-- The references to rules that are visited are visited in both lanes. -/
theorem Even.visits_across (h : L.Even) (hz : L.Shared m j) (hr : m'.isRule = true)
    (hv : Visits L.rules L.tokens m (L.start + j) d m' p) :
    ∃ i, p = L.start + i ∧ L.Shared m' i ∧
      Visits L.rules L.tokens' m (L.start' + j) d m' (L.start' + i) := by
  generalize hp : L.start + j = p₀ at hv
  induction hv generalizing j with
  | here => exact ⟨j, hp.symm, hz, .here⟩
  | @part m _ m₁ _ _ _ _ ht hv ih =>
      subst hp
      obtain ⟨k, rfl⟩ := Nat.exists_eq_add_of_le ht.le
      rw [Nat.add_assoc] at ht hv ih
      obtain ⟨i, hi, hz', hv'⟩ := ih (h.tries hz ht) hr rfl
      rcases h.agree_or hz with ha | ⟨n, part, rfl, hleaf, hrule, -⟩
      · exact ⟨i, hi, hz', .part (h.tries_across ha (fun _ _ => h.tries hz) ht) hv'⟩
      · -- then the part is a single token, and no rule is visited from there
        obtain rfl := List.eq_of_mem_singleton ht.mem_parts
        cases hv with
        | here => rw [hr] at hrule; cases hrule
        | part ht => exact absurd ht.mem_parts (by simp [hleaf])
        | body => cases hrule
  | body hb _ ih =>
      obtain ⟨i, hi, hz', hv'⟩ := ih (h.body hz hb) hr hp
      exact ⟨i, hi, hz', .body hb hv'⟩

end Lanes

/-! ### Rows -/

section

variable {rules : List (String × Matcher)} {tokens : List Token}

theorem Course.of_cons {x : Matcher × Nat} (h : Course rules tokens m p (x :: l)) :
    x.2 = p ∧ TriesFirst tokens m p x.1 := by
  cases h with
  | first hf => exact ⟨rfl, hf⟩
  | onward hf => exact ⟨rfl, hf⟩

/-- After the first part the row goes on like trying the matcher does. -/
theorem Course.tail {x : Matcher × Nat} (h : Course rules tokens m p (x :: l))
    (hg : GoesOn rules tokens m p m' p') : Course rules tokens m' p' l := by
  cases h with
  | first => exact .nil
  | onward _ hg' hc =>
      obtain ⟨rfl, rfl⟩ := hg.unique hg'
      exact hc

theorem Course.tail_eq_nil {x : Matcher × Nat} (h : Course rules tokens m p (x :: l))
    (hg : ∀ m' p', ¬ GoesOn rules tokens m p m' p') : l = [] := by
  cases h with
  | first => rfl
  | onward _ hg' => exact absurd hg' (hg _ _)

/-- If a row has all that is tried, what is left of it has all that is tried after the first
part. -/
theorem Course.all_tail {x : Matcher × Nat} (hf : TriesFirst tokens m p m₁) (hx : x = (m₁, p))
    (hg : GoesOn rules tokens m p m' p')
    (hall : ∀ l₁, Course rules tokens m p l₁ → l₁ <+: x :: l) :
    ∀ l₁, Course rules tokens m' p' l₁ → l₁ <+: l := by
  subst hx
  intro l₁ hc
  exact (List.prefix_cons_inj _).mp (hall _ (.onward hf hg hc))

end

end Packrat
