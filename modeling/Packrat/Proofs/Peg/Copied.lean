import Packrat.Proofs.Node.Bare
import Packrat.Proofs.Peg.Lanes

/-!
# Proofs — Peg — Copied

Lanes in which the same tokens stand at the same places, up to their layout.  They are `Copied` if
this is so wherever one of the matchers that come up is tried, and up to where it matches; layout
may differ where no matcher that comes up asks for it.

**Copied answers** (`Copied.across`): a matcher that comes up matches up to the same place in both
lanes, with the same node up to layout, or fails at the same place.  So copied lanes are even
(`Copied.even`).

What operators have in common is shown once: that they fail where their first part does, or match
what it does, or go on after it (`Copied.crosses_failed` and the lemmas beside it).
-/

namespace Packrat

theorem Node.bare_ofMerged (kind : TokenKind) (ts : List Token) :
    (ofMerged kind ts).bare = ofMerged kind (ts.map Token.bare) := by
  cases ts with
  | nil => rfl
  | cons t ts =>
      simp only [ofMerged, bare, bareList, Option.map_some, List.map_cons]
      congr 2
      have htexts := @Token.map_text_bare (t :: ts)
      rw [List.map_cons] at htexts
      simp only [Token.merged, htexts]
      rfl

section

variable {n n' n₁ n₁' : Node} {tr tr' tr₁ tr₁' : List (Trivia Token)}

theorem Node.bare_group_pair (h : n.bare = n'.bare) (h₁ : n₁.bare = n₁'.bare) :
    (group [n, n₁]).bare = (group [n', n₁']).bare := by
  simp only [bare_group, List.map_cons, List.map_nil, h, h₁]

theorem Node.bare_group_single (h : n.bare = n'.bare) :
    (group [n]).bare = (group [n']).bare := by
  simp only [bare_group, List.map_cons, List.map_nil, h]

theorem Node.bare_rule (name : String) (h : n.bare = n'.bare) :
    (⟨some (.rule name), none, n.spliced⟩ : Node).bare =
      (⟨some (.rule name), none, n'.spliced⟩ : Node).bare := by
  simp only [bare, bareList_eq, ← spliced_bare, h]

theorem Trivia.map_bare_append (h : tr.map bare = tr'.map bare)
    (h₁ : tr₁.map bare = tr₁'.map bare) :
    (tr ++ tr₁).map bare = (tr' ++ tr₁').map bare := by
  rw [List.map_append, List.map_append, h, h₁]

end

/-- The matcher makes a token or trivia of what its part consumes. -/
def Matcher.Remakes (m part : Matcher) : Prop :=
  (∃ kind, m.shape = .token kind part) ∨ ∃ kind, m.shape = .trivia kind part

namespace Lanes

variable {L : Lanes} {m m' m₁ : Matcher} {i j p : Nat} {o : Answer}

/-- The same token is at the place in both lanes, up to its layout, or none. -/
def SameAt (L : Lanes) (j : Nat) : Prop :=
  (L.tokens[L.start + j]?).map Token.bare = (L.tokens'[L.start' + j]?).map Token.bare

/-- Where matchers come up, the same tokens are looked at. -/
structure Copied (L : Lanes) : Prop where
  tries : ∀ {m m₁ i j}, L.Shared m j →
    Tries L.rules L.tokens m (L.start + j) m₁ (L.start + i) → L.Shared m₁ i
  tries' : ∀ {m m₁ i j}, L.Shared m j →
    Tries L.rules L.tokens' m (L.start' + j) m₁ (L.start' + i) → L.Shared m₁ i
  body : ∀ {n name m j}, L.Shared ⟨n, .rule name⟩ j → L.rules.lookup name = some m → L.Shared m j
  same : ∀ {m j}, L.Shared m j → L.SameAt j
  /-- So it is for all tokens that are handed on in a new form. -/
  along : ∀ {m m₁ i j k n tr}, L.Shared m j → m.Remakes m₁ →
    Yields L.rules L.tokens m₁ (L.start + j) (.matched n tr (L.start + i)) → j ≤ k → k < i →
      L.SameAt k
  along' : ∀ {m m₁ i j k n tr}, L.Shared m j → m.Remakes m₁ →
    Yields L.rules L.tokens' m₁ (L.start' + j) (.matched n tr (L.start' + i)) → j ≤ k → k < i →
      L.SameAt k
  /-- The same tokens touch, or what has to be adjacent is a single token that is not there. -/
  touching : ∀ {n m j}, L.Shared ⟨n, .adjacent m⟩ j →
    (Touching L.tokens (L.start + j) ↔ Touching L.tokens' (L.start' + j)) ∨
      m.parts = [] ∧ m.isRule = false ∧
        Yields L.rules L.tokens ⟨n, .adjacent m⟩ (L.start + j) (.failed (L.start + j)) ∧
        Yields L.rules L.tokens' ⟨n, .adjacent m⟩ (L.start' + j) (.failed (L.start' + j))

theorem Copied.swap (h : L.Copied) : L.swap.Copied where
  tries := h.tries'
  tries' := h.tries
  body := h.body
  same := fun hz => (h.same hz).symm
  along := fun hz hm hy hjk hki => (h.along' hz hm hy hjk hki).symm
  along' := fun hz hm hy hjk hki => (h.along hz hm hy hjk hki).symm
  touching := fun hz => (h.touching hz).imp Iff.symm fun ⟨hp, hr, hf, hf'⟩ => ⟨hp, hr, hf', hf⟩

/-! ### Tokens at a place -/

theorem SameAt.exists_token {t : Token} (h : L.SameAt j) (ht : L.tokens[L.start + j]? = some t) :
    ∃ t', L.tokens'[L.start' + j]? = some t' ∧ t.kind = t'.kind ∧ t.text = t'.text := by
  rw [SameAt, ht, Option.map_some] at h
  obtain ⟨t', ht', he⟩ := Option.map_eq_some_iff.mp h.symm
  exact ⟨t', ht', Token.bare_eq_iff.mp he.symm⟩

/-- What no token in the one lane is like, none is like in the other. -/
theorem SameAt.forall_token {P : TokenKind → String → Prop} (h : L.SameAt j)
    (hn : ∀ t, L.tokens[L.start + j]? = some t → ¬ P t.kind t.text) :
    ∀ t', L.tokens'[L.start' + j]? = some t' → ¬ P t'.kind t'.text := by
  intro t' ht'
  obtain ⟨t, ht, hk, hs⟩ := SameAt.exists_token (L := L.swap) h.symm ht'
  rw [hk, hs]
  exact hn t ht

theorem SameAt.length_le_iff (h : L.SameAt j) :
    L.tokens.length ≤ L.start + j ↔ L.tokens'.length ≤ L.start' + j := by
  rw [← List.getElem?_eq_none_iff, ← List.getElem?_eq_none_iff, ← Option.map_eq_none_iff, h,
    Option.map_eq_none_iff]

/-- What is the same at all places from one to another is the same list. -/
theorem map_bare_extract (h : ∀ k, j ≤ k → k < i → L.SameAt k) :
    (L.tokens.extract (L.start + j) (L.start + i)).map Token.bare =
      (L.tokens'.extract (L.start' + j) (L.start' + i)).map Token.bare := by
  apply List.ext_getElem?
  intro n
  simp only [List.getElem?_map, List.extract_eq_take_drop, List.getElem?_take, List.getElem?_drop]
  by_cases hn : n < i - j
  · have hs := h (j + n) (Nat.le_add_right j n) (by omega)
    rw [if_pos (by omega), if_pos (by omega), Nat.add_assoc, Nat.add_assoc]
    exact hs
  · rw [if_neg (by omega), if_neg (by omega)]

/-! ### Answers -/

section

variable (L)

/-- The second answer is the first in the other lane: at the same place, with the same node and
trivia up to layout. -/
inductive Copy : Answer → Answer → Prop where
  | matched {n n' : Node} {tr tr' : List (Trivia Token)} {i : Nat} : n.bare = n'.bare →
      tr.map Trivia.bare = tr'.map Trivia.bare →
      Copy (.matched n tr (L.start + i)) (.matched n' tr' (L.start' + i))
  | failed {i : Nat} : Copy (.failed (L.start + i)) (.failed (L.start' + i))

/-- The matcher comes up at the place, or it is what is left of one that does. -/
inductive Comes : Matcher → Nat → Prop where
  | shared {m : Matcher} {j : Nat} : L.Shared m j → Comes m j
  | onward {m m' : Matcher} {i j : Nat} : Comes m j →
      GoesOn L.rules L.tokens m (L.start + j) m' (L.start + i) → Comes m' i

end

theorem SameAt.copy_token {t : Token} (h : L.SameAt j) (ht : L.tokens[L.start + j]? = some t) :
    ∃ t', L.tokens'[L.start' + j]? = some t' ∧ t.kind = t'.kind ∧ t.text = t'.text ∧
      L.Copy (.matched (.leaf t) [] (L.start + j + 1))
        (.matched (.leaf t') [] (L.start' + j + 1)) := by
  obtain ⟨t', ht', hk, hs⟩ := h.exists_token ht
  refine ⟨t', ht', hk, hs, .matched (i := j + 1) ?_ rfl⟩
  rw [Node.bare_leaf, Node.bare_leaf, Token.bare_eq_iff.mpr ⟨hk, hs⟩]

theorem Comes.tries (h : L.Copied) (hc : L.Comes m j)
    (ht : Tries L.rules L.tokens m (L.start + j) m₁ (L.start + i)) : L.Shared m₁ i := by
  induction hc with
  | shared hz => exact h.tries hz ht
  | onward _ hg ih => exact ih (.onward hg ht)

theorem Comes.first (h : L.Copied) (hc : L.Comes m j)
    (hf : TriesFirst L.tokens m (L.start + j) m₁) : L.Comes m₁ j :=
  .shared (hc.tries h (.first hf))

/-- Only sequences, choices and repetitions are what is left of a matcher. -/
theorem Comes.resolve (hc : L.Comes m j)
    (hg : ∀ {m₀ p p'}, ¬ GoesOn L.rules L.tokens m₀ p m p') : L.Shared m j := by
  cases hc with
  | shared hz => exact hz
  | onward _ hg' => exact absurd hg' hg

/-- Wherever the matcher comes up at the position, it gives the answer in the other lane, too. -/
def Crosses (L : Lanes) (m : Matcher) (p : Nat) (o : Answer) : Prop :=
  ∀ ⦃j⦄, p = L.start + j → L.Comes m j →
    ∃ o', L.Copy o o' ∧ Yields L.rules L.tokens' m (L.start' + j) o'

/-! ### Answers of parts -/

namespace Copied

variable {m₂ : Matcher} {o₁ : Answer} {n n₁ : Node} {tr tr₁ : List (Trivia Token)} {t : Token}
  {e q : Nat} (h : L.Copied)

include h

/-- The token at the position decides, and it is matched. -/
theorem crosses_oneToken (hg : ∀ {m₀ p₀ p'}, ¬ GoesOn L.rules L.tokens m₀ p₀ m p')
    (ht : L.tokens[p]? = some t)
    (hy : ∀ {p' t'}, L.tokens'[p']? = some t' → t.kind = t'.kind → t.text = t'.text →
      Yields L.rules L.tokens' m p' (.matched (.leaf t') [] (p' + 1))) :
    L.Crosses m p (.matched (.leaf t) [] (p + 1)) := by
  rintro j rfl hc
  obtain ⟨t', ht', hk, hs, hcopy⟩ := (h.same (hc.resolve hg)).copy_token ht
  exact ⟨_, hcopy, hy ht' hk hs⟩

/-- The token at the position decides, and it is not matched. -/
theorem crosses_noToken {P : TokenKind → String → Prop}
    (hg : ∀ {m₀ p₀ p'}, ¬ GoesOn L.rules L.tokens m₀ p₀ m p')
    (hn : ∀ t, L.tokens[p]? = some t → ¬ P t.kind t.text)
    (hy : ∀ {p'}, (∀ t', L.tokens'[p']? = some t' → ¬ P t'.kind t'.text) →
      Yields L.rules L.tokens' m p' (.failed p')) : L.Crosses m p (.failed p) := by
  rintro j rfl hc
  exact ⟨_, .failed, hy ((h.same (hc.resolve hg)).forall_token hn)⟩

/-- The matcher fails where its first part does. -/
theorem crosses_failed (hf : TriesFirst L.tokens m p m₁) (hx : L.Crosses m₁ p (.failed q))
    (hy : ∀ {p' q'}, Yields L.rules L.tokens' m₁ p' (.failed q') →
      Yields L.rules L.tokens' m p' (.failed q')) : L.Crosses m p (.failed q) := by
  rintro j rfl hc
  obtain ⟨_, hcopy, hy'⟩ := hx rfl (hc.first h hf)
  cases hcopy
  exact ⟨_, .failed, hy hy'⟩

/-- The matcher matches what its first part does. -/
theorem crosses_matched (hf : TriesFirst L.tokens m p m₁) (hx : L.Crosses m₁ p (.matched n tr e))
    (hy : ∀ {p' n' tr' e'}, Yields L.rules L.tokens' m₁ p' (.matched n' tr' e') →
      Yields L.rules L.tokens' m p' (.matched n' tr' e')) : L.Crosses m p (.matched n tr e) := by
  rintro j rfl hc
  obtain ⟨_, hcopy, hy'⟩ := hx rfl (hc.first h hf)
  cases hcopy with
  | matched hn htr => exact ⟨_, .matched hn htr, hy hy'⟩

/-- Where the first part fails, the matcher matches nothing. -/
theorem crosses_absent (hf : TriesFirst L.tokens m p m₁) (hx : L.Crosses m₁ p (.failed q))
    (hy : ∀ {p' q'}, Yields L.rules L.tokens' m₁ p' (.failed q') →
      Yields L.rules L.tokens' m p' (.matched .empty [] p')) :
    L.Crosses m p (.matched .empty [] p) := by
  rintro j rfl hc
  obtain ⟨_, hcopy, hy'⟩ := hx rfl (hc.first h hf)
  cases hcopy
  exact ⟨_, .matched rfl rfl, hy hy'⟩

/-- The round consumes nothing. -/
theorem crosses_last (hf : TriesFirst L.tokens m p m₁) (hx : L.Crosses m₁ p (.matched n tr p))
    (hy : ∀ {p' n' tr'}, Yields L.rules L.tokens' m₁ p' (.matched n' tr' p') →
      Yields L.rules L.tokens' m p' (.matched (.group [n']) tr' p')) :
    L.Crosses m p (.matched (.group [n]) tr p) := by
  rintro j rfl hc
  obtain ⟨_, hcopy, hy'⟩ := hx rfl (hc.first h hf)
  generalize he : L.start + j = e at hcopy
  cases hcopy with
  | @matched _ _ _ _ i hn htr =>
      obtain rfl : j = i := by omega
      exact ⟨_, .matched (Node.bare_group_single hn) htr, hy hy'⟩

/-- After its first part, the matcher matches what is left. -/
theorem crosses_pair (hf : TriesFirst L.tokens m p m₁) (hg : GoesOn L.rules L.tokens m p m₂ e)
    (hx : L.Crosses m₁ p (.matched n tr e)) (hx' : L.Crosses m₂ e (.matched n₁ tr₁ q))
    (hy : ∀ {p' n' tr' e' n₁' tr₁' q'}, (e ≠ p → e' ≠ p') →
      Yields L.rules L.tokens' m₁ p' (.matched n' tr' e') →
      Yields L.rules L.tokens' m₂ e' (.matched n₁' tr₁' q') →
      Yields L.rules L.tokens' m p' (.matched (.group [n', n₁']) (tr' ++ tr₁') q')) :
    L.Crosses m p (.matched (.group [n, n₁]) (tr ++ tr₁) q) := by
  rintro j rfl hc
  obtain ⟨_, hcopy, hy₁⟩ := hx rfl (hc.first h hf)
  cases hcopy with
  | matched hn htr =>
      obtain ⟨_, hcopy', hy₂⟩ := hx' rfl (hc.onward hg)
      cases hcopy' with
      | matched hn' htr' =>
          exact ⟨_, .matched (Node.bare_group_pair hn hn') (Trivia.map_bare_append htr htr'),
            hy (by omega) hy₁ hy₂⟩

end Copied

/-! ### Answers in the other lane -/

/-- **Copied answers.** -/
theorem Copied.across (h : L.Copied) (hy : Yields L.rules L.tokens m p o) : L.Crosses m p o := by
  induction hy with
  | literal ht hs =>
      exact h.crosses_oneToken (fun hg => by cases hg) ht fun ht' _ hs' => .literal ht' (hs' ▸ hs)
  | @literal_fails _ _ text hn =>
      exact h.crosses_noToken (P := fun _ s => s = text) (fun hg => by cases hg) hn .literal_fails
  | pattern ht ha =>
      exact h.crosses_oneToken (fun hg => by cases hg) ht fun ht' _ hs' => .pattern ht' (hs' ▸ ha)
  | @pattern_fails _ _ r hn =>
      exact h.crosses_noToken (P := fun _ s => r.accepts s = true) (fun hg => by cases hg) hn
        .pattern_fails
  | ofKind ht hk =>
      exact h.crosses_oneToken (fun hg => by cases hg) ht fun ht' hk' _ => .ofKind ht' (hk' ▸ hk)
  | @ofKind_fails _ _ k hn =>
      exact h.crosses_noToken (P := fun k' _ => k' = k) (fun hg => by cases hg) hn .ofKind_fails
  | sequence_nil | nothing =>
      rintro j rfl hc
      exact ⟨_, .matched rfl rfl, by constructor⟩
  | sequence_cons hy _ ih ih' =>
      exact h.crosses_pair .sequence (.sequence hy) ih ih' fun _ => .sequence_cons
  | sequence_head_fails _ ih => exact h.crosses_failed .sequence ih .sequence_head_fails
  | sequence_tail_fails hy _ ih ih' =>
      rintro j rfl hc
      obtain ⟨_, hcopy, hy₁⟩ := ih rfl (hc.first h .sequence)
      cases hcopy
      obtain ⟨_, hcopy', hy₂⟩ := ih' rfl (hc.onward (.sequence hy))
      cases hcopy'
      exact ⟨_, .failed, .sequence_tail_fails hy₁ hy₂⟩
  | firstOf_nil =>
      rintro j rfl hc
      exact ⟨_, .failed, .firstOf_nil⟩
  | firstOf_head _ ih => exact h.crosses_matched .firstOf ih .firstOf_head
  | firstOf_tail hy _ ih ih' =>
      rintro j rfl hc
      obtain ⟨_, hcopy, hy₁⟩ := ih rfl (hc.first h .firstOf)
      cases hcopy
      obtain ⟨_, hcopy', hy₂⟩ := ih' rfl (hc.onward (.firstOf hy))
      cases hcopy' with
      | matched hn htr => exact ⟨_, .matched hn htr, .firstOf_tail hy₁ hy₂⟩
  | firstOf_fails hy _ ih ih' =>
      rintro j rfl hc
      obtain ⟨_, hcopy, hy₁⟩ := ih rfl (hc.first h .firstOf)
      cases hcopy with
      | @failed i =>
          obtain ⟨_, hcopy', hy₂⟩ := ih' rfl (hc.onward (.firstOf hy))
          cases hcopy' with
          | @failed i' =>
              rw [Nat.add_max_add_left]
              refine ⟨_, .failed, ?_⟩
              rw [← Nat.add_max_add_left]
              exact .firstOf_fails hy₁ hy₂
  | optional _ ih => exact h.crosses_matched .optional ih .optional
  | optional_none _ ih => exact h.crosses_absent .optional ih .optional_none
  | zeroOrMore_none _ ih => exact h.crosses_absent .zeroOrMore ih .zeroOrMore_none
  | zeroOrMore_last _ ih => exact h.crosses_last .zeroOrMore ih .zeroOrMore_last
  | zeroOrMore_more hy hne _ ih ih' =>
      exact h.crosses_pair .zeroOrMore (.zeroOrMore hy hne) ih ih' fun hne' hy₁ hy₂ =>
        .zeroOrMore_more hy₁ (hne' hne) hy₂
  | oneOrMore_fails _ ih => exact h.crosses_failed .oneOrMore ih .oneOrMore_fails
  | oneOrMore_last _ ih => exact h.crosses_last .oneOrMore ih .oneOrMore_last
  | oneOrMore_more hy hne _ ih ih' =>
      exact h.crosses_pair .oneOrMore (.oneOrMore hy hne) ih ih' fun hne' hy₁ hy₂ =>
        .oneOrMore_more hy₁ (hne' hne) hy₂
  | next _ ih =>
      rintro j rfl hc
      obtain ⟨_, hcopy, hy'⟩ := ih rfl (hc.first h .next)
      cases hcopy
      exact ⟨_, .matched rfl rfl, .next hy'⟩
  | next_fails _ ih => exact h.crosses_failed .next ih .next_fails
  | nextNot _ ih => exact h.crosses_absent .nextNot ih .nextNot
  | nextNot_fails _ ih =>
      rintro j rfl hc
      obtain ⟨_, hcopy, hy'⟩ := ih rfl (hc.first h .nextNot)
      cases hcopy
      exact ⟨_, .failed, .nextNot_fails hy'⟩
  | endOfInput hle =>
      rintro j rfl hc
      have hs := h.same (hc.resolve fun hg => by cases hg)
      exact ⟨_, .matched rfl rfl, .endOfInput (hs.length_le_iff.mp hle)⟩
  | endOfInput_fails hlt =>
      rintro j rfl hc
      have hs := h.same (hc.resolve fun hg => by cases hg)
      refine ⟨_, .failed, .endOfInput_fails (Nat.lt_of_not_le fun hle => ?_)⟩
      exact absurd hlt (Nat.not_lt_of_le (hs.length_le_iff.mpr hle))
  | token hy ih =>
      rintro j rfl hc
      obtain ⟨_, hcopy, hy'⟩ := ih rfl (hc.first h .token)
      have hz := hc.resolve fun hg => by cases hg
      cases hcopy with
      | matched hn htr =>
          have hsame := map_bare_extract fun k => h.along hz (.inl ⟨_, rfl⟩) hy
          refine ⟨_, .matched ?_ htr, .token hy'⟩
          rw [Node.bare_ofMerged, Node.bare_ofMerged, hsame]
  | token_fails _ ih => exact h.crosses_failed .token ih .token_fails
  | trivia hy ih =>
      rintro j rfl hc
      obtain ⟨_, hcopy, hy'⟩ := ih rfl (hc.first h .trivia)
      have hz := hc.resolve fun hg => by cases hg
      cases hcopy with
      | matched hn htr =>
          have hsame := map_bare_extract fun k => h.along hz (.inr ⟨_, rfl⟩) hy
          refine ⟨_, .matched rfl (Trivia.map_bare_append htr ?_), .trivia hy'⟩
          simp only [List.map_cons, List.map_nil, Trivia.bare, hsame]
  | trivia_fails _ ih => exact h.crosses_failed .trivia ih .trivia_fails
  | adjacent ht hy ih =>
      rintro j rfl hc
      rcases h.touching (hc.resolve fun hg => by cases hg) with htouch | ⟨-, -, hf, hf'⟩
      · obtain ⟨o', hcopy, hy'⟩ := ih rfl (hc.first h (.adjacent ht))
        exact ⟨o', hcopy, .adjacent (htouch.mp ht) hy'⟩
      · cases (Yields.adjacent ht hy).unique hf
        exact ⟨_, .failed, hf'⟩
  | adjacent_fails hn =>
      rintro j rfl hc
      rcases h.touching (hc.resolve fun hg => by cases hg) with htouch | ⟨-, -, -, hf'⟩
      · exact ⟨_, .failed, .adjacent_fails fun ht => hn (htouch.mpr ht)⟩
      · exact ⟨_, .failed, hf'⟩
  | rule hl _ ih =>
      rintro j rfl hc
      have hz := h.body (hc.resolve fun hg => by cases hg) hl
      obtain ⟨_, hcopy, hy'⟩ := ih rfl (.shared hz)
      cases hcopy with
      | matched hn htr => exact ⟨_, .matched (Node.bare_rule _ hn) htr, .rule hl hy'⟩
  | rule_fails hl _ ih =>
      rintro j rfl hc
      have hz := h.body (hc.resolve fun hg => by cases hg) hl
      obtain ⟨_, hcopy, hy'⟩ := ih rfl (.shared hz)
      cases hcopy
      exact ⟨_, .failed, .rule_fails hl hy'⟩

/-- A match, in the other lane. -/
theorem Copied.matched (h : L.Copied) (hz : L.Shared m j) {n : Node} {tr : List (Trivia Token)}
    (hy : Yields L.rules L.tokens m (L.start + j) (.matched n tr (L.start + i))) :
    ∃ n' tr', n.bare = n'.bare ∧
      Yields L.rules L.tokens' m (L.start' + j) (.matched n' tr' (L.start' + i)) := by
  obtain ⟨o', hcopy, hy'⟩ := h.across hy rfl (.shared hz)
  generalize he : L.start + i = e at hcopy
  cases hcopy with
  | @matched _ n' _ tr' i' hn =>
      obtain rfl : i = i' := by omega
      exact ⟨n', tr', hn, hy'⟩

theorem Copied.failed (h : L.Copied) (hz : L.Shared m j)
    (hy : Yields L.rules L.tokens m (L.start + j) (.failed (L.start + i))) :
    Yields L.rules L.tokens' m (L.start' + j) (.failed (L.start' + i)) := by
  obtain ⟨o', hcopy, hy'⟩ := h.across hy rfl (.shared hz)
  generalize he : L.start + i = e at hcopy
  cases hcopy with
  | @failed i' =>
      obtain rfl : i = i' := by omega
      exact hy'

/-- Copied lanes are even. -/
theorem Copied.even (h : L.Copied) (htally : ∀ a b, L.Tally a b) : L.Even where
  tries := h.tries
  tries' := h.tries'
  body := h.body
  matched := fun hz => by
    constructor
    · rintro ⟨n, tr, hy⟩
      obtain ⟨n', tr', -, hy'⟩ := h.matched hz hy
      exact ⟨n', tr', hy'⟩
    · rintro ⟨n, tr, hy⟩
      obtain ⟨n', tr', -, hy'⟩ := h.swap.matched (L := L.swap) hz hy
      exact ⟨n', tr', hy'⟩
  failed := fun hz => ⟨h.failed hz, h.swap.failed (L := L.swap) hz⟩
  touching := fun hz => (h.touching hz).imp id fun ⟨hp, hr, _⟩ => ⟨hp, hr⟩
  noted := fun _ => htally _ _
  caught := fun _ _ _ _ => htally _ _
  caught' := fun _ _ _ _ => htally _ _

end Lanes

end Packrat
