import Packrat.Proofs.Peg.Visits

/-!
# Proofs — Peg — Checks

Where failures come from.  Some matchers look at the tokens themselves: at the next one, at whether
there is one, at whether it touches the one before, or at whether something matches that may not.
What such a matcher `Checks` fails at its own position.

**Every failure is one of a check** (`Yields.checks_or_notedInside`): whatever else fails, fails at
a position where one of its parts did.  A choice without alternatives would be an exception, but it
cannot be built.
-/

namespace Packrat

/-- Is a failure of the matcher at the position one that it found itself? -/
def Matcher.Checks (tokens : List Token) (m : Matcher) (p : Nat) : Prop :=
  match m.shape with
  | .literal _ | .pattern _ | .ofKind _ | .endOfInput | .nextNot _ => True
  | .adjacent _ => ¬ Touching tokens p
  | .sequence _ | .firstOf _ | .optional _ | .oneOrMore _ | .zeroOrMore _ | .next _ | .nothing
  | .token _ _ | .trivia _ _ | .rule _ => False

variable {rules : List (String × Matcher)} {tokens : List Token} {m m' : Matcher} {p p' q k : Nat}

/-- References to rules leave it to the rules. -/
theorem Matcher.Checks.isRule_eq_false (h : m.Checks tokens p) : m.isRule = false := by
  obtain ⟨i, shape⟩ := m
  cases shape with
  | rule => cases h
  | _ => rfl

/-- What fails below what is left of a matcher fails below the matcher. -/
theorem NotedInside.of_goesOn (hg : GoesOn rules tokens m p m' p')
    (h : NotedInside rules tokens m' p' k) : NotedInside rules tokens m p k := by
  cases h with
  | part ht hk => exact .part (.onward hg ht) hk
  | body => cases hg

theorem TriesFirst.notedInside (hf : TriesFirst tokens m p m')
    (h : Yields rules tokens m' p (.failed k)) : NotedInside rules tokens m p k :=
  .part (.first hf) h.noted

/-- **Every failure is one of a check.**  By induction on the derivation, since a sequence and a
choice may fail in what is left of them. -/
theorem Yields.checks_or_notedInside (h : Yields rules tokens m p (.failed q))
    (hm : m.shape ≠ .firstOf []) :
    (m.Checks tokens p ∧ q = p) ∨ NotedInside rules tokens m p q := by
  generalize ho : Answer.failed q = o at h
  induction h generalizing q with
  | literal_fails | pattern_fails | ofKind_fails | endOfInput_fails | nextNot_fails =>
      cases ho
      exact .inl ⟨trivial, rfl⟩
  | adjacent_fails hn =>
      cases ho
      exact .inl ⟨hn, rfl⟩
  | sequence_head_fails hy =>
      cases ho
      exact .inr (TriesFirst.sequence.notedInside hy)
  | sequence_tail_fails hy _ _ ih =>
      cases ho
      have hrest := (ih nofun rfl).resolve_left fun hc => hc.1
      exact .inr (hrest.of_goesOn (.sequence hy))
  | firstOf_nil => exact absurd rfl hm
  | @firstOf_fails i p m ms q q' hy hy' _ ih =>
      cases ho
      have hhead : NotedInside rules tokens ⟨i, .firstOf (m :: ms)⟩ p q :=
        TriesFirst.firstOf.notedInside hy
      rcases Nat.le_total q' q with hle | hle
      · rw [Nat.max_eq_left hle]
        exact .inr hhead
      · rw [Nat.max_eq_right hle]
        cases ms with
        | nil =>
            -- no alternatives are left, so this one failed where it began
            cases hy'
            exact .inr (Nat.le_antisymm hle hy.within.1 ▸ hhead)
        | cons m' ms =>
            have hrest := (ih nofun rfl).resolve_left fun hc => hc.1
            exact .inr (hrest.of_goesOn (.firstOf hy))
  | oneOrMore_fails hy =>
      cases ho
      exact .inr (TriesFirst.oneOrMore.notedInside hy)
  | next_fails hy =>
      cases ho
      exact .inr (TriesFirst.next.notedInside hy)
  | token_fails hy =>
      cases ho
      exact .inr (TriesFirst.token.notedInside hy)
  | trivia_fails hy =>
      cases ho
      exact .inr (TriesFirst.trivia.notedInside hy)
  | adjacent ht hy =>
      cases ho
      exact .inr ((TriesFirst.adjacent ht).notedInside hy)
  | rule_fails hl hy =>
      cases ho
      exact .inr (.body hl hy.noted)
  | _ => cases ho

end Packrat
