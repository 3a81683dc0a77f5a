import Packrat.Proofs.Peg.Aborts
import Packrat.Proofs.Peg.Furthest

/-!
# Proofs — Peg — Verdict

From attempts to parses.  A parse is an attempt of the root in a fresh state and the verdict on
how it ended, so what attempts tell and count, they tell and count of the root of any grammar that
was built (`told_root`, `counts_root`).  No rule is missing there, and the verdict depends only on
what the root yields and on the furthest failure (`verdict_eq`).

**Success** (`yields_of_parse`): if there is a tree, the root yields it for all the tokens.
-/

namespace Packrat

open Attempt

variable {rules : List (String × Matcher)} {tokens : List Token} {F F' : Matcher → Prop}
  {m : Matcher} {s s' : State} {e e' : Ending Match}

theorem State.counted_start (rules : List (String × Matcher)) (tokens : List Token)
    (F : Matcher → Prop) (listening : Bool) :
    (State.start tokens listening).Counted rules tokens F where
  toTruthful := .start listening
  counted := fun _ h => by simp at h

/-- The verdict on an attempt that is not aborted depends only on what the matcher yields and on the
furthest failure. -/
theorem verdict_eq (h : Told rules tokens F m s e) (h' : Told rules tokens F' m s' e')
    (hp : s.cursor = s'.cursor) (hc : cause? e = none) (hc' : cause? e' = none)
    (hd : e.2.deepest = e'.2.deepest) :
    Grammar.verdict tokens e = Grammar.verdict tokens e' := by
  cases h with
  | @ok r s₁ truthful yields stop =>
      cases h' with
      | @ok r' s₁' truthful' yields' stop' =>
          -- the same match, so the same cursor, and the same tokens are left
          have ha := yields.unique (hp ▸ yields')
          simp only [Match.answer, Answer.matched.injEq] at ha
          obtain ⟨hn, ht, hs⟩ := ha
          have hcursor : s₁.cursor = s₁'.cursor := by rw [stop, stop', hs]
          have hend : s₁.atEnd = s₁'.atEnd := by
            rw [Bool.eq_iff_iff, truthful.atEnd_iff, truthful'.atEnd_iff, hcursor]
          simp only at hd
          simp only [Grammar.verdict, hend, hn, ht, hd, hcursor]
      | backtrack _ yields' _ => cases yields.unique (hp ▸ yields')
      | abort => cases hc'
  | backtrack _ yields _ =>
      cases h' with
      | ok _ yields' _ => cases yields.unique (hp ▸ yields')
      | backtrack => exact congrArg (fun d => Except.error (ParseError.unrecognised tokens d)) hd
      | abort => cases hc'
  | abort => cases hc

/-- An aborted attempt is an aborted parse. -/
theorem verdict_of_cause? {c : Abort} (h : cause? e = some c) :
    Grammar.verdict tokens e = .error (.aborted c) := by
  rcases e with ⟨(_ | _) | _, _⟩ <;> cases h
  rfl

theorem unrecognised_ne_aborted (tokens : List Token) (k : Nat) (c : Abort) :
    ParseError.unrecognised tokens k ≠ .aborted c := by
  intro h
  simp only [ParseError.unrecognised] at h
  split at h <;> cases h

/-- An aborted parse is an aborted attempt. -/
theorem cause?_of_verdict {c : Abort} (h : Grammar.verdict tokens e = .error (.aborted c)) :
    cause? e = some c := by
  rcases e with ⟨(_ | c') | r, s⟩
  · exact absurd (Except.error.inj h) (unrecognised_ne_aborted _ _ _)
  · cases h
    rfl
  · simp only [Grammar.verdict] at h
    split at h
    · cases h
    · exact absurd (Except.error.inj h) (unrecognised_ne_aborted _ _ _)

namespace Workshop.Reachable

variable {w : Workshop} {g : Grammar}

/-- An attempt of the root in a fresh state is told. -/
theorem told_root (hw : w.Reachable) (hg : g ∈ w.grammars) (cfg : Config) (tokens : List Token)
    (listening : Bool) : Told g.rules tokens w.Known g.root (.start tokens listening)
      (attemptWith cfg g.rules g.root (.start tokens listening)) :=
  tells_attempt (fun _ => hw.family hg) cfg.maxDepth (fun _ => .root hg)
    (State.counted_start g.rules tokens w.Known listening).toTruthful

/-- And its failures are counted. -/
theorem counts_root (hw : w.Reachable) (hg : g ∈ w.grammars) (cfg : Config) (tokens : List Token)
    (listening : Bool) : Counts g.rules tokens w.Known g.root (.start tokens listening)
      (attemptWith cfg g.rules g.root (.start tokens listening)) :=
  counts_attempt (fun _ => hw.family hg) cfg.maxDepth g.root (fun _ => .root hg)
    (State.counted_start g.rules tokens w.Known listening)

/-- The rules it comes across are defined. -/
theorem root_not_undefinedRule (hw : w.Reachable) (hg : g ∈ w.grammars) (cfg : Config)
    (tokens : List Token) (listening : Bool) (name : String) :
    cause? (attemptWith cfg g.rules g.root (.start tokens listening)) ≠
      some (.undefinedRule name) := by
  have hclosed := hw.closed g hg
  have hbody : ∀ {name body}, g.rules.lookup name = some body → body.Resolved g.rules :=
    fun hb => hclosed.body (mem_of_lookup hb)
  exact not_undefinedRule (fun _ => hw.family hg) hbody cfg.maxDepth g.root (fun _ => .root hg)
    hclosed.root (State.counted_start g.rules tokens w.Known listening).toTruthful name

/-- So a parse that does not exceed the depth is not aborted. -/
theorem cause?_root_eq_none (hw : w.Reachable) (hg : g ∈ w.grammars) {cfg : Config}
    {listening : Bool} {tokens : List Token}
    (h : ∀ p limit, (g.parse cfg listening tokens).result ≠
      .error (.aborted (.depthExceeded p limit))) :
    cause? (attemptWith cfg g.rules g.root (.start tokens listening)) = none := by
  cases hc : cause? (attemptWith cfg g.rules g.root (.start tokens listening)) with
  | none => rfl
  | some c =>
      cases c with
      | depthExceeded p limit => exact absurd (verdict_of_cause? hc) (h p limit)
      | undefinedRule name => exact absurd hc (hw.root_not_undefinedRule hg _ _ _ name)

/-- And one that is aborted exceeds the depth that was set. -/
theorem depthExceeded_of_cause? (hw : w.Reachable) (hg : g ∈ w.grammars) {cfg : Config}
    {listening : Bool} {tokens : List Token}
    (hc : cause? (attemptWith cfg g.rules g.root (.start tokens listening)) ≠ none) :
    ∃ p, (g.parse cfg listening tokens).result =
      .error (.aborted (.depthExceeded p cfg.maxDepth)) := by
  obtain ⟨c, hc⟩ := Option.ne_none_iff_exists'.mp hc
  cases c with
  | undefinedRule name => exact absurd hc (hw.root_not_undefinedRule hg _ _ _ name)
  | depthExceeded p limit =>
      obtain rfl := limit_of_depthExceeded (fun _ => hw.family hg) cfg.maxDepth g.root
        (fun _ => .root hg) (State.counted_start g.rules tokens w.Known listening).toTruthful p
        limit hc
      exact ⟨p, verdict_of_cause? hc⟩

/-- **Success.** -/
theorem yields_of_parse (hw : w.Reachable) (hg : g ∈ w.grammars) {cfg : Config} {listening : Bool}
    {tokens : List Token} {out : Output} (h : (g.parse cfg listening tokens).result = .ok out) :
    Yields g.rules tokens g.root 0 (.matched out.root out.trivia tokens.length) := by
  have ht := hw.told_root hg cfg tokens listening
  change Grammar.verdict tokens (attemptWith cfg g.rules g.root (.start tokens listening)) = _ at h
  generalize attemptWith cfg g.rules g.root (.start tokens listening) = e at h ht
  cases ht with
  | @ok r s' truthful yields stop =>
      simp only [Grammar.verdict] at h
      split at h
      · next hend =>
        cases h
        have hle : tokens.length ≤ r.stop := stop ▸ truthful.atEnd_iff.mp hend
        have hstop : r.stop = tokens.length :=
          Nat.le_antisymm (Yields.stop_le yields (.inl (Nat.zero_le _))) hle
        exact hstop ▸ yields
      · cases h
  | backtrack => cases h
  | abort => cases h

/-- And if the root yields a tree for all the tokens, that is the result of a parse that is not
aborted. -/
theorem parse_of_yields (hw : w.Reachable) (hg : g ∈ w.grammars) {cfg : Config} {listening : Bool}
    {tokens : List Token} {n : Node} {tr : List (Trivia Token)}
    (hc : cause? (attemptWith cfg g.rules g.root (.start tokens listening)) = none)
    (hy : Yields g.rules tokens g.root 0 (.matched n tr tokens.length)) :
    (g.parse cfg listening tokens).result = .ok ⟨n, tr⟩ := by
  have ht := hw.told_root hg cfg tokens listening
  change Grammar.verdict tokens (attemptWith cfg g.rules g.root (.start tokens listening)) = _
  generalize attemptWith cfg g.rules g.root (.start tokens listening) = e at hc ht
  cases ht with
  | @ok r s' truthful yields stop =>
      have ha := yields.unique hy
      simp only [Match.answer, Answer.matched.injEq] at ha
      obtain ⟨hn, htr, hs⟩ := ha
      have hend : s'.atEnd = true := truthful.atEnd_iff.mpr (Nat.le_of_eq (hs ▸ stop.symm))
      simp only [Grammar.verdict, hend, if_true, hn, htr]
  | backtrack _ yields _ => cases yields.unique hy
  | abort => cases hc

end Workshop.Reachable

end Packrat
