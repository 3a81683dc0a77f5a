import Mathlib.Data.Finset.Prod
import Packrat.Proofs.Grammar.Matchers
import Packrat.Proofs.Memo.Closed
import Packrat.Proofs.Peg.Adequacy
import Packrat.Proofs.Peg.Nesting

/-!
# Proofs — Memo — Once

Nothing is tried twice.  With a memo, a matcher is entered only where it is not held, and after that
it is held.  What is open is not held yet, so nothing in an attempt itself keeps it from entering
its own matcher again at the same position.  But then it would visit itself, so its depth would not
be bounded, and it would be aborted (`Bounded.not_visitsInside_self`).

* `enters_attempt`: what an attempt enters that is not aborted was not held before, is held
  after, and was entered once.
* `parse_enters_once`: in a parse that does not exceed the depth, no matcher is entered twice at one
  position, so there are no more entries than matchers times positions.
-/

namespace Packrat

open Attempt

/-- The matcher that was entered and the cursor, if that is what happened. -/
def Event.entry? (e : Event) : Option (Matcher × Nat) :=
  match e.subject, e.phase with
  | .matcher m, .entered => some (m, e.cursor)
  | _, _ => none

/-- The matchers that were entered so far, if anybody listens, with the positions. -/
def State.entries (s : State) : List (Matcher × Nat) :=
  (s.trace.getD #[]).toList.filterMap Event.entry?

/-- The same for a parse, with the numbers of the matchers. -/
def Run.entries (r : Run) : List (Nat × Nat) :=
  (r.events.filterMap Event.entry?).map fun x => (x.1.id, x.2)

variable {rules : List (String × Matcher)} {tokens : List Token} {F : Matcher → Prop}
  {cfg : Config} {how : Matcher → Attempt Match} {m : Matcher} {s s₁ s' : State}
  {l : List (Matcher × Nat)} {e : Ending Match}

/-! ### Entries -/

namespace State

theorem Still.entries_eq (h : s.Still s') : s'.entries = s.entries := by
  rw [entries, h.trace_eq, entries]

theorem entries_report (s : State) (subject : Subject) (phase : Phase) :
    ∃ l, (s.report subject phase).entries = s.entries ++ l ∧
      l <+: (Event.entry? ⟨subject, phase, s.cursor, s.deepest⟩).toList := by
  simp only [entries, report]
  cases s.trace with
  | none => exact ⟨[], rfl, List.nil_prefix⟩
  | some events =>
      refine ⟨_, ?_, List.prefix_rfl⟩
      cases h : Event.entry? ⟨subject, phase, s.cursor, s.deepest⟩ <;> simp [h]

/-- Only that a matcher is entered makes an entry. -/
theorem entries_report_of_none {subject : Subject} {phase : Phase}
    (h : Event.entry? ⟨subject, phase, s.cursor, s.deepest⟩ = none) :
    (s.report subject phase).entries = s.entries := by
  obtain ⟨l, he, hl⟩ := s.entries_report subject phase
  rw [h] at hl
  rw [he, List.prefix_nil.mp hl, List.append_nil]

theorem entries_announce_matched (s : State) (m : Matcher) (n : Node) :
    (Attempt.announce m (.matched n) s).entries = s.entries := by
  unfold Attempt.announce
  split
  · rfl
  · exact entries_report_of_none rfl

theorem entries_announce_failed (s : State) (m : Matcher) (p : Nat) :
    (Attempt.announce m (.failed p) s).entries = s.entries := by
  unfold Attempt.announce
  split
  · rfl
  · exact entries_report_of_none rfl

theorem entries_announce_entered (s : State) (m : Matcher) :
    ∃ l, (Attempt.announce m .entered s).entries = s.entries ++ l ∧ l <+: [(m, s.cursor)] ∧
      (m.isRule = true → l = []) := by
  unfold Attempt.announce
  split
  · exact ⟨[], (List.append_nil _).symm, List.nil_prefix, fun _ => rfl⟩
  · next hr =>
    obtain ⟨l, he, hl⟩ := s.entries_report (.matcher m) .entered
    exact ⟨l, he, hl, fun h => absurd h hr⟩

theorem entries_keep (s : State) (cfg : Config) (m : Matcher) (q : Nat) (o : Outcome) :
    (Attempt.keep cfg m q o s).entries = s.entries := by
  unfold Attempt.keep
  split <;> rfl

end State

/-! ### What is entered -/

section

variable (F)

/-- From the one state to the other, matchers of `F` were entered, each of them once, where it was
not held and then was. -/
structure Enters (s s' : State) : Prop where
  keeps : ∀ {m q}, s.Holds m q → s'.Holds m q
  entered : ∃ l, s'.entries = s.entries ++ l ∧ l.Nodup ∧
    ∀ x ∈ l, F x.1 ∧ x.1.isRule = false ∧ ¬ s.Holds x.1 x.2 ∧ s'.Holds x.1 x.2

end

namespace Enters

theorem of_entries_eq (ha : s.Alike s') (he : s'.entries = s.entries) : Enters F s s' where
  keeps := ha.holds_iff.mpr
  entered := ⟨[], by rw [he, List.append_nil], List.nodup_nil, List.forall_mem_nil _⟩

theorem trans (h : Enters F s s₁) (h' : Enters F s₁ s') : Enters F s s' where
  keeps := fun hq => h'.keeps (h.keeps hq)
  entered := by
    obtain ⟨l, he, hd, hl⟩ := h.entered
    obtain ⟨l', he', hd', hl'⟩ := h'.entered
    refine ⟨l ++ l', by rw [he', he, List.append_assoc], ?_, ?_⟩
    · -- what was entered first is held when the others are entered
      refine List.nodup_append.mpr ⟨hd, hd', fun x hx y hy hxy => ?_⟩
      subst hxy
      exact (hl' x hy).2.2.1 (hl x hx).2.2.2
    · intro x hx
      rcases List.mem_append.mp hx with hx | hx
      · obtain ⟨hF, hr, hn, hq⟩ := hl x hx
        exact ⟨hF, hr, hn, h'.keeps hq⟩
      · obtain ⟨hF, hr, hn, hq⟩ := hl' x hx
        exact ⟨hF, hr, fun hq => hn (h.keeps hq), hq⟩

end Enters

/-- What the attempts on a trail enter, the whole trail does, unless it was aborted. -/
theorem Trail.enters {c : Option Abort} (h : Trail how s l c s') (hc : c = none)
    (hs : s.Closed rules tokens F)
    (hl : ∀ x ∈ l, ∀ {s : State}, s.Closed rules tokens F → (how x.1 s).2.Closed rules tokens F ∧
      (cause? (how x.1 s) = none → Enters F s (how x.1 s).2)) : Enters F s s' := by
  induction h with
  | done ha => exact .of_entries_eq ha.toAlike ha.entries_eq
  | step hn _ ih =>
      obtain ⟨hm, hl⟩ := List.forall_mem_cons.mp hl
      obtain ⟨hclosed, henters⟩ := hm hs
      exact (henters hn).trans (ih hc hclosed hl)
  | stopped => cases hc

/-- Winding up an attempt that was not aborted adds its matcher to what is held. -/
theorem concluded_of_cause? (hmem : cfg.memoize = true) {p : Nat} (hc : cause? e = none) :
    (concluded cfg m p e).2.entries = e.2.entries ∧ ∀ m' q,
      (concluded cfg m p e).2.Holds m' q ↔ (m.id = m'.id ∧ p = q) ∨ e.2.Holds m' q := by
  rcases e with ⟨(a | _) | r, s'⟩
  · refine ⟨?_, fun m' q => ?_⟩
    · simp only [concluded, State.entries_keep, State.entries_announce_failed]
      rfl
    · simp only [concluded, State.holds_keep hmem, (State.Alike.announce _ m _).holds_iff]
      rfl
  · cases hc
  · refine ⟨?_, fun m' q => ?_⟩
    · simp only [concluded, State.entries_keep, State.entries_announce_matched]
    · simp only [concluded, State.holds_keep hmem, (State.Alike.announce _ m _).holds_iff]

/-- A matcher is entered around what is entered inside, and is held from then on. -/
theorem Enters.around (hm : F m) (hbefore : ¬ s.Holds m s.cursor)
    (h : Enters F (announce m .entered s) s₁) (hinside : ¬ s₁.Holds m s.cursor)
    (he : s'.entries = s₁.entries)
    (hq : ∀ m' q, s'.Holds m' q ↔ (m.id = m'.id ∧ s.cursor = q) ∨ s₁.Holds m' q) :
    Enters F s s' := by
  have hann := State.Alike.announce s m .entered
  obtain ⟨l₀, he₀, hl₀, hrule⟩ := s.entries_announce_entered m
  obtain ⟨l, he₁, hd, hl⟩ := h.entered
  have hself : ∀ x ∈ l₀, x = (m, s.cursor) ∧ m.isRule = false := fun x hx =>
    ⟨List.eq_of_mem_singleton (hl₀.subset hx), by
      cases hr : m.isRule with
      | false => rfl
      | true =>
          rw [hrule hr] at hx
          cases hx⟩
  refine ⟨fun hs => (hq _ _).mpr (.inr (h.keeps (hann.holds_iff.mpr hs))),
    l₀ ++ l, by rw [he, he₁, he₀, List.append_assoc], ?_, ?_⟩
  · -- the matcher was not entered inside, or it would be held before the end
    refine List.nodup_append.mpr
      ⟨(List.nodup_singleton _).sublist hl₀.sublist, hd, fun x hx y hy hxy => ?_⟩
    subst hxy
    obtain ⟨rfl, -⟩ := hself x hx
    exact hinside (hl _ hy).2.2.2
  · intro x hx
    rcases List.mem_append.mp hx with hx | hx
    · obtain ⟨rfl, hr⟩ := hself x hx
      exact ⟨hm, hr, hbefore, (hq _ _).mpr (.inl ⟨rfl, rfl⟩)⟩
    · obtain ⟨hF, hr, hnot, hs⟩ := hl x hx
      exact ⟨hF, hr, fun h => hnot (hann.holds_iff.mpr h), (hq _ _).mpr (.inr hs)⟩

/-- An answer bounds the depth, so a matcher that gives one does not come to itself. -/
theorem not_visitsInside_self_of_cause? (hF : Family rules F) {depth d : Nat} (hm : F m)
    (hs : s.Truthful rules tokens F)
    (hc : cause? (attempt cfg (enterRule cfg rules depth) m s) = none) :
    ¬ VisitsInside rules tokens m s.cursor d m s.cursor := by
  obtain ⟨o, -, hy⟩ := outcome_of_cause? (fun _ => hF) (fun _ => hm) hs hc
  obtain ⟨b, hb⟩ := hy.bounded
  exact hb.not_visitsInside_self

/-- An attempt enters its matcher and what is entered inside.  Both are held in the end, but
the matcher itself is not held before it ends. -/
theorem enters_attempt_of_shape (hmem : cfg.memoize = true) (hF : Family rules F) {depth : Nat}
    (hm : F m) (hs : s.Closed rules tokens F)
    (hi : ∀ {s : State}, s.Closed rules tokens F →
      cause? (attemptShape cfg (enterRule cfg rules depth) m.shape s) = none →
      Enters F s (attemptShape cfg (enterRule cfg rules depth) m.shape s).2)
    (hc : cause? (attempt cfg (enterRule cfg rules depth) m s) = none) :
    Enters F s (attempt cfg (enterRule cfg rules depth) m s).2 := by
  rcases attempt_cases cfg (enterRule cfg rules depth) m s with ⟨_, -, -, ha⟩ | ⟨hn, he⟩
  · exact .of_entries_eq ha.toAlike ha.entries_eq
  have hself : ¬ ∃ d, VisitsInside rules tokens m s.cursor d m s.cursor := fun ⟨_, hv⟩ =>
    not_visitsInside_self_of_cause? hF hm hs.toTruthful hc hv
  have hann := State.Alike.announce s m .entered
  have hbefore : ¬ s.Holds m s.cursor := by
    simp only [remembered?, hmem, if_true] at hn
    exact fun h => h hn
  have hst := stores_attemptShape hmem hF depth m hm (hann.closed hs)
  rw [cursor_announce] at hst
  have hinside : ¬ (attemptShape cfg (enterRule cfg rules depth) m.shape
      (announce m .entered s)).2.Holds m s.cursor := fun h =>
    (hst.origin hm h).elim (fun h => hbefore (hann.holds_iff.mp h)) hself
  rw [he, cause?_concluded] at hc
  rw [he]
  obtain ⟨hentries, hholds⟩ := concluded_of_cause? (m := m) (p := s.cursor) hmem hc
  exact (hi (hann.closed hs) hc).around hm hbefore hinside hentries hholds

/-- That a rule was entered makes no entry. -/
theorem entries_enterRule (cfg : Config) (depth : Nat) (s : State) {name : String} {body : Matcher}
    (hb : rules.lookup name = some body) :
    (enterRule cfg rules (depth + 1) name s).2.entries =
      (attempt cfg (enterRule cfg rules depth) body
        (s.report (.rule name) .entered)).2.entries := by
  simp only [enterRule]
  simp only [hb]
  generalize attempt cfg (enterRule cfg rules depth) body _ = e
  rcases e with ⟨(_ | _) | _, s'⟩
  · exact State.entries_report_of_none rfl
  · rfl
  · exact State.entries_report_of_none (s := s') rfl

/-- Trying what is inside enters nothing twice. -/
theorem enters_attemptShape (hmem : cfg.memoize = true) (hF : Family rules F) :
    ∀ (depth : Nat) (m : Matcher), F m → ∀ {s : State}, s.Closed rules tokens F →
      cause? (attemptShape cfg (enterRule cfg rules depth) m.shape s) = none →
      Enters F s (attemptShape cfg (enterRule cfg rules depth) m.shape s).2 := by
  refine induction_entering rules ?parts ?stuck ?body
  case parts =>
    intro depth m hr ih hm s hs hc
    obtain ⟨l, hl⟩ := treads_attemptShape hr (tells_parts (fun _ => hF) depth fun _ => hm)
      hs.toTruthful
    refine hl.trail.enters hc hs fun x hx s hs => ?_
    have hpart := (hl.tries x hx).mem_parts
    have hm' := hF.part hm hpart
    exact ⟨(stores_attempt hmem hF depth hm' hs).closed,
      enters_attempt_of_shape hmem hF hm' hs (ih x.1 hpart hm')⟩
  case stuck =>
    intro depth i name hstuck _ s _ hc
    obtain ⟨c, he⟩ := enterRule_stuck cfg hstuck s
    change cause? (enterRule cfg rules depth name s) = none at hc
    rw [he] at hc
    cases hc
  case body =>
    intro depth i name body hb ih _ s hs hc
    obtain ⟨hc', ha⟩ := enterRule_of_lookup cfg depth s hb
    have hreport := State.Alike.report s (.rule name) .entered
    have hbody := hF.body hb
    have henters := enters_attempt_of_shape hmem hF hbody (hreport.closed hs) (ih hbody)
      (hc' ▸ hc)
    have hbefore : Enters F s (s.report (.rule name) .entered) :=
      .of_entries_eq hreport (State.entries_report_of_none rfl)
    exact (hbefore.trans henters).trans (.of_entries_eq ha (entries_enterRule cfg depth s hb))

/-- **Nothing is entered twice.** -/
theorem enters_attempt (hmem : cfg.memoize = true) (hF : Family rules F) (depth : Nat)
    (hm : F m) (hs : s.Closed rules tokens F)
    (hc : cause? (attempt cfg (enterRule cfg rules depth) m s) = none) :
    Enters F s (attempt cfg (enterRule cfg rules depth) m s).2 :=
  enters_attempt_of_shape hmem hF hm hs (enters_attemptShape hmem hF depth m hm) hc

/-! ### Parses -/

/-- **Once.** -/
theorem parse_enters_once {w : Workshop} (hw : w.Reachable) {g : Grammar} (hg : g ∈ w.grammars)
    (maxDepth : Nat) (tokens : List Token)
    (hdepth : ∀ p limit, (g.parse ⟨true, maxDepth⟩ true tokens).result ≠
      .error (.aborted (.depthExceeded p limit))) :
    (∀ id p, (g.parse ⟨true, maxDepth⟩ true tokens).entries.count (id, p) ≤ 1) ∧
      (g.parse ⟨true, maxDepth⟩ true tokens).entries.length ≤
        g.numbers.card * (tokens.length + 1) := by
  have hF := hw.family_matchers hg
  have hroot : g.root ∈ g.matchers :=
    Grammar.mem_matchers_iff.mpr (.inl (Matcher.mem_inside_self _))
  have hs : (State.start tokens true).Closed g.rules tokens (· ∈ g.matchers) :=
    State.closed_start true
  have hc := hw.cause?_root_eq_none hg hdepth
  have hmem : (⟨true, maxDepth⟩ : Config).memoize = true := rfl
  have hst := stores_attempt hmem hF maxDepth hroot hs
  obtain ⟨l, he, hd, hl⟩ := (enters_attempt hmem hF maxDepth hroot hs hc).entered
  have hentries : (g.parse ⟨true, maxDepth⟩ true tokens).entries =
      l.map fun x => (x.1.id, x.2) := congrArg (List.map _) he
  have hnodup : (g.parse ⟨true, maxDepth⟩ true tokens).entries.Nodup := by
    rw [hentries]
    refine hd.map_on fun x hx y hy hxy => ?_
    obtain ⟨hid, hp⟩ := Prod.mk.inj hxy
    exact Prod.ext (hF.unique (hl x hx).1 (hl y hy).1 hid) hp
  refine ⟨fun id p => List.nodup_iff_count_le_one.mp hnodup _, ?_⟩
  -- what was entered is a matcher of the grammar, at a position within the tokens
  have hsub : (g.parse ⟨true, maxDepth⟩ true tokens).entries.toFinset ⊆
      g.numbers ×ˢ Finset.range (tokens.length + 1) := by
    intro y hy
    rw [hentries, List.mem_toFinset] at hy
    obtain ⟨x, hx, rfl⟩ := List.mem_map.mp hy
    obtain ⟨hm, hr, hn, hq⟩ := hl x hx
    obtain ⟨d, hv⟩ := (hst.origin hm hq).resolve_left hn
    have hle : x.2 ≤ max 0 tokens.length := hv.le_length
    rw [Nat.zero_max] at hle
    exact Finset.mem_product.mpr
      ⟨Grammar.id_mem_numbers hm hr, Finset.mem_range.mpr (Nat.lt_succ_of_le hle)⟩
  calc (g.parse ⟨true, maxDepth⟩ true tokens).entries.length
      = (g.parse ⟨true, maxDepth⟩ true tokens).entries.toFinset.card :=
        (List.toFinset_card_of_nodup hnodup).symm
    _ ≤ (g.numbers ×ˢ Finset.range (tokens.length + 1)).card := Finset.card_le_card hsub
    _ = g.numbers.card * (tokens.length + 1) := by rw [Finset.card_product, Finset.card_range]

/-- The rule that is looked for first is not entered again inside of the other. -/
theorem looked_for_rule_entered_once :
    let tokens : List Token := [.ofText .identifier "x" .origin]
    let r := leafGrammar.parse ⟨true, 2⟩ true tokens
    leafWorkshop.Reachable ∧ leafGrammar ∈ leafWorkshop.grammars ∧
      (∀ p limit, r.result ≠ .error (.aborted (.depthExceeded p limit))) ∧
      (∀ id p, r.entries.count (id, p) ≤ 1) ∧
      r.entries.length ≤ leafGrammar.numbers.card * (tokens.length + 1) := by
  intro tokens r
  have hr : r.result = .ok ⟨leafTree (.ofText .identifier "x" .origin), []⟩ :=
    parse_leafGrammar_memoize 0 true
  have hdepth : ∀ p limit, r.result ≠ .error (.aborted (.depthExceeded p limit)) := by
    rw [hr]
    exact fun _ _ => nofun
  exact ⟨leafWorkshop_reachable, leafGrammar_mem, hdepth,
    parse_enters_once leafWorkshop_reachable leafGrammar_mem 2 tokens hdepth⟩

end Packrat
