import Packrat.Proofs.Events.Brackets
import Packrat.Proofs.Peg.Checks
import Packrat.Proofs.Peg.Verdict

/-!
# Proofs — Events — Account

What attempts report.  An entry is about a matcher that is being tried, and what is reported before
it is left is about what trying that matcher comes to: while it is open, it `Leads` to all that is
entered.  It is left with what the matcher yields (`AnsweredBy`), so what is never left is what the
parse was inside of when it was aborted.

The events also say where the furthest failure comes from: one of them `Misses`, that is, something
that looks at the tokens failed where it was entered.

**The account of an attempt** (`accounted_attempt`), and **of a parse** (`Reachable.account`): the
events nest, and those that miss are no further than the furthest failure, which is one of them or
was there before.
-/

namespace Packrat

open Attempt

variable {rules : List (String × Matcher)} {tokens : List Token} {F : Matcher → Prop}
  {cfg : Config} {how : Matcher → Attempt Match} {m m' : Matcher} {c : Option Abort}
  {s s₁ s' : State} {l : List (Matcher × Nat)} {p p' d : Nat}

/-! ### Subjects -/

/-- What is reported of a matcher: of a reference to a rule, the rule. -/
def Matcher.subject (m : Matcher) : Subject :=
  match m.shape with
  | .rule name => .rule name
  | _ => .matcher m

theorem Matcher.subject_of_not_rule (h : m.isRule = false) : m.subject = .matcher m := by
  obtain ⟨i, shape⟩ := m
  cases shape with
  | rule => cases h
  | _ => rfl

theorem Matcher.exists_of_subject_eq {name : String} (h : m.subject = .rule name) :
    ∃ i, m = ⟨i, .rule name⟩ := by
  obtain ⟨i, shape⟩ := m
  cases shape with
  | rule => cases h; exact ⟨i, rfl⟩
  | _ => cases h

theorem Matcher.eq_of_subject_eq (h : m'.subject = .matcher m) : m' = m := by
  obtain ⟨i, shape⟩ := m'
  cases shape with
  | rule => cases h
  | _ => cases h; rfl

theorem announce_eq_report (h : m.isRule = false) (phase : Phase) (s : State) :
    announce m phase s = s.report m.subject phase := by
  simp only [announce, h, m.subject_of_not_rule h]
  rfl

/-- What is reported alike is the same matcher, or refers to the same rule. -/
theorem Matcher.eq_or_rule_of_subject_eq (h : m.subject = m'.subject) :
    m = m' ∨ ∃ i j name, m = ⟨i, .rule name⟩ ∧ m' = ⟨j, .rule name⟩ := by
  obtain ⟨i, shape⟩ := m
  cases shape with
  | rule name =>
      obtain ⟨j, rfl⟩ := exists_of_subject_eq h.symm
      exact .inr ⟨i, j, name, rfl, rfl⟩
  | _ => exact .inl (eq_of_subject_eq h.symm).symm

/-- All references to a rule come to the same answer. -/
theorem Yields.of_subject_eq {o : Answer} (h : Yields rules tokens m p o)
    (hm : m.subject = m'.subject) : Yields rules tokens m' p o := by
  rcases Matcher.eq_or_rule_of_subject_eq hm with rfl | ⟨i, j, name, rfl, rfl⟩
  · exact h
  · cases h with
    | rule hl hy => exact .rule hl hy
    | rule_fails hl hy => exact .rule_fails hl hy

/-- The same is below all references to a rule. -/
theorem VisitsInside.of_subject_eq {m₁ : Matcher} {p₁ : Nat}
    (h : VisitsInside rules tokens m p d m₁ p₁) (hm : m.subject = m'.subject) :
    VisitsInside rules tokens m' p d m₁ p₁ := by
  rcases Matcher.eq_or_rule_of_subject_eq hm with rfl | ⟨i, j, name, rfl, rfl⟩
  · exact h
  · cases h with
    | part ht => exact absurd ht not_tries_rule
    | body hl hv => exact .body hl hv

theorem Visits.trans_inside {m'' : Matcher} {p'' d' : Nat} (h : Visits rules tokens m p d m' p')
    (h' : VisitsInside rules tokens m' p' d' m'' p'') :
    VisitsInside rules tokens m p (d + d') m'' p'' := by
  cases h with
  | here => rwa [Nat.zero_add]
  | part ht hv => exact .part ht (hv.trans h'.visits)
  | @body _ _ _ _ d _ _ hl hv =>
      rw [Nat.add_right_comm]
      exact .body hl (hv.trans h'.visits)

/-! ### What events say -/

/-- The event that is reported in the state. -/
def State.event (s : State) (subject : Subject) (phase : Phase) : Event :=
  ⟨subject, phase, s.cursor, s.deepest⟩

/-- What was reported, if anybody listens. -/
def State.story (s : State) : Option (List Event) :=
  s.trace.map Array.toList

theorem State.story_eq_of_trace (h : s'.trace = s.trace) : s'.story = s.story :=
  congrArg (Option.map Array.toList) h

theorem State.story_report (s : State) (subject : Subject) (phase : Phase) :
    (s.report subject phase).story = s.story.map (· ++ [s.event subject phase]) := by
  obtain ⟨tokens, cursor, memo, deepest, reach, stamps, trace, _, _⟩ := s
  cases trace with
  | none => rfl
  | some es => exact congrArg some Array.toList_push

theorem State.story_keep {q : Nat} {o : Outcome} : (keep cfg m q o s).story = s.story := by
  unfold keep; split <;> rfl

theorem State.event_keep {q : Nat} {o : Outcome} (subject : Subject) (phase : Phase) :
    (keep cfg m q o s).event subject phase = s.event subject phase := by
  unfold keep; split <;> rfl

namespace Event

section

variable (rules : List (String × Matcher)) (tokens : List Token)

/-- Trying what was entered comes to try the matcher at the position, or is that. -/
def Covers (x : Event) (m : Matcher) (p : Nat) : Prop :=
  ∃ m₀ d, m₀.subject = x.subject ∧ Visits rules tokens m₀ x.cursor d m p

/-- The matcher at the position is tried below what was entered. -/
def ComesTo (x : Event) (m : Matcher) (p : Nat) : Prop :=
  ∃ m₀ d, m₀.subject = x.subject ∧ VisitsInside rules tokens m₀ x.cursor d m p

/-- Trying what was entered first comes to try what was entered next. -/
def Leads (x e : Event) : Prop :=
  ∃ m, m.subject = e.subject ∧ ComesTo rules tokens x m e.cursor

/-- Does the event say that something came to the answer? -/
inductive Gives : Event → Answer → Prop where
  | matched {subject node trivia cursor deepest} :
      Gives ⟨subject, .matched node, cursor, deepest⟩ (.matched node trivia cursor)
  | failed {subject q cursor deepest} : Gives ⟨subject, .failed q, cursor, deepest⟩ (.failed q)

/-- The second event says what the matcher, or the rule, of the first yields. -/
def AnsweredBy (e e' : Event) : Prop :=
  ∃ m o, m.subject = e.subject ∧ Yields rules tokens m e.cursor o ∧ e'.Gives o

/-- What the first event entered was left with the second, and with what it yields. -/
def Ends (e e' : Event) : Prop :=
  e.ClosedBy e' ∧ AnsweredBy rules tokens e e'

/-- A matcher that looks at the tokens itself failed where it was entered. -/
def Misses (e : Event) : Prop :=
  ∃ m q, e.subject = .matcher m ∧ e.phase = .failed q ∧ m.Checks tokens e.cursor

/-- One of the events misses at the position. -/
def MissedAt (es : List Event) (k : Nat) : Prop :=
  ∃ e ∈ es, e.Misses tokens ∧ e.cursor = k

end

variable {x : Event}

theorem MissedAt.mono {es es' : List Event} {k : Nat} (h : MissedAt tokens es k) (hes : es ⊆ es') :
    MissedAt tokens es' k := by
  obtain ⟨e, he, hmiss⟩ := h
  exact ⟨e, hes he, hmiss⟩

theorem Covers.comesTo (h : x.Covers rules tokens m p)
    (hv : VisitsInside rules tokens m p d m' p') : x.ComesTo rules tokens m' p' := by
  obtain ⟨m₀, d, hm, hx⟩ := h
  exact ⟨m₀, _, hm, hx.trans_inside hv⟩

theorem ComesTo.covers (h : x.ComesTo rules tokens m p) : x.Covers rules tokens m p := by
  obtain ⟨m₀, d, hm, hx⟩ := h
  exact ⟨m₀, d, hm, hx.visits⟩

/-- A matcher that matched was left with what it yields. -/
theorem ends_of_ok {r : Match} (h : Told rules tokens F m s (.ok r, s')) :
    Ends rules tokens (s.event m.subject .entered) (s'.event m.subject (.matched r.node)) := by
  cases h with
  | ok _ yields stop =>
      refine ⟨.matched ?_, m, r.answer, rfl, yields, ?_⟩
      · rw [stop]
        exact Yields.le_stop yields
      · rw [State.event, stop]
        exact .matched

/-- And so was one that failed, if that was noted. -/
theorem ends_of_backtrack {q : Nat} (h : Told rules tokens F m s (.error (.backtrack q), s'))
    (hq : q ≤ s'.deepest) :
    Ends rules tokens (s.event m.subject .entered) (s'.event m.subject (.failed q)) := by
  cases h with
  | backtrack _ yields back =>
      refine ⟨?_, m, .failed q, rfl, yields, .failed⟩
      show ClosedBy (s.event m.subject .entered) ⟨m.subject, .failed q, s'.cursor, s'.deepest⟩
      rw [back]
      exact .failed yields.within.1 hq

end Event

open Event

/-! ### Accounts -/

section

variable (rules tokens)

/-- The events `es` are what happened from the one state to the other: they nest in all that is open
where `K` holds of it, and leave more open only if there is a cause `c`.  The furthest failure
changes only to where one of them misses, and they saw none that was further. -/
structure Accounts (K : Event → Prop) (s : State) (c : Option Abort) (s' : State)
    (es : List Event) : Prop where
  story : s'.story = s.story.map (· ++ es)
  nests : ∀ st, (∀ x ∈ st, K x) → ∃ left, (c = none → left = []) ∧
    Nests (Leads rules tokens) (Ends rules tokens) st es (left ++ st)
  grows : s.deepest ≤ s'.deepest
  below : ∀ e ∈ es, e.deepest ≤ s'.deepest
  origin : s'.deepest = s.deepest ∨ MissedAt tokens es s'.deepest

/-- There is an account of what happened from the state to the ending. -/
def Accounted {α : Type} (K : Event → Prop) (s : State) (e : Ending α) : Prop :=
  ∃ es, Accounts rules tokens K s (cause? e) e.2 es

end

namespace Accounts

variable {K K' : Event → Prop} {es es' : List Event}

theorem nothing (hstory : s'.story = s.story) (hdeepest : s'.deepest = s.deepest) :
    Accounts rules tokens K s c s' [] where
  story := by simp [hstory]
  nests := fun _ _ => ⟨[], fun _ => rfl, .nil⟩
  grows := Nat.le_of_eq hdeepest.symm
  below := List.forall_mem_nil _
  origin := .inl hdeepest

theorem mono (h : Accounts rules tokens K s c s' es) (hK : ∀ x, K' x → K x) :
    Accounts rules tokens K' s c s' es :=
  ⟨h.story, fun st hst => h.nests st fun x hx => hK x (hst x hx), h.grows, h.below, h.origin⟩

theorem trans (h : Accounts rules tokens K s none s₁ es)
    (h' : Accounts rules tokens K s₁ c s' es') : Accounts rules tokens K s c s' (es ++ es') where
  story := by simp [h'.story, h.story, Function.comp_def]
  nests := fun st hst => by
    obtain ⟨left, hleft, hes⟩ := h.nests st hst
    rw [hleft rfl] at hes
    obtain ⟨left', hleft', hes'⟩ := h'.nests st hst
    exact ⟨left', hleft', hes.append hes'⟩
  grows := Nat.le_trans h.grows h'.grows
  below := List.forall_mem_append.mpr
    ⟨fun e he => Nat.le_trans (h.below e he) h'.grows, h'.below⟩
  origin := by
    rcases h'.origin with hd | hmissed
    · rw [hd]
      exact h.origin.imp_right fun hmissed => hmissed.mono (List.subset_append_left es es')
    · exact .inr (hmissed.mono (List.subset_append_right es es'))

/-- Nothing happened after it. -/
theorem still (h : Accounts rules tokens K s c s₁ es) (hstory : s'.story = s₁.story)
    (hdeepest : s'.deepest = s₁.deepest) : Accounts rules tokens K s c s' es := by
  obtain ⟨story, nests, grows, below, origin⟩ := h
  rw [← hdeepest] at grows below origin
  exact ⟨hstory.trans story, nests, grows, below, origin⟩

end Accounts

/-- What the attempts on a trail report, one after the other. -/
theorem Trail.accounts {K : Event → Prop} (h : Trail how s l c s')
    (hs : s.Counted rules tokens F)
    (hl : ∀ x ∈ l, ∀ {s : State}, s.cursor = x.2 → s.Counted rules tokens F →
      (how x.1 s).2.Counted rules tokens F ∧ Accounted rules tokens K s (how x.1 s)) :
    ∃ es, Accounts rules tokens K s c s' es := by
  induction h with
  | done ha => exact ⟨[], .nothing (State.story_eq_of_trace ha.trace_eq) ha.deepest_eq⟩
  | step hn _ ih =>
      obtain ⟨hm, hl⟩ := List.forall_mem_cons.mp hl
      obtain ⟨hcounted, es, hes⟩ := hm rfl hs
      obtain ⟨es', hes'⟩ := ih hcounted hl
      rw [hn] at hes
      exact ⟨_, hes.trans hes'⟩
  | stopped hn ha =>
      obtain ⟨-, es, hes⟩ := (List.forall_mem_cons.mp hl).1 rfl hs
      rw [hn] at hes
      exact ⟨es, hes.still (State.story_eq_of_trace ha.trace_eq) ha.deepest_eq⟩

/-- Trying the parts of a matcher, one after the other: all that is open where the matcher is tried
leads to them. -/
theorem Treads.accounted {α : Type} {e : Ending α} (h : Treads rules tokens how m s e l)
    (hs : s.Counted rules tokens F)
    (hparts : ∀ m' ∈ m.parts, ∀ {s : State}, s.Counted rules tokens F →
      (how m' s).2.Counted rules tokens F ∧
        Accounted rules tokens (·.ComesTo rules tokens m' s.cursor) s (how m' s)) :
    Accounted rules tokens (·.Covers rules tokens m s.cursor) s e := by
  refine h.trail.accounts hs fun x hx s₁ hp hs₁ => ?_
  have ht := h.tries x hx
  obtain ⟨hcounted, es, hes⟩ := hparts x.1 ht.mem_parts hs₁
  exact ⟨hcounted, es, hes.mono fun _ hc => hc.comesTo (.part (hp ▸ ht) .here)⟩

/-! ### Entering and leaving -/

/-- What the ending of an attempt does to the state that trying the inside left: unless it is
aborted, it is reported, and a failure is noted. -/
inductive Leaves (m : Matcher) (s : State) : Ending Match → Prop where
  | ok {r : Match} {s' : State} :
      s'.story = s.story.map (· ++ [s'.event m.subject (.matched r.node)]) →
      s'.deepest = s.deepest → Leaves m s (.ok r, s')
  | backtrack {q : Nat} {s' : State} :
      s'.story = s.story.map (· ++ [s'.event m.subject (.failed q)]) →
      s'.deepest = max s.deepest q → Leaves m s (.error (.backtrack q), s')
  | abort {c : Abort} {s' : State} : s'.story = s.story → s'.deepest = s.deepest →
      Leaves m s (.error (.abort c), s')

section

variable {e : Ending Match} {es : List Event}

/-- While the matcher is tried, its entry is open, too. -/
theorem Accounts.nests_entered
    (hi : Accounts rules tokens (·.Covers rules tokens m s.cursor) (s.report m.subject .entered) c
      s₁ es) {st : List Event} (hst : ∀ x ∈ st, x.ComesTo rules tokens m s.cursor) :
    ∃ left, (c = none → left = []) ∧ Nests (Leads rules tokens) (Ends rules tokens) st
      (s.event m.subject .entered :: es) (left ++ s.event m.subject .entered :: st) := by
  have hcovers : ∀ x ∈ s.event m.subject .entered :: st, x.Covers rules tokens m s.cursor :=
    List.forall_mem_cons.mpr ⟨⟨m, 0, rfl, .here⟩, fun x hx => (hst x hx).covers⟩
  obtain ⟨left, hleft, hes⟩ := hi.nests _ hcovers
  exact ⟨left, hleft, .enter rfl (fun x hx => ⟨m, rfl, hst x hx⟩) hes⟩

/-- An attempt that was aborted leaves its entry open. -/
theorem Accounts.entered
    (hi : Accounts rules tokens (·.Covers rules tokens m s.cursor) (s.report m.subject .entered) c
      s₁ es) (hc : c ≠ none) :
    Accounts rules tokens (·.ComesTo rules tokens m s.cursor) s c s₁
      (s.event m.subject .entered :: es) where
  story := by simp [hi.story, State.story_report, Function.comp_def]
  nests := fun st hst => by
    obtain ⟨left, -, hes⟩ := hi.nests_entered hst
    refine ⟨left ++ [s.event m.subject .entered], fun hn => absurd hn hc, ?_⟩
    rw [List.append_assoc]
    exact hes
  grows := hi.grows
  below := List.forall_mem_cons.mpr ⟨hi.grows, hi.below⟩
  origin := hi.origin.imp_right fun hmissed => hmissed.mono (List.subset_cons_self _ es)

/-- One that was not closes it. -/
theorem Accounts.left {phase : Phase}
    (hi : Accounts rules tokens (·.Covers rules tokens m s.cursor) (s.report m.subject .entered)
      none s₁ es)
    (hstory : s'.story = s₁.story.map (· ++ [s'.event m.subject phase]))
    (hgrows : s₁.deepest ≤ s'.deepest)
    (hends : Ends rules tokens (s.event m.subject .entered) (s'.event m.subject phase))
    (horigin : s'.deepest = s₁.deepest ∨
      (s'.event m.subject phase).Misses tokens ∧ s'.cursor = s'.deepest) :
    Accounts rules tokens (·.ComesTo rules tokens m s.cursor) s none s'
      (s.event m.subject .entered :: (es ++ [s'.event m.subject phase])) where
  story := by simp [hstory, hi.story, State.story_report, Function.comp_def]
  nests := fun st hst => by
    obtain ⟨left, hleft, hes⟩ := hi.nests_entered hst
    rw [hleft rfl] at hes
    exact ⟨[], fun _ => rfl, hes.append (.exit hends .nil)⟩
  grows := Nat.le_trans hi.grows hgrows
  below := List.forall_mem_cons.mpr ⟨Nat.le_trans hi.grows hgrows, List.forall_mem_append.mpr
    ⟨fun e he => Nat.le_trans (hi.below e he) hgrows,
      List.forall_mem_singleton.mpr (Nat.le_refl _)⟩⟩
  origin := by
    rcases horigin with hd | hmiss
    · rw [hd]
      exact hi.origin.imp_right fun hmissed => hmissed.mono fun e he =>
        List.mem_cons_of_mem _ (List.mem_append_left _ he)
    · exact .inr ⟨_, List.mem_cons_of_mem _ (List.mem_append_right _ (List.mem_singleton_self _)),
        hmiss⟩

/-- **Entering and leaving.**  A failure that is further than all that trying the inside came to is
one that the matcher found itself. -/
theorem Leaves.accounted (h : Leaves m s₁ e) (ht : Told rules tokens F m s e)
    (hi : Accounts rules tokens (·.Covers rules tokens m s.cursor) (s.report m.subject .entered)
      (cause? e) s₁ es)
    (hcovers : cause? e = none → ∀ k, NotedInside rules tokens m s.cursor k → k ≤ s₁.deepest)
    (hm : m.shape ≠ .firstOf []) :
    Accounted rules tokens (·.ComesTo rules tokens m s.cursor) s e := by
  cases h with
  | ok hstory hdeepest =>
      exact ⟨_, hi.left hstory (Nat.le_of_eq hdeepest.symm) (ends_of_ok ht) (.inl hdeepest)⟩
  | @backtrack q s' hstory hdeepest =>
      have hq : q ≤ s'.deepest := hdeepest ▸ Nat.le_max_right _ _
      refine ⟨_, hi.left hstory (hdeepest ▸ Nat.le_max_left _ _) (ends_of_backtrack ht hq) ?_⟩
      cases ht with
      | backtrack _ yields back =>
          rcases yields.checks_or_notedInside hm with ⟨hcheck, hqp⟩ | hk
          · rcases Nat.le_total q s₁.deepest with hle | hle
            · exact .inl (by rw [hdeepest, Nat.max_eq_left hle])
            · refine .inr ⟨?_, by rw [hdeepest, Nat.max_eq_right hle, back, hqp]⟩
              have hcheck : m.Checks tokens s'.cursor := back.symm ▸ hcheck
              exact ⟨m, q, m.subject_of_not_rule hcheck.isRule_eq_false, rfl, hcheck⟩
          · exact .inl (by rw [hdeepest, Nat.max_eq_left (hcovers rfl q hk)])
  | abort hstory hdeepest =>
      exact ⟨_, (hi.entered (Option.some_ne_none _)).still hstory hdeepest⟩

end

/-! ### Matchers and rules -/

theorem leaves_concluded (cfg : Config) (hr : m.isRule = false) (start : Nat) (e : Ending Match) :
    Leaves m e.2 (concluded cfg m start e) := by
  rcases e with ⟨(q | c) | r, s'⟩
  · refine .backtrack ?_ (by simp)
    rw [State.story_keep, State.event_keep, announce_eq_report hr]
    exact State.story_report ((s'.moveTo start).recordFailure q) m.subject (.failed q)
  · exact .abort rfl rfl
  · refine .ok ?_ (by simp)
    rw [State.story_keep, State.event_keep, announce_eq_report hr]
    exact State.story_report s' m.subject (.matched r.node)

/-- A rule is left when its body is: a failure of the body was noted, and the cursor is back. -/
theorem leaves_enterRule {i : Nat} {name : String} {body : Matcher} (depth : Nat)
    (hb : rules.lookup name = some body) {s₀ : State}
    (ht : Told rules tokens F body (s₀.report (.rule name) .entered)
      (attempt cfg (enterRule cfg rules depth) body (s₀.report (.rule name) .entered)))
    (hc : Counts rules tokens F body (s₀.report (.rule name) .entered)
      (attempt cfg (enterRule cfg rules depth) body (s₀.report (.rule name) .entered))) :
    Leaves ⟨i, .rule name⟩
      (attempt cfg (enterRule cfg rules depth) body (s₀.report (.rule name) .entered)).2
      (concluded cfg ⟨i, .rule name⟩ s₀.cursor (enterRule cfg rules (depth + 1) name s₀)) := by
  simp only [enterRule]
  simp only [hb]
  generalize attempt cfg (enterRule cfg rules depth) body _ = e at ht hc ⊢
  cases ht with
  | @ok r s' =>
      refine .ok ?_ (by simp)
      rw [State.story_keep, State.event_keep]
      exact State.story_report s' (.rule name) _
  | @backtrack q s' _ yields back =>
      have hq : max s'.deepest q = s'.deepest := Nat.max_eq_left (hc.covers rfl q yields.noted)
      have hevent : s'.event (.rule name) (.failed q) =
          ⟨.rule name, .failed q, s₀.cursor, max s'.deepest q⟩ := by
        rw [hq, State.event, back]
        rfl
      refine .backtrack ?_ (by simp)
      rw [State.story_keep, State.event_keep]
      have hstory := State.story_report s' (.rule name) (.failed q)
      rw [hevent] at hstory
      exact hstory
  | abort => exact .abort rfl rfl

/-- The account of a matcher whose parts have one. -/
theorem Treads.accounted_concluded {e : Ending Match}
    (h : Treads rules tokens how m (s.report m.subject .entered) e l)
    (hs : s.Counted rules tokens F) (hr : m.isRule = false) (hm : m.shape ≠ .firstOf [])
    (ht : Told rules tokens F m s (concluded cfg m s.cursor e))
    (hcounts : ∀ m' ∈ m.parts, ∀ {s : State}, s.Counted rules tokens F →
      Counts rules tokens F m' s (how m' s))
    (hparts : ∀ m' ∈ m.parts, ∀ {s : State}, s.Counted rules tokens F →
      Accounted rules tokens (·.ComesTo rules tokens m' s.cursor) s (how m' s)) :
    Accounted rules tokens (·.ComesTo rules tokens m s.cursor) s (concluded cfg m s.cursor e) := by
  have hs₁ := (State.Alike.report s m.subject .entered).counted hs
  obtain ⟨es, hes⟩ := h.accounted hs₁ fun m' hm' _ hs =>
    ⟨(hcounts m' hm' hs).counted, hparts m' hm' hs⟩
  have hi := h.countsInside hs₁ hr hcounts
  have hc := cause?_concluded cfg m s.cursor e
  refine (leaves_concluded cfg hr s.cursor e).accounted ht (hc ▸ hes) ?_ hm
  rw [hc]
  exact hi.covers

/-- The account of a reference to a rule whose body has one. -/
theorem accounted_rule {depth i : Nat} {name : String} {body : Matcher}
    (hb : rules.lookup name = some body) (hs : s.Counted rules tokens F)
    (ht : Told rules tokens F ⟨i, .rule name⟩ s
      (concluded cfg ⟨i, .rule name⟩ s.cursor (enterRule cfg rules (depth + 1) name s)))
    (htells : Tells rules tokens F body (attempt cfg (enterRule cfg rules depth) body))
    (hcounts : ∀ {s : State}, s.Counted rules tokens F →
      Counts rules tokens F body s (attempt cfg (enterRule cfg rules depth) body s))
    (hbody : ∀ {s : State}, s.Counted rules tokens F →
      Accounted rules tokens (·.ComesTo rules tokens body s.cursor) s
        (attempt cfg (enterRule cfg rules depth) body s)) :
    Accounted rules tokens (·.ComesTo rules tokens ⟨i, .rule name⟩ s.cursor) s
      (concluded cfg ⟨i, .rule name⟩ s.cursor (enterRule cfg rules (depth + 1) name s)) := by
  have hs₁ := (State.Alike.report s (.rule name) .entered).counted hs
  have hi := hcounts hs₁
  have hc := (cause?_concluded cfg ⟨i, .rule name⟩ s.cursor _).trans
    (enterRule_of_lookup cfg depth s hb).1
  obtain ⟨es, hes⟩ := hbody hs₁
  have hes := hes.mono fun _ (hx : Event.Covers rules tokens _ ⟨i, .rule name⟩ s.cursor) =>
    hx.comesTo (.body hb .here)
  refine (leaves_enterRule depth hb (htells hs₁.toTruthful) hi).accounted ht (hc ▸ hes)
    (fun hn k hk => ?_) nofun
  cases hk with
  | part ht => exact absurd ht not_tries_rule
  | body hb' hk =>
      cases hb.symm.trans hb'
      exact hi.covers (hc ▸ hn) k hk

/-- What is remembered is not reported again. -/
theorem accounted_of_inside {enter : String → Attempt Match} {K : Event → Prop}
    (hi : attempt cfg enter m s =
        concluded cfg m s.cursor (attemptShape cfg enter m.shape (announce m .entered s)) →
      Accounted rules tokens K s (attempt cfg enter m s)) :
    Accounted rules tokens K s (attempt cfg enter m s) := by
  rcases attempt_cases cfg enter m s with ⟨o, -, -, ha⟩ | ⟨-, he⟩
  · exact ⟨[], .nothing (State.story_eq_of_trace ha.trace_eq) ha.deepest_eq⟩
  · exact hi he

/-- **The account of an attempt.** -/
theorem accounted_attempt (cfg : Config) (hF : Family rules F)
    (hchoice : ∀ {m}, F m → m.shape ≠ .firstOf []) :
    ∀ (depth : Nat) (m : Matcher), F m → ∀ {s : State}, s.Counted rules tokens F →
      Accounted rules tokens (·.ComesTo rules tokens m s.cursor) s
        (attempt cfg (enterRule cfg rules depth) m s) := by
  have htells : ∀ depth {m}, F m →
      Tells rules tokens F m (attempt cfg (enterRule cfg rules depth) m) :=
    fun depth _ hm => tells_attempt (fun _ => hF) depth fun _ => hm
  have hcounts : ∀ depth m, F m → ∀ {s : State}, s.Counted rules tokens F →
      Counts rules tokens F m s (attempt cfg (enterRule cfg rules depth) m s) :=
    fun depth m hm _ => counts_attempt (fun _ => hF) depth m fun _ => hm
  refine induction_entering rules ?parts ?stuck ?body
  case parts =>
    intro depth m hr ih hm s hs
    refine accounted_of_inside fun he => ?_
    have ht := htells depth hm hs.toTruthful
    rw [announce_eq_report hr] at he
    rw [he] at ht ⊢
    have hs₁ := (State.Alike.report s m.subject .entered).counted hs
    obtain ⟨l, hl⟩ := treads_attemptShape hr (fun m' hm' => htells depth (hF.part hm hm'))
      hs₁.toTruthful
    exact hl.accounted_concluded hs hr (hchoice hm) ht
      (fun m' hm' _ hs => hcounts depth m' (hF.part hm hm') hs)
      fun m' hm' _ hs => ih m' hm' (hF.part hm hm') hs
  case stuck =>
    intro depth i name hstuck hm s hs
    refine accounted_of_inside fun he => ?_
    obtain ⟨c, hc⟩ := enterRule_stuck cfg hstuck s
    change _ = concluded cfg _ s.cursor (enterRule cfg rules depth name s) at he
    rw [he, hc]
    exact ⟨[], .nothing rfl rfl⟩
  case body =>
    intro depth i name body hb ih hm s hs
    refine accounted_of_inside fun he => ?_
    have ht := htells (depth + 1) hm hs.toTruthful
    change _ = concluded cfg _ s.cursor (enterRule cfg rules (depth + 1) name s) at he
    rw [he] at ht ⊢
    have hbody := hF.body hb
    exact accounted_rule hb hs ht (htells depth hbody) (hcounts depth body hbody) (ih hbody)

/-! ### Parses -/

namespace Workshop.Reachable

variable {w : Workshop} {g : Grammar}

/-- **The account of a parse.** -/
theorem account (hw : w.Reachable) (hg : g ∈ w.grammars) (cfg : Config) (tokens : List Token) :
    Accounts g.rules tokens (fun _ => False) (.start tokens true)
      (cause? (attemptWith cfg g.rules g.root (.start tokens true)))
      (attemptWith cfg g.rules g.root (.start tokens true)).2 (g.parse cfg true tokens).events := by
  obtain ⟨es, hes⟩ := accounted_attempt cfg (hw.family hg) hw.stock.choice cfg.maxDepth g.root
    (.root hg) (State.counted_start g.rules tokens w.Known true)
  have hevents : (g.parse cfg true tokens).events = es := by
    obtain ⟨trace, htrace, rfl⟩ := Option.map_eq_some_iff.mp hes.story
    simp [Run.events, Grammar.parse, attemptWith, htrace]
  rw [hevents]
  exact hes.mono fun _ => False.elim

/-- The events nest, and what is open leads to what is entered.  Nothing is left open unless the
parse is aborted. -/
theorem nests_events (hw : w.Reachable) (hg : g ∈ w.grammars) (cfg : Config)
    (tokens : List Token) :
    ∃ left, (cause? (attemptWith cfg g.rules g.root (.start tokens true)) = none → left = []) ∧
      Nests (Leads g.rules tokens) (Ends g.rules tokens) [] (g.parse cfg true tokens).events
        left := by
  obtain ⟨left, hleft, hes⟩ := (hw.account hg cfg tokens).nests [] (List.forall_mem_nil _)
  rw [List.append_nil] at hes
  exact ⟨left, hleft, hes⟩

end Workshop.Reachable

end Packrat
