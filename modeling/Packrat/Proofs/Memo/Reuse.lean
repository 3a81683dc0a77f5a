import Packrat.Proofs.Memo.Closed
import Packrat.Proofs.Peg.Adequacy

/-!
# Proofs — Memo — Reuse

Using a state again.  One state may serve many attempts, of any matchers and with any outcomes, and
between them tokens may be consumed, failures noted, and the cursor put back to where a snapshot was
taken.  A `Desk` is such a state with the snapshots taken from it.

An attempt that is aborted leaves outcomes behind that others will find.  But it leaves a closed
state, as every attempt does, so all of them do (`Desk.closed_after`).

**Reuse** (`attempt_after_operations`): what an attempt on a fresh state comes to, it comes to on
every state that was used, with the cursor at the same place.
-/

namespace Packrat

open Attempt

/-- What may be done with a state; snapshots are counted from the first that was taken. -/
inductive Operation where
  | attempt (m : Matcher)
  | consume
  | snapshot
  | restore (i : Nat)
  | recordFailure (position : Nat)

/-- A state in use. -/
structure Desk where
  state : State
  /-- The cursors that were saved. -/
  snapshots : List Nat

namespace Desk

/-- A new state over the tokens. -/
def start (tokens : List Token) : Desk :=
  ⟨.start tokens false, []⟩

/-- The desk after an operation, where attempts are made with the grammar. -/
def step (g : Grammar) (d : Desk) : Operation → Desk
  | .attempt m => { d with state := (g.attempt m d.state).2 }
  | .consume => { d with state := d.state.consume.2 }
  | .snapshot => { d with snapshots := d.snapshots ++ [d.state.cursor] }
  | .restore i =>
    match d.snapshots[i]? with
    | some p => { d with state := d.state.moveTo p }
    | none => d
  | .recordFailure p => { d with state := d.state.recordFailure p }

/-- The desk after some operations. -/
def after (g : Grammar) (d : Desk) (ops : List Operation) : Desk :=
  ops.foldl (step g) d

end Desk

variable {g : Grammar} {tokens : List Token} {F : Matcher → Prop} {m : Matcher} {s : State}

/-! ### Closed desks -/

theorem snd_attempt (g : Grammar) (m : Matcher) (s : State) :
    (g.attempt m s).2 = (attemptWith .standard g.rules m s).2 := by
  simp only [Grammar.attempt, Attempt.outcome]
  rcases attemptWith .standard g.rules m s with ⟨(_ | _) | _, _⟩ <;> rfl

/-- Attempts with a grammar remember outcomes, so they leave closed states. -/
theorem State.Closed.attempt (hF : Family g.rules F) (hm : F m)
    (h : s.Closed g.rules tokens F) : (g.attempt m s).2.Closed g.rules tokens F := by
  rw [snd_attempt]
  exact (stores_attempt rfl hF Config.standard.maxDepth hm h).closed

theorem State.Closed.consume {rules : List (String × Matcher)} (h : s.Closed rules tokens F) :
    s.consume.2.Closed rules tokens F := by
  simp only [State.consume]
  split
  · exact h.of_same rfl fun _ _ => rfl
  · exact h

/-- One operation leaves a closed state. -/
theorem Desk.closed_step (hF : Family g.rules F) {d : Desk} (h : d.state.Closed g.rules tokens F)
    {op : Operation} (hop : ∀ m, op = .attempt m → F m) :
    (d.step g op).state.Closed g.rules tokens F := by
  cases op with
  | attempt m => exact h.attempt hF (hop m rfl)
  | consume => exact h.consume
  | snapshot => exact h
  | restore i =>
      simp only [Desk.step]
      split
      · exact h.of_same rfl fun _ _ => rfl
      · exact h
  | recordFailure p => exact h.recordFailure p

/-- And so do many. -/
theorem Desk.closed_after (hF : Family g.rules F) {ops : List Operation}
    (hops : ∀ m, .attempt m ∈ ops → F m) {d : Desk} (h : d.state.Closed g.rules tokens F) :
    (d.after g ops).state.Closed g.rules tokens F := by
  induction ops generalizing d with
  | nil => exact h
  | cons op ops ih =>
      have hop : ∀ m, op = .attempt m → F m := fun m e => hops m (e ▸ List.mem_cons_self)
      exact ih (fun m hm => hops m (List.mem_cons_of_mem _ hm)) (Desk.closed_step hF h hop)

/-! ### Attempts on used states -/

/-- Where the cursor is after an attempt that was told. -/
theorem Told.cursor_eq {rules : List (String × Matcher)} {F' : Matcher → Prop} {s' : State}
    {e e' : Ending Match} (h : Told rules tokens F m s e) (h' : Told rules tokens F' m s' e')
    (hp : s.cursor = s'.cursor) (hc : cause? e = none) (hc' : cause? e' = none) :
    e.2.cursor = e'.2.cursor := by
  cases h with
  | ok _ yields stop =>
      cases h' with
      | ok _ yields' stop' =>
          have ha := yields.unique (hp ▸ yields')
          simp only [Match.answer, Answer.matched.injEq] at ha
          rw [stop, stop', ha.2.2]
      | backtrack _ yields' _ => cases yields.unique (hp ▸ yields')
      | abort => cases hc'
  | backtrack _ yields back =>
      cases h' with
      | ok _ yields' _ => cases yields.unique (hp ▸ yields')
      | backtrack _ _ back' => rw [back, back', hp]
      | abort => cases hc'
  | abort => cases hc

/-- A fresh state is behind all closed states. -/
theorem State.Closed.ahead_start {rules : List (String × Matcher)} (h : s.Closed rules tokens F)
    (p : Nat) : s.Ahead rules tokens F ((State.start tokens false).moveTo p) where
  closed := h
  behind := (State.Alike.moveTo _ p).closed (State.closed_start false)
  holds := fun _ hq => absurd ((State.Alike.moveTo _ p).holds_iff.mp hq) (State.not_holds_start _)

/-- **Reuse.** -/
theorem attempt_after_operations {w : Workshop} (hw : w.Reachable) (hg : g ∈ w.grammars)
    (tokens : List Token) {ops : List Operation} (hops : ∀ m, .attempt m ∈ ops → w.Known m)
    (hm : w.Known m) :
    let used := ((Desk.start tokens).after g ops).state
    let fresh := (State.start tokens false).moveTo used.cursor
    ∀ o, (g.attempt m fresh).1 = .ok o →
      ∃ o', (g.attempt m used).1 = .ok o' ∧ o'.answer = o.answer ∧
        (g.attempt m used).2.cursor = (g.attempt m fresh).2.cursor := by
  intro used fresh o ho
  have hF := hw.family hg
  have hused : used.Closed g.rules tokens w.Known :=
    Desk.closed_after hF hops (State.closed_start false)
  have hahead : used.Ahead g.rules tokens w.Known fresh := hused.ahead_start used.cursor
  -- neither attempt is aborted, so both come to what the matcher yields
  have hc : cause? (attemptWith .standard g.rules m fresh) = none := cause?_of_outcome ho
  have hc' : cause? (attemptWith .standard g.rules m used) = none :=
    cause?_attempt_of_ahead rfl rfl hF _ m hm (Nat.le_refl _) hahead rfl hc
  have ht : Told g.rules tokens w.Known m fresh (attemptWith .standard g.rules m fresh) :=
    tells_attempt (fun _ => hF) _ (fun _ => hm) hahead.behind.toTruthful
  have ht' : Told g.rules tokens w.Known m used (attemptWith .standard g.rules m used) :=
    tells_attempt (fun _ => hF) _ (fun _ => hm) hused.toTruthful
  obtain ⟨o', ho', hy'⟩ := outcome_of_cause? (fun _ => hF) (fun _ => hm) hused.toTruthful hc'
  obtain ⟨o₁, ho₁, hy⟩ :=
    outcome_of_cause? (fun _ => hF) (fun _ => hm) hahead.behind.toTruthful hc
  cases ho.symm.trans ho₁
  refine ⟨o', ho', hy'.unique hy, ?_⟩
  rw [snd_attempt, snd_attempt]
  exact ht'.cursor_eq ht rfl hc' hc

/-- After an attempt that was aborted: `loop` is a left recursion behind an optional minus. -/
theorem optional_minus_attempted_alike_after_abort :
    let minus : Matcher := ⟨0, .literal "-"⟩
    let m : Matcher := ⟨1, .optional minus⟩
    let loop : Matcher := ⟨3, .sequence [m, ⟨2, .rule "loop"⟩]⟩
    let w := Workshop.opened 0 |>.called (.literal "-") |>.called (.optional (.matcher minus))
      |>.defined "loop" (.many [.matcher m, .node (.rule "loop")]) |>.built "loop"
    let g : Grammar := ⟨⟨5, .rule "loop"⟩, [("loop", loop)], ["loop"]⟩
    let tokens : List Token := [.ofText .punctuator "-" .origin]
    let ops : List Operation :=
      [.snapshot, .attempt g.root, .consume, .recordFailure 1, .restore 0]
    let used := ((Desk.start tokens).after g ops).state
    let fresh := (State.start tokens false).moveTo used.cursor
    w.Reachable ∧ g ∈ w.grammars ∧ (∀ m, .attempt m ∈ ops → w.Known m) ∧ w.Known m ∧
      ∃ o, (g.attempt m fresh).1 = .ok o ∧ ∃ o', (g.attempt m used).1 = .ok o' ∧
        o'.answer = o.answer ∧ (g.attempt m used).2.cursor = (g.attempt m fresh).2.cursor := by
  intro minus m loop w g tokens ops used fresh
  have hminus := Workshop.Reachable.called (.literal "-") (.opened 0) nofun
  have hm := hminus.called (.optional (.matcher minus))
    (List.forall_mem_singleton.mpr (.made List.mem_cons_self))
  have hloop := hm.defined "loop" (.many [.matcher m, .node (.rule "loop")])
    (List.forall_mem_singleton.mpr (.made List.mem_cons_self))
  have hw : w.Reachable := hloop.built "loop"
  have hg : g ∈ w.grammars := List.mem_singleton_self g
  have hmade : w.Known m := .made (List.mem_cons_of_mem _ List.mem_cons_self)
  have hops : ∀ m, .attempt m ∈ ops → w.Known m := by
    intro m hm
    have hroot : m = g.root := by simpa [ops] using hm
    exact hroot ▸ .root hg
  have ho : ∃ o, (g.attempt m fresh).1 = .ok o := by
    have hf : fresh = (State.start tokens false).moveTo 0 := rfl
    rw [hf]
    simp [m, minus, tokens, Grammar.attempt, Attempt.outcome, attemptWith, attempt, attemptShape,
      settled, remembered?, announce, keep, concluded, thenFrom, orNothing, oneToken, produce,
      Config.standard, Matcher.isRule, Matcher.ruleName?, State.peek?, Token.ofText]
  obtain ⟨o, ho⟩ := ho
  exact ⟨hw, hg, hops, hmade, o, ho, attempt_after_operations hw hg tokens hops hmade o ho⟩

end Packrat
