import Packrat.Proofs.Events.Account
import Packrat.Proofs.Steps.Termination

/-!
# Proofs — Events — Balance

The events of a parse are balanced.  That they nest is part of its account.  That nothing is
reported once the parse was aborted is said of the machine, which takes the parse apart into steps:
from the abort on it only unwinds (`Moment.AbortedBy.step`).

**Balance** (`parse_events_balanced`): what is entered is left, and what is left last was entered
first; an exit says what the matcher or the rule yields where it was entered, and in the log a rule
is left at the depth at which it was entered.  If the parse is aborted, the events begin a balanced
sequence, and the abort is after all of them.
-/

namespace Packrat

open Attempt Moment Event

variable {cfg : Config} {rules : List (String × Matcher)} {c : Abort} {trace : Option (Array Event)}

/-! ### After an abort -/

/-- What was tried last was aborted, and the events are those. -/
structure Moment.AbortedBy (c : Abort) (trace : Option (Array Event)) (a : Moment) : Prop where
  task_eq : a.task = .ended (.error (.abort c))
  trace_eq : a.state.trace = trace

/-- The abort is handed on from frame to frame, and nothing is reported. -/
theorem Moment.AbortedBy.step {a : Moment} (h : a.AbortedBy c trace) :
    (a.step cfg rules).AbortedBy c trace := by
  obtain ⟨k, task, s, d⟩ := a
  obtain ⟨rfl, rfl⟩ := h
  cases k with
  | nil => exact ⟨rfl, rfl⟩
  | cons f k => cases f <;> exact ⟨rfl, rfl⟩

theorem Moment.AbortedBy.iterate {a : Moment} (h : a.AbortedBy c trace) (n : Nat) :
    ((Moment.step cfg rules)^[n] a).AbortedBy c trace := by
  induction n with
  | zero => exact h
  | succ n ih =>
      rw [Function.iterate_succ_apply']
      exact ih.step

/-- The machine comes to the ending of the attempt. -/
theorem leadsTo_finished (cfg : Config) (rules : List (String × Matcher)) (m : Matcher) {s : State}
    (h : s.Ordered) :
    LeadsTo cfg rules (begun m s) (finished (attemptWith cfg rules m s)) :=
  plays_attempt_of_enter (keepsPace_attempt cfg rules cfg.maxDepth)
    (fun name => playsInside_enterRule cfg.maxDepth 0 name (Nat.zero_add _)) m [] s h

/-- **No event follows an abort.**  Wherever on its way to the ending the machine aborts, the events
are those that there are in the end. -/
theorem trace_eq_of_abortedBy {m : Matcher} {s : State} (h : s.Ordered) {n : Nat}
    (hn : ((Moment.step cfg rules)^[n] (begun m s)).AbortedBy c trace) :
    (attemptWith cfg rules m s).2.trace = trace := by
  obtain ⟨n', hn'⟩ := leadsTo_finished cfg rules m h
  have hend : (Moment.step cfg rules)^[n' + n] (begun m s) =
      finished (attemptWith cfg rules m s) := by
    rw [Nat.add_comm, Function.iterate_add_apply, hn']
    exact Function.iterate_fixed (step_finished _) n
  have ha : ((Moment.step cfg rules)^[n'] ((Moment.step cfg rules)^[n] (begun m s))).AbortedBy c
      trace := hn.iterate n'
  rw [← Function.iterate_add_apply, hend] at ha
  exact ha.trace_eq

/-! ### Balance -/

theorem State.ordered_start (tokens : List Token) (listening : Bool) :
    (State.start tokens listening).Ordered := by
  intro id q r hq
  rw [State.outcomeAt?_start] at hq
  cases hq

/-- **Balance.** -/
theorem parse_events_balanced {w : Workshop} (hw : w.Reachable) {g : Grammar}
    (hg : g ∈ w.grammars) (cfg : Config) (tokens : List Token) :
    let r := g.parse cfg true tokens
    let moment := fun n => (Moment.step cfg g.rules)^[n] (begun g.root (.start tokens true))
    (∃ left, Nests (Leads g.rules tokens) (Ends g.rules tokens) [] r.events left ∧
      ((∀ c, r.result ≠ .error (.aborted c)) → left = [])) ∧
    (∃ more, Balanced (r.events ++ more)) ∧
    (∀ n c, (moment n).task = .ended (.error (.abort c)) →
      (moment n).state.trace = r.final.trace) ∧
    ∀ es₁ e es₂ e' es₃, r.events = es₁ ++ e :: (es₂ ++ e' :: es₃) → e.phase = .entered →
      Balanced es₂ → e'.phase ≠ .entered → Ends g.rules tokens e e' ∧
        (e.ofRule = true → ∃ depth, loggedDepth? r.events es₁.length = some (.number depth) ∧
          loggedDepth? r.events (es₁ ++ e :: es₂).length = some (.number depth)) := by
  intro r moment
  obtain ⟨left, hleft, hnests⟩ := hw.nests_events hg cfg tokens
  refine ⟨⟨left, hnests, fun hr => hleft ?_⟩, ?_, ?_, ?_⟩
  · cases hc : cause? (attemptWith cfg g.rules g.root (.start tokens true)) with
    | none => rfl
    | some c => exact absurd (verdict_of_cause? hc) (hr c)
  · exact exists_balanced_append (hnests.mono (fun _ _ _ => trivial) fun _ _ h => h.1)
  · intro n c hn
    have ha : (moment n).AbortedBy c (moment n).state.trace := ⟨hn, rfl⟩
    exact (trace_eq_of_abortedBy (State.ordered_start tokens true) ha).symm
  · intro es₁ e es₂ e' es₃ hevents he hb he'
    rw [hevents] at hnests
    have hends := hnests.closes_of_balanced (fun _ _ h => h.1) he hb he'
    refine ⟨hends, fun hr => ?_⟩
    rw [hevents]
    exact logged_alike hr he hb hends.1

/-- A rule that is one word: the rule and the word are entered, and left in the other order. -/
theorem events_of_word_balanced :
    let word : Matcher := ⟨0, .literal "a"⟩
    let w := Workshop.opened 0 |>.defined "word" (.text "a") |>.built "word"
    let g : Grammar := ⟨⟨2, .rule "word"⟩, [("word", word)], ["word"]⟩
    let t : Token := .ofText .identifier "a" .origin
    let events := (g.parse ⟨false, 1⟩ true [t]).events
    w.Reachable ∧ g ∈ w.grammars ∧ Balanced events ∧ events =
      [⟨.rule "word", .entered, 0, 0⟩, ⟨.matcher word, .entered, 0, 0⟩,
        ⟨.matcher word, .matched (.leaf t), 1, 0⟩,
        ⟨.rule "word", .matched (.build (.rule "word") none [.leaf t]), 1, 0⟩] := by
  intro word w g t events
  have hw : w.Reachable :=
    ((Workshop.Reachable.opened 0).defined "word" (.text "a") (List.forall_mem_nil _)).built "word"
  have hg : g ∈ w.grammars := List.mem_singleton_self g
  have hok : (g.parse ⟨false, 1⟩ true [t]).result.toBool = true := by decide +kernel
  obtain ⟨⟨left, hnests, hleft⟩, -⟩ := parse_events_balanced hw hg ⟨false, 1⟩ [t]
  have hnone : ∀ c, (g.parse ⟨false, 1⟩ true [t]).result ≠ .error (.aborted c) := fun c h => by
    rw [h] at hok
    cases hok
  rw [hleft hnone] at hnests
  exact ⟨hw, hg, hnests.mono (fun _ _ _ => trivial) fun _ _ h => h.1, rfl⟩

end Packrat
