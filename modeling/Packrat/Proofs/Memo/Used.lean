import Packrat.Proofs.Peg.Soundness

/-!
# Proofs — Memo — Used

States that come up.  From a fresh state over the tokens one gets on by attempts, with any
configuration and any number of rules that may still be entered, by reading tokens, going
elsewhere and noting failures; nothing else writes to the memo.  All states inside of an attempt
are among these.

**Used states are truthful** (`Used.truthful`): whatever the attempts were, what is remembered is
what the matchers yield.
-/

namespace Packrat

open Attempt

variable {rules : List (String × Matcher)} {tokens : List Token} {K : Matcher → Prop} {s : State}

/-- States over the tokens in which matchers of `K` may have been tried before. -/
inductive State.Used (rules : List (String × Matcher)) (tokens : List Token)
    (K : Matcher → Prop) : State → Prop where
  | start (listening : Bool) : Used rules tokens K (.start tokens listening)
  | attempted {s : State} {m : Matcher} (cfg : Config) (depth : Nat) : Used rules tokens K s →
      K m → Used rules tokens K (attempt cfg (enterRule cfg rules depth) m s).2
  | consumed {s : State} : Used rules tokens K s → Used rules tokens K s.consume.2
  | moved {s : State} (p : Nat) : Used rules tokens K s → Used rules tokens K (s.moveTo p)
  | failed {s : State} (p : Nat) : Used rules tokens K s → Used rules tokens K (s.recordFailure p)
  | stamped {s : State} : Used rules tokens K s → Used rules tokens K s.stamped
  | reported {s : State} (subject : Subject) (phase : Phase) : Used rules tokens K s →
      Used rules tokens K (s.report subject phase)

theorem State.Truthful.consume (h : s.Truthful rules tokens K) :
    s.consume.2.Truthful rules tokens K := by
  simp only [State.consume]
  split
  · exact h.of_same rfl fun _ _ => rfl
  · exact h

/-- **Used states are truthful.** -/
theorem State.Used.truthful (hK : Family rules K) (h : s.Used rules tokens K) :
    s.Truthful rules tokens K := by
  induction h with
  | start listening => exact .start listening
  | attempted cfg depth _ hm ih =>
      exact (tells_attempt (fun _ => hK) depth (fun _ => hm) ih).truthful_end
  | consumed _ ih => exact ih.consume
  | moved p _ ih => exact ih.moveTo p
  | failed p _ ih => exact ih.recordFailure p
  | stamped _ ih => exact ih.stamped
  | reported subject phase _ ih => exact ih.report subject phase

end Packrat
