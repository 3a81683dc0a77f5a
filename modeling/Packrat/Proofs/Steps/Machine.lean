import Mathlib.Logic.Function.Iterate
import Packrat.Parse

/-!
# Proofs — Steps — Machine

Attempts step by step.  An attempt is defined by recursion, on matchers, on the rules that may still
be entered and on a bound for the rounds of a repetition, so it cannot but end.  Here is the same
without any recursion: a machine that does one thing after the other and keeps in `Frame`s what it
has to come back to.  It counts the rules it is inside of, and it repeats for as long as the rounds
consume anything; nothing about its steps says that there is a last one.

A moment of the machine is finished when something ended and no frame waits for it, and then
nothing happens any more (`step_finished`).
-/

namespace Packrat

open Attempt

/-- What has to be done when a matcher that is being tried has ended. -/
inductive Frame where
  /-- Wind up the attempt of the matcher, which began at `start`. -/
  | concluded (m : Matcher) (start : Nat)
  /-- Go on with the rest of a sequence. -/
  | sequence (found : List Match) (rest : List Matcher)
  /-- If it failed, try the rest of the alternatives. -/
  | firstOf (deepest : Nat) (rest : List Matcher)
  | optional (start : Nat)
  | next (start : Nat)
  | nextNot (start : Nat)
  /-- Repeat the matcher, if this round, which began at `start`, was not the last. -/
  | round (m : Matcher) (atLeastOne : Bool) (found : List Match) (start : Nat)
  | token (kind : TokenKind) (start : Nat)
  | trivia (kind : TriviaKind) (start : Nat)
  /-- Leave the rule. -/
  | rule (name : String)

/-- What is done next. -/
inductive Task where
  /-- A matcher is tried at the cursor. -/
  | attempt (m : Matcher)
  /-- What was tried last has ended. -/
  | ended (r : Except Failure Match)

/-- Where the machine stands. -/
structure Moment where
  /-- The innermost frame comes first. -/
  frames : List Frame
  task : Task
  state : State
  /-- How many rules it is inside of. -/
  depth : Nat

namespace Moment

/-- A matcher is about to be tried, and nothing else. -/
def begun (m : Matcher) (s : State) : Moment :=
  ⟨[], .attempt m, s, 0⟩

/-- Something ended. -/
def ended (k : List Frame) (e : Ending Match) (d : Nat) : Moment :=
  ⟨k, .ended e.1, e.2, d⟩

/-- Something ended, and nothing waits for it. -/
def finished (e : Ending Match) : Moment :=
  ended [] e 0

/-- The rest of a sequence. -/
def goOn (k : List Frame) (found : List Match) (s : State) (d : Nat) : List Matcher → Moment
  | [] => ended k (grouped found s) d
  | m :: ms => ⟨.sequence found ms :: k, .attempt m, s, d⟩

/-- The rest of some alternatives. -/
def goBack (k : List Frame) (deepest : Nat) (s : State) (d : Nat) : List Matcher → Moment
  | [] => ended k (.error (.backtrack deepest), s) d
  | m :: ms => ⟨.firstOf deepest ms :: k, .attempt m, s, d⟩

/-- Beginning with what is inside of a matcher. -/
def inside (cfg : Config) (rules : List (String × Matcher)) (k : List Frame) (s : State) (d : Nat) :
    Shape Matcher → Moment
  | .literal text => ended k (oneToken (fun t => t.text = text) s) d
  | .pattern p => ended k (oneToken (fun t => p.accepts t.text) s) d
  | .ofKind kind => ended k (oneToken (fun t => t.kind = kind) s) d
  | .sequence ms => goOn k [] s d ms
  | .firstOf ms => goBack k s.cursor s d ms
  | .optional m => ⟨.optional s.cursor :: k, .attempt m, s, d⟩
  | .oneOrMore m => ⟨.round m true [] s.cursor :: k, .attempt m, s, d⟩
  | .zeroOrMore m => ⟨.round m false [] s.cursor :: k, .attempt m, s, d⟩
  | .next m => ⟨.next s.cursor :: k, .attempt m, s, d⟩
  | .nextNot m => ⟨.nextNot s.cursor :: k, .attempt m, s, d⟩
  | .endOfInput => ended k (if s.atEnd then produceNothing s else failHere s) d
  | .nothing => ended k (produceNothing s) d
  | .token kind m => ⟨.token kind s.cursor :: k, .attempt m, s, d⟩
  | .trivia kind m => ⟨.trivia kind s.cursor :: k, .attempt m, s, d⟩
  | .adjacent m =>
    match s.previous?, s.peek? 0 with
    | some previous, some next =>
      if touches previous next then ⟨k, .attempt m, s, d⟩ else ended k (failHere s) d
    | _, _ => ended k (failHere s) d
  | .rule name =>
    if cfg.maxDepth ≤ d then
      ended k (.error (.abort (.depthExceeded s.cursor cfg.maxDepth)), s) d
    else
      match rules.lookup name with
      | none => ended k (.error (.abort (.undefinedRule name)), s) d
      | some body => ⟨.rule name :: k, .attempt body, s.report (.rule name) .entered, d + 1⟩

end Moment

open Moment

/-- What a frame does with what ended. -/
def Frame.resumed (cfg : Config) (k : List Frame) (d : Nat) : Frame → Ending Match → Moment
  | .concluded m start, e => ended k (Attempt.concluded cfg m start e) d
  | .sequence found rest, (.ok r, s) => goOn k (found ++ [r]) s d rest
  | .firstOf deepest rest, (.error (.backtrack p), s) => goBack k (max deepest p) s d rest
  | .optional start, (.error (.backtrack _), s) => ended k (produce .empty [] start s) d
  | .next start, (.ok _, s) => ended k (produce .empty [] start (s.moveTo start)) d
  | .nextNot start, (.ok _, s) => ended k (failHere (s.moveTo start)) d
  | .nextNot start, (.error (.backtrack _), s) => ended k (produce .empty [] start s) d
  | .round m atLeastOne found start, (.ok r, s) =>
    if r.stop = start then ended k (grouped (found ++ [r]) s) d
    else ⟨.round m atLeastOne (found ++ [r]) s.cursor :: k, .attempt m, s, d⟩
  | .round _ atLeastOne found _, (.error (.backtrack p), s) =>
    if atLeastOne && found.isEmpty then ended k (.error (.backtrack p), s) d
    else ended k (grouped found s) d
  | .token kind start, (.ok r, s) =>
    ended k (produce (tokenNode kind (s.between start r.stop)) r.trivia r.stop s) d
  | .trivia kind start, (.ok r, s) =>
    ended k (produce .empty (r.trivia ++ [⟨kind, s.between start r.stop⟩]) r.stop s) d
  | .rule name, (.ok r, s) =>
    let node := Node.build (.rule name) none [r.node]
    ended k (produce node r.trivia r.stop (s.report (.rule name) (.matched node))) (d - 1)
  | .rule name, (.error (.backtrack p), s) =>
    ended k (.error (.backtrack p), s.report (.rule name) (.failed p)) (d - 1)
  | .rule _, e => ended k e (d - 1)
  -- whatever else ended, it is also the end of what waited for it
  | _, e => ended k e d

/-- One step. -/
def Moment.step (cfg : Config) (rules : List (String × Matcher)) : Moment → Moment
  | ⟨k, .attempt m, s, d⟩ =>
    match remembered? cfg m s with
    | some (.matched r) => ended k (.ok r, s.moveTo r.stop) d
    | some (.failed p) => ended k (.error (.backtrack p), s) d
    | none => inside cfg rules (.concluded m s.cursor :: k) (announce m .entered s) d m.shape
  | ⟨f :: k, .ended r, s, d⟩ => f.resumed cfg k d (r, s)
  | ⟨[], .ended r, s, d⟩ => ⟨[], .ended r, s, d⟩

variable {cfg : Config} {rules : List (String × Matcher)}

theorem step_finished (e : Ending Match) : step cfg rules (finished e) = finished e := rfl

/-! ### Several steps -/

/-- The first moment leads to the second in some number of steps. -/
def LeadsTo (cfg : Config) (rules : List (String × Matcher)) (a b : Moment) : Prop :=
  ∃ n, (step cfg rules)^[n] a = b

namespace LeadsTo

variable {a b c : Moment}

theorem refl (a : Moment) : LeadsTo cfg rules a a :=
  ⟨0, rfl⟩

theorem of_step (h : LeadsTo cfg rules (step cfg rules a) b) : LeadsTo cfg rules a b := by
  obtain ⟨n, hn⟩ := h
  exact ⟨n + 1, hn⟩

theorem trans (h : LeadsTo cfg rules a b) (h' : LeadsTo cfg rules b c) :
    LeadsTo cfg rules a c := by
  obtain ⟨n, rfl⟩ := h
  obtain ⟨n', rfl⟩ := h'
  exact ⟨n' + n, Function.iterate_add_apply _ _ _ _⟩

/-- When what the innermost frame waits for has ended, it goes on. -/
theorem resume {f : Frame} {k : List Frame} {e : Ending Match} {d : Nat}
    (h : LeadsTo cfg rules a (ended (f :: k) e d))
    (h' : LeadsTo cfg rules (f.resumed cfg k d e) b) : LeadsTo cfg rules a b :=
  h.trans (of_step h')

end LeadsTo

end Packrat
