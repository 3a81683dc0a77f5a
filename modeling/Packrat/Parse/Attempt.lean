import Packrat.Parse.State

/-!
# Parse — Attempt

Trying matchers.  An attempt starts at the cursor of a state.  If it matches, the cursor ends up
after what was matched; if it fails, the cursor is where it was and the position of the failure has
been noted.  An attempt can also be aborted, which no choice point catches: rules are nested too
deeply, or a rule is not defined.

A matcher is tried by recursion on its structure (`attempt`), and a rule by recursion on how many
more rules may be entered (`enterRule`).  A repetition ends after a round that consumes nothing, so
the tokens that are left bound its rounds.
-/

namespace Packrat

/-- How to parse. -/
structure Config where
  /-- Are outcomes remembered, so that no matcher is tried twice at the same position? -/
  memoize : Bool
  /-- How many rules may be nested inside each other. -/
  maxDepth : Nat

/-- Outcomes are remembered, and 256 rules may be nested. -/
def Config.standard : Config := ⟨true, 256⟩

/-- Why a parse cannot go on. -/
inductive Abort where
  | depthExceeded (position limit : Nat)
  | undefinedRule (name : String)
  deriving DecidableEq

/-- Why an attempt did not match: the tokens are others, or the parse cannot go on. -/
inductive Failure where
  | backtrack (position : Nat)
  | abort (cause : Abort)
  deriving DecidableEq

/-- How an attempt ended: its result, and the state it left, which there is in any case. -/
abbrev Ending (α : Type) : Type :=
  Except Failure α × State

/-- Something tried in a state. -/
def Attempt (α : Type) : Type :=
  State → Ending α

namespace Attempt

/-- Goes on with what was found; a failure ends the attempt. -/
def andThen {α β : Type} (x : Attempt α) (f : α → Attempt β) : Attempt β := fun s =>
  match x s with
  | (.ok a, s) => f a s
  | (.error e, s) => (.error e, s)

instance : Monad Attempt where
  pure a := fun s => (.ok a, s)
  bind := andThen

/-! ### Producing matches -/

/-- A match with a node made just now. -/
def produce (node : Node) (trivia : List (Trivia Token)) (stop : Nat) : Attempt Match := fun s =>
  (.ok ⟨node, trivia, stop, s.stamps⟩, s.stamped)

/-- Matches without consuming or producing anything. -/
def produceNothing : Attempt Match := fun s =>
  produce .empty [] s.cursor s

/-- Fails at the cursor. -/
def failHere : Attempt Match := fun s =>
  (.error (.backtrack s.cursor), s)

/-- Several matches, one after the other, as one match that ends at the cursor. -/
def grouped (ms : List Match) : Attempt Match := fun s =>
  produce (.group (ms.map (·.node))) (ms.flatMap (·.trivia)) s.cursor s

/-- One token that passes the test. -/
def oneToken (test : Token → Bool) : Attempt Match := fun s =>
  match s.peek? 0 with
  | some t =>
    if test t then produce (.leaf t) [] (s.cursor + 1) (s.moveTo (s.cursor + 1)) else failHere s
  | none => failHere s

/-! ### From one attempt to another -/

/-- Hands the place where `x` started and its ending on to `f`. -/
def thenFrom {α β : Type} (x : Attempt α) (f : Nat → Ending α → Ending β) : Attempt β := fun s =>
  f s.cursor (x s)

/-- What was found, or nothing. -/
def orNothing (x : Attempt Match) : Attempt Match :=
  x.thenFrom fun start e =>
    match e with
    | (.error (.backtrack _), s) => produce .empty [] start s
    | e => e

/-- Matches where `x` does, and goes back. -/
def ahead (x : Attempt Match) : Attempt Match :=
  x.thenFrom fun start e =>
    match e with
    | (.ok _, s) => produce .empty [] start (s.moveTo start)
    | e => e

/-- Matches where `x` fails. -/
def notAhead (x : Attempt Match) : Attempt Match :=
  x.thenFrom fun start e =>
    match e with
    | (.ok _, s) => failHere (s.moveTo start)
    | (.error (.backtrack _), s) => produce .empty [] start s
    | e => e

/-- Goes on after a round of a repetition that began at `start`: one that consumed nothing is the
last, after any other there may be `more`. -/
def afterRound (more : Attempt (List Match)) (start : Nat) : Ending Match → Ending (List Match)
  | (.ok m, s) =>
    if m.stop = start then (.ok [m], s) else more.andThen (fun ms => pure (m :: ms)) s
  | (.error c, s) => (.error c, s)

/-- The rounds of a repetition: `x` again and again, until it fails or consumes nothing.  `fuel`
bounds the rounds. -/
def rounds (x : Attempt Match) : (fuel : Nat) → Attempt (List Match)
  | 0 => pure []
  | fuel + 1 =>
    x.thenFrom fun start e =>
      match e with
      | (.error (.backtrack _), s) => (.ok [], s)
      | e => afterRound (rounds x fuel) start e

/-- As many rounds as there are.  Every round but the last consumes something, and none goes past
the reach of the state. -/
def zeroOrMore (x : Attempt Match) : Attempt (List Match) := fun s =>
  rounds x (s.reach - s.cursor + 1) s

/-- The same, but the first round has to match. -/
def oneOrMore (x : Attempt Match) : Attempt (List Match) :=
  x.thenFrom (afterRound (zeroOrMore x))

/-- The node for tokens that become one token: without any, a node that has only the kind. -/
def tokenNode (kind : TokenKind) : List Token → Node
  | [] => .build (.token kind) none []
  | [t] => .leaf (t.retag kind)
  | t :: ts => .leaf ⟨kind, .join ((t :: ts).map (·.text)), t.caret, t.trivia⟩

/-- Where `x` matches, a node and trivia made from the match and the tokens it consumed. -/
def remade (make : Match → List Token → Node × List (Trivia Token)) (x : Attempt Match) :
    Attempt Match :=
  x.thenFrom fun start e =>
    match e with
    | (.ok m, s) =>
      let made := make m (s.between start m.stop)
      produce made.1 made.2 m.stop s
    | e => e

/-- What `x` consumes, as one token. -/
def asToken (kind : TokenKind) : Attempt Match → Attempt Match :=
  remade fun m consumed => (tokenNode kind consumed, m.trivia)

/-- What `x` consumes, as trivia after those that it captured itself. -/
def asTrivia (kind : TriviaKind) : Attempt Match → Attempt Match :=
  remade fun m consumed => (.empty, m.trivia ++ [⟨kind, consumed⟩])

/-- Does the second token start on the line of the first and no later than right after it? -/
def touches (previous next : Token) : Bool :=
  next.line = previous.line ∧ next.column ≤ previous.endColumn

/-- `x`, where the tokens around the cursor touch. -/
def ifAdjacent (x : Attempt Match) : Attempt Match := fun s =>
  match s.previous?, s.peek? 0 with
  | some previous, some next => if touches previous next then x s else failHere s
  | _, _ => failHere s

/-! ### The memo and the events -/

/-- Reports what happens to a matcher.  Of a reference to a rule, the rule itself is reported. -/
def announce (m : Matcher) (phase : Phase) (s : State) : State :=
  if m.isRule then s else s.report (.matcher m) phase

/-- Remembers an outcome, if outcomes are remembered. -/
def keep (cfg : Config) (m : Matcher) (position : Nat) (o : Outcome) (s : State) : State :=
  if cfg.memoize then s.remember m.id position o else s

/-- What the memo holds for a matcher at the cursor. -/
def remembered? (cfg : Config) (m : Matcher) (s : State) : Option Outcome :=
  if cfg.memoize then s.outcomeAt? m.id s.cursor else none

/-- Winds up an attempt of the matcher `m` that began at `start`.  If it did not match, the cursor
goes back; an abort leaves no other mark. -/
def concluded (cfg : Config) (m : Matcher) (start : Nat) : Ending Match → Ending Match
  | (.ok r, s) => (.ok r, keep cfg m start (.matched r) (announce m (.matched r.node) s))
  | (.error (.backtrack p), s) =>
    (.error (.backtrack p),
      keep cfg m start (.failed p) (announce m (.failed p) ((s.moveTo start).recordFailure p)))
  | (.error (.abort c), s) => (.error (.abort c), s.moveTo start)

/-- Tries the matcher `m` by `x`, unless the memo knows what happens.  What the memo knows is not
reported again. -/
def settled (cfg : Config) (m : Matcher) (x : Attempt Match) : Attempt Match := fun s =>
  match remembered? cfg m s with
  | some (.matched r) => (.ok r, s.moveTo r.stop)
  | some (.failed p) => (.error (.backtrack p), s)
  | none => x.thenFrom (concluded cfg m) (announce m .entered s)

section

variable {cfg : Config} {m : Matcher} {phase : Phase} {q : Nat} {o : Outcome} {s : State}

@[simp] theorem tokens_announce : (announce m phase s).tokens = s.tokens := by
  unfold announce; split <;> rfl
@[simp] theorem cursor_announce : (announce m phase s).cursor = s.cursor := by
  unfold announce; split <;> rfl
@[simp] theorem deepest_announce : (announce m phase s).deepest = s.deepest := by
  unfold announce; split <;> rfl
@[simp] theorem outcomeAt?_announce {id p : Nat} :
    (announce m phase s).outcomeAt? id p = s.outcomeAt? id p := by
  unfold announce; split <;> rfl

@[simp] theorem tokens_keep : (keep cfg m q o s).tokens = s.tokens := by
  unfold keep; split <;> rfl
@[simp] theorem cursor_keep : (keep cfg m q o s).cursor = s.cursor := by
  unfold keep; split <;> rfl
@[simp] theorem deepest_keep : (keep cfg m q o s).deepest = s.deepest := by
  unfold keep; split <;> rfl

theorem outcomeAt?_keep {id p : Nat} :
    (keep cfg m q o s).outcomeAt? id p =
      if cfg.memoize ∧ m.id = id ∧ q = p then some o else s.outcomeAt? id p := by
  unfold keep
  by_cases h : cfg.memoize = true <;> simp [h, State.outcomeAt?_remember]

/-- The memo is read only where outcomes are remembered. -/
theorem remembered?_eq_some_iff :
    remembered? cfg m s = some o ↔ cfg.memoize = true ∧ s.outcomeAt? m.id s.cursor = some o := by
  unfold remembered?
  by_cases h : cfg.memoize = true <;> simp [h]

end

end Attempt

open Attempt

/-! ### Matchers -/

mutual

/-- Tries a matcher; `enter` tries the rule of a name. -/
def attempt (cfg : Config) (enter : String → Attempt Match) : Matcher → Attempt Match
  | ⟨id, shape⟩ => settled cfg ⟨id, shape⟩ (attemptShape cfg enter shape)

def attemptShape (cfg : Config) (enter : String → Attempt Match) :
    Shape Matcher → Attempt Match
  | .literal text => oneToken fun t => t.text = text
  | .pattern p => oneToken fun t => p.accepts t.text
  | .ofKind k => oneToken fun t => t.kind = k
  | .sequence ms => do grouped (← attemptAll cfg enter ms)
  | .firstOf ms => fun s => attemptFirst cfg enter s.cursor ms s
  | .optional m => orNothing (attempt cfg enter m)
  | .oneOrMore m => do grouped (← oneOrMore (attempt cfg enter m))
  | .zeroOrMore m => do grouped (← zeroOrMore (attempt cfg enter m))
  | .next m => ahead (attempt cfg enter m)
  | .nextNot m => notAhead (attempt cfg enter m)
  | .endOfInput => fun s => if s.atEnd then produceNothing s else failHere s
  | .nothing => produceNothing
  | .token k m => asToken k (attempt cfg enter m)
  | .trivia k m => asTrivia k (attempt cfg enter m)
  | .adjacent m => ifAdjacent (attempt cfg enter m)
  | .rule name => enter name

/-- Tries matchers one after the other. -/
def attemptAll (cfg : Config) (enter : String → Attempt Match) :
    List Matcher → Attempt (List Match)
  | [] => pure []
  | m :: ms => do
    let r ← attempt cfg enter m
    let rs ← attemptAll cfg enter ms
    return r :: rs

/-- Tries matchers until one matches; if none does, the failure is the deepest of theirs. -/
def attemptFirst (cfg : Config) (enter : String → Attempt Match) (deepest : Nat) :
    List Matcher → Attempt Match
  | [] => fun s => (.error (.backtrack deepest), s)
  | m :: ms => fun s =>
    match attempt cfg enter m s with
    | (.error (.backtrack p), s') => attemptFirst cfg enter (max deepest p) ms s'
    | r => r

end

theorem attempt_eq (cfg : Config) (enter : String → Attempt Match) (m : Matcher) :
    attempt cfg enter m = settled cfg m (attemptShape cfg enter m.shape) := by
  cases m; rfl

/-! ### Rules -/

/-- Tries the rule of a name; `depth` is how many rules may still be entered. -/
def enterRule (cfg : Config) (rules : List (String × Matcher)) :
    (depth : Nat) → String → Attempt Match
  | 0, _ => fun s => (.error (.abort (.depthExceeded s.cursor cfg.maxDepth)), s)
  | depth + 1, name => fun s =>
    match rules.lookup name with
    | none => (.error (.abort (.undefinedRule name)), s)
    | some body =>
      match attempt cfg (enterRule cfg rules depth) body (s.report (.rule name) .entered) with
      | (.ok m, s') =>
        let node := Node.build (.rule name) none [m.node]
        produce node m.trivia m.stop (s'.report (.rule name) (.matched node))
      | (.error (.backtrack p), s') =>
        (.error (.backtrack p), s'.report (.rule name) (.failed p))
      | (.error (.abort c), s') => (.error (.abort c), s')

/-- Tries a matcher over the given rules. -/
def attemptWith (cfg : Config) (rules : List (String × Matcher)) (m : Matcher) : Attempt Match :=
  attempt cfg (enterRule cfg rules cfg.maxDepth) m

/-- An attempt as seen from outside: failing to match is an outcome, not an error. -/
def Attempt.outcome (x : Attempt Match) (s : State) : Except Abort Outcome × State :=
  match x s with
  | (.ok m, s') => (.ok (.matched m), s')
  | (.error (.backtrack p), s') => (.ok (.failed p), s')
  | (.error (.abort c), s') => (.error c, s')

/-- Tries a matcher outside of any grammar, where no rule is defined. -/
def Matcher.attempt (m : Matcher) (s : State) : Except Abort Outcome × State :=
  (attemptWith .standard [] m).outcome s

end Packrat
