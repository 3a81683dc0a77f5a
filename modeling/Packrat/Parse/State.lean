import Packrat.Matcher
import Std.Data.HashMap

/-!
# Parse — State

The state of one parse over a list of tokens: the cursor, and the bookkeeping that makes going back
cheap.  The memo says what each matcher did at each position where it was tried, and `deepest` is
the furthest position where anything failed.  Both only grow.  If somebody listens to the parse, the
state also keeps the events that happened so far.
-/

namespace Packrat

/-- A successful match: what it produced and where it ended.  `stamp` tells the nodes of one parse
apart: equal stamps mean that a node was handed on, not made again. -/
structure Match where
  node : Node
  trivia : List (Trivia Token)
  stop : Nat
  stamp : Nat

/-- What happened when a matcher was tried: it matched, or it failed at some position. -/
inductive Outcome where
  | matched (m : Match)
  | failed (position : Nat)

/-- What an event is about.  References to rules are reported as the rules they refer to. -/
inductive Subject where
  | rule (name : String)
  | matcher (m : Matcher)

/-- What happened to it. -/
inductive Phase where
  | entered
  | matched (node : Node)
  | failed (position : Nat)

/-- Something that happened during a parse, with the cursor and the furthest failure at that
moment. -/
structure Event where
  subject : Subject
  phase : Phase
  cursor : Nat
  deepest : Nat

/-- The state of one parse. -/
structure State where
  tokens : Array Token
  /-- The index of the next token. -/
  cursor : Nat
  /-- Outcomes by the number of the matcher and the position where it was tried. -/
  memo : Std.HashMap (Nat × Nat) Outcome
  /-- The furthest failure. -/
  deepest : Nat
  /-- No match in the memo ends after this position, and the tokens do not either. -/
  reach : Nat
  /-- The stamp of the next node. -/
  stamps : Nat
  /-- The events so far, if anybody listens. -/
  trace : Option (Array Event)
  size_le_reach : tokens.size ≤ reach
  stop_le_reach : ∀ {k : Nat × Nat} {m : Match}, memo[k]? = some (.matched m) → m.stop ≤ reach

namespace State

/-- The state before the first token. -/
def start (tokens : List Token) (listening : Bool) : State :=
  { tokens := tokens.toArray
    cursor := 0
    memo := ∅
    deepest := 0
    reach := tokens.length
    stamps := 0
    trace := if listening then some #[] else none
    size_le_reach := by simp
    stop_le_reach := by simp }

variable (s : State)

/-! ### Tokens -/

/-- The token that many places after the cursor. -/
def peek? (offset : Nat) : Option Token :=
  s.tokens[s.cursor + offset]?

/-- The token right before the cursor. -/
def previous? : Option Token :=
  if s.cursor = 0 then none else s.tokens[s.cursor - 1]?

def atEnd : Bool :=
  s.tokens.size ≤ s.cursor

/-- The next token, and the state after it; at the end the cursor stays. -/
def consume : Option Token × State :=
  match s.peek? 0 with
  | some t => (some t, { s with cursor := s.cursor + 1 })
  | none => (none, s)

/-- The tokens from one position to another; positions after the end are taken for the end. -/
def between (start stop : Nat) : List Token :=
  let stop := min stop s.tokens.size
  (s.tokens.extract (min start stop) stop).toList

/-- Puts the cursor somewhere else. -/
def moveTo (position : Nat) : State :=
  { s with cursor := position }

/-- The state after a node was made. -/
def stamped : State :=
  { s with stamps := s.stamps + 1 }

/-! ### Bookkeeping -/

/-- Notes that something failed. -/
def recordFailure (position : Nat) : State :=
  { s with deepest := max s.deepest position }

/-- What the matcher with the given number did when it was last tried at a position. -/
def outcomeAt? (id position : Nat) : Option Outcome :=
  s.memo[(id, position)]?

/-- How far matches go, once this outcome is among them. -/
def reachWith : Outcome → Nat
  | .matched m => max s.reach m.stop
  | .failed _ => s.reach

theorem reach_le_reachWith (o : Outcome) : s.reach ≤ s.reachWith o := by
  cases o with
  | matched m => exact Nat.le_max_left _ _
  | failed p => exact Nat.le_refl _

/-- Remembers what a matcher did at a position. -/
def remember (id position : Nat) (o : Outcome) : State :=
  { s with
    memo := s.memo.insert (id, position) o
    reach := s.reachWith o
    size_le_reach := Nat.le_trans s.size_le_reach (s.reach_le_reachWith o)
    stop_le_reach := fun {k m} h => by
      rw [Std.HashMap.getElem?_insert] at h
      split at h
      · cases h
        exact Nat.le_max_right _ _
      · exact Nat.le_trans (s.stop_le_reach h) (s.reach_le_reachWith o) }

/-- Reports an event, if anybody listens. -/
def report (subject : Subject) (phase : Phase) : State :=
  { s with trace := s.trace.map (·.push ⟨subject, phase, s.cursor, s.deepest⟩) }

/-! ### What each step changes -/

@[simp] theorem tokens_start (tokens : List Token) (listening : Bool) :
    (start tokens listening).tokens = tokens.toArray := rfl
@[simp] theorem cursor_start (tokens : List Token) (listening : Bool) :
    (start tokens listening).cursor = 0 := rfl
@[simp] theorem deepest_start (tokens : List Token) (listening : Bool) :
    (start tokens listening).deepest = 0 := rfl
@[simp] theorem outcomeAt?_start (tokens : List Token) (listening : Bool) (id q : Nat) :
    (start tokens listening).outcomeAt? id q = none := by
  simp [outcomeAt?, start]

variable (p id q : Nat) (o : Outcome) (subject : Subject) (phase : Phase)

@[simp] theorem tokens_moveTo : (s.moveTo p).tokens = s.tokens := rfl
@[simp] theorem tokens_stamped : s.stamped.tokens = s.tokens := rfl
@[simp] theorem tokens_recordFailure : (s.recordFailure p).tokens = s.tokens := rfl
@[simp] theorem tokens_remember : (s.remember id q o).tokens = s.tokens := rfl
@[simp] theorem tokens_report : (s.report subject phase).tokens = s.tokens := rfl

@[simp] theorem cursor_moveTo : (s.moveTo p).cursor = p := rfl
@[simp] theorem cursor_stamped : s.stamped.cursor = s.cursor := rfl
@[simp] theorem cursor_recordFailure : (s.recordFailure p).cursor = s.cursor := rfl
@[simp] theorem cursor_remember : (s.remember id q o).cursor = s.cursor := rfl
@[simp] theorem cursor_report : (s.report subject phase).cursor = s.cursor := rfl

@[simp] theorem deepest_moveTo : (s.moveTo p).deepest = s.deepest := rfl
@[simp] theorem deepest_stamped : s.stamped.deepest = s.deepest := rfl
@[simp] theorem deepest_recordFailure :
    (s.recordFailure p).deepest = max s.deepest p := rfl
@[simp] theorem deepest_remember : (s.remember id q o).deepest = s.deepest := rfl
@[simp] theorem deepest_report : (s.report subject phase).deepest = s.deepest := rfl

variable (id' q' : Nat)

@[simp] theorem outcomeAt?_moveTo : (s.moveTo p).outcomeAt? id q = s.outcomeAt? id q := rfl
@[simp] theorem outcomeAt?_stamped : s.stamped.outcomeAt? id q = s.outcomeAt? id q := rfl
@[simp] theorem outcomeAt?_recordFailure :
    (s.recordFailure p).outcomeAt? id q = s.outcomeAt? id q := rfl
@[simp] theorem outcomeAt?_report :
    (s.report subject phase).outcomeAt? id q = s.outcomeAt? id q := rfl

theorem outcomeAt?_remember :
    (s.remember id q o).outcomeAt? id' q' =
      if id = id' ∧ q = q' then some o else s.outcomeAt? id' q' := by
  simp only [outcomeAt?, remember, Std.HashMap.getElem?_insert, beq_iff_eq, Prod.mk.injEq]

end State

end Packrat
