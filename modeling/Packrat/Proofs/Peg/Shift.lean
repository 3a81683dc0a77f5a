import Packrat.Proofs.Peg.Likeness

/-!
# Proofs — Peg — Shift

Two runs from different positions of two lists of tokens that are the same from there on.  An
attempt does not look at tokens before the cursor it starts at, but for the one right before it, of
which it may see whether the next token touches it.  Nor does it take notice of how many there are:
positions in states and results are only shifted, from `p + i` to `q + i`.

**Shift** (`attempt_shifts`): the outcomes of an attempt from such positions are the same up to
that, and so are the states that it leaves.
-/

namespace Packrat

open Attempt

/-- Positions as far from `p` and from `q`. -/
def ShiftsTo (p q a b : Nat) : Prop :=
  ∃ i, a = p + i ∧ b = q + i

/-- The outcome with its position shifted. -/
inductive Outcome.Shifted (p q : Nat) : Outcome → Outcome → Prop where
  | matched {n : Node} {tr : List (Trivia Token)} {a b stamp : Nat} : ShiftsTo p q a b →
      Shifted p q (.matched ⟨n, tr, a, stamp⟩) (.matched ⟨n, tr, b, stamp⟩)
  | failed {a b : Nat} : ShiftsTo p q a b → Shifted p q (.failed a) (.failed b)

/-- What an attempt came to, with its position shifted: an outcome or the cause of an abort. -/
inductive Shifted (p q : Nat) : Except Abort Outcome → Except Abort Outcome → Prop where
  | outcome {o o' : Outcome} : o.Shifted p q o' → Shifted p q (.ok o) (.ok o')
  | undefinedRule (name : String) :
      Shifted p q (.error (.undefinedRule name)) (.error (.undefinedRule name))
  | depthExceeded {a b : Nat} (limit : Nat) : ShiftsTo p q a b →
      Shifted p q (.error (.depthExceeded a limit)) (.error (.depthExceeded b limit))

/-- From `p` and from `q` on, the states are the same, but for the furthest failure and the
events. -/
structure State.Shifted (p q : Nat) (s s' : State) : Prop where
  tokens_eq : s.tokens.toList.drop p = s'.tokens.toList.drop q
  touching_iff : ∀ i, Touching s.tokens.toList (p + i) ↔ Touching s'.tokens.toList (q + i)
  cursor : ShiftsTo p q s.cursor s'.cursor
  reach_eq : s.reach - p = s'.reach - q
  stamps_eq : s.stamps = s'.stamps
  outcome : ∀ id i, Option.Rel (Outcome.Shifted p q) (s.outcomeAt? id (p + i))
    (s'.outcomeAt? id (q + i))

/-- The likeness of two runs that are shifted against each other. -/
def shift (p q : Nat) : Likeness :=
  ⟨State.Shifted p q, Eq, Eq, Eq, ShiftsTo p q⟩

variable {p q a b : Nat} {s s' : State} {o o' : Outcome}

theorem forall₂_eq_iff {α : Type} {l l' : List α} : List.Forall₂ Eq l l' ↔ l = l' := by
  rw [List.forall₂_eq_eq_eq]

theorem getElem?_of_drop_eq {α : Type} {l l' : List α} (h : l.drop p = l'.drop q) (i : Nat) :
    l[p + i]? = l'[q + i]? := by
  rw [← List.getElem?_drop, h, List.getElem?_drop]

/-! ### Outcomes -/

theorem Outcome.Shifted.outcomes (h : o.Shifted p q o') : (shift p q).Outcomes o o' := by
  cases h with
  | matched hp => exact .matched ⟨rfl, forall₂_eq_iff.mpr rfl, hp, rfl⟩
  | failed hp => exact .failed hp

theorem outcome_shifted_of_outcomes (h : (shift p q).Outcomes o o') : o.Shifted p q o' := by
  cases h with
  | @matched r r' hr =>
      obtain ⟨n, tr, stop, stamp⟩ := r
      obtain ⟨n', tr', stop', stamp'⟩ := r'
      obtain ⟨rfl, htr, hstop, rfl⟩ := hr
      obtain rfl := forall₂_eq_iff.mp htr
      exact .matched hstop
  | failed hp => exact .failed hp

/-! ### States -/

namespace State.Shifted

theorem getElem?_eq (h : s.Shifted p q s') (i : Nat) : s.tokens[p + i]? = s'.tokens[q + i]? := by
  simpa using getElem?_of_drop_eq h.tokens_eq i

theorem between_eq (h : s.Shifted p q s') (i j : Nat) :
    s.between (p + i) (p + j) = s'.between (q + i) (q + j) := by
  rw [s.truthful_self.between_eq, s'.truthful_self.between_eq]
  simp only [List.extract_eq_take_drop, Nat.add_sub_add_left, ← List.drop_drop, h.tokens_eq]

theorem remember (h : s.Shifted p q s') (id : Nat) (hp : ShiftsTo p q a b)
    (ho : o.Shifted p q o') : (s.remember id a o).Shifted p q (s'.remember id b o') := by
  obtain ⟨i, rfl, rfl⟩ := hp
  refine { h with reach_eq := ?_, outcome := fun id' j => ?_ }
  · cases ho with
    | matched hstop =>
        obtain ⟨j, rfl, rfl⟩ := hstop
        have hreach := h.reach_eq
        simp only [State.remember, State.reachWith]
        omega
    | failed => exact h.reach_eq
  · simp only [State.outcomeAt?_remember, Nat.add_left_cancel_iff]
    split
    · exact .some ho
    · exact h.outcome id' j

end State.Shifted

/-- Every step keeps the shift. -/
theorem kept_shift (p q : Nat) : (shift p q).Kept where
  cursor := State.Shifted.cursor
  atEnd := fun {s s'} h => by
    obtain ⟨i, hi, hi'⟩ := h.cursor
    have hn := h.getElem?_eq i
    rw [State.atEnd, State.atEnd, decide_eq_decide, hi, hi', ← Array.getElem?_eq_none_iff, hn,
      Array.getElem?_eq_none_iff]
  peek := fun {s s'} h => by
    obtain ⟨i, hi, hi'⟩ := h.cursor
    rw [State.peek?, State.peek?, hi, hi', Nat.add_zero, Nat.add_zero, h.getElem?_eq]
    cases s'.tokens[q + i]? with
    | none => exact .none
    | some t => exact .some rfl
  between := fun h hp hq => by
    obtain ⟨i, rfl, rfl⟩ := hp
    obtain ⟨j, rfl, rfl⟩ := hq
    exact forall₂_eq_iff.mpr (h.between_eq i j)
  touching := fun h => by
    obtain ⟨i, hi, hi'⟩ := h.cursor
    rw [hi, hi', h.touching_iff]
  left := fun h => by
    obtain ⟨i, hi, hi'⟩ := h.cursor
    rw [hi, hi', Nat.sub_add_eq, Nat.sub_add_eq, h.reach_eq]
  stamps := State.Shifted.stamps_eq
  outcome := fun h id => by
    obtain ⟨i, hi, hi'⟩ := h.cursor
    have ho := h.outcome id i
    rw [hi, hi']
    generalize State.outcomeAt? _ id (p + i) = o at ho ⊢
    generalize State.outcomeAt? _ id (q + i) = o' at ho ⊢
    cases ho with
    | none => exact .none
    | some ho => exact .some ho.outcomes
  moveTo := fun h hp => { h with cursor := hp }
  stamped := fun h => { h with stamps_eq := congrArg (· + 1) h.stamps_eq }
  recordFailure := fun h _ => { h with }
  report := fun h _ _ => { h with }
  remember := fun h id hp ho => h.remember id hp (outcome_shifted_of_outcomes ho)
  place_eq := fun ⟨i, hi, hi'⟩ ⟨j, hj, hj'⟩ => by omega
  place_succ := fun ⟨i, hi, hi'⟩ => ⟨i + 1, by omega, by omega⟩
  place_max := fun ⟨i, hi, hi'⟩ ⟨j, hj, hj'⟩ => ⟨max i j, by omega, by omega⟩
  kind := congrArg Token.kind
  text := congrArg Token.text
  leaf := congrArg Node.leaf
  tokenNode := fun h kind => congrArg (tokenNode kind) (forall₂_eq_iff.mp h)
  group := fun h => congrArg Node.group (forall₂_eq_iff.mp h)
  rule := fun h name => congrArg (fun n => Node.build (.rule name) none [n]) h
  captured := fun h kind => congrArg (Trivia.mk kind) (forall₂_eq_iff.mp h)

/-! ### Attempts -/

section

variable {tokens tokens' : List Token} (h : tokens.drop p = tokens'.drop q)

include h

/-- Whether a token touches the one before it takes both of them. -/
theorem touching_of_drop_eq {i : Nat} (ht : Touching tokens (p + 1 + i)) :
    Touching tokens' (q + 1 + i) := by
  obtain ⟨r, previous, next, hr, hprevious, hnext, htouch⟩ := ht
  obtain rfl : r = p + i := by omega
  refine ⟨q + i, previous, next, by omega, ?_, ?_, htouch⟩
  · rwa [← getElem?_of_drop_eq h i]
  · rw [Nat.add_assoc] at hnext ⊢
    rwa [← getElem?_of_drop_eq h (1 + i)]

theorem shifted_start (listening listening' : Bool) :
    ((State.start tokens listening).moveTo (p + 1)).Shifted (p + 1) (q + 1)
      ((State.start tokens' listening').moveTo (q + 1)) where
  tokens_eq := by
    have hnext := congrArg (List.drop 1) h
    simpa using hnext
  touching_iff := fun i => ⟨touching_of_drop_eq h, touching_of_drop_eq h.symm⟩
  cursor := ⟨0, rfl, rfl⟩
  reach_eq := by
    have hlength := congrArg List.length h
    simp only [List.length_drop] at hlength
    show tokens.length - (p + 1) = tokens'.length - (q + 1)
    omega
  stamps_eq := rfl
  outcome := fun id i => by
    simp only [State.outcomeAt?_moveTo, State.outcomeAt?_start]
    exact .none

/-- **Shift.**  The tokens are the same from the one before the cursor on. -/
theorem attempt_shifts (cfg : Config) (rules : List (String × Matcher)) (m : Matcher)
    (listening listening' : Bool) :
    let e := (attemptWith cfg rules m).outcome ((State.start tokens listening).moveTo (p + 1))
    let e' := (attemptWith cfg rules m).outcome ((State.start tokens' listening').moveTo (q + 1))
    Shifted (p + 1) (q + 1) e.1 e'.1 ∧ e.2.Shifted (p + 1) (q + 1) e'.2 := by
  intro e e'
  have hends := (kept_shift (p + 1) (q + 1)).alike_attempt cfg rules m
    (shifted_start h listening listening')
  simp only [e, e', Attempt.outcome]
  generalize attemptWith cfg rules m _ = x at hends ⊢
  generalize attemptWith cfg rules m _ = x' at hends ⊢
  cases hends with
  | ok hr hs => exact ⟨.outcome (outcome_shifted_of_outcomes (.matched hr)), hs⟩
  | error he hs =>
      cases he with
      | backtrack hp => exact ⟨.outcome (.failed hp), hs⟩
      | abort hc =>
          cases hc with
          | undefinedRule name => exact ⟨.undefinedRule name, hs⟩
          | depthExceeded limit hp => exact ⟨.depthExceeded limit hp, hs⟩

end

/-- The arguments of a call, which have to touch its name: at the start of the tokens, and behind
two others. -/
theorem arguments_shifted_behind_others :
    let call : List Token := [.ofText .identifier "f" ⟨2, 1⟩, .ofText .punctuator "(" ⟨2, 2⟩,
      .ofText .identifier "x" ⟨2, 3⟩, .ofText .punctuator ")" ⟨2, 4⟩]
    let others : List Token := [.ofText .identifier "y" ⟨1, 1⟩, .ofText .punctuator ";" ⟨1, 2⟩]
    let body : Matcher := ⟨5, .sequence [⟨1, .adjacent ⟨0, .literal "("⟩⟩,
      ⟨3, .zeroOrMore ⟨2, .ofKind .identifier⟩⟩, ⟨4, .literal ")"⟩]⟩
    let rules : List (String × Matcher) := [("arguments", body)]
    let m : Matcher := ⟨6, .rule "arguments"⟩
    let cfg : Config := ⟨false, 1⟩
    let e := (attemptWith cfg rules m).outcome ((State.start call false).moveTo 1)
    let e' := (attemptWith cfg rules m).outcome ((State.start (others ++ call) true).moveTo 3)
    call.drop 0 = (others ++ call).drop 2 ∧ e.2.cursor = 4 ∧
      Shifted 1 3 e.1 e'.1 ∧ e.2.Shifted 1 3 e'.2 := by
  intro call others body rules m cfg e e'
  have h : call.drop 0 = (others ++ call).drop 2 := rfl
  have hcursor : e.2.cursor = 4 := by decide +kernel
  exact ⟨h, hcursor, attempt_shifts h cfg rules m false true⟩

end Packrat
