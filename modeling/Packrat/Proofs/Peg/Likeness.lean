import Mathlib.Data.List.Forall2
import Packrat.Proofs.Peg.Soundness

/-!
# Proofs — Peg — Likeness

Two runs side by side, which differ in something that does not matter to attempts.  A `Likeness`
says which states, tokens, nodes, trivia and positions of the one run and the other are alike.  It
is *kept* if every step that attempts are made of leads from like states to like states and makes
like nodes of like parts.

**Likeness** (`Kept.alike_attempt`): if a likeness is kept, attempts of one matcher in like states
end alike, with a memo or without one, whether they are aborted or not.
-/

namespace Packrat

open Attempt

/-- Every state is truthful for no matchers. -/
theorem State.truthful_self (s : State) : s.Truthful [] s.tokens.toList fun _ => False :=
  .of_tokens Array.toArray_toList.symm

/-- What of two runs is alike. -/
structure Likeness where
  state : State → State → Prop
  token : Token → Token → Prop
  node : Node → Node → Prop
  trivia : Trivia Token → Trivia Token → Prop
  place : Nat → Nat → Prop

namespace Likeness

variable (L : Likeness)

/-- Matches with like parts.  The nodes were made at the same time. -/
structure Matches (r r' : Match) : Prop where
  node : L.node r.node r'.node
  trivia : List.Forall₂ L.trivia r.trivia r'.trivia
  stop : L.place r.stop r'.stop
  stamp : r.stamp = r'.stamp

inductive Outcomes : Outcome → Outcome → Prop where
  | matched {r r' : Match} : L.Matches r r' → Outcomes (.matched r) (.matched r')
  | failed {p p' : Nat} : L.place p p' → Outcomes (.failed p) (.failed p')

/-- What is reported of like things. -/
inductive Phases : Phase → Phase → Prop where
  | entered : Phases .entered .entered
  | matched {n n' : Node} : L.node n n' → Phases (.matched n) (.matched n')
  | failed {p p' : Nat} : L.place p p' → Phases (.failed p) (.failed p')

inductive Aborts : Abort → Abort → Prop where
  | undefinedRule (name : String) : Aborts (.undefinedRule name) (.undefinedRule name)
  | depthExceeded {p p' : Nat} (limit : Nat) : L.place p p' →
      Aborts (.depthExceeded p limit) (.depthExceeded p' limit)

inductive Failures : Failure → Failure → Prop where
  | backtrack {p p' : Nat} : L.place p p' → Failures (.backtrack p) (.backtrack p')
  | abort {c c' : Abort} : L.Aborts c c' → Failures (.abort c) (.abort c')

/-- Attempts that ended alike; `found` says which results are. -/
inductive Endings {α : Type} (found : α → α → Prop) : Ending α → Ending α → Prop where
  | ok {a a' : α} {s s' : State} : found a a' → L.state s s' → Endings found (.ok a, s) (.ok a', s')
  | error {e e' : Failure} {s s' : State} : L.Failures e e' → L.state s s' →
      Endings found (.error e, s) (.error e', s')

/-- In like states, the attempts end alike. -/
def Alike {α : Type} (found : α → α → Prop) (x x' : Attempt α) : Prop :=
  ∀ ⦃s s' : State⦄, L.state s s' → L.Endings found (x s) (x' s')

/-- Every step keeps the likeness. -/
structure Kept : Prop where
  -- what is read off a state
  cursor : ∀ {s s'}, L.state s s' → L.place s.cursor s'.cursor
  atEnd : ∀ {s s'}, L.state s s' → s.atEnd = s'.atEnd
  peek : ∀ {s s'}, L.state s s' → Option.Rel L.token (s.peek? 0) (s'.peek? 0)
  between : ∀ {s s' p p' q q'}, L.state s s' → L.place p p' → L.place q q' →
    List.Forall₂ L.token (s.between p q) (s'.between p' q')
  touching : ∀ {s s'}, L.state s s' →
    (Touching s.tokens.toList s.cursor ↔ Touching s'.tokens.toList s'.cursor)
  left : ∀ {s s'}, L.state s s' → s.reach - s.cursor = s'.reach - s'.cursor
  stamps : ∀ {s s'}, L.state s s' → s.stamps = s'.stamps
  outcome : ∀ {s s'}, L.state s s' → ∀ id,
    Option.Rel L.Outcomes (s.outcomeAt? id s.cursor) (s'.outcomeAt? id s'.cursor)
  -- what changes a state
  moveTo : ∀ {s s' p p'}, L.state s s' → L.place p p' → L.state (s.moveTo p) (s'.moveTo p')
  stamped : ∀ {s s'}, L.state s s' → L.state s.stamped s'.stamped
  recordFailure : ∀ {s s' p p'}, L.state s s' → L.place p p' →
    L.state (s.recordFailure p) (s'.recordFailure p')
  report : ∀ {s s' phase phase'}, L.state s s' → ∀ subject, L.Phases phase phase' →
    L.state (s.report subject phase) (s'.report subject phase')
  remember : ∀ {s s' p p' o o'}, L.state s s' → ∀ id, L.place p p' → L.Outcomes o o' →
    L.state (s.remember id p o) (s'.remember id p' o')
  -- positions
  place_eq : ∀ {p p' q q'}, L.place p p' → L.place q q' → (p = q ↔ p' = q')
  place_succ : ∀ {p p'}, L.place p p' → L.place (p + 1) (p' + 1)
  place_max : ∀ {p p' q q'}, L.place p p' → L.place q q' → L.place (max p q) (max p' q')
  -- tokens, nodes and trivia
  kind : ∀ {t t'}, L.token t t' → t.kind = t'.kind
  text : ∀ {t t'}, L.token t t' → t.text = t'.text
  leaf : ∀ {t t'}, L.token t t' → L.node (.leaf t) (.leaf t')
  tokenNode : ∀ {ts ts'}, List.Forall₂ L.token ts ts' → ∀ kind,
    L.node (tokenNode kind ts) (tokenNode kind ts')
  group : ∀ {ns ns'}, List.Forall₂ L.node ns ns' → L.node (.group ns) (.group ns')
  rule : ∀ {n n'}, L.node n n' → ∀ name,
    L.node (.build (.rule name) none [n]) (.build (.rule name) none [n'])
  captured : ∀ {ts ts'}, List.Forall₂ L.token ts ts' → ∀ kind, L.trivia ⟨kind, ts⟩ ⟨kind, ts'⟩

variable {L}

/-! ### Each way of trying -/

section

variable {α β : Type} {found : α → α → Prop} {found' : β → β → Prop} {x x' : Attempt α}

theorem Alike.andThen {f f' : α → Attempt β} (hx : L.Alike found x x')
    (hf : ∀ a a', found a a' → L.Alike found' (f a) (f' a')) :
    L.Alike found' (x.andThen f) (x'.andThen f') := by
  intro s s' h
  simp only [Attempt.andThen]
  have hx := hx h
  generalize x s = e at hx ⊢
  generalize x' s' = e' at hx ⊢
  cases hx with
  | ok ha hs => exact hf _ _ ha hs
  | error he hs => exact .error he hs

theorem alike_pure {a a' : α} (ha : found a a') : L.Alike found (pure a) (pure a') :=
  fun _ _ h => .ok ha h

end

namespace Kept

variable (hL : L.Kept) {α β : Type} {found : α → α → Prop} {found' : β → β → Prop}
  {x x' : Attempt α} {y y' : Attempt Match} {s s' : State}

include hL

theorem thenFrom {f f' : Nat → Ending α → Ending β} (hx : L.Alike found x x')
    (hf : ∀ start start' e e', L.place start start' → L.Endings found e e' →
      L.Endings found' (f start e) (f' start' e')) :
    L.Alike found' (x.thenFrom f) (x'.thenFrom f') :=
  fun _ _ h => hf _ _ _ _ (hL.cursor h) (hx h)

theorem empty : L.node .empty .empty :=
  hL.group .nil

theorem produce {n n' : Node} {tr tr' : List (Trivia Token)} {p p' : Nat} (hn : L.node n n')
    (htr : List.Forall₂ L.trivia tr tr') (hp : L.place p p') :
    L.Alike L.Matches (produce n tr p) (produce n' tr' p') :=
  fun _ _ h => .ok ⟨hn, htr, hp, hL.stamps h⟩ (hL.stamped h)

theorem produceEmpty {p p' : Nat} (hp : L.place p p') :
    L.Alike L.Matches (Attempt.produce .empty [] p) (Attempt.produce .empty [] p') :=
  hL.produce hL.empty .nil hp

theorem produceNothing : L.Alike L.Matches produceNothing produceNothing :=
  fun _ _ h => hL.produceEmpty (hL.cursor h) h

theorem failHere : L.Alike L.Matches failHere failHere :=
  fun _ _ h => .error (.backtrack (hL.cursor h)) h

/-- A test of the kind or of the text comes out the same. -/
theorem oneToken {test : Token → Bool} (ht : ∀ {t t'}, L.token t t' → test t = test t') :
    L.Alike L.Matches (oneToken test) (oneToken test) := by
  intro s s' h
  have hp := hL.peek h
  simp only [Attempt.oneToken]
  generalize s.peek? 0 = o at hp ⊢
  generalize s'.peek? 0 = o' at hp ⊢
  cases hp with
  | none => exact hL.failHere h
  | some htoken =>
      simp only [ht htoken]
      split
      · have hnext := hL.place_succ (hL.cursor h)
        exact hL.produce (hL.leaf htoken) .nil hnext (hL.moveTo h hnext)
      · exact hL.failHere h

theorem orNothing (hy : L.Alike L.Matches y y') : L.Alike L.Matches (orNothing y) (orNothing y') :=
  hL.thenFrom hy fun start start' e e' hstart he => by
    cases he with
    | ok hr hs => exact .ok hr hs
    | error hc hs =>
        cases hc with
        | backtrack => exact hL.produceEmpty hstart hs
        | abort hc => exact .error (.abort hc) hs

theorem ahead (hy : L.Alike L.Matches y y') : L.Alike L.Matches (ahead y) (ahead y') :=
  hL.thenFrom hy fun start start' e e' hstart he => by
    cases he with
    | ok _ hs => exact hL.produceEmpty hstart (hL.moveTo hs hstart)
    | error hc hs => exact .error hc hs

theorem notAhead (hy : L.Alike L.Matches y y') : L.Alike L.Matches (notAhead y) (notAhead y') :=
  hL.thenFrom hy fun start start' e e' hstart he => by
    cases he with
    | ok _ hs => exact hL.failHere (hL.moveTo hs hstart)
    | error hc hs =>
        cases hc with
        | backtrack => exact hL.produceEmpty hstart hs
        | abort hc => exact .error (.abort hc) hs

theorem remade {make : Match → List Token → Node × List (Trivia Token)}
    (hmake : ∀ {r r' ts ts'}, L.Matches r r' → List.Forall₂ L.token ts ts' →
      L.node (make r ts).1 (make r' ts').1 ∧
        List.Forall₂ L.trivia (make r ts).2 (make r' ts').2)
    (hy : L.Alike L.Matches y y') : L.Alike L.Matches (remade make y) (remade make y') :=
  hL.thenFrom hy fun start start' e e' hstart he => by
    cases he with
    | ok hr hs =>
        obtain ⟨hn, htr⟩ := hmake hr (hL.between hs hstart hr.stop)
        exact hL.produce hn htr hr.stop hs
    | error hc hs => exact .error hc hs

theorem asToken (kind : TokenKind) (hy : L.Alike L.Matches y y') :
    L.Alike L.Matches (asToken kind y) (asToken kind y') :=
  hL.remade (fun hr hts => ⟨hL.tokenNode hts kind, hr.trivia⟩) hy

theorem asTrivia (kind : TriviaKind) (hy : L.Alike L.Matches y y') :
    L.Alike L.Matches (asTrivia kind y) (asTrivia kind y') :=
  hL.remade
    (fun hr hts => ⟨hL.empty, List.rel_append hr.trivia (.cons (hL.captured hts kind) .nil)⟩) hy

theorem ifAdjacent (hy : L.Alike L.Matches y y') :
    L.Alike L.Matches (ifAdjacent y) (ifAdjacent y') := by
  intro s s' h
  by_cases ht : Touching s.tokens.toList s.cursor
  · rw [ifAdjacent_of_touching Array.toArray_toList.symm y ht,
      ifAdjacent_of_touching Array.toArray_toList.symm y' ((hL.touching h).mp ht)]
    exact hy h
  · rw [ifAdjacent_of_not_touching Array.toArray_toList.symm y ht,
      ifAdjacent_of_not_touching Array.toArray_toList.symm y' (mt (hL.touching h).mpr ht)]
    exact hL.failHere h

/-! ### Sequences and repetitions -/

theorem grouped {ms ms' : List Match} (h : List.Forall₂ L.Matches ms ms') :
    L.Alike L.Matches (grouped ms) (grouped ms') := by
  intro s s' hs
  have hn : List.Forall₂ L.node (ms.map (·.node)) (ms'.map (·.node)) :=
    List.rel_map (fun _ _ hr => hr.node) h
  have htr : List.Forall₂ L.trivia (ms.flatMap (·.trivia)) (ms'.flatMap (·.trivia)) :=
    List.rel_flatMap h fun _ _ hr => hr.trivia
  exact hL.produce (hL.group hn) htr (hL.cursor hs) hs

/-- Both rounds are the last if one is. -/
theorem afterRound {more more' : Attempt (List Match)}
    (hm : L.Alike (List.Forall₂ L.Matches) more more') {start start' : Nat}
    (hstart : L.place start start') {e e' : Ending Match} (he : L.Endings L.Matches e e') :
    L.Endings (List.Forall₂ L.Matches) (afterRound more start e) (afterRound more' start' e') := by
  cases he with
  | ok hr hs =>
      simp only [Attempt.afterRound, hL.place_eq hr.stop hstart]
      split
      · exact .ok (.cons hr .nil) hs
      · exact hm.andThen (fun _ _ hrs => alike_pure (.cons hr hrs)) hs
  | error hc hs => exact .error hc hs

theorem rounds (hy : L.Alike L.Matches y y') (fuel : Nat) :
    L.Alike (List.Forall₂ L.Matches) (rounds y fuel) (rounds y' fuel) := by
  induction fuel with
  | zero => exact alike_pure .nil
  | succ fuel ih =>
      refine hL.thenFrom hy fun start start' e e' hstart he => ?_
      have hafter := hL.afterRound ih hstart he
      cases he with
      | ok => exact hafter
      | error hc hs =>
          cases hc with
          | backtrack => exact .ok .nil hs
          | abort => exact hafter

/-- The same number of rounds is possible in both runs. -/
theorem zeroOrMore (hy : L.Alike L.Matches y y') :
    L.Alike (List.Forall₂ L.Matches) (zeroOrMore y) (zeroOrMore y') := by
  intro s s' h
  simp only [Attempt.zeroOrMore, hL.left h]
  exact hL.rounds hy _ h

theorem oneOrMore (hy : L.Alike L.Matches y y') :
    L.Alike (List.Forall₂ L.Matches) (oneOrMore y) (oneOrMore y') :=
  hL.thenFrom hy fun _ _ _ _ hstart he => hL.afterRound (hL.zeroOrMore hy) hstart he

/-! ### The memo -/

theorem announce (h : L.state s s') (m : Matcher) {phase phase' : Phase}
    (hphase : L.Phases phase phase') : L.state (announce m phase s) (announce m phase' s') := by
  simp only [Attempt.announce]
  split
  · exact h
  · exact hL.report h _ hphase

theorem keep (h : L.state s s') (cfg : Config) (m : Matcher) {p p' : Nat} (hp : L.place p p')
    {o o' : Outcome} (ho : L.Outcomes o o') : L.state (keep cfg m p o s) (keep cfg m p' o' s') := by
  simp only [Attempt.keep]
  split
  · exact hL.remember h _ hp ho
  · exact h

theorem remembered (h : L.state s s') (cfg : Config) (m : Matcher) :
    Option.Rel L.Outcomes (remembered? cfg m s) (remembered? cfg m s') := by
  simp only [remembered?]
  split
  · exact hL.outcome h _
  · exact .none

/-- Either both have an answer in the memo or neither has. -/
theorem settled (cfg : Config) (m : Matcher) (hy : L.Alike L.Matches y y') :
    L.Alike L.Matches (settled cfg m y) (settled cfg m y') := by
  intro s s' h
  have ho := hL.remembered h cfg m
  simp only [Attempt.settled]
  generalize remembered? cfg m s = o at ho ⊢
  generalize remembered? cfg m s' = o' at ho ⊢
  cases ho with
  | some ho =>
      cases ho with
      | matched hr => exact .ok hr (hL.moveTo h hr.stop)
      | failed hp => exact .error (.backtrack hp) h
  | none =>
      refine hL.thenFrom hy (fun start start' e e' hstart he => ?_)
        (hL.announce h m .entered)
      cases he with
      | ok hr hs =>
          exact .ok hr (hL.keep (hL.announce hs _ (.matched hr.node)) _ _ hstart (.matched hr))
      | error hc hs =>
          cases hc with
          | backtrack hp =>
              have hback := hL.recordFailure (hL.moveTo hs hstart) hp
              exact .error (.backtrack hp)
                (hL.keep (hL.announce hback _ (.failed hp)) _ _ hstart (.failed hp))
          | abort hc => exact .error (.abort hc) (hL.moveTo hs hstart)

/-! ### Matchers and rules -/

variable {cfg : Config} {enter : String → Attempt Match}

omit hL in
theorem attemptAll {ms : List Matcher}
    (hms : ∀ m ∈ ms, L.Alike L.Matches (attempt cfg enter m) (attempt cfg enter m)) :
    L.Alike (List.Forall₂ L.Matches) (attemptAll cfg enter ms) (attemptAll cfg enter ms) := by
  induction ms with
  | nil => exact alike_pure .nil
  | cons m ms ih =>
      obtain ⟨hm, hms⟩ := List.forall_mem_cons.mp hms
      exact hm.andThen fun r r' hr => (ih hms).andThen fun _ _ hrs => alike_pure (.cons hr hrs)

theorem attemptFirst {ms : List Matcher}
    (hms : ∀ m ∈ ms, L.Alike L.Matches (attempt cfg enter m) (attempt cfg enter m))
    {deepest deepest' : Nat} (hd : L.place deepest deepest') :
    L.Alike L.Matches (attemptFirst cfg enter deepest ms) (attemptFirst cfg enter deepest' ms) := by
  induction ms generalizing deepest deepest' with
  | nil => exact fun _ _ h => .error (.backtrack hd) h
  | cons m ms ih =>
      obtain ⟨hm, hms⟩ := List.forall_mem_cons.mp hms
      intro s s' h
      have hm := hm h
      simp only [Packrat.attemptFirst]
      generalize attempt cfg enter m s = e at hm ⊢
      generalize attempt cfg enter m s' = e' at hm ⊢
      cases hm with
      | ok hr hs => exact .ok hr hs
      | error hc hs =>
          cases hc with
          | backtrack hp => exact ih hms (hL.place_max hd hp) hs
          | abort hc => exact .error (.abort hc) hs

theorem attemptShape {shape : Shape Matcher}
    (hparts : ∀ m ∈ shape.parts, L.Alike L.Matches (attempt cfg enter m) (attempt cfg enter m))
    (henter : ∀ name, L.Alike L.Matches (enter name) (enter name)) :
    L.Alike L.Matches (attemptShape cfg enter shape) (attemptShape cfg enter shape) := by
  have hpart := fun m (hm : [m] = shape.parts) => hparts m (hm ▸ List.mem_singleton_self m)
  cases shape with
  | literal text => exact hL.oneToken fun ht => by simp only [hL.text ht]
  | pattern r => exact hL.oneToken fun ht => by simp only [hL.text ht]
  | ofKind k => exact hL.oneToken fun ht => by simp only [hL.kind ht]
  | sequence ms => exact (attemptAll hparts).andThen fun _ _ => hL.grouped
  | firstOf ms => exact fun s s' h => hL.attemptFirst hparts (hL.cursor h) h
  | optional m => exact hL.orNothing (hpart m rfl)
  | oneOrMore m => exact (hL.oneOrMore (hpart m rfl)).andThen fun _ _ => hL.grouped
  | zeroOrMore m => exact (hL.zeroOrMore (hpart m rfl)).andThen fun _ _ => hL.grouped
  | next m => exact hL.ahead (hpart m rfl)
  | nextNot m => exact hL.notAhead (hpart m rfl)
  | endOfInput =>
      intro s s' h
      simp only [Packrat.attemptShape, hL.atEnd h]
      split
      · exact hL.produceNothing h
      · exact hL.failHere h
  | nothing => exact hL.produceNothing
  | token k m => exact hL.asToken k (hpart m rfl)
  | trivia k m => exact hL.asTrivia k (hpart m rfl)
  | adjacent m => exact hL.ifAdjacent (hpart m rfl)
  | rule name => exact henter name

theorem attempt_of_enter (cfg : Config)
    (henter : ∀ name, L.Alike L.Matches (enter name) (enter name)) :
    ∀ m, L.Alike L.Matches (attempt cfg enter m) (attempt cfg enter m) := by
  refine Matcher.induction_parts fun m ih => ?_
  rw [attempt_eq]
  exact hL.settled cfg m (hL.attemptShape ih henter)

/-- Rules, by induction on how many may still be entered. -/
theorem enterRule (cfg : Config) (rules : List (String × Matcher)) (depth : Nat) : ∀ name,
    L.Alike L.Matches (enterRule cfg rules depth name) (enterRule cfg rules depth name) := by
  induction depth with
  | zero => exact fun name s s' h => .error (.abort (.depthExceeded _ (hL.cursor h))) h
  | succ depth ih =>
      intro name s s' h
      simp only [Packrat.enterRule]
      split
      · exact .error (.abort (.undefinedRule name)) h
      · next body _ =>
        have hx := hL.attempt_of_enter cfg ih body
          (hL.report h (.rule name) .entered)
        generalize attempt cfg (Packrat.enterRule cfg rules depth) body _ = e at hx ⊢
        generalize attempt cfg (Packrat.enterRule cfg rules depth) body _ = e' at hx ⊢
        cases hx with
        | ok hr hs =>
            have hnode := hL.rule hr.node name
            exact hL.produce hnode hr.trivia hr.stop (hL.report hs _ (.matched hnode))
        | error hc hs =>
            cases hc with
            | backtrack hp => exact .error (.backtrack hp) (hL.report hs _ (.failed hp))
            | abort hc => exact .error (.abort hc) hs

/-- **Likeness.** -/
theorem alike_attempt (cfg : Config) (rules : List (String × Matcher)) (m : Matcher) :
    L.Alike L.Matches (attemptWith cfg rules m) (attemptWith cfg rules m) :=
  hL.attempt_of_enter cfg (hL.enterRule cfg rules cfg.maxDepth) m

end Kept

end Likeness

end Packrat
