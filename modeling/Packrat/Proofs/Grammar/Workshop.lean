import Packrat.Proofs.Grammar.Drafts

/-!
# Proofs — Grammar — Workshop

How grammars come about.  A `Workshop` is where one program builds matchers and grammars: it has
the number of the next matcher, the results of all calls so far, the draft that is being worked on
and the grammars that were built.  In a *reachable* workshop all of that came out of calls, each
of which was given what earlier ones returned, in any way; calls that fail count, too.

There is one draft at a time.  What a second one would do to the rest of the workshop, calls do.

**In step** (`Reachable.inStep`): in a reachable workshop, the names in the order of the draft are
those that have bodies, each of them once.

**Grammars are closed** (`Reachable.closed`): in a reachable workshop, whatever a rule of a
grammar refers to is defined, and so is the root.
-/

namespace Packrat

/-! ### Calls -/

namespace Input

mutual

/-- The matchers that an input has in it. -/
def uses : Input → List Matcher
  | .matcher m => [m]
  | .many is => usesAll is
  | .text _ | .char _ | .tokenKind _ | .node _ | .invalid _ => []

def usesAll : List Input → List Matcher
  | [] => []
  | i :: is => i.uses ++ usesAll is

end

end Input

/-- A call of a builder. -/
inductive BuilderCall where
  | literal (text : String)
  | regexp (source : String)
  | endOfInput
  | nothing
  | rule (name : String)
  | sequence (inputs : List Input)
  | firstOf (inputs : List Input)
  | optional (input : Input)
  | oneOrMore (input : Input)
  | zeroOrMore (input : Input)
  | next (input : Input)
  | nextNot (input : Input)
  | token (kind : NodeKind) (input : Input)
  | commentTrivia (input : Input)
  | skippedTrivia (input : Input)
  | adjacent (input : Input)

namespace BuilderCall

/-- What is called. -/
def build : BuilderCall → Build Matcher
  | literal text => Matcher.literal text
  | regexp source => Matcher.regexp source
  | endOfInput => Matcher.endOfInput
  | nothing => Matcher.nothing
  | rule name => Matcher.rule name
  | sequence is => Matcher.sequence is
  | firstOf is => Matcher.firstOf is
  | optional i => Matcher.optional i
  | oneOrMore i => Matcher.oneOrMore i
  | zeroOrMore i => Matcher.zeroOrMore i
  | next i => Matcher.next i
  | nextNot i => Matcher.nextNot i
  | token k i => Matcher.token k i
  | commentTrivia i => Matcher.commentTrivia i
  | skippedTrivia i => Matcher.skippedTrivia i
  | adjacent i => Matcher.adjacent i

/-- The matchers that a call is given. -/
def uses : BuilderCall → List Matcher
  | sequence is | firstOf is => Input.usesAll is
  | optional i | oneOrMore i | zeroOrMore i | next i | nextNot i | token _ i | commentTrivia i
  | skippedTrivia i | adjacent i => i.uses
  | literal _ | regexp _ | endOfInput | nothing | rule _ => []

end BuilderCall

/-! ### Workshops -/

/-- Where matchers and grammars are built. -/
structure Workshop where
  /-- The number of the next matcher. -/
  next : Nat
  /-- The matchers that calls returned. -/
  made : List Matcher
  draft : Draft
  /-- The grammars that were built. -/
  grammars : List Grammar

namespace Workshop

/-- Nothing was built so far; the numbers may start anywhere. -/
def opened (n : Nat) : Workshop :=
  ⟨n, [], .blank, []⟩

variable (w : Workshop)

/-- The workshop after a call of a builder. -/
def called (c : BuilderCall) : Workshop :=
  match c.build.runFrom w.next with
  | (.ok m, n) => { w with next := n, made := m :: w.made }
  | (.error _, n) => { w with next := n }

/-- The workshop after a definition in the draft, which is worked on even if the definition
fails. -/
def defined (name : String) (body : Input) : Workshop :=
  match (Draft.define name body).runFrom w.draft w.next with
  | ((.ok m, d), n) => { w with next := n, made := m :: w.made, draft := d }
  | ((.error _, d), n) => { w with next := n, draft := d }

/-- The workshop after building the draft, which is used up by that. -/
def built (root : String) : Workshop :=
  match Build.runFrom (w.draft.build root) w.next with
  | (.ok g, n) => { w with next := n, draft := .blank, grammars := g :: w.grammars }
  | (.error _, n) => { w with next := n, draft := .blank }

/-- The matchers one can get hold of: what calls returned, what was defined, the roots and bodies of
grammars, and what is inside of any of these. -/
inductive Known : Matcher → Prop where
  | made {m} : m ∈ w.made → Known m
  | drafted {name m} : (name, m) ∈ w.draft.rules → Known m
  | root {g} : g ∈ w.grammars → Known g.root
  | body {g name m} : g ∈ w.grammars → (name, m) ∈ g.rules → Known m
  | part {m m'} : Known m → m' ∈ m.parts → Known m'

/-- Workshops that came out of calls which were given known matchers. -/
inductive Reachable : Workshop → Prop where
  | opened (n : Nat) : Reachable (opened n)
  | called {w : Workshop} (c : BuilderCall) : Reachable w → (∀ m ∈ c.uses, w.Known m) →
      Reachable (w.called c)
  | defined {w : Workshop} (name : String) (body : Input) : Reachable w →
      (∀ m ∈ body.uses, w.Known m) → Reachable (w.defined name body)
  | built {w : Workshop} (root : String) : Reachable w → Reachable (w.built root)

end Workshop

/-! ### In step -/

namespace Workshop

/-- **In step.** -/
theorem Reachable.inStep {w : Workshop} (h : w.Reachable) : w.draft.InStep := by
  induction h with
  | opened n => exact .blank
  | called c _ _ ih =>
      simp only [Workshop.called]
      split <;> exact ih
  | @defined w name body _ _ ih =>
      have hd := ih.define name body w.next
      simp only [Workshop.defined]
      generalize (Draft.define name body).runFrom w.draft w.next = e at hd
      rcases e with ⟨⟨_ | _, _⟩, _⟩ <;> exact hd
  | built root _ _ =>
      simp only [Workshop.built]
      split <;> exact .blank

end Workshop

/-! ### Grammars are closed -/

theorem Matcher.references_mem : ∀ {ms : List Matcher} {m : Matcher}, m ∈ ms →
    ∀ name ∈ m.references, name ∈ Matcher.referencesList ms
  | _ :: _, _, h, _, hn => by
      rcases List.mem_cons.mp h with rfl | h
      · exact List.mem_append_left _ hn
      · exact List.mem_append_right _ (references_mem h _ hn)

/-- The references in a part are references in the whole. -/
theorem Matcher.references_part {m m' : Matcher} (h : m' ∈ m.parts) :
    ∀ name ∈ m'.references, name ∈ m.references := by
  obtain ⟨i, shape⟩ := m
  intro name hn
  cases shape with
  | sequence ms | firstOf ms => exact Matcher.references_mem h _ hn
  | optional | oneOrMore | zeroOrMore | next | nextNot | token | trivia | adjacent =>
      exact List.eq_of_mem_singleton h ▸ hn
  | literal | pattern | ofKind | endOfInput | nothing | rule => cases h

/-- All rules that the matcher refers to are defined. -/
def Matcher.Resolved (rules : List (String × Matcher)) (m : Matcher) : Prop :=
  ∀ name ∈ m.references, rules.lookup name ≠ none

theorem Matcher.Resolved.part {rules : List (String × Matcher)} {m m' : Matcher}
    (h : m.Resolved rules) (hm : m' ∈ m.parts) : m'.Resolved rules :=
  fun name hn => h name (Matcher.references_part hm name hn)

/-- The root and all rules refer only to rules of the grammar. -/
structure Grammar.Closed (g : Grammar) : Prop where
  root : g.root.Resolved g.rules
  body : ∀ {name m}, (name, m) ∈ g.rules → m.Resolved g.rules

/-- Nothing dangles where all references are resolved. -/
theorem Draft.InStep.firstDangling?_eq_none_iff {d : Draft} (h : d.InStep) :
    d.firstDangling? = none ↔ ∀ name m, (name, m) ∈ d.rules → m.Resolved d.rules := by
  have hbody : ∀ m : Matcher, d.dangling? m = none ↔ m.Resolved d.rules := fun m => by
    simp only [dangling?, List.find?_eq_none, Matcher.Resolved, Bool.not_eq_true,
      Bool.not_eq_false', isDefined_iff]
  simp only [firstDangling?, List.findSome?_eq_none_iff, Option.map_eq_none_iff, hbody]
  constructor
  · intro hall name m hm
    have hget := hall name (h.mem_order hm)
    rwa [h.lookup_iff.mpr hm] at hget
  · intro hall name hname
    obtain ⟨m, hm⟩ := h.exists_body hname
    rw [hm]
    exact hall name m (mem_of_lookup hm)

namespace Workshop

/-- The grammars of a reachable workshop are closed. -/
theorem Reachable.closed {w : Workshop} (h : w.Reachable) : ∀ g ∈ w.grammars, g.Closed := by
  induction h with
  | opened n => nofun
  | @called w c _ _ ih =>
      simp only [Workshop.called]
      split <;> exact ih
  | @defined w name body _ _ ih =>
      simp only [Workshop.defined]
      split <;> exact ih
  | @built w root hw ih =>
      simp only [Workshop.built]
      rw [runFrom_build]
      by_cases hr : w.draft.isDefined root = true
      · rw [if_pos hr]
        -- what was checked is what makes the new grammar closed
        cases hd : w.draft.firstDangling? with
        | some r => exact ih
        | none =>
            refine List.forall_mem_cons.mpr ⟨⟨?_, fun {_ _} => ?_⟩, ih⟩
            · intro name hn
              rw [List.eq_of_mem_singleton hn]
              exact Draft.isDefined_iff.mp hr
            · exact hw.inStep.firstDangling?_eq_none_iff.mp hd _ _
      · rw [if_neg hr]
        exact ih

end Workshop

end Packrat
