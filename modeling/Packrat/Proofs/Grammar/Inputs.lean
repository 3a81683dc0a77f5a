import Packrat.Proofs.Grammar.Workshop

/-!
# Proofs — Grammar — Inputs

What becomes of the inputs of a builder.  Inputs are handed to builders: those of a call to the one
that is called, and those in a collection to `sequence`, at any depth.  `Input.handed` lists them
from left to right, and the *first mistake* is that of the first one in the list which has any.

Where there is no mistake an input becomes a matcher (`Input.Becomes`): a matcher stays what it is,
a collection of one input becomes what that one does, and a collection of more becomes a sequence.

**Calls** (`call_reports_first_mistake`): a call of a builder fails if and only if there is a
mistake, with the first one, and else it returns what its inputs became, in a matcher of its own
unless the builder hands a single input on.
-/

namespace Packrat

namespace Input

/-! ### Mistakes -/

mutual

/-- The input, where it is handed to the builder `o`, and all inputs in it, with the builders these
are handed to. -/
def handed (o : Operator) : Input → List (Operator × Input)
  | .many is => (o, .many is) :: handedAll .sequence is
  | .matcher m => [(o, .matcher m)]
  | .text s => [(o, .text s)]
  | .char c => [(o, .char c)]
  | .tokenKind k => [(o, .tokenKind k)]
  | .node k => [(o, .node k)]
  | .invalid e => [(o, .invalid e)]

def handedAll (o : Operator) : List Input → List (Operator × Input)
  | [] => []
  | i :: is => i.handed o ++ handedAll o is

end

/-- The mistake that an input itself is where it is handed to the builder `o`. -/
def mistake? (o : Operator) : Input → Option GrammarError
  | .text s => if s.isEmpty then some .emptyLiteral else none
  | .many is => if is.isEmpty then some (.noInputs o) else none
  | .invalid e => some e
  | .matcher _ | .char _ | .tokenKind _ | .node _ => none

/-- The first mistake in what is listed. -/
def firstMistakeIn? (handed : List (Operator × Input)) : Option GrammarError :=
  handed.findSome? fun (o, i) => i.mistake? o

/-- The first mistake in an input that is handed to the builder `o`. -/
def firstMistake? (o : Operator) (i : Input) : Option GrammarError :=
  firstMistakeIn? (i.handed o)

/-- Texts and collections without anything in them, and failed calls. -/
inductive IsMistake : Input → Prop where
  | text : IsMistake (.text "")
  | many : IsMistake (.many [])
  | invalid (e : GrammarError) : IsMistake (.invalid e)

theorem isSome_mistake?_iff {o : Operator} {i : Input} :
    (i.mistake? o).isSome = true ↔ i.IsMistake := by
  constructor
  · intro h
    cases i with
    | text s =>
        by_cases hs : s = ""
        · exact hs ▸ .text
        · simp [mistake?, hs] at h
    | many is =>
        cases is with
        | nil => exact .many
        | cons => cases h
    | invalid e => exact .invalid e
    | matcher | char | tokenKind | node => cases h
  · rintro (_ | _ | e) <;> rfl

/-- There is a first mistake where there is one. -/
theorem firstMistakeIn?_isSome_iff {l : List (Operator × Input)} :
    (firstMistakeIn? l).isSome = true ↔ ∃ p ∈ l, p.2.IsMistake := by
  simp only [firstMistakeIn?, List.findSome?_isSome_iff, isSome_mistake?_iff]

/-! ### What inputs become -/

mutual

/-- The input becomes the matcher, where the next new matcher gets the number `n` before and `n'`
afterwards. -/
inductive Becomes : Nat → Input → Matcher → Nat → Prop where
  | matcher {n} (m : Matcher) : Becomes n (.matcher m) m n
  | text {n} {s : String} : s ≠ "" → Becomes n (.text s) ⟨n, .literal s⟩ (n + 1)
  | char {n} (c : Char) : Becomes n (.char c) ⟨n, .literal c.toString⟩ (n + 1)
  | tokenKind {n} (k : TokenKind) : Becomes n (.tokenKind k) ⟨n, .ofKind k⟩ (n + 1)
  | token {n} (k : TokenKind) : Becomes n (.node (.token k)) ⟨n, .ofKind k⟩ (n + 1)
  | rule {n} (name : String) : Becomes n (.node (.rule name)) ⟨n, .rule name⟩ (n + 1)
  | one {n n' i m} : Becomes n i m n' → Becomes n (.many [i]) m n'
  | many {n n' is ms} : 2 ≤ is.length → BecomeAll n is ms n' →
      Becomes n (.many is) ⟨n', .sequence ms⟩ (n' + 1)

/-- The inputs become the matchers, one after the other. -/
inductive BecomeAll : Nat → List Input → List Matcher → Nat → Prop where
  | nil {n} : BecomeAll n [] [] n
  | cons {n n' n'' i is m ms} : Becomes n i m n' → BecomeAll n' is ms n'' →
      BecomeAll n (i :: is) (m :: ms) n''

end

theorem BecomeAll.length_eq {n n' : Nat} {is : List Input} {ms : List Matcher}
    (h : BecomeAll n is ms n') : ms.length = is.length := by
  induction is generalizing n ms with
  | nil => cases h; rfl
  | cons i is ih =>
      cases h with
      | cons _ h => exact congrArg (· + 1) (ih h)

end Input

/-! ### Reports -/

/-- A result with the first mistake if there is one, and else with a property. -/
inductive Reports {α : Type} (first? : Option GrammarError) (Q : α → Nat → Prop) :
    Except GrammarError α × Nat → Prop where
  | mistake {e n} : first? = some e → Reports first? Q (.error e, n)
  | fine {a n} : first? = none → Q a n → Reports first? Q (.ok a, n)

section

variable {α β : Type} {first? second? : Option GrammarError} {P : α → Nat → Prop}
  {Q : β → Nat → Prop}

/-- What is built first is reported first. -/
theorem Reports.bind {x : Build α} {f : α → Build β} {n : Nat}
    (hx : Reports first? P (x.runFrom n))
    (hf : ∀ a n', P a n' → Reports second? Q ((f a).runFrom n')) :
    Reports (first?.or second?) Q ((x >>= f).runFrom n) := by
  rw [runFrom_bind]
  generalize x.runFrom n = r at hx
  cases hx with
  | mistake he => exact .mistake (by rw [he, Option.some_or])
  | fine hnone ha =>
      rw [hnone, Option.none_or]
      exact hf _ _ ha

theorem Reports.error_iff {r : Except GrammarError α × Nat} (h : Reports first? P r)
    {e : GrammarError} : r.1 = .error e ↔ first? = some e := by
  cases h with
  | mistake he => simp [he]
  | fine hnone _ => simp [hnone]

theorem Reports.of_ok {r : Except GrammarError α × Nat} (h : Reports first? P r) {a : α}
    (ha : r.1 = .ok a) : P a r.2 := by
  cases h with
  | mistake _ => cases ha
  | fine _ h => cases ha; exact h

end

namespace Input

variable {o : Operator} {n : Nat}

theorem firstMistakeIn?_append (l l' : List (Operator × Input)) :
    firstMistakeIn? (l ++ l') = (firstMistakeIn? l).or (firstMistakeIn? l') :=
  List.findSome?_append

theorem firstMistake?_many (i : Input) (is : List Input) :
    (Input.many (i :: is)).firstMistake? o =
      (i.firstMistake? .sequence).or (firstMistakeIn? (handedAll .sequence is)) := by
  rw [firstMistake?, firstMistake?, ← firstMistakeIn?_append]
  rfl

theorem firstMistakeIn?_handedAll_singleton (i : Input) :
    firstMistakeIn? (handedAll o [i]) = i.firstMistake? o := by
  rw [handedAll, handedAll, List.append_nil, firstMistake?]

theorem runFrom_literal (text : String) (n : Nat) :
    (Matcher.literal text).runFrom n =
      if text.isEmpty then (.error .emptyLiteral, n) else (.ok ⟨n, .literal text⟩, n + 1) := by
  show Build.runFrom (if text.isEmpty then throw .emptyLiteral else _) n = _
  split <;> rfl

/-- The only part as it is, or a new matcher of several parts. -/
theorem reports_ofParts {shape : List Matcher → Shape Matcher} {Q : Matcher → Nat → Prop}
    {is : List Input} {ms : List Matcher} {n' : Nat} (hne : is ≠ []) (h : BecomeAll n is ms n')
    (hone : ∀ i m, is = [i] → Becomes n i m n' → Q m n')
    (hmany : 2 ≤ is.length → Q ⟨n', shape ms⟩ (n' + 1)) :
    Reports none Q ((Matcher.ofParts shape ms).runFrom n') := by
  cases h with
  | nil => exact absurd rfl hne
  | cons hm hms =>
      cases hms with
      | nil => exact .fine rfl (hone _ _ rfl hm)
      | cons _ _ => exact .fine rfl (hmany (by simp))

mutual

/-- An input is resolved to what it becomes, unless there is a mistake in it. -/
theorem reports_resolve (o : Operator) : ∀ (i : Input) (n : Nat),
    Reports (i.firstMistake? o) (Becomes n i) ((i.resolve o).runFrom n)
  | .matcher m, _ => .fine rfl (.matcher m)
  | .text s, n => by
      by_cases hs : s = ""
      · subst hs
        exact .mistake rfl
      · have he : ¬ s.isEmpty = true := by simpa using hs
        rw [resolve, runFrom_literal, if_neg he]
        exact .fine (by simp [firstMistake?, firstMistakeIn?, handed, mistake?, hs]) (.text hs)
  | .char c, _ => .fine rfl (.char c)
  | .tokenKind k, _ => .fine rfl (.tokenKind k)
  | .node (.token k), _ => .fine rfl (.token k)
  | .node (.rule name), _ => .fine rfl (.rule name)
  | .many [], _ => .mistake rfl
  | .many (i :: is), n => by
      -- whatever `o` is, what is in a collection is handed to `sequence`
      rw [firstMistake?_many, resolve]
      refine (reports_resolve .sequence i n).bind fun m n' hm => ?_
      rw [← Option.or_none (o := firstMistakeIn? _)]
      refine (reports_resolveAll .sequence is n').bind fun ms n'' hms => ?_
      refine reports_ofParts (List.cons_ne_nil i is) (.cons hm hms) (fun i' m' he h => ?_)
        fun hlen => ?_
      · exact he ▸ .one h
      · exact .many hlen (.cons hm hms)
  | .invalid _, _ => .mistake rfl

theorem reports_resolveAll (o : Operator) : ∀ (is : List Input) (n : Nat),
    Reports (firstMistakeIn? (handedAll o is)) (BecomeAll n is) ((resolveAll o is).runFrom n)
  | [], _ => .fine rfl .nil
  | i :: is, n => by
      rw [handedAll, firstMistakeIn?_append, resolveAll]
      refine (reports_resolve o i n).bind fun m n' hm => ?_
      rw [← Option.or_none (o := firstMistakeIn? _)]
      exact (reports_resolveAll o is n').bind fun ms n'' hms => .fine rfl (.cons hm hms)

end

theorem reports_resolveSome (o : Operator) (is : List Input) (n : Nat) :
    Reports ((if is.isEmpty then some (.noInputs o) else none).or
        (firstMistakeIn? (handedAll o is)))
      (fun ms n' => is ≠ [] ∧ BecomeAll n is ms n') ((resolveSome o is).runFrom n) := by
  cases is with
  | nil => exact .mistake rfl
  | cons i is =>
      rw [resolveSome, List.isEmpty_cons, if_neg Bool.false_ne_true, Option.none_or]
      rw [← Option.or_none (o := firstMistakeIn? _)]
      refine (reports_resolveAll o (i :: is) n).bind fun ms n' hms => ?_
      cases hms with
      | cons hm hms => exact .fine rfl ⟨List.cons_ne_nil i is, .cons hm hms⟩

theorem runFrom_ofParts (shape : List Matcher → Shape Matcher) {ms : List Matcher}
    (h : 2 ≤ ms.length) : (Matcher.ofParts shape ms).runFrom n = (.ok ⟨n, shape ms⟩, n + 1) := by
  cases ms with
  | nil => exact absurd h (by simp)
  | cons m ms =>
      cases ms with
      | nil => exact absurd h (by simp)
      | cons m' ms => rfl

mutual

/-- What an input becomes is what it is resolved to. -/
theorem runFrom_resolve {n n' : Nat} {m : Matcher} : ∀ {i : Input}, Becomes n i m n' → ∀ o,
    (i.resolve o).runFrom n = (.ok m, n')
  | _, .matcher _, _ | _, .char _, _ | _, .tokenKind _, _ | _, .token _, _ | _, .rule _, _ => rfl
  | _, .text hs, _ => by
      rw [resolve, runFrom_literal, if_neg (by simpa using hs)]
  | _, .one h, _ => by
      rw [resolve, runFrom_bind, runFrom_resolve h]
      rfl
  | .many (i :: is), .many hlen (.cons h hs), _ => by
      simp only [resolve, runFrom_bind, runFrom_resolve h, runFrom_resolveAll hs]
      exact runFrom_ofParts .sequence (by simpa [hs.length_eq] using hlen)

theorem runFrom_resolveAll {n n' : Nat} {ms : List Matcher} : ∀ {is : List Input},
    BecomeAll n is ms n' → ∀ o, (resolveAll o is).runFrom n = (.ok ms, n')
  | _, .nil, _ => rfl
  | _, .cons h hs, _ => by
      simp only [resolveAll, runFrom_bind, runFrom_resolve h, runFrom_resolveAll hs, runFrom_pure]

end

theorem runFrom_resolveSome {is : List Input} {ms : List Matcher} {n' : Nat}
    (h : BecomeAll n is ms n') (hne : is ≠ []) (o : Operator) :
    (resolveSome o is).runFrom n = (.ok ms, n') := by
  rw [resolveSome, runFrom_bind, runFrom_resolveAll h]
  cases h with
  | nil => exact absurd rfl hne
  | cons _ _ => rfl

/-- A single input is handed on. -/
theorem runFrom_one {i : Input} {m : Matcher} {n' : Nat} (h : Becomes n i m n') (o : Operator)
    (shape : List Matcher → Shape Matcher) :
    Build.runFrom (resolveSome o [i] >>= Matcher.ofParts shape) n = (.ok m, n') := by
  rw [runFrom_bind, runFrom_resolveSome (.cons h .nil) (List.cons_ne_nil i [])]
  rfl

/-- Of several inputs, one matcher is made. -/
theorem runFrom_several {is : List Input} {ms : List Matcher} {n' : Nat} (hlen : 2 ≤ is.length)
    (h : BecomeAll n is ms n') (o : Operator) (shape : List Matcher → Shape Matcher) :
    Build.runFrom (resolveSome o is >>= Matcher.ofParts shape) n =
      (.ok ⟨n', shape ms⟩, n' + 1) := by
  have hne : is ≠ [] := fun he => absurd (he ▸ hlen) (by simp)
  rw [runFrom_bind, runFrom_resolveSome h hne]
  exact runFrom_ofParts shape (h.length_eq ▸ hlen)

/-- The input in as many collections of one. -/
def nested (i : Input) : Nat → Input
  | 0 => i
  | depth + 1 => .many [i.nested depth]

/-- Collections of one input, however deep, stand for what is in them. -/
theorem becomes_nested {i : Input} {m : Matcher} {n' : Nat} (depth : Nat) :
    Becomes n (i.nested depth) m n' ↔ Becomes n i m n' := by
  induction depth with
  | zero => exact Iff.rfl
  | succ depth ih =>
      rw [← ih]
      refine ⟨fun h => ?_, .one⟩
      cases h with
      | one h => exact h
      | many hlen _ => exact absurd hlen (by simp)

end Input

/-! ### Calls -/

namespace BuilderCall

/-- The builder and its inputs, if the call is one of a builder that takes inputs. -/
def takes? : BuilderCall → Option (Operator × List Input)
  | sequence is => some (.sequence, is)
  | firstOf is => some (.firstOf, is)
  | optional i => some (.optional, [i])
  | oneOrMore i => some (.oneOrMore, [i])
  | zeroOrMore i => some (.zeroOrMore, [i])
  | next i => some (.next, [i])
  | nextNot i => some (.nextNot, [i])
  | token _ i => some (.token, [i])
  | commentTrivia i => some (.commentTrivia, [i])
  | skippedTrivia i => some (.skippedTrivia, [i])
  | adjacent i => some (.adjacent, [i])
  | literal _ | regexp _ | endOfInput | nothing | rule _ => none

/-- What is wrong with a call whatever its inputs are. -/
def ownMistake? : BuilderCall → Option GrammarError
  | token (.rule name) _ => some (.tokenOfRule name)
  | sequence is => if is.isEmpty then some (.noInputs .sequence) else none
  | firstOf is => if is.isEmpty then some (.noInputs .firstOf) else none
  | _ => none

/-- The input that the call makes a new matcher around, in any case. -/
def around? : BuilderCall → Option (Input × (Matcher → Shape Matcher))
  | optional i => some (i, .optional)
  | oneOrMore i => some (i, .oneOrMore)
  | zeroOrMore i => some (i, .zeroOrMore)
  | next i => some (i, .next)
  | nextNot i => some (i, .nextNot)
  | token (.token k) i => some (i, .token k)
  | commentTrivia i => some (i, .trivia .comment)
  | skippedTrivia i => some (i, .trivia .skippedText)
  | adjacent i => some (i, .adjacent)
  | _ => none

/-- The call returns the matcher, where the next new matcher gets the number `n` before and `n'`
afterwards. -/
inductive Returns : BuilderCall → Nat → Matcher → Nat → Prop where
  | one {n n' i m} : Input.Becomes n i m n' → Returns (sequence [i]) n m n'
  | oneChoice {n n' i m} : Input.Becomes n i m n' → Returns (firstOf [i]) n m n'
  | sequence {n n' is ms} : 2 ≤ is.length → Input.BecomeAll n is ms n' →
      Returns (sequence is) n ⟨n', .sequence ms⟩ (n' + 1)
  | firstOf {n n' is ms} : 2 ≤ is.length → Input.BecomeAll n is ms n' →
      Returns (firstOf is) n ⟨n', .firstOf ms⟩ (n' + 1)
  | around {c n n' i m} {shape : Matcher → Shape Matcher} : c.around? = some (i, shape) →
      Input.Becomes n i m n' → Returns c n ⟨n', shape m⟩ (n' + 1)

variable {c : BuilderCall} {o : Operator} {n : Nat}

/-- The input is resolved, and the matcher made around it. -/
theorem build_of_around? {i : Input} {shape : Matcher → Shape Matcher}
    (hc : c.around? = some (i, shape)) :
    ∃ o, c.build = i.resolve o >>= fun m => Matcher.make (shape m) := by
  cases c with
  | token kind i =>
      cases kind with
      | token k => cases hc; exact ⟨.token, rfl⟩
      | rule name => cases hc
  | optional | oneOrMore | zeroOrMore | next | nextNot | commentTrivia | skippedTrivia
  | adjacent => cases hc; exact ⟨_, rfl⟩
  | sequence | firstOf | literal | regexp | endOfInput | nothing | rule => cases hc

/-- Builders that make one matcher around their input. -/
theorem reports_around {i : Input} {shape : Matcher → Shape Matcher} (o : Operator)
    (hc : c.around? = some (i, shape)) :
    Reports (Input.firstMistakeIn? (Input.handedAll o [i])) (c.Returns n)
      (Build.runFrom (i.resolve o >>= fun m => Matcher.make (shape m)) n) := by
  rw [Input.firstMistakeIn?_handedAll_singleton, ← Option.or_none (o := i.firstMistake? o)]
  exact (Input.reports_resolve o i n).bind fun m n' hm => .fine rfl (.around hc hm)

/-- Builders that make one matcher of all their inputs, or hand a single one on. -/
theorem reports_among {is : List Input} {shape : List Matcher → Shape Matcher}
    (hone : ∀ i m n', is = [i] → Input.Becomes n i m n' → c.Returns n m n')
    (hmany : ∀ ms n', 2 ≤ is.length → Input.BecomeAll n is ms n' →
      c.Returns n ⟨n', shape ms⟩ (n' + 1)) :
    Reports ((if is.isEmpty then some (.noInputs o) else none).or
        (Input.firstMistakeIn? (Input.handedAll o is)))
      (c.Returns n) (Build.runFrom (Input.resolveSome o is >>= Matcher.ofParts shape) n) := by
  rw [← Option.or_none (o := Option.or _ _)]
  refine (Input.reports_resolveSome o is n).bind fun ms n' hms => ?_
  exact Input.reports_ofParts hms.1 hms.2 (fun i m => hone i m n')
    fun hlen => hmany ms n' hlen hms.2

/-- Every call reports the first mistake, or returns what it should. -/
theorem reports_call {is : List Input} (hc : c.takes? = some (o, is)) (n : Nat) :
    Reports (c.ownMistake?.or (Input.firstMistakeIn? (Input.handedAll o is))) (c.Returns n)
      (c.build.runFrom n) := by
  cases c with
  | sequence is =>
      cases hc
      exact reports_among (fun i m n' he h => he ▸ .one h) fun ms n' => .sequence
  | firstOf is =>
      cases hc
      exact reports_among (fun i m n' he h => he ▸ .oneChoice h) fun ms n' => .firstOf
  | token kind i =>
      cases hc
      cases kind with
      | token k => exact reports_around .token rfl
      | rule name => exact .mistake rfl
  | optional i | oneOrMore i | zeroOrMore i | next i | nextNot i | commentTrivia i
  | skippedTrivia i | adjacent i =>
      cases hc
      exact reports_around _ rfl
  | literal | regexp | endOfInput | nothing | rule => cases hc

/-- What a call should return is what it returns. -/
theorem runFrom_of_returns {m : Matcher} {n' : Nat} (h : c.Returns n m n') :
    c.build.runFrom n = (.ok m, n') := by
  cases h with
  | one h => exact Input.runFrom_one h .sequence .sequence
  | oneChoice h => exact Input.runFrom_one h .firstOf .firstOf
  | sequence hlen h => exact Input.runFrom_several hlen h .sequence .sequence
  | firstOf hlen h => exact Input.runFrom_several hlen h .firstOf .firstOf
  | around hc h =>
      obtain ⟨o, hb⟩ := build_of_around? hc
      rw [hb, runFrom_bind, Input.runFrom_resolve h]
      rfl

/-- A matcher in however many collections of one is handed on as it is. -/
theorem runFrom_sequence_nested (m : Matcher) (depth n : Nat) :
    Build.runFrom (Matcher.sequence [(Input.matcher m).nested depth]) n = (.ok m, n) :=
  Input.runFrom_one ((Input.becomes_nested depth).mpr (.matcher m)) .sequence .sequence

theorem isSome_ownMistake?_iff {is : List Input} (hc : c.takes? = some (o, is)) :
    c.ownMistake?.isSome = true ↔ (∃ name i, c = .token (.rule name) i) ∨ is = [] := by
  cases c with
  | token kind i => cases hc; cases kind <;> simp [ownMistake?]
  | sequence is | firstOf is => cases hc; cases is <;> simp [ownMistake?]
  | optional | oneOrMore | zeroOrMore | next | nextNot | commentTrivia | skippedTrivia
  | adjacent => cases hc; simp [ownMistake?]
  | literal | regexp | endOfInput | nothing | rule => cases hc

end BuilderCall

/-- **The first mistake counts.**  A call of a builder fails if and only if a token is to get the
kind of a rule, there are no inputs, or there is a mistake somewhere in them.  The error is the
first of these, and what the call returns else is what its inputs become. -/
theorem call_reports_first_mistake {c : BuilderCall} {o : Operator} {is : List Input}
    (hc : c.takes? = some (o, is)) (n : Nat) :
    ((∃ e, (c.build.runFrom n).1 = .error e) ↔
      (∃ name i, c = .token (.rule name) i) ∨ is = [] ∨
        ∃ p ∈ Input.handedAll o is, p.2.IsMistake) ∧
    (∀ e, (c.build.runFrom n).1 = .error e ↔
      c.ownMistake?.or (Input.firstMistakeIn? (Input.handedAll o is)) = some e) ∧
    ∀ m n', c.build.runFrom n = (.ok m, n') ↔ c.Returns n m n' := by
  have hr := BuilderCall.reports_call hc n
  refine ⟨?_, fun e => hr.error_iff, fun m n' => ⟨fun h => ?_, BuilderCall.runFrom_of_returns⟩⟩
  · simp only [hr.error_iff, ← Option.isSome_iff_exists, Option.isSome_or, Bool.or_eq_true,
      BuilderCall.isSome_ownMistake?_iff hc, Input.firstMistakeIn?_isSome_iff, or_assoc]
  · rw [h] at hr
    exact hr.of_ok rfl

/-- The empty collection comes before the empty text and is handed to `sequence`.  Without them,
there are two new sequences, and the matcher that was there before is as it was. -/
theorem nested_collections_handed :
    (BuilderCall.firstOf [.char 'a', .many [.many []], .text ""]).takes? =
      some (.firstOf, [.char 'a', .many [.many []], .text ""]) ∧
    ((BuilderCall.firstOf [.char 'a', .many [.many []], .text ""]).build.runFrom 7).1 =
      .error (.noInputs .sequence) ∧
    (BuilderCall.firstOf [.many [.many [.matcher ⟨5, .nothing⟩],
        .many [.char 'a', .text "b"]]]).build.runFrom 7 =
      (.ok ⟨10, .sequence [⟨5, .nothing⟩,
        ⟨9, .sequence [⟨7, .literal "a"⟩, ⟨8, .literal "b"⟩]⟩]⟩, 11) := by
  refine ⟨rfl, ((call_reports_first_mistake rfl 7).2.1 _).mpr rfl,
    ((call_reports_first_mistake rfl 7).2.2 _ _).mpr (.oneChoice (.many (by decide) ?_))⟩
  have hinner : Input.Becomes 7 (.many [.char 'a', .text "b"])
      ⟨9, .sequence [⟨7, .literal "a"⟩, ⟨8, .literal "b"⟩]⟩ 10 :=
    .many (by decide) (.cons (.char 'a') (.cons (.text (by decide)) .nil))
  exact .cons (.one (.matcher _)) (.cons hinner .nil)

end Packrat
