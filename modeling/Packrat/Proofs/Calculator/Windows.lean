import Packrat.Proofs.Calculator.Complete
import Packrat.Proofs.Calculator.Phrases
import Packrat.Proofs.Grammar.Matchers
import Packrat.Proofs.Peg.Copied

/-!
# Proofs — Calculator — Windows

The same statement in two lists of tokens.  A statement takes a semicolon only at its end, and what
has to touch the token before it is the second half of `**` or the parenthesis of a call
(`proper_rules`, `quiet_rules`).  So what a statement is made of depends only on the tokens up to
where it stops, and on layout only between two stars and between a name and a parenthesis.  In a
`Window` the same tokens are in both lists, and there layout makes no difference either: two stars
in a row touch, and no parenthesis follows a name.

**Windows** (`Window.copied`): whatever comes up in a window is matched up to the same place in both
lists, with the same node up to layout, or fails at the same place.
-/

namespace Packrat.Calculator

open Attempt Lanes

variable {tokens : List Token} {m m' m₁ : Matcher} {ms : List Matcher}
  {p p₁ q r e i j n' : Nat} {n : Node} {tr : List (Trivia Token)}

/-! ### Matchers inside of statements -/

/-- Nothing in the matcher itself takes a semicolon. -/
def isQuiet (m : Matcher) : Bool :=
  match m.shape with
  | .literal s => s ≠ ";"
  | .pattern r => !r.accepts ";"
  | .ofKind k => k ≠ .punctuator
  | .rule name => name ≠ "program" && name ≠ "statement"
  | _ => true

/-- Neither does anything inside. -/
def quiet (m : Matcher) : Bool :=
  m.inside.all isQuiet

def isAdjacent (m : Matcher) : Bool :=
  match m.shape with
  | .adjacent _ => true
  | _ => false

/-- What has to be adjacent is the second half of `**` after the first, or a parenthesis after a
name. -/
def joins (m m' : Matcher) : Bool :=
  match m'.shape with
  | .adjacent part =>
    match part.shape, m.shape with
    | .literal s, .literal s' => s = "*" && s' = "*"
    | .literal s, .rule name => s = "(" && name = "name"
    | _, _ => false
  | _ => true

/-- The matcher can be inside of a statement: only its last part may take a semicolon, and what has
to be adjacent comes after what it has to be adjacent to. -/
def isProper (m : Matcher) : Bool :=
  match m.shape with
  | .sequence ms => ms.dropLast.all quiet && !ms.head?.any isAdjacent &&
      decide (ms.IsChain (fun m m' => joins m m' = true))
  | .zeroOrMore m | .oneOrMore m | .token _ m | .trivia _ m => quiet m && !isAdjacent m
  | .rule name => name ≠ "program"
  | _ => !m.parts.any isAdjacent

/-- So can everything inside. -/
def proper (m : Matcher) : Bool :=
  m.inside.all isProper

theorem proper_rules : ∀ r ∈ rules, r.1 ≠ "program" → proper r.2 = true := by
  decide +kernel

theorem quiet_rules : ∀ r ∈ rules, r.1 ≠ "program" → r.1 ≠ "statement" → quiet r.2 = true := by
  decide +kernel

theorem quiet_eq (m : Matcher) : quiet m = (isQuiet m && m.parts.all quiet) := by
  rw [quiet, Matcher.inside_eq, List.all_cons, List.all_flatMap]
  rfl

theorem proper_eq (m : Matcher) : proper m = (isProper m && m.parts.all proper) := by
  rw [proper, Matcher.inside_eq, List.all_cons, List.all_flatMap]
  rfl

theorem isQuiet_of_quiet (h : quiet m = true) : isQuiet m = true := by
  rw [quiet_eq, Bool.and_eq_true] at h
  exact h.1

theorem quiet_of_mem_parts (h : quiet m = true) : ∀ m' ∈ m.parts, quiet m' = true := by
  rw [quiet_eq, Bool.and_eq_true, List.all_eq_true] at h
  exact h.2

theorem isProper_of_proper (h : proper m = true) : isProper m = true := by
  rw [proper_eq, Bool.and_eq_true] at h
  exact h.1

theorem proper_of_mem_parts (h : proper m = true) : ∀ m' ∈ m.parts, proper m' = true := by
  rw [proper_eq, Bool.and_eq_true, List.all_eq_true] at h
  exact h.2

theorem quiet_body {name : String} (hl : rules.lookup name = some m)
    (h : isQuiet ⟨i, .rule name⟩ = true) : quiet m = true := by
  simp only [isQuiet, Bool.and_eq_true, decide_eq_true_eq] at h
  exact quiet_rules _ (mem_of_lookup hl) h.1 h.2

theorem proper_body {name : String} (hl : rules.lookup name = some m)
    (h : isProper ⟨i, .rule name⟩ = true) : proper m = true := by
  simp only [isProper, decide_eq_true_eq] at h
  exact proper_rules _ (mem_of_lookup hl) h

/-- What is left of a sequence. -/
theorem quiet_tail (h : quiet ⟨i, .sequence (m :: ms)⟩ = true) :
    quiet ⟨i, .sequence ms⟩ = true := by
  rw [quiet_eq, Bool.and_eq_true, List.all_eq_true] at h ⊢
  exact ⟨rfl, fun m' hm' => h.2 m' (List.mem_cons_of_mem _ hm')⟩

/-! ### Where statements stop -/

/-- At the position there is a semicolon, or it is the end. -/
def StopsAt (tokens : List Token) (r : Nat) : Prop :=
  ∀ t, tokens[r]? = some t → t.kind = .punctuator ∧ t.text = ";"

theorem StopsAt.lt (hr : StopsAt tokens r) (hp : p ≤ r) {t : Token} (ht : tokens[p]? = some t)
    (hne : ¬ (t.kind = .punctuator ∧ t.text = ";")) : p + 1 ≤ r := by
  refine Nat.lt_of_le_of_ne hp ?_
  rintro rfl
  exact hne (hr t ht)

/-- A quiet matcher does not go on after a semicolon. -/
theorem stop_le_of_quiet (hr : StopsAt tokens r)
    (hy : Yields rules tokens m p (.matched n tr e)) (hm : quiet m = true) (hp : p ≤ r) :
    e ≤ r := by
  generalize ho : Answer.matched n tr e = o at hy
  induction hy generalizing n tr e with
  | literal ht hs =>
      cases ho
      have hq := isQuiet_of_quiet hm
      simp only [isQuiet, decide_eq_true_eq] at hq
      exact hr.lt hp ht fun h => hq (hs ▸ h.2)
  | pattern ht ha =>
      cases ho
      have hq := isQuiet_of_quiet hm
      simp only [isQuiet, Bool.not_eq_true'] at hq
      exact hr.lt hp ht fun h => by rw [h.2, hq] at ha; cases ha
  | ofKind ht hk =>
      cases ho
      have hq := isQuiet_of_quiet hm
      simp only [isQuiet, decide_eq_true_eq] at hq
      exact hr.lt hp ht fun h => hq (hk ▸ h.1)
  | sequence_nil | optional_none | zeroOrMore_none | next | nextNot | endOfInput | nothing =>
      cases ho
      exact hp
  | sequence_cons _ _ ih ih' =>
      cases ho
      have hhead := quiet_of_mem_parts hm _ List.mem_cons_self
      exact ih' (quiet_tail hm) (ih hhead hp rfl) rfl
  | firstOf_head _ ih =>
      cases ho
      exact ih (quiet_of_mem_parts hm _ List.mem_cons_self) hp rfl
  | @firstOf_tail i p m ms q n tr e _ _ _ ih =>
      cases ho
      have htail : quiet ⟨i, .firstOf ms⟩ = true := by
        rw [quiet_eq, Bool.and_eq_true, List.all_eq_true]
        exact ⟨rfl, fun m' hm' => quiet_of_mem_parts hm m' (List.mem_cons_of_mem _ hm')⟩
      exact ih htail hp rfl
  | optional _ ih | zeroOrMore_last _ ih | oneOrMore_last _ ih | token _ ih | trivia _ ih =>
      cases ho
      exact ih (quiet_of_mem_parts hm _ (List.mem_singleton_self _)) hp rfl
  | adjacent _ _ ih =>
      exact ih (quiet_of_mem_parts hm _ (List.mem_singleton_self _)) hp ho
  | zeroOrMore_more _ _ _ ih ih' | oneOrMore_more _ _ _ ih ih' =>
      cases ho
      have hpart := quiet_of_mem_parts hm _ (List.mem_singleton_self _)
      refine ih' ?_ (ih hpart hp rfl) rfl
      rw [quiet_eq, Bool.and_eq_true, List.all_eq_true]
      exact ⟨rfl, List.forall_mem_singleton.mpr hpart⟩
  | rule hl _ ih =>
      cases ho
      exact ih (quiet_body hl (isQuiet_of_quiet hm)) hp rfl
  | _ => cases ho

/-! ### What is tried inside of statements -/

/-- Only the last part of the matcher may take a semicolon. -/
def Calm (m : Matcher) : Prop :=
  match m.shape with
  | .sequence ms => ∀ m' ∈ ms.dropLast, quiet m' = true
  | .zeroOrMore m' | .oneOrMore m' => quiet m' = true
  | _ => True

theorem calm_of_proper (h : proper m = true) : Calm m := by
  have h := isProper_of_proper h
  obtain ⟨i, shape⟩ := m
  cases shape with
  | sequence ms =>
      simp only [isProper, Bool.and_eq_true, List.all_eq_true] at h
      exact h.1.1
  | zeroOrMore | oneOrMore =>
      simp only [isProper, Bool.and_eq_true] at h
      exact h.1
  | _ => trivial

theorem GoesOn.le_of_calm (hr : StopsAt tokens r) {p' : Nat}
    (hg : GoesOn rules tokens m p m' p') (hm : Calm m) (hne : m'.parts ≠ []) (hp : p ≤ r) :
    p' ≤ r ∧ Calm m' := by
  cases hg with
  | @sequence i p m ms n tr e hy =>
      obtain ⟨m₂, ms, rfl⟩ := List.exists_cons_of_ne_nil (show ms ≠ [] from hne)
      simp only [Calm, List.dropLast_cons_cons, List.forall_mem_cons] at hm
      exact ⟨stop_le_of_quiet hr hy hm.1 hp, hm.2⟩
  | firstOf => exact ⟨hp, trivial⟩
  | zeroOrMore hy _ | oneOrMore hy _ => exact ⟨stop_le_of_quiet hr hy hm hp, hm⟩

/-- Nothing is tried after the first semicolon. -/
theorem Tries.le_of_calm (hr : StopsAt tokens r) (ht : Tries rules tokens m p m₁ p₁) (hm : Calm m)
    (hp : p ≤ r) : p₁ ≤ r := by
  induction ht with
  | first => exact hp
  | onward hg ht ih =>
      have hne := List.ne_nil_of_mem ht.mem_parts
      obtain ⟨hp, hm⟩ := GoesOn.le_of_calm hr hg hm hne hp
      exact ih hm hp

/-- What is tried of a sequence comes first, or after a part that matched. -/
theorem tries_sequence (ht : Tries rules tokens ⟨i, .sequence ms⟩ p m₁ p₁) :
    (∃ l, ms = m₁ :: l ∧ p₁ = p) ∨ ∃ l m₀ l' p₀ n tr, ms = l ++ m₀ :: m₁ :: l' ∧ p ≤ p₀ ∧
      Yields rules tokens m₀ p₀ (.matched n tr p₁) := by
  induction ms generalizing p with
  | nil => exact absurd ht.mem_parts List.not_mem_nil
  | cons m ms ih =>
      cases ht with
      | first hf =>
          cases hf
          exact .inl ⟨ms, rfl, rfl⟩
      | onward hg ht =>
          cases hg with
          | sequence hy =>
              refine .inr ?_
              obtain ⟨l, rfl, rfl⟩ | ⟨l, m₀, l', p₀, n', tr', rfl, hle, hy'⟩ := ih ht
              · exact ⟨[], m, l, p, _, _, rfl, Nat.le_refl p, hy⟩
              · exact ⟨m :: l, m₀, l', p₀, n', tr', rfl, Nat.le_trans hy.le_stop hle, hy'⟩

/-- What has to be adjacent is tried after what it has to be adjacent to. -/
theorem exists_joined (hm : proper m = true) (ht : Tries rules tokens m p m₁ p₁)
    (ha : isAdjacent m₁ = true) : ∃ m₀ p₀ n tr, joins m₀ m₁ = true ∧ p ≤ p₀ ∧
      Yields rules tokens m₀ p₀ (.matched n tr p₁) := by
  have hm := isProper_of_proper hm
  have hpart := ht.mem_parts
  obtain ⟨i, shape⟩ := m
  cases shape with
  | sequence ms =>
      simp only [isProper, Bool.and_eq_true, Bool.not_eq_true', decide_eq_true_eq] at hm
      obtain ⟨⟨-, hhead⟩, hchain⟩ := hm
      obtain ⟨l, rfl, -⟩ | ⟨l, m₀, l', p₀, n, tr, rfl, hle, hy⟩ := tries_sequence ht
      · simp [ha] at hhead
      · have hjoin := (List.isChain_append.mp hchain).2.1
        exact ⟨m₀, p₀, n, tr, (List.isChain_cons_cons.mp hjoin).1, hle, hy⟩
  | zeroOrMore | oneOrMore | token | trivia =>
      obtain rfl := List.eq_of_mem_singleton hpart
      simp [isProper, ha] at hm
  | rule => cases hpart
  | _ =>
      simp only [isProper, Bool.not_eq_true', List.any_eq_false] at hm
      exact absurd ha (hm m₁ hpart)

/-! ### Windows -/

/-- The token before the place is such that the matcher may ask for the next one to touch it. -/
def Guarded (tokens : List Token) (q : Nat) (m : Matcher) (j : Nat) : Prop :=
  ∀ i part, m = ⟨i, .adjacent part⟩ → ∃ i' s k t, part = ⟨i', .literal s⟩ ∧ j = k + 1 ∧
    tokens[q + k]? = some t ∧ (s = "*" ∧ t.text = "*" ∨ s = "(" ∧ t.kind = .identifier)

theorem guarded_of_not_adjacent (h : isAdjacent m = false) : Guarded tokens q m j := by
  rintro i part rfl
  cases h

/-- The position is not one of a comment or a stray semicolon. -/
def OpensAt (tokens : List Token) (q : Nat) : Prop :=
  ∀ t, tokens[q]? = some t → t.kind ≠ .comment ∧ t.text ≠ ";"

/-- In the `n` tokens from the position `q` on, the matcher may be tried at the place.  Where these
are neither comments nor stray, that includes the items of programs. -/
def Admits (tokens : List Token) (q n : Nat) (m : Matcher) (j : Nat) : Prop :=
  j ≤ n ∧ (proper m = true ∧ Guarded tokens q m j ∨
    OpensAt tokens q ∧ j = 0 ∧ m ∈ (itemRule 0).inside)

/-- A name is one token. -/
theorem exists_name_of_yields (hy : Yields rules tokens ⟨i, .rule "name"⟩ p (.matched n tr e)) :
    e = p + 1 ∧ ∃ t, tokens[p]? = some t ∧ t.kind = .identifier := by
  have hs : Spells ebnf tokens (.rule "name") p e n.spliced := hy.spelled tabled_ebnf .rule
  obtain ⟨he, t, ht, hk, -⟩ := derives_name ⟨_, hs⟩
  exact ⟨he, t, ht, hk⟩

/-- After what a matcher has to be adjacent to, it is guarded. -/
theorem guarded_of_joins {m₀ : Matcher} {p₀ : Nat} (hj : joins m₀ m = true) (hle : q ≤ p₀)
    (hy : Yields rules tokens m₀ p₀ (.matched n tr (q + j))) : Guarded tokens q m j := by
  rintro i ⟨i', part⟩ rfl
  obtain ⟨i₀, shape₀⟩ := m₀
  obtain ⟨k, rfl⟩ := Nat.exists_eq_add_of_le hle
  cases part with
  | literal s =>
      cases shape₀ with
      | literal s' =>
          simp only [joins, Bool.and_eq_true, decide_eq_true_eq] at hj
          obtain ⟨rfl, rfl⟩ := hj
          generalize he : q + j = e at hy
          cases hy with
          | literal ht hs => exact ⟨i', _, k, _, rfl, by omega, ht, .inl ⟨rfl, hs⟩⟩
      | rule name =>
          simp only [joins, Bool.and_eq_true, decide_eq_true_eq] at hj
          obtain ⟨rfl, rfl⟩ := hj
          obtain ⟨he, t, ht, hk⟩ := exists_name_of_yields hy
          exact ⟨i', _, k, t, rfl, by omega, ht, .inr ⟨rfl, hk⟩⟩
      | _ => simp [joins] at hj
  | _ => simp [joins] at hj

theorem tries_firstOf (ht : Tries rules tokens ⟨i, .firstOf ms⟩ p m₁ p₁) : p₁ = p := by
  generalize hm : (⟨i, .firstOf ms⟩ : Matcher) = m at ht
  induction ht generalizing ms with
  | first => rfl
  | onward hg _ ih =>
      subst hm
      cases hg with
      | firstOf => exact ih rfl

/-- Where a program goes on with a statement, no part of an item gets any further. -/
theorem tries_item (ho : OpensAt tokens q) (hm : m ∈ (itemRule 0).inside)
    (ht : Tries rules tokens m q m₁ p₁) : p₁ = q := by
  simp only [itemRule, Matcher.inside, Matcher.insideShape, Matcher.insideList, List.append_nil,
    List.cons_append, List.nil_append, List.mem_cons, List.not_mem_nil, or_false] at hm
  rcases hm with rfl | rfl | rfl | rfl | rfl | rfl | rfl
  · exact tries_firstOf ht
  · cases ht with
    | first => rfl
    | onward hg => cases hg
  · exact absurd ht.mem_parts List.not_mem_nil
  · cases ht with
    | first => rfl
    | onward hg => cases hg
  · cases ht with
    | first => rfl
    | onward hg =>
        -- there would have to be a semicolon
        cases hg with
        | oneOrMore hy =>
            cases hy with
            | literal ht hs => exact absurd hs (ho _ ht).2
  · exact absurd ht.mem_parts List.not_mem_nil
  · exact absurd ht.mem_parts List.not_mem_nil

theorem admits_of_tries (hr : StopsAt tokens (q + n')) (h : Admits tokens q n' m j)
    (ht : Tries rules tokens m (q + j) m₁ (q + i)) : Admits tokens q n' m₁ i := by
  obtain ⟨hle, ⟨hm, -⟩ | ⟨ho, rfl, hm⟩⟩ := h
  · have hi := Tries.le_of_calm hr ht (calm_of_proper hm) (Nat.add_le_add_left hle q)
    refine ⟨Nat.le_of_add_le_add_left hi, .inl ⟨proper_of_mem_parts hm _ ht.mem_parts, ?_⟩⟩
    cases ha : isAdjacent m₁ with
    | false => exact guarded_of_not_adjacent ha
    | true =>
        obtain ⟨m₀, p₀, n, tr, hj, hp, hy⟩ := exists_joined hm ht ha
        exact guarded_of_joins hj (Nat.le_of_add_right_le hp) hy
  · obtain rfl : i = 0 := Nat.add_eq_left.mp (tries_item ho hm ht)
    exact ⟨hle, .inr ⟨ho, rfl, Matcher.part_mem_inside _ hm ht.mem_parts⟩⟩

theorem admits_body {name : String} (h : Admits tokens q n' ⟨i, .rule name⟩ j)
    (hl : rules.lookup name = some m) : Admits tokens q n' m j := by
  have hbodies : ∀ r ∈ rules, isAdjacent r.2 = false := by decide
  have hitems : ∀ m ∈ (itemRule 0).inside, m.isRule = true → isProper m = true := by decide
  have hadjacent : isAdjacent m = false := hbodies _ (mem_of_lookup hl)
  obtain ⟨hle, ⟨hm, -⟩ | ⟨-, -, hm⟩⟩ := h
  · exact ⟨hle, .inl ⟨proper_body hl (isProper_of_proper hm), guarded_of_not_adjacent hadjacent⟩⟩
  · exact ⟨hle, .inl ⟨proper_body hl (hitems _ hm rfl), guarded_of_not_adjacent hadjacent⟩⟩

/-- What matchers remake ends before the first semicolon. -/
theorem le_of_remakes (hr : StopsAt tokens (q + n')) (h : Admits tokens q n' m j)
    (hm : m.Remakes m₁) (hy : Yields rules tokens m₁ (q + j) (.matched n tr (q + i))) : i ≤ n' := by
  obtain ⟨hle, ⟨hm', -⟩ | ⟨ho, rfl, hm'⟩⟩ := h
  · have hquiet : quiet m₁ = true := by
      have hp := isProper_of_proper hm'
      rcases hm with ⟨kind, hs⟩ | ⟨kind, hs⟩
      all_goals
        rw [isProper, hs] at hp
        exact (Bool.and_eq_true_iff.mp hp).1
    exact Nat.le_of_add_le_add_left
      (stop_le_of_quiet hr hy hquiet (Nat.add_le_add_left hle q))
  · -- neither comments nor semicolons are there
    simp only [itemRule, Matcher.inside, Matcher.insideShape, Matcher.insideList, List.append_nil,
      List.cons_append, List.nil_append, List.mem_cons, List.not_mem_nil, or_false] at hm'
    generalize q + i = e at hy
    rcases hm' with rfl | rfl | rfl | rfl | rfl | rfl | rfl <;>
      obtain ⟨kind, hs⟩ | ⟨kind, hs⟩ := hm <;> cases hs
    · cases hy with
      | ofKind ht hk => exact absurd hk (ho _ ht).1
    · cases hy with
      | oneOrMore_last hy => cases hy
      | oneOrMore_more hy =>
          cases hy with
          | literal ht hs => exact absurd hs (ho _ ht).2

/-! ### The same window in two lists -/

/-- From two positions on, the same tokens are in two lists, up to layout and up to a place where
statements stop.  No call could start among them, and stars in a row touch. -/
structure Window (tokens tokens' : List Token) (q q' n : Nat) : Prop where
  same : ∀ j ≤ n, (tokens[q + j]?).map Token.bare = (tokens'[q' + j]?).map Token.bare
  stops : StopsAt tokens (q + n)
  joint : ∀ j < n, ∀ r r', tokens[q + j]? = some r → tokens[q + (j + 1)]? = some r' → Joint r r'
  joint' : ∀ j < n, ∀ r r', tokens'[q' + j]? = some r → tokens'[q' + (j + 1)]? = some r' →
    Joint r r'

/-- The two lists from the positions on.  What comes up is what the window admits. -/
def lanes (tokens tokens' : List Token) (q q' n : Nat) : Lanes where
  rules := rules
  tokens := tokens
  tokens' := tokens'
  start := q
  start' := q'
  Shared := Admits tokens q n
  Tally := fun _ _ => True

namespace Window

variable {tokens' : List Token} {q' : Nat}

theorem exists_token (h : Window tokens tokens' q q' n') {t : Token} (hj : j ≤ n')
    (ht : tokens[q + j]? = some t) :
    ∃ t', tokens'[q' + j]? = some t' ∧ t.kind = t'.kind ∧ t.text = t'.text :=
  SameAt.exists_token (L := lanes tokens tokens' q q' n') (h.same j hj) ht

theorem swap (h : Window tokens tokens' q q' n') : Window tokens' tokens q' q n' where
  same := fun j hj => (h.same j hj).symm
  stops := fun t ht => by
    obtain ⟨t', ht', hk, hs⟩ := SameAt.exists_token (L := (lanes tokens tokens' q q' n').swap)
      (h.same n' (Nat.le_refl n')).symm ht
    rw [hk, hs]
    exact h.stops t' ht'
  joint := h.joint'
  joint' := h.joint

theorem opensAt (h : Window tokens tokens' q q' n') (ho : OpensAt tokens q) :
    OpensAt tokens' q' := by
  intro t ht
  obtain ⟨t', ht', hk, hs⟩ := h.swap.exists_token (Nat.zero_le n') ht
  rw [hk, hs]
  exact ho t' ht'

/-- What the window admits in the one list, it admits in the other. -/
theorem admits (h : Window tokens tokens' q q' n') (hm : Admits tokens q n' m j) :
    Admits tokens' q' n' m j := by
  obtain ⟨hle, ⟨hm, hg⟩ | ⟨ho, rfl, hm⟩⟩ := hm
  · refine ⟨hle, .inl ⟨hm, ?_⟩⟩
    rintro i part rfl
    obtain ⟨i', s, k, t, rfl, rfl, ht, hs⟩ := hg i part rfl
    obtain ⟨t', ht', hk, htext⟩ := h.exists_token (Nat.le_of_succ_le hle) ht
    exact ⟨i', s, k, t', rfl, rfl, ht', by rwa [hk, htext] at hs⟩
  · exact ⟨hle, .inr ⟨h.opensAt ho, rfl, hm⟩⟩

/-- A text that is not there is not there after anything. -/
theorem fails_adjacent {s : String} (h : ∀ t, tokens[p]? = some t → t.text ≠ s) :
    Yields rules tokens ⟨i, .adjacent ⟨j, .literal s⟩⟩ p (.failed p) := by
  by_cases ht : Touching tokens p
  · exact .adjacent ht (.literal_fails h)
  · exact .adjacent_fails ht

/-- A star after a star touches it. -/
theorem touching_star (hj : ∀ r r', tokens[q + j]? = some r → tokens[q + (j + 1)]? = some r' →
    Joint r r') {r r' : Token} (hr : tokens[q + j]? = some r)
    (hr' : tokens[q + (j + 1)]? = some r') (hs : r.text = "*") (hs' : r'.text = "*") :
    Touching tokens (q + (j + 1)) :=
  ⟨q + j, r, r', rfl, hr, hr', touches_eq_true_iff.mp ((hj r r' hr hr').stars hs hs')⟩

/-- What has to be adjacent is a star that touches in both lists, or it is in neither. -/
theorem touching (h : Window tokens tokens' q q' n') (hm : Admits tokens q n' ⟨i, .adjacent m⟩ j) :
    (Touching tokens (q + j) ↔ Touching tokens' (q' + j)) ∨
      m.parts = [] ∧ m.isRule = false ∧
        Yields rules tokens ⟨i, .adjacent m⟩ (q + j) (.failed (q + j)) ∧
        Yields rules tokens' ⟨i, .adjacent m⟩ (q' + j) (.failed (q' + j)) := by
  have hitems : ∀ m ∈ (itemRule 0).inside, isAdjacent m = false := by decide
  obtain ⟨hle, ⟨-, hg⟩ | ⟨-, -, hm⟩⟩ := hm
  · obtain ⟨i', s, k, t, rfl, rfl, ht, hs⟩ := hg i m rfl
    by_cases hnext : ∃ r, tokens[q + (k + 1)]? = some r ∧ r.text = s
    · obtain ⟨r, hr, hrs⟩ := hnext
      obtain ⟨rfl, hstar⟩ | ⟨rfl, hk⟩ := hs
      · obtain ⟨t', ht', -, htext⟩ := h.exists_token (Nat.le_of_succ_le hle) ht
        obtain ⟨r', hr', -, hrtext⟩ := h.exists_token hle hr
        exact .inl (iff_of_true (touching_star (h.joint k hle) ht hr hstar hrs)
          (touching_star (h.joint' k hle) ht' hr' (htext ▸ hstar) (hrtext ▸ hrs)))
      · exact absurd hrs ((h.joint k hle t r ht hr).no_call hk)
    · refine .inr ⟨rfl, rfl, fails_adjacent fun r hr hrs => hnext ⟨r, hr, hrs⟩,
        fails_adjacent fun r' hr' hrs => ?_⟩
      obtain ⟨r, hr, -, htext⟩ := h.swap.exists_token hle hr'
      exact hnext ⟨r, hr, htext ▸ hrs⟩
  · have hm := hitems _ hm
    cases hm

/-- **Windows.** -/
theorem copied (h : Window tokens tokens' q q' n') : (lanes tokens tokens' q q' n').Copied where
  tries := fun hz ht => admits_of_tries h.stops hz ht
  tries' := fun hz ht => h.swap.admits (admits_of_tries h.swap.stops (h.admits hz) ht)
  body := fun hz hb => admits_body hz hb
  same := fun hz => h.same _ hz.1
  along := fun hz hm hy _ hk =>
    h.same _ (Nat.le_trans (Nat.le_of_lt hk) (le_of_remakes h.stops hz hm hy))
  along' := fun hz hm hy _ hk =>
    h.same _ (Nat.le_trans (Nat.le_of_lt hk) (le_of_remakes h.swap.stops (h.admits hz) hm hy))
  touching := fun hz => h.touching hz

end Window

end Packrat.Calculator
