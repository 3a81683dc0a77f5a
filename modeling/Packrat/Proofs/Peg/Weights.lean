import Packrat.Proofs.Peg.Verdict

/-!
# Proofs — Peg — Weights

How deeply rules nest at most.  Every rule gets a weight, and consuming a token is worth some
weight, too.  Wherever one rule is entered inside of another, it has to be lighter than the other
together with the tokens that were consumed in between; how many those are at least is read off the
matchers (`Matcher.width`, `Matcher.entries`).  So with each rule that is entered weight is lost.

**Depth** (`Weighing.bounded`): a rule with such a weight nests no deeper than its weight and that
of the tokens that are left.  So a grammar that can be weighed is not left-recursive
(`Weighing.not_visitsInside_rule`).
-/

namespace Packrat

namespace Matcher

section

variable (least : String → Nat)

mutual

/-- How many tokens a match consumes at least, if that is `least` for the rules. -/
def width : Matcher → Nat
  | ⟨_, s⟩ => widthShape s

def widthShape : Shape Matcher → Nat
  | .literal _ | .pattern _ | .ofKind _ => 1
  | .sequence ms => widthAll ms
  | .firstOf ms => widthAny ms
  | .oneOrMore m | .token _ m | .trivia _ m | .adjacent m => m.width
  | .rule name => least name
  | .optional _ | .zeroOrMore _ | .next _ | .nextNot _ | .endOfInput | .nothing => 0

def widthAll : List Matcher → Nat
  | [] => 0
  | m :: ms => m.width + widthAll ms

def widthAny : List Matcher → Nat
  | [] => 0
  | [m] => m.width
  | m :: ms => min m.width (widthAny ms)

end

mutual

/-- The rules that are referred to, each with the number of tokens consumed before at least. -/
def entries : Matcher → List (Nat × String)
  | ⟨_, s⟩ => entriesShape s

def entriesShape : Shape Matcher → List (Nat × String)
  | .rule name => [(0, name)]
  | .sequence ms => entriesAll ms
  | .firstOf ms => entriesAny ms
  | .optional m | .oneOrMore m | .zeroOrMore m | .next m | .nextNot m | .token _ m
  | .trivia _ m | .adjacent m => m.entries
  | .literal _ | .pattern _ | .ofKind _ | .endOfInput | .nothing => []

def entriesAll : List Matcher → List (Nat × String)
  | [] => []
  | m :: ms => m.entries ++ (entriesAll ms).map fun e => (m.width least + e.1, e.2)

def entriesAny : List Matcher → List (Nat × String)
  | [] => []
  | m :: ms => m.entries ++ entriesAny ms

end

end

end Matcher

/-- Weights for rules, under which every rule is lighter than those it is entered from. -/
structure Weighing (rules : List (String × Matcher)) where
  weight : String → Nat
  /-- What a token is worth. -/
  perToken : Nat
  /-- How many tokens a rule consumes at least. -/
  least : String → Nat
  least_le : ∀ {name body}, rules.lookup name = some body → least name ≤ body.width least
  lighter : ∀ {name body}, rules.lookup name = some body →
    ∀ e ∈ body.entries least, weight e.2 < weight name + perToken * e.1

/-- A match takes at least `k` tokens. -/
def Answer.Takes (p k : Nat) : Answer → Prop
  | .matched _ _ e => p + k ≤ e
  | .failed _ => True

namespace Weighing

variable {rules : List (String × Matcher)} {tokens : List Token} {m m' m₁ : Matcher}
  {p p' p₁ d b : Nat} (w : Weighing rules)

/-! ### What is consumed -/

/-- A match takes as many tokens as its matcher has to. -/
theorem takes {o : Answer} (h : Yields rules tokens m p o) : o.Takes p (m.width w.least) := by
  induction h with
  | literal | pattern | ofKind | sequence_nil | optional_none | zeroOrMore_none | zeroOrMore_last
  | next | nextNot | endOfInput | nothing => exact Nat.le_refl _
  | sequence_cons _ _ ih ih' =>
      simp only [Answer.Takes, Matcher.width, Matcher.widthShape, Matcher.widthAll] at *
      omega
  | @firstOf_head _ _ _ ms _ _ _ _ ih =>
      cases ms <;>
        simp only [Answer.Takes, Matcher.width, Matcher.widthShape, Matcher.widthAny] at * <;> omega
  | @firstOf_tail _ _ _ ms _ _ _ _ _ hy _ ih =>
      cases ms with
      | nil => cases hy
      | cons =>
          simp only [Answer.Takes, Matcher.width, Matcher.widthShape, Matcher.widthAny] at *
          omega
  | optional hy => exact hy.le_stop
  | zeroOrMore_more hy _ hy' => exact Nat.le_trans hy.le_stop hy'.le_stop
  | oneOrMore_last _ ih | token _ ih | trivia _ ih | adjacent _ _ ih => exact ih
  | oneOrMore_more _ _ hy ih => exact Nat.le_trans ih hy.le_stop
  | rule hl _ ih => exact Nat.le_trans (Nat.add_le_add_left (w.least_le hl) _) ih
  | _ => trivial

/-! ### What is left to be entered -/

/-- Every rule that is referred to weighs less than `b`, together with the tokens that are left
where it is entered at the earliest. -/
def Fits (size b : Nat) (m : Matcher) (p : Nat) : Prop :=
  ∀ e ∈ m.entries w.least, p + e.1 ≤ size → w.weight e.2 + w.perToken * (size - (p + e.1)) < b

variable {w}

theorem Fits.of_triesFirst (h : w.Fits tokens.length b m p) (hf : TriesFirst tokens m p m₁) :
    w.Fits tokens.length b m₁ p := by
  cases hf with
  | sequence | firstOf => exact fun e he => h e (List.mem_append_left _ he)
  | _ => exact h

/-- Tokens that were consumed are not left any more. -/
theorem Fits.of_le (h : w.Fits tokens.length b m p) (hp : p ≤ p') :
    w.Fits tokens.length b m p' := by
  intro e he hle
  have hlt := h e he (Nat.le_trans (Nat.add_le_add_right hp _) hle)
  have hmul : w.perToken * (tokens.length - (p' + e.1)) ≤
      w.perToken * (tokens.length - (p + e.1)) :=
    Nat.mul_le_mul_left _ (by omega)
  omega

theorem Fits.of_goesOn (h : w.Fits tokens.length b m p) (hg : GoesOn rules tokens m p m' p') :
    w.Fits tokens.length b m' p' := by
  cases hg with
  | @sequence i _ m ms n tr _ hy =>
      intro e he hle
      have htakes : p + m.width w.least ≤ p' := w.takes hy
      have hlt := h (m.width w.least + e.1, e.2)
        (List.mem_append_right _ (List.mem_map_of_mem he)) (by dsimp only; omega)
      have hmul : w.perToken * (tokens.length - (p' + e.1)) ≤
          w.perToken * (tokens.length - (p + (m.width w.least + e.1))) :=
        Nat.mul_le_mul_left _ (by omega)
      dsimp only at hlt
      omega
  | firstOf => exact fun e he => h e (List.mem_append_right _ he)
  | zeroOrMore hy | oneOrMore hy => exact Fits.of_le h hy.le_stop

theorem Fits.of_tries (h : w.Fits tokens.length b m p) (ht : Tries rules tokens m p m₁ p₁) :
    w.Fits tokens.length b m₁ p₁ := by
  induction ht with
  | first hf => exact h.of_triesFirst hf
  | onward hg _ ih => exact ih (h.of_goesOn hg)

/-- Entering a rule loses weight. -/
theorem Fits.of_body {i : Nat} {name : String} (hl : rules.lookup name = some m)
    (h : w.Fits tokens.length (b + 1) ⟨i, .rule name⟩ p) (hp : p ≤ tokens.length) :
    w.Fits tokens.length b m p := by
  intro e he hle
  have hname := h (0, name) List.mem_cons_self hp
  have hlt := w.lighter hl e he
  have hmul : w.perToken * (tokens.length - p) =
      w.perToken * (tokens.length - (p + e.1)) + w.perToken * e.1 := by
    rw [← Nat.mul_add]
    congr 1
    omega
  simp only [Nat.add_zero] at hname
  omega

theorem Fits.not_zero {i : Nat} {name : String} (h : w.Fits tokens.length 0 ⟨i, .rule name⟩ p) :
    tokens.length < p :=
  Nat.lt_of_not_le fun hp => absurd (h (0, name) List.mem_cons_self hp) (Nat.not_lt_zero _)

/-- No more rules are entered than fit. -/
theorem Fits.depth_le (h : w.Fits tokens.length b m p) (hp : p ≤ tokens.length)
    (hv : Visits rules tokens m p d m' p') : d ≤ b := by
  induction hv generalizing b with
  | here => exact Nat.zero_le _
  | part ht _ ih =>
      have hle := ht.le_length
      exact ih (h.of_tries ht) (by omega)
  | body hl _ ih =>
      cases b with
      | zero => exact absurd hp (Nat.not_le_of_lt h.not_zero)
      | succ b => exact Nat.succ_le_succ (ih (h.of_body hl hp) hp)

/-! ### Depth -/

/-- Where all rules that are referred to are defined, so are all that one comes to. -/
theorem resolved_of_visits
    (hclosed : ∀ {name body}, rules.lookup name = some body → body.Resolved rules)
    (hm : m.Resolved rules) (hv : Visits rules tokens m p d m' p') : m'.Resolved rules := by
  induction hv with
  | here => exact hm
  | part ht _ ih => exact ih (hm.part ht.mem_parts)
  | body hl _ ih => exact ih (hclosed hl)

/-- **Depth.** -/
theorem bounded (w : Weighing rules)
    (hclosed : ∀ {name body}, rules.lookup name = some body → body.Resolved rules) {i : Nat}
    {name : String} (hname : rules.lookup name ≠ none) (hp : p ≤ tokens.length) :
    Bounded rules tokens (w.weight name + w.perToken * (tokens.length - p) + 1)
      ⟨i, .rule name⟩ p := by
  have hfits : w.Fits tokens.length (w.weight name + w.perToken * (tokens.length - p) + 1)
      ⟨i, .rule name⟩ p := by
    intro e he _
    cases List.eq_of_mem_singleton he
    exact Nat.lt_succ_self _
  have hresolved : Matcher.Resolved rules ⟨i, .rule name⟩ := fun _ hn =>
    List.eq_of_mem_singleton hn ▸ hname
  intro d m' p' hv
  refine ⟨hfits.depth_le hp hv, ?_⟩
  rintro j name' rfl
  exact resolved_of_visits hclosed hresolved hv name' (List.mem_singleton_self name')

/-- So no rule comes back to itself before any token is consumed. -/
theorem not_visitsInside_rule (w : Weighing rules)
    (hclosed : ∀ {name body}, rules.lookup name = some body → body.Resolved rules) {i j : Nat}
    {name : String} (hp : p ≤ tokens.length) :
    ¬ VisitsInside rules tokens ⟨i, .rule name⟩ p d ⟨j, .rule name⟩ p := by
  intro hv
  cases hv with
  | part ht _ => exact absurd ht.mem_parts List.not_mem_nil
  | body hl hv =>
      have hname : rules.lookup name ≠ none := by simp [hl]
      exact (w.bounded hclosed hname hp).not_visitsInside_self (.body hl hv)

end Weighing

open Attempt in
/-- A parse with a grammar that can be weighed is not aborted, if the depth may be what the root and
the tokens weigh. -/
theorem Workshop.Reachable.cause?_root_of_weighing {w : Workshop} (hw : w.Reachable) {g : Grammar}
    (hg : g ∈ w.grammars) (weighing : Weighing g.rules) {i : Nat} {name : String}
    (hroot : g.root = ⟨i, .rule name⟩) {cfg : Config} {tokens : List Token}
    (hd : weighing.weight name + weighing.perToken * tokens.length + 1 ≤ cfg.maxDepth)
    (listening : Bool) :
    cause? (attemptWith cfg g.rules g.root (.start tokens listening)) = none := by
  have hclosed := hw.closed g hg
  have hname : g.rules.lookup name ≠ none :=
    hclosed.root name (hroot ▸ List.mem_singleton_self name)
  have hp : 0 ≤ tokens.length := Nat.zero_le _
  have hb := weighing.bounded (fun hl => hclosed.body (mem_of_lookup hl)) (i := i) hname hp
  rw [← hroot] at hb
  exact cause?_attempt_of_bounded_le (fun _ => hw.family hg) cfg.maxDepth g.root
    (fun _ => .root hg) (State.counted_start g.rules tokens w.Known listening).toTruthful hb hd

end Packrat
