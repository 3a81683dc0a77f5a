import Packrat.Proofs.Calculator.Layout
import Packrat.Proofs.Peg.Trail

/-!
# Proofs — Calculator — Adjacency

Tokens that touch.  Whether two tokens touch is decided by lines and columns.  A caret moves on with
every character, so two tokens of a source that follow each other touch if and only if there is
nothing between them in the source (`Layout.touches_iff`), whatever the gap would be made of.

**Adjacency** (`adjacent_iff_no_gap`): over the tokens of a source, a matcher that asks for adjacent
tokens does what its part does where there is no gap before the next token, and fails elsewhere.
-/

namespace Packrat.Calculator

open Attempt

namespace Layout

variable {k : Caret} {cs g : List Char} {ts : List Token} {a b t : Token}
  {gaps : List (List Char)} {i p : Nat}

theorem before_succ (ht : ts[i]? = some t) (hg : gaps[i + 1]? = some g) :
    before gaps ts (i + 1) = before gaps ts i ++ t.text.toList ++ g := by
  induction i generalizing ts gaps with
  | zero =>
      rcases ts with _ | ⟨t', ts⟩ <;> cases ht
      rcases gaps with _ | ⟨g₀, _ | ⟨g', gaps⟩⟩ <;> cases hg
      simp [before, woven, chars]
  | succ i ih =>
      rcases ts with _ | ⟨t₀, ts⟩
      · cases ht
      rcases gaps with _ | ⟨g₀, gaps⟩
      · cases hg
      have hrest : before gaps ts (i + 1) = before gaps ts i ++ t.text.toList ++ g := ih ht hg
      simp only [before, List.take_succ_cons, chars, List.map_cons, woven,
        List.append_assoc] at hrest ⊢
      rw [hrest]

/-- The caret moves over a token and over the gap after it. -/
theorem caret_next (h : Layout k cs ts gaps) (ha : ts[i]? = some a) (hb : ts[i + 1]? = some b)
    (hg : gaps[i + 1]? = some g) : b.caret = a.endCaret.after g := by
  rw [h.caret_eq _ _ hb, before_succ ha hg, Caret.after_append, Caret.after_append,
    ← h.caret_eq _ _ ha, h.after_text (List.mem_of_getElem? ha)]

/-- **Tokens touch if nothing is between them.** -/
theorem touches_iff (h : Layout k cs ts gaps) (ha : ts[i]? = some a) (hb : ts[i + 1]? = some b) :
    touches a b = true ↔ gaps[i + 1]? = some [] := by
  have hi : i + 1 < gaps.length := by
    have := (List.getElem?_eq_some_iff.mp hb).1
    have := h.length_eq
    omega
  obtain ⟨g, hg⟩ : ∃ g, gaps[i + 1]? = some g := ⟨_, List.getElem?_eq_getElem hi⟩
  have hcaret := h.caret_next ha hb hg
  rw [hg, Option.some.injEq, touches_eq_true_iff]
  constructor
  · rintro ⟨hline, hcolumn⟩
    -- a gap would have moved the caret on
    by_contra hne
    have hlt : a.endCaret < b.caret := hcaret ▸ Caret.lt_after hne
    rcases hlt with hlt | ⟨-, hlt⟩
    · exact absurd hline (Nat.ne_of_gt hlt)
    · exact absurd hcolumn (Nat.not_le_of_lt hlt)
  · rintro rfl
    have hcaret : b.caret = a.endCaret := hcaret
    have hline : b.caret.line = a.endCaret.line := congrArg Caret.line hcaret
    have hcolumn : b.caret.column = a.endCaret.column := congrArg Caret.column hcaret
    exact ⟨hline, Nat.le_of_eq hcolumn⟩

/-- The same, for the tokens around a position. -/
theorem touching_iff (h : Layout k cs ts gaps) (hp : 1 ≤ p) :
    Touching ts p ↔ p < ts.length ∧ gaps[p]? = some [] := by
  obtain ⟨i, rfl⟩ := Nat.exists_eq_add_of_le' hp
  constructor
  · rintro ⟨i', a, b, hi, ha, hb, htouch⟩
    cases hi
    exact ⟨(List.getElem?_eq_some_iff.mp hb).1,
      (h.touches_iff ha hb).mp (touches_eq_true_iff.mpr htouch)⟩
  · rintro ⟨hlt, hg⟩
    have ha := List.getElem?_eq_getElem (Nat.lt_of_succ_lt hlt)
    have hb := List.getElem?_eq_getElem hlt
    exact ⟨i, _, _, rfl, ha, hb, touches_eq_true_iff.mp ((h.touches_iff ha hb).mpr hg)⟩

end Layout

/-! ### Matchers that ask for adjacent tokens -/

section

variable {ts : List Token} {p j : Nat} {rules : List (String × Matcher)} {m : Matcher} {o : Answer}

theorem yields_adjacent_iff :
    Yields rules ts ⟨j, .adjacent m⟩ p o ↔
      (Touching ts p ∧ Yields rules ts m p o) ∨ (¬ Touching ts p ∧ o = .failed p) := by
  constructor
  · intro hy
    cases hy with
    | adjacent ht hy => exact .inl ⟨ht, hy⟩
    | adjacent_fails hn => exact .inr ⟨hn, rfl⟩
  · rintro (⟨ht, hy⟩ | ⟨hn, rfl⟩)
    · exact .adjacent ht hy
    · exact .adjacent_fails hn

theorem fst_concluded (cfg : Config) (m : Matcher) (start : Nat) (e : Ending Match) :
    (concluded cfg m start e).1 = e.1 := by
  rcases e with ⟨(_ | _) | _, _⟩ <;> rfl

end

/-- **Adjacency.**  Of the two descriptions of what the matcher comes to, the first is that of the
relation of answers.  The second is that of any attempt whose outcome is not remembered; what is
remembered is the answer of such an attempt. -/
theorem adjacent_iff_no_gap {text : String} {ts : List Token} (h : Lexer.tokens text = .ok ts) :
    ∃ gaps, Layout .origin text.toList ts gaps ∧
      (∀ i a b, ts[i]? = some a → ts[i + 1]? = some b →
        (touches a b = true ↔ gaps[i + 1]? = some [])) ∧
      ∀ p, 1 ≤ p → ∀ (rules : List (String × Matcher)) (m : Matcher) (j : Nat),
        (∀ o, Yields rules ts ⟨j, .adjacent m⟩ p o ↔
          if p < ts.length ∧ gaps[p]? = some [] then Yields rules ts m p o else o = .failed p) ∧
        ∀ (cfg : Config) (s : State), s.tokens = ts.toArray → s.cursor = p →
          remembered? cfg ⟨j, .adjacent m⟩ s = none →
          (attemptWith cfg rules ⟨j, .adjacent m⟩ s).1 =
            if p < ts.length ∧ gaps[p]? = some [] then
              (attemptWith cfg rules m (announce ⟨j, .adjacent m⟩ .entered s)).1
            else .error (.backtrack p) := by
  obtain ⟨gaps, hl⟩ := Lexer.exists_layout h
  refine ⟨gaps, hl, fun i a b => hl.touches_iff, fun p hp rules m j => ?_⟩
  have hiff := hl.touching_iff hp
  refine ⟨fun o => ?_, ?_⟩
  · rw [yields_adjacent_iff, hiff]
    split <;> simp [*]
  · rintro cfg s hs rfl hnone
    have hs' : (announce ⟨j, .adjacent m⟩ .entered s).tokens = ts.toArray := by simpa using hs
    simp only [attemptWith]
    rw [attempt_of_remembered?_eq_none hnone, fst_concluded]
    change (ifAdjacent _ (announce ⟨j, .adjacent m⟩ .entered s)).1 = _
    split
    · next hg => rw [ifAdjacent_of_touching hs' _ (by simpa using hiff.mpr hg)]
    · next hg =>
      rw [ifAdjacent_of_not_touching hs' _ (by simpa using mt hiff.mp hg)]
      simp [failHere]

/-- Parentheses right after a name, and after white space. -/
theorem parentheses_after_name_and_after_gap :
    let text := "f(x)\u2003\r(y)"
    let ts : List Token := [.ofText .identifier "f" ⟨1, 1⟩, .ofText .punctuator "(" ⟨1, 2⟩,
      .ofText .identifier "x" ⟨1, 3⟩, .ofText .punctuator ")" ⟨1, 4⟩,
      .ofText .punctuator "(" ⟨1, 7⟩, .ofText .identifier "y" ⟨1, 8⟩,
      .ofText .punctuator ")" ⟨1, 9⟩]
    let opening : Matcher := ⟨1, .adjacent ⟨0, .literal "("⟩⟩
    let s := fun p => (State.start ts false).moveTo p
    Lexer.tokens text = .ok ts ∧ ∃ gaps, Layout .origin text.toList ts gaps ∧
      gaps[1]? = some [] ∧ gaps[4]? ≠ some [] ∧
      (∀ o, Yields [] ts opening 1 o ↔ Yields [] ts ⟨0, .literal "("⟩ 1 o) ∧
      (attemptWith .standard [] opening (s 4)).1 = .error (.backtrack 4) := by
  intro text ts opening s
  have h : Lexer.tokens text = .ok ts := by
    subst text ts
    rfl
  obtain ⟨gaps, hl, htouch, hadjacent⟩ := adjacent_iff_no_gap h
  have h₁ : gaps[1]? = some [] := (htouch 0 _ _ rfl rfl).mp (by decide)
  have h₄ : gaps[4]? ≠ some [] := fun hg => by cases (htouch 3 _ _ rfl rfl).mpr hg
  have hnone : remembered? .standard opening (s 4) = none := by simp [remembered?, s]
  refine ⟨h, gaps, hl, h₁, h₄, fun o => ?_, ?_⟩
  · rw [(hadjacent 1 (by decide) [] ⟨0, .literal "("⟩ 1).1 o, if_pos ⟨by decide, h₁⟩]
  · rw [(hadjacent 4 (by decide) [] ⟨0, .literal "("⟩ 1).2 .standard (s 4) rfl rfl hnone,
      if_neg fun hg => h₄ hg.2]

end Packrat.Calculator
