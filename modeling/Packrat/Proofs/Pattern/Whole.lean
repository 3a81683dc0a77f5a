import Packrat.Proofs.Grammar.Workshop
import Packrat.Proofs.Pattern.Enclosed
import Packrat.Proofs.Pattern.Leads
import Packrat.Proofs.Pattern.Room
import Packrat.Proofs.Peg.Yields

/-!
# Proofs — Pattern — Whole

What becomes of a pattern between signs for the start and the end of the text, which is how a
matcher for whole tokens is made of it.

**Whole tokens** (`regexp_matches_whole_tokens`): unless the pattern closes a parenthesis that it
did not open, the matcher is made if the pattern is valid alone and `Enclosable`, and it takes the
tokens whose whole text the pattern matches.

Neither exception can be had without: some valid patterns are refused, and some patterns that are
not valid are taken (`enclosed_unlike_alone`).
-/

namespace Packrat

namespace Pattern

/-! ### The whole text -/

theorem toList_anchored (source : String) : (anchored source).toList =
    '^' :: '(' :: '?' :: ':' :: (source.toList ++ [')', '$']) := by
  simp [anchored]

/-- The flags of a pattern do not reach out of the group around it. -/
theorem meaning_enclosed (w : Written) :
    w.enclosed.meaning .initial = (w.meaning .initial).map fun a => (a.1.whole, .initial) := by
  have hswitch : Flags.initial.switch [] = .initial := rfl
  cases h : w.meaning .initial with
  | none => simp [Written.enclosed, Written.meaning, Written.meanings, hswitch, h]
  | some a =>
      simp [Written.enclosed, Written.meaning, Written.meanings, hswitch, h]
      rfl

theorem leads_whole_iff {e : Expr} {text : Array Char} {i j : Nat} (hi : i ≤ text.size) :
    e.whole.Leads text i j ↔ i = 0 ∧ j = text.size ∧ e.Leads text 0 text.size := by
  constructor
  · rintro ⟨_, ⟨rfl, hstart⟩, k, he, rfl, hend⟩
    obtain rfl := (textStart_holdsAt_iff hi).mp hstart
    have hk : j = text.size := by
      have := textEnd_holdsAt_iff.mp hend
      have := he.within
      omega
    exact ⟨rfl, hk, hk ▸ he⟩
  · rintro ⟨rfl, rfl, he⟩
    exact ⟨0, ⟨rfl, (textStart_holdsAt_iff hi).mpr rfl⟩, text.size, he, rfl,
      textEnd_holdsAt_iff.mpr (Nat.le_refl _)⟩

/-- Between the start and the end of the text, an expression is found if it leads from the one to
the other. -/
theorem findsIn_whole_iff {e : Expr} {text : Array Char} :
    e.whole.findsIn text = true ↔ e.Leads text 0 text.size := by
  rw [Expr.findsIn_iff]
  constructor
  · rintro ⟨i, j, hi, h⟩
    exact ((leads_whole_iff hi).mp h).2.2
  · intro h
    exact ⟨0, text.size, Nat.zero_le _, (leads_whole_iff (Nat.zero_le _)).mpr ⟨rfl, rfl, h⟩⟩

/-! ### Compiling -/

variable {source : String} {e : Expr}

theorem compile?_eq_some_iff : compile? source = some e ↔
    ∃ w fl, readPattern? source.toList = some w ∧ w.meaning .initial = some (e, fl) ∧
      e.plan.fits = true := by
  unfold compile?
  constructor
  · intro h
    obtain ⟨w, hw, h⟩ := Option.bind_eq_some_iff.mp h
    obtain ⟨⟨e', fl⟩, he, h⟩ := Option.bind_eq_some_iff.mp h
    dsimp only at h
    split at h
    · next hfits =>
      cases h
      exact ⟨w, fl, hw, he, hfits⟩
    · cases h
  · rintro ⟨w, fl, hw, he, hfits⟩
    simp [hw, he, hfits]

/-- What a valid pattern needs in order to be valid between the start and the end of the text, too:
what stands behind it is no part of it, and there is room for the group around it. -/
structure Enclosable (source : String) (e : Expr) : Prop where
  closed : ¬ EndsInComment source.toList
  depth : ∀ w ∈ readPattern? source.toList, w.depth + 2 ≤ Written.maxDepth
  room : e.whole.plan.fits = true

/-- **Compiling.** -/
theorem ofSource?_eq_some_iff {p : Pattern} (hc : ¬ ClosesUnopened source.toList) :
    ofSource? source = some p ↔
      ∃ e, compile? source = some e ∧ Enclosable source e ∧ p = ⟨source, e.whole⟩ := by
  simp only [ofSource?, Option.map_eq_some_iff, compile?_eq_some_iff, toList_anchored,
    readPattern?_enclosed hc]
  constructor
  · rintro ⟨_, ⟨_, fl, ⟨w, hw, hcomment, hd, rfl⟩, hmeaning, hfits⟩, rfl⟩
    rw [meaning_enclosed] at hmeaning
    obtain ⟨⟨e, fl'⟩, he, heq⟩ := Option.map_eq_some_iff.mp hmeaning
    cases heq
    refine ⟨e, ⟨w, fl', hw, he, Expr.fits_of_whole hfits⟩, ⟨hcomment, fun w' hw' => ?_, hfits⟩, rfl⟩
    cases hw.symm.trans hw'
    exact hd
  · rintro ⟨e, ⟨w, fl, hw, he, -⟩, henc, rfl⟩
    refine ⟨e.whole, ⟨_, .initial, ⟨w, hw, henc.closed, henc.depth w hw, rfl⟩, ?_, henc.room⟩, rfl⟩
    rw [meaning_enclosed, he]
    rfl

end Pattern

/-! ### Matching tokens -/

open Pattern Attempt

/-- A pattern takes the next token if it accepts its text, and fails where it stands if not. -/
theorem outcome_pattern {p : Pattern} {n : Nat} {cfg : Config} {rules : List (String × Matcher)}
    {s : State} {t : Token} (ht : s.peek? 0 = some t) (hm : s.outcomeAt? n s.cursor = none) :
    ∃ o, ((attemptWith cfg rules ⟨n, .pattern p⟩).outcome s).1 = .ok o ∧
      o.answer = if p.accepts t.text then .matched (.leaf t) [] (s.cursor + 1)
        else .failed s.cursor := by
  rw [attemptWith, attempt_eq]
  have hnone : remembered? cfg ⟨n, .pattern p⟩ s = none := by
    cases h : remembered? cfg ⟨n, .pattern p⟩ s with
    | none => rfl
    | some o =>
        have := (remembered?_eq_some_iff.mp h).2
        cases this.symm.trans hm
  have ht' : (announce ⟨n, .pattern p⟩ .entered s).peek? 0 = some t := by
    rw [State.peek?, tokens_announce, cursor_announce]
    exact ht
  simp only [outcome, settled, hnone, thenFrom, attemptShape, oneToken, ht']
  by_cases ha : p.accepts t.text = true
  · rw [if_pos ha, if_pos ha]
    exact ⟨_, rfl, by simp [Outcome.answer, Match.answer]⟩
  · rw [if_neg ha, if_neg ha]
    exact ⟨_, rfl, by simp [Outcome.answer]⟩

/-- The matcher takes the tokens whose whole text the expression matches and no others, wherever
nothing is remembered about it. -/
def Matcher.TakesWhole (m : Matcher) (e : Expr) : Prop :=
  ∀ (cfg : Config) (rules : List (String × Matcher)) (s : State) (t : Token),
    s.peek? 0 = some t → s.outcomeAt? m.id s.cursor = none →
      let text := t.text.toList.toArray
      ∃ o, ((attemptWith cfg rules m).outcome s).1 = .ok o ∧
        (e.Leads text 0 text.size ∧ o.answer = .matched (.leaf t) [] (s.cursor + 1) ∨
          ¬ e.Leads text 0 text.size ∧ o.answer = .failed s.cursor)

theorem takesWhole_whole (n : Nat) (source : String) (e : Expr) :
    Matcher.TakesWhole ⟨n, .pattern ⟨source, e.whole⟩⟩ e := by
  intro cfg rules s t ht hm text
  obtain ⟨o, ho, ha⟩ := outcome_pattern ht hm
  refine ⟨o, ho, ?_⟩
  by_cases h : e.Leads text 0 text.size
  · rw [if_pos (show accepts ⟨source, e.whole⟩ t.text = true from findsIn_whole_iff.mpr h)] at ha
    exact .inl ⟨h, ha⟩
  · have hacc : ¬ accepts ⟨source, e.whole⟩ t.text = true := fun hacc =>
      h (findsIn_whole_iff.mp hacc)
    rw [if_neg hacc] at ha
    exact .inr ⟨h, ha⟩

/-- **Whole tokens.**  What is refused as part of a comment has a sign for one, and no line feed
after it. -/
theorem regexp_matches_whole_tokens (source : String) (n : Nat)
    (hc : ¬ ClosesUnopened source.toList) :
    (∀ e, compile? source = some e → Enclosable source e →
      ∃ m, (Matcher.regexp source).runFrom n = (.ok m, n + 1) ∧ m.TakesWhole e) ∧
    ((∀ e, compile? source = some e → ¬ Enclosable source e) →
      (Matcher.regexp source).runFrom n = (.error (.invalidPattern source), n)) ∧
    (EndsInComment source.toList → ∃ a b, source.toList = a ++ '#' :: b ∧ '\n' ∉ b) := by
  refine ⟨fun e he henc => ?_, fun hno => ?_, EndsInComment.exists_sign⟩
  · have hp := (ofSource?_eq_some_iff hc).mpr ⟨e, he, henc, rfl⟩
    refine ⟨⟨n, .pattern ⟨source, e.whole⟩⟩, ?_, takesWhole_whole n source e⟩
    simp only [Matcher.regexp, hp, runFrom_make]
  · have hnone : ofSource? source = none := by
      refine Option.eq_none_iff_forall_ne_some.mpr fun p hp => ?_
      obtain ⟨e, he, henc, -⟩ := (ofSource?_eq_some_iff hc).mp hp
      exact hno e he henc
    simp only [Matcher.regexp, hnone, runFrom_throw]

/-- Both branches of a choice are matched as whole tokens. -/
theorem alternatives_match_whole_tokens :
    ¬ ClosesUnopened "ab|c".toList ∧ ∃ e m, compile? "ab|c" = some e ∧
      (Matcher.regexp "ab|c").runFrom 0 = (.ok m, 1) ∧ m.TakesWhole e := by
  let w : Written := .choice [.concat [.literal ⟨'a', false⟩, .literal ⟨'b', false⟩],
    .literal ⟨'c', false⟩]
  let e : Expr := .alt (.cat (.char (.single 'a')) (.char (.single 'b'))) (.char (.single 'c'))
  have hw : readPattern? "ab|c".toList = some w := rfl
  have hc : ¬ ClosesUnopened "ab|c".toList := by
    rintro ⟨_, _, _, _, h⟩
    cases h
  have he : compile? "ab|c" = some e :=
    compile?_eq_some_iff.mpr ⟨w, .initial, hw, rfl, by decide +kernel⟩
  have henc : Enclosable "ab|c" e := by
    refine ⟨fun h => ?_, fun w' hw' => ?_, by decide +kernel⟩
    · obtain ⟨x, y, hxy, -⟩ := h.exists_sign
      have : '#' ∈ "ab|c".toList := hxy ▸ List.mem_append_right _ List.mem_cons_self
      exact absurd this (by decide)
    · cases hw.symm.trans hw'
      decide
  obtain ⟨m, hm, htakes⟩ := (regexp_matches_whole_tokens "ab|c" 0 hc).1 _ he henc
  exact ⟨hc, _, m, he, hm, htakes⟩

/-- A valid pattern that is refused, since what is put behind it ends up in its comment; and one
that is not valid, but is made valid by the group around it. -/
theorem enclosed_unlike_alone :
    (compile? "(?x) [0-9]+ # digits" ≠ none ∧
      (Matcher.regexp "(?x) [0-9]+ # digits").runFrom 0 =
        (.error (.invalidPattern "(?x) [0-9]+ # digits"), 0)) ∧
    compile? "a)|(?:b" = none ∧ ∃ m, (Matcher.regexp "a)|(?:b").runFrom 0 = (.ok m, 1) := by
  have hvalid : (compile? "(?x) [0-9]+ # digits").isSome = true := by decide +kernel
  have hrefused : (ofSource? "(?x) [0-9]+ # digits").isNone = true := by decide +kernel
  have hinvalid : (compile? "a)|(?:b").isNone = true := by decide +kernel
  have hmade : (ofSource? "a)|(?:b").isSome = true := by decide +kernel
  obtain ⟨p, hp⟩ := Option.isSome_iff_exists.mp hmade
  refine ⟨⟨Option.isSome_iff_ne_none.mp hvalid, ?_⟩, Option.isNone_iff_eq_none.mp hinvalid,
    ⟨0, .pattern p⟩, ?_⟩
  · simp only [Matcher.regexp, Option.isNone_iff_eq_none.mp hrefused, runFrom_throw]
  · simp only [Matcher.regexp, hp, runFrom_make]

end Packrat
