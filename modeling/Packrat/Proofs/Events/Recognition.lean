import Mathlib.Order.Bounds.Defs
import Packrat.Proofs.Events.Account
import Packrat.Proofs.Peg.Limit

/-!
# Proofs — Events — Recognition

Where tokens that are not recognised are reported.  The furthest failure of a parse is the furthest
place where one of its events misses (`Reachable.isGreatest_deepest`): whatever fails because
something inside of it failed adds no place of its own, and the memo loses none, since what it
spares was reported when it was tried.

**Recognition** (`recognition_at_furthest_failure`): the error is at that place, or where the root
ended if it matched up to a later one, and it says which token is there and where that is in the
text.
-/

namespace Packrat

open Attempt Event

variable {rules : List (String × Matcher)} {tokens : List Token} {m : Matcher} {x e : Event}
  {p k : Nat}

/-- Failures on the way are not beyond the last token, unless the way begins there. -/
theorem Noted.le_length (h : Noted rules tokens m p k) : k ≤ max p tokens.length := by
  obtain ⟨d, m', p', hv, hy⟩ := h
  have hp := hv.le_length
  have hk := hy.within.2
  omega

/-- What misses does so where it was entered, which was noted. -/
theorem Event.Misses.cursor_le (h : e.Misses tokens) (hx : x.ClosedBy e) :
    e.cursor ≤ e.deepest := by
  obtain ⟨m, q, -, hphase, -⟩ := h
  cases hx with
  | matched => cases hphase
  | failed hle hnoted => exact Nat.le_trans hle hnoted

/-- What an error for tokens that are not recognised says. -/
theorem ParseError.eq_of_unrecognised {position : Nat} {found : Option Token} {location : Caret}
    (h : unrecognised tokens k = .recognition position found location) :
    position = k ∧ found = tokens[k]? ∧ (∀ t, found = some t → location = t.caret) ∧
      (found = none → location = (tokens.getLast?.map (·.endCaret)).getD .origin) := by
  simp only [unrecognised] at h
  split at h
  · next t ht =>
    cases h
    exact ⟨rfl, ht.symm, fun _ he => by cases he; rfl, fun he => by cases he⟩
  · next hn =>
    cases h
    refine ⟨rfl, hn.symm, fun _ he => ?_, fun _ => rfl⟩
    cases he

/-- Tokens are not recognised where the attempt of the root failed, at the furthest failure, or
where it matched and tokens were left, at the furthest failure or at the first of these. -/
theorem exists_unrecognised_of_verdict {F : Matcher → Prop} {s : State} {a : Ending Match}
    {position : Nat} {found : Option Token} {location : Caret} (ht : Told rules tokens F m s a)
    (h : Grammar.verdict tokens a = .error (.recognition position found location)) :
    ∃ k, ParseError.unrecognised tokens k = .recognition position found location ∧
      ((∃ q, a.1 = .error (.backtrack q)) ∧ k = a.2.deepest ∨
        ∃ r, a.1 = .ok r ∧ r.stop < tokens.length ∧ k = max a.2.deepest r.stop) := by
  cases ht with
  | @ok r s' truthful _ stop =>
      simp only [Grammar.verdict] at h
      split at h
      · cases h
      · next hend =>
        rw [truthful.atEnd_iff, stop, Nat.not_le] at hend
        refine ⟨_, Except.error.inj h, .inr ⟨r, rfl, hend, ?_⟩⟩
        rw [stop]
  | @backtrack q => exact ⟨_, Except.error.inj h, .inl ⟨⟨q, rfl⟩, rfl⟩⟩
  | abort => cases h

namespace Workshop.Reachable

variable {w : Workshop} {g : Grammar}

/-- **The furthest failure** is the furthest place where an event misses. -/
theorem isGreatest_deepest (hw : w.Reachable) (hg : g ∈ w.grammars) (cfg : Config)
    (tokens : List Token) :
    IsGreatest {k | k = 0 ∨ MissedAt tokens (g.parse cfg true tokens).events k}
      (g.parse cfg true tokens).final.deepest := by
  have haccount := hw.account hg cfg tokens
  refine ⟨haccount.origin, ?_⟩
  rintro k (rfl | ⟨e, he, hmiss, rfl⟩)
  · exact Nat.zero_le _
  · obtain ⟨left, -, hnests⟩ := hw.nests_events hg cfg tokens
    rcases hnests.entered_or_closes he with hentered | ⟨x, hclosed, -⟩
    · obtain ⟨m, q, -, hphase, -⟩ := hmiss
      rw [hphase] at hentered
      cases hentered
    · exact Nat.le_trans (hmiss.cursor_le hclosed) (haccount.below e he)

theorem deepest_le_length (hw : w.Reachable) (hg : g ∈ w.grammars) (cfg : Config)
    (tokens : List Token) (listening : Bool) :
    (g.parse cfg listening tokens).final.deepest ≤ tokens.length := by
  rcases (hw.counts_root hg cfg tokens listening).origin with hd | hnoted
  · exact Nat.le_trans (Nat.le_of_eq hd) (Nat.zero_le _)
  · have hle := hnoted.le_length
    rwa [State.cursor_start, Nat.zero_max] at hle

/-- Where the parse would say that tokens are not recognised: at the furthest of the places where an
event misses and, if there is one, the first token that the root left. -/
theorem isGreatest_of_ended (hw : w.Reachable) (hg : g ∈ w.grammars) (cfg : Config)
    (tokens : List Token)
    (hk : (∃ q, (attemptWith cfg g.rules g.root (.start tokens true)).1 = .error (.backtrack q)) ∧
        k = (attemptWith cfg g.rules g.root (.start tokens true)).2.deepest ∨
      ∃ r, (attemptWith cfg g.rules g.root (.start tokens true)).1 = .ok r ∧
        r.stop < tokens.length ∧
        k = max (attemptWith cfg g.rules g.root (.start tokens true)).2.deepest r.stop) :
    IsGreatest {k | k = 0 ∨ MissedAt tokens (g.parse cfg true tokens).events k ∨
        ∃ r, (attemptWith cfg g.rules g.root (.start tokens true)).1 = .ok r ∧ r.stop = k ∧
          k < tokens.length} k ∧ k ≤ tokens.length := by
  have hdeepest := hw.isGreatest_deepest hg cfg tokens
  have hlength := hw.deepest_le_length hg cfg tokens true
  rcases hk with ⟨⟨q, hq⟩, rfl⟩ | ⟨r, hr, hlt, rfl⟩
  · refine ⟨⟨hdeepest.1.imp_right .inl, ?_⟩, hlength⟩
    rintro k (rfl | hmiss | ⟨r, hr, -⟩)
    · exact Nat.zero_le _
    · exact hdeepest.2 (.inr hmiss)
    · cases hq.symm.trans hr
  · refine ⟨⟨?_, ?_⟩, Nat.max_le.mpr ⟨hlength, Nat.le_of_lt hlt⟩⟩
    · rcases Nat.le_total (attemptWith cfg g.rules g.root (.start tokens true)).2.deepest r.stop
        with hmax | hmax
      · rw [Nat.max_eq_right hmax]
        exact .inr (.inr ⟨r, hr, rfl, hlt⟩)
      · rw [Nat.max_eq_left hmax]
        exact hdeepest.1.imp_right .inl
    · rintro k (rfl | hmiss | ⟨r', hr', rfl, -⟩)
      · exact Nat.zero_le _
      · exact Nat.le_trans (hdeepest.2 (.inr hmiss)) (Nat.le_max_left _ _)
      · cases hr.symm.trans hr'
        exact Nat.le_max_right _ _

end Workshop.Reachable

/-- **Recognition.** -/
theorem recognition_at_furthest_failure {w : Workshop} (hw : w.Reachable) {g : Grammar}
    (hg : g ∈ w.grammars) (cfg : Config) (tokens : List Token) (listening : Bool) {position : Nat}
    {found : Option Token} {location : Caret}
    (h : (g.parse cfg listening tokens).result = .error (.recognition position found location)) :
    IsGreatest {k | k = 0 ∨ MissedAt tokens (g.parse cfg true tokens).events k ∨
        ∃ r, (attemptWith cfg g.rules g.root (.start tokens true)).1 = .ok r ∧ r.stop = k ∧
          k < tokens.length} position ∧
      position ≤ tokens.length ∧ found = tokens[position]? ∧
      (found = none ↔ position = tokens.length) ∧
      (∀ t, found = some t → location = t.caret) ∧
      (∀ t, found = none → tokens.getLast? = some t → location = ⟨t.line, t.endColumn⟩) ∧
      (tokens = [] → location = ⟨1, 1⟩) := by
  have hc : cause? (attemptWith cfg g.rules g.root (.start tokens listening)) = none := by
    refine hw.cause?_root_eq_none hg fun p limit he => ?_
    rw [h] at he
    cases he
  -- listening changes nothing, so the parse may be the one with the events
  have hc' := hw.cause?_root_of_le hg cfg.memoize tokens (Nat.le_refl cfg.maxDepth) listening true
    hc
  obtain ⟨k, hk, hended⟩ := exists_unrecognised_of_verdict (hw.told_root hg cfg tokens true)
    ((hw.result_parse_eq hg hc hc').trans h)
  obtain ⟨rfl, hfound, hcaret, hend⟩ := ParseError.eq_of_unrecognised hk
  obtain ⟨hposition, hle⟩ := hw.isGreatest_of_ended hg cfg tokens hended
  refine ⟨hposition, hle, hfound, ?_, hcaret, ?_, ?_⟩
  · rw [hfound, List.getElem?_eq_none_iff]
    exact ⟨fun h => Nat.le_antisymm hle h, fun h => Nat.le_of_eq h.symm⟩
  · intro t hn hlast
    rw [hend hn, hlast]
    rfl
  · rintro rfl
    exact hend hfound

/-- A pair fails at its second token, where something else is. -/
theorem other_than_pair_not_recognised :
    let pair : Matcher := ⟨2, .sequence [⟨0, .literal "a"⟩, ⟨1, .literal "b"⟩]⟩
    let w := Workshop.opened 0 |>.defined "pair" (.many [.text "a", .text "b"]) |>.built "pair"
    let g : Grammar := ⟨⟨4, .rule "pair"⟩, [("pair", pair)], ["pair"]⟩
    let other : Token := .ofText .identifier "c" ⟨1, 3⟩
    let tokens : List Token := [.ofText .identifier "a" .origin, other]
    w.Reachable ∧ g ∈ w.grammars ∧
      (g.parse ⟨false, 1⟩ false tokens).result = .error (.recognition 1 (some other) ⟨1, 3⟩) ∧
      MissedAt tokens (g.parse ⟨false, 1⟩ true tokens).events 1 := by
  intro pair w g other tokens
  have hw : w.Reachable := ((Workshop.Reachable.opened 0).defined "pair"
    (.many [.text "a", .text "b"]) (List.forall_mem_nil _)).built "pair"
  have hg : g ∈ w.grammars := List.mem_singleton_self g
  have hresult : (g.parse ⟨false, 1⟩ false tokens).result =
      .error (.recognition 1 (some other) ⟨1, 3⟩) := rfl
  have hfailed : ∀ r, (attemptWith ⟨false, 1⟩ g.rules g.root (.start tokens true)).1 ≠ .ok r := by
    rintro r ⟨⟩
  refine ⟨hw, hg, hresult, ?_⟩
  rcases (recognition_at_furthest_failure hw hg ⟨false, 1⟩ tokens false hresult).1.1 with
    h₀ | hmiss | ⟨r, hr, -⟩
  · cases h₀
  · exact hmiss
  · exact absurd hr (hfailed r)

end Packrat
