import Packrat.Proofs.Peg.Checks
import Packrat.Proofs.Peg.Level

/-!
# Proofs — Peg — Inside

An attempt of a matcher does what trying its inside does, up to what is remembered of the matcher
itself: it is aborted for the same cause and leaves states on a level (`abreast_inside`).  The
furthest failure is the same if the matcher checks nothing itself, since it fails only where one of
its parts does.

`Alongside` says how two attempts of any kind end side by side over the same tokens.
-/

namespace Packrat

open Attempt

variable {rules : List (String × Matcher)} {tokens : List Token} {F : Matcher → Prop}
  {cfg : Config} {m : Matcher} {ms : List Matcher} {p depth : Nat} {s s' : State}

/-! ### One list of tokens -/

/-- The same tokens in both lanes. -/
abbrev Lanes.twice (rules : List (String × Matcher)) (tokens : List Token) : Lanes :=
  ⟨rules, tokens, tokens, 0, 0, fun _ _ => True, Eq⟩

theorem Lanes.even_twice (rules : List (String × Matcher)) (tokens : List Token) :
    (Lanes.twice rules tokens).Even where
  tries := fun _ _ => trivial
  tries' := fun _ _ => trivial
  body := fun _ _ => trivial
  matched := fun _ => .rfl
  failed := fun _ => .rfl
  touching := fun _ => .inl .rfl
  noted := fun {a b i} h => congrArg (max · (0 + i)) h
  caught := fun _ h hk hq => by
    cases h
    exact (Nat.max_eq_left (hk _ hq)).symm
  caught' := fun _ h hk hq => by
    cases h
    exact Nat.max_eq_left (hk _ hq)

namespace Lanes

theorem eq_of_twin {c c' : Option Abort} (h : (twice rules tokens).Twin c c') : c = c' := by
  cases h <;> rfl

theorem agree_twice (rules : List (String × Matcher)) (tokens : List Token) (m : Matcher)
    (j : Nat) : (twice rules tokens).Agree m j :=
  fun _ _ _ => .rfl

end Lanes

section

variable (rules tokens F cfg)

/-- How two attempts end side by side over the same tokens. -/
inductive Alongside {α β : Type} : Ending α → Ending β → Prop where
  | ok {a : α} {b : β} {s s' : State} : (Lanes.twice rules tokens).Level F cfg s s' →
      s.cursor = s'.cursor → Alongside (.ok a, s) (.ok b, s')
  | backtrack {q q' : Nat} {s s' : State} : (Lanes.twice rules tokens).Level F cfg s s' →
      Alongside (.error (.backtrack q), s) (.error (.backtrack q'), s')
  | abort {c : Abort} {s s' : State} : s.deepest = s'.deepest →
      Alongside (.error (.abort c), s) (.error (.abort c), s')

end

theorem Alongside.same {α β : Type} {e : Ending α} {e' : Ending β}
    (h : Alongside rules tokens F cfg e e') :
    cause? e = cause? e' ∧ e.2.deepest = e'.2.deepest := by
  cases h with
  | ok hl => exact ⟨rfl, hl.tally⟩
  | backtrack hl => exact ⟨rfl, hl.tally⟩
  | abort hd => exact ⟨rfl, hd⟩

/-- Where an attempt that matched ended. -/
def Attempt.stop? {α : Type} : Ending α → Option Nat
  | (.ok _, s) => some s.cursor
  | (.error _, _) => none

/-- Where a match ends. -/
def Answer.stop? : Answer → Option Nat
  | .matched _ _ e => some e
  | .failed _ => none

theorem alongside_of_abreast {α β : Type} {e : Ending α} {e' : Ending β}
    (h : (Lanes.twice rules tokens).Abreast F cfg (cause? e) (cause? e') e.2 e'.2)
    (hstop : cause? e = none → cause? e' = none → stop? e = stop? e') :
    Alongside rules tokens F cfg e e' := by
  obtain ⟨htwin, htally, hlevel⟩ := h
  have hc := Lanes.eq_of_twin htwin
  rcases e with ⟨(q | c) | a, s⟩ <;> rcases e' with ⟨(q' | c') | b, s'⟩
  · exact .backtrack (hlevel rfl)
  · cases hc
  · cases hstop rfl rfl
  · cases hc
  · cases hc
    exact .abort htally
  · cases hc
  · cases hstop rfl rfl
  · cases hc
  · exact .ok (hlevel rfl) (Option.some.inj (hstop rfl rfl))

theorem Told.exists_answer {e : Ending Match} (h : Told rules tokens F m s e)
    (hc : cause? e = none) : ∃ o, Yields rules tokens m s.cursor o ∧ stop? e = o.stop? := by
  cases h with
  | ok _ yields stop => exact ⟨_, yields, congrArg some stop⟩
  | backtrack _ yields _ => exact ⟨_, yields, rfl⟩
  | abort => cases hc

theorem ToldGroup.exists_answer {shape : Shape Matcher} {e : Ending (List Match)}
    (h : ToldGroup rules tokens F shape s e) (hc : cause? e = none) (i : Nat) :
    ∃ o, Yields rules tokens ⟨i, shape⟩ s.cursor o ∧ stop? e = o.stop? := by
  cases h with
  | ok _ yields => exact ⟨_, yields i, rfl⟩
  | backtrack _ yields => exact ⟨_, yields i, rfl⟩
  | abort => cases hc

theorem ToldChoice.exists_answer {d : Nat} {e : Ending Match}
    (h : ToldChoice rules tokens F d ms s e) (hc : cause? e = none) (i : Nat) :
    ∃ o, Yields rules tokens ⟨i, .firstOf ms⟩ s.cursor o ∧ stop? e = o.stop? := by
  cases h with
  | ok _ yields stop => exact ⟨_, yields i, congrArg some stop⟩
  | backtrack _ yields => exact ⟨_, yields i, rfl⟩
  | abort => cases hc

/-! ### An attempt and its inside -/

theorem countsInside_attemptShape (cfg : Config) (depth : Nat) (hF : Family rules F) (hm : F m)
    (hr : m.isRule = false) (hs : s.Counted rules tokens F) :
    CountsInside rules tokens F m s (attemptShape cfg (enterRule cfg rules depth) m.shape s) := by
  have hF' : cfg.memoize = true → Family rules F := fun _ => hF
  obtain ⟨l, hl⟩ := treads_attemptShape hr (tells_parts hF' depth fun _ => hm) hs.toTruthful
  exact hl.countsInside hs hr fun m' hm' _ hs => counts_attempt hF' depth m'
    (fun _ => hF.part hm hm') hs

/-- What is remembered of a matcher says nothing about references to rules. -/
theorem holds_concluded {n : Matcher} {q : Nat} {e : Ending Match} (hF : Family rules F)
    (hm : F m) (hr : m.isRule = false) (hn : F n) (hnr : n.isRule = true) :
    (concluded cfg m p e).2.Holds n q ↔ e.2.Holds n q := by
  have hid : m.id ≠ n.id := by
    intro hid
    rw [hF.unique hm hn hid, hnr] at hr
    cases hr
  rcases e with ⟨(_ | _) | _, _⟩ <;> simp [concluded, State.Holds, outcomeAt?_keep, hid]

/-- Where the outcome is remembered, all references to rules below are remembered, too: trying the
inside is not aborted, finds no later failure and remembers nothing new of references. -/
theorem abreast_inside_of_remembered (depth : Nat) (hF : Family rules F) (hm : F m)
    (hr : m.isRule = false) (hl : (Lanes.twice rules tokens).Level F cfg s s')
    (hp : s.cursor = s'.cursor) {o : Outcome} {t : State} (ho : remembered? cfg m s = some o)
    (hs : s.Still t) :
    (Lanes.twice rules tokens).Abreast F cfg none
      (cause? (attemptShape cfg (enterRule cfg rules depth) m.shape s')) t
      (attemptShape cfg (enterRule cfg rules depth) m.shape s').2 := by
  obtain ⟨hmem, hat⟩ := remembered?_eq_some_iff.mp ho
  have hheld : ∀ {d n q}, Visits rules tokens m s'.cursor d n q → s.Holds n q := fun hv =>
    (hl.closed hmem).closed hm (State.holds_of_remembered? ho) (hp ▸ hv)
  have hheld' : RulesHeld rules tokens m s' := fun d n q hv hnr => by
    have hiff := hl.holds_iff hmem (family_visits hF hm hv) trivial hnr (i := q)
    simpa [Lanes.twice] using hiff.mp (by simpa [Lanes.twice] using hheld hv)
  have hinside := countsInside_attemptShape cfg depth hF hm hr hl.counted'
  have hst := stores_attemptShape hmem hF depth m hm (hl.closed' hmem)
  have hdeepest : (attemptShape cfg (enterRule cfg rules depth) m.shape s').2.deepest =
      s'.deepest := by
    refine hinside.origin.elim id fun hk => Nat.le_antisymm ?_ hinside.grows
    rw [← hp] at hk
    exact hl.tally ▸ hl.counted.counted hm hat hk.noted
  have hl := hl.of_alike hs.toAlike (.refl s')
  have htally : (Lanes.twice rules tokens).Tally t.deepest
      (attemptShape cfg (enterRule cfg rules depth) m.shape s').2.deepest := by
    rw [hdeepest]
    exact hl.tally
  rw [(cause?_of_rules_held hmem hF depth m hm (hl.closed' hmem) hheld').2 hr]
  refine ⟨.unaborted, htally, fun _ => ⟨hl.counted, hinside.counted, hl.closed,
    fun _ => hst.closed, htally, fun _ {n q} hn hz hnr => ⟨fun hq => ?_, fun hq => ?_⟩⟩⟩
  · exact hst.keeps ((hl.holds_iff hmem hn hz hnr).mp hq)
  · rcases hst.origin hn hq with hq | ⟨d, hv⟩
    · exact (hl.holds_iff hmem hn hz hnr).mpr hq
    · exact hs.holds_iff.mpr (hheld hv.visits)

/-- Trying the inside after the attempt has been announced goes as it goes without that. -/
theorem abreast_announced (depth : Nat) (hF : Family rules F) (hm : F m) (hr : m.isRule = false)
    (hl : (Lanes.twice rules tokens).Level F cfg s s') (hp : s.cursor = s'.cursor) :
    (Lanes.twice rules tokens).Abreast F cfg
      (cause? (attemptShape cfg (enterRule cfg rules depth) m.shape (announce m .entered s)))
      (cause? (attemptShape cfg (enterRule cfg rules depth) m.shape s'))
      (attemptShape cfg (enterRule cfg rules depth) m.shape (announce m .entered s)).2
      (attemptShape cfg (enterRule cfg rules depth) m.shape s').2 :=
  Lanes.abreast_attemptShape (Lanes.even_twice rules tokens) hF hm hr trivial
    (Lanes.agree_twice rules tokens m s'.cursor)
    (fun m₁ hm₁ i hz => Lanes.goes_attempt (Lanes.even_twice rules tokens) hF depth m₁
      (hF.part hm hm₁) i hz)
    (hl.of_alike (.announce s m .entered) (.refl s')) (by simp [hp]) (by simp)

/-- If the matcher checks nothing itself, the failure that is noted last was noted before. -/
theorem deepest_concluded (depth : Nat) (hF : Family rules F) (hm : F m) (hr : m.isRule = false)
    (hs : s.Counted rules tokens F) (hcheck : ¬ m.Checks tokens s.cursor)
    (hshape : m.shape ≠ .firstOf []) (hn : remembered? cfg m s = none) :
    (attempt cfg (enterRule cfg rules depth) m s).2.deepest =
      (attemptShape cfg (enterRule cfg rules depth) m.shape (announce m .entered s)).2.deepest := by
  have hF' : cfg.memoize = true → Family rules F := fun _ => hF
  have ht := tells_attempt hF' depth (fun _ => hm) hs.toTruthful
  have hcovers := (countsInside_attemptShape cfg depth hF hm hr
    ((State.Alike.announce s m .entered).counted hs)).covers
  rw [attempt_of_remembered?_eq_none hn] at ht ⊢
  rw [cursor_announce] at hcovers
  generalize attemptShape cfg (enterRule cfg rules depth) m.shape (announce m .entered s) = e
    at ht hcovers
  rcases e with ⟨(q | c) | r, t⟩
  · cases ht with
    | backtrack _ yields _ =>
        have hq := (yields.checks_or_notedInside hshape).resolve_left fun hc => hcheck hc.1
        simp [concluded, Nat.max_eq_left (hcovers rfl q hq)]
  · rfl
  · simp [concluded]

/-- **An attempt does what trying its inside does.**  The furthest failure is the same if the
matcher checks nothing itself, and so fails only where something inside does. -/
theorem abreast_inside (cfg : Config) (depth : Nat) (hF : Family rules F) (hm : F m)
    (hr : m.isRule = false) (hl : (Lanes.twice rules tokens).Level F cfg s s')
    (hp : s.cursor = s'.cursor) :
    cause? (attempt cfg (enterRule cfg rules depth) m s) =
        cause? (attemptShape cfg (enterRule cfg rules depth) m.shape s') ∧
      (¬ m.Checks tokens s.cursor → m.shape ≠ .firstOf [] →
        (Lanes.twice rules tokens).Abreast F cfg
          (cause? (attempt cfg (enterRule cfg rules depth) m s))
          (cause? (attemptShape cfg (enterRule cfg rules depth) m.shape s'))
          (attempt cfg (enterRule cfg rules depth) m s).2
          (attemptShape cfg (enterRule cfg rules depth) m.shape s').2) := by
  have hF' : cfg.memoize = true → Family rules F := fun _ => hF
  rcases attempt_cases cfg (enterRule cfg rules depth) m s with ⟨o, ho, hc, hs⟩ | ⟨hn, he⟩
  · have hend := abreast_inside_of_remembered depth hF hm hr hl hp ho hs
    rw [hc]
    exact ⟨Lanes.eq_of_twin hend.twin, fun _ _ => hend⟩
  · have hin := abreast_announced depth hF hm hr hl hp
    have hcause : cause? (attempt cfg (enterRule cfg rules depth) m s) = cause? (attemptShape cfg
        (enterRule cfg rules depth) m.shape (announce m .entered s)) := by
      rw [he, cause?_concluded]
    refine ⟨hcause.trans (Lanes.eq_of_twin hin.twin), fun hcheck hshape => ?_⟩
    have hdeepest := deepest_concluded depth hF hm hr hl.counted hcheck hshape hn
    refine ⟨hcause ▸ hin.twin, hdeepest.trans hin.tally, fun hc => ?_⟩
    have hlevel := hin.level (hcause ▸ hc)
    have hcounts := counts_attempt hF' depth m (fun _ => hm) hl.counted
    refine ⟨hcounts.counted, hlevel.counted',
      fun hmem => (stores_attempt hmem hF depth hm (hl.closed hmem)).closed, hlevel.closed',
      hdeepest.trans hin.tally, fun hmem {n q} hn hz hnr => ?_⟩
    rw [he]
    exact (holds_concluded hF hm hr hn hnr).trans (hlevel.holds_iff hmem hn hz hnr)

end Packrat
