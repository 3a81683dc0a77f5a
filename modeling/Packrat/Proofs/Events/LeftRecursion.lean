import Packrat.Proofs.Events.Account
import Packrat.Proofs.Peg.Limit

/-!
# Proofs — Events — Left recursion

A rule that is entered again at the same position, while it is still open there.  Whatever is open
leads to what is entered, so trying the rule comes to try it again at the same place
(`AnsweredBy.not_leads`): it yields nothing, and it is never left.  No choice point, lookahead or
repetition in between changes that, and neither does the memo.

**Left recursion** (`left_recursion_exceeds_depth`): such a parse always exceeds the depth, and it
says so with the limit that was set.
-/

namespace Packrat

open Attempt Event

variable {rules : List (String × Matcher)} {tokens : List Token} {x e e' : Event}

namespace Event

/-- The rule is entered at the position. -/
structure Enters (e : Event) (name : String) (p : Nat) : Prop where
  subject_eq : e.subject = .rule name
  phase_eq : e.phase = .entered
  cursor_eq : e.cursor = p

/-- What is left with an answer does not lead to itself, since its depth is bounded. -/
theorem AnsweredBy.not_leads (h : x.AnsweredBy rules tokens e') (hs : e.subject = x.subject)
    (hp : e.cursor = x.cursor) : ¬ x.Leads rules tokens e := by
  rintro ⟨m, hm, m₀, d, hm₀, hv⟩
  obtain ⟨m', o, hm', hy, -⟩ := h
  rw [hp] at hv
  have hv := hv.of_subject_eq (hm₀.trans (hs.symm.trans hm.symm))
  obtain ⟨d, hd⟩ := (hy.of_subject_eq (hm'.trans (hs.symm.trans hm.symm))).bounded
  exact hd.not_visitsInside_self hv

end Event

namespace Workshop.Reachable

variable {w : Workshop} {g : Grammar}

/-- What is open in a parse that is not aborted is not entered again at the same position. -/
theorem not_entered_again (hw : w.Reachable) (hg : g ∈ w.grammars) {cfg : Config}
    {tokens : List Token} {before after : List Event}
    (hc : cause? (attemptWith cfg g.rules g.root (.start tokens true)) = none)
    (hevents : (g.parse cfg true tokens).events = before ++ e :: after) (he : e.phase = .entered)
    (hx : x ∈ openAfter before) (hs : e.subject = x.subject) : e.cursor ≠ x.cursor := by
  intro hp
  obtain ⟨left, hleft, hnests⟩ := hw.nests_events hg cfg tokens
  rw [hleft hc, hevents] at hnests
  obtain ⟨st, hbefore, hafter⟩ := hnests.exists_between
  have hst : openAfter before = st := hbefore.foldl_read_eq fun _ _ h => h.1
  rw [hst] at hx
  cases hafter with
  | exit hends => exact hends.1.phase_ne_entered he
  | enter _ hleads hrest =>
      -- everything is closed in the end, also what was open
      rcases hrest.open_or_closed (List.mem_cons_of_mem _ hx) with hopen | ⟨e', -, -, hanswer⟩
      · cases hopen
      · exact hanswer.not_leads hs hp (hleads x hx)

end Workshop.Reachable

/-- **Left recursion.** -/
theorem left_recursion_exceeds_depth {w : Workshop} (hw : w.Reachable) {g : Grammar}
    (hg : g ∈ w.grammars) (cfg : Config) (tokens : List Token) {name : String} {p : Nat}
    {before after : List Event}
    (hevents : (g.parse cfg true tokens).events = before ++ e :: after) (he : e.Enters name p)
    (hx : x ∈ openAfter before) (hopen : x.Enters name p) (listening : Bool) :
    ∃ q, (g.parse cfg listening tokens).result =
      .error (.aborted (.depthExceeded q cfg.maxDepth)) := by
  refine hw.depthExceeded_of_cause? hg fun hc => ?_
  have hc := hw.cause?_root_of_le hg cfg.memoize tokens (Nat.le_refl cfg.maxDepth) listening true hc
  exact hw.not_entered_again hg hc hevents he.phase_eq hx
    (he.subject_eq.trans hopen.subject_eq.symm) (he.cursor_eq.trans hopen.cursor_eq.symm)

/-- A rule that matches where it does not match is entered again by looking for itself. -/
theorem looking_for_itself_exceeds_depth :
    let m : Matcher := ⟨1, .nextNot ⟨0, .rule "loop"⟩⟩
    let w := Workshop.opened 0 |>.called (.nextNot (.node (.rule "loop")))
      |>.defined "loop" (.matcher m) |>.built "loop"
    let g : Grammar := ⟨⟨3, .rule "loop"⟩, [("loop", m)], ["loop"]⟩
    let loop : Event := ⟨.rule "loop", .entered, 0, 0⟩
    let inside : Event := ⟨.matcher m, .entered, 0, 0⟩
    w.Reachable ∧ g ∈ w.grammars ∧
      (g.parse ⟨false, 2⟩ true []).events = [loop, inside] ++ loop :: [inside] ∧
      loop.Enters "loop" 0 ∧ loop ∈ openAfter [loop, inside] ∧
      ∃ q, (g.parse ⟨false, 2⟩ false []).result = .error (.aborted (.depthExceeded q 2)) := by
  intro m w g loop inside
  have hm := Workshop.Reachable.called (.nextNot (.node (.rule "loop"))) (.opened 0) nofun
  have hloop := hm.defined "loop" (.matcher m)
    (List.forall_mem_singleton.mpr (.made List.mem_cons_self))
  have hw : w.Reachable := hloop.built "loop"
  have hg : g ∈ w.grammars := List.mem_singleton_self g
  have hevents : (g.parse ⟨false, 2⟩ true []).events = [loop, inside] ++ loop :: [inside] := by rfl
  have henters : loop.Enters "loop" 0 := ⟨rfl, rfl, rfl⟩
  have hopen : loop ∈ openAfter [loop, inside] := List.mem_cons_of_mem _ List.mem_cons_self
  exact ⟨hw, hg, hevents, henters, hopen,
    left_recursion_exceeds_depth hw hg ⟨false, 2⟩ [] hevents henters hopen henters false⟩

end Packrat
