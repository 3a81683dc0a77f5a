import Packrat.Proofs.Calculator.Rules
import Packrat.Proofs.Grammar.Crafts

/-!
# Proofs — Calculator — Crafted

The calculator grammar is built in a workshop, like any other grammar: every body of a rule is
crafted (`crafts_bodies`), and what is crafted is defined there.

**Crafted** (`exists_workshop`): for each of its rules as the root, the calculator grammar is one of
the grammars of a reachable workshop.  So whatever holds of those holds of it.
-/

namespace Packrat.Calculator

open Workshop

variable {w : Workshop}

theorem crafts_programBody (hw : w.Reachable) : Crafts w programBody Known := by
  refine crafts_call_bind hw (.commentTrivia (.tokenKind .comment)) (List.forall_mem_nil _) ?_
  intro w₁ comment h₁ hcomment
  refine crafts_call_bind h₁.reachable (.oneOrMore (.char ';')) (List.forall_mem_nil _) ?_
  intro w₂ run h₂ hrun
  refine crafts_call_bind h₂.reachable (.skippedTrivia (.matcher run))
    (List.forall_mem_singleton.mpr hrun) ?_
  intro w₃ stray h₃ hstray
  have hcomment := h₃.known _ (h₂.known _ hcomment)
  refine crafts_call_bind h₃.reachable
    (.firstOf [.matcher comment, .matcher stray, ruleInput "statement"])
    (List.forall_mem_cons.mpr ⟨hcomment, List.forall_mem_singleton.mpr hstray⟩) ?_
  intro w₄ item h₄ hitem
  refine crafts_call_bind h₄.reachable (.zeroOrMore (.matcher item))
    (List.forall_mem_singleton.mpr hitem) ?_
  intro w₅ items h₅ hitems
  refine crafts_call_bind h₅.reachable .endOfInput (List.forall_mem_nil _) ?_
  intro w₆ stop h₆ hstop
  exact crafts_call h₆.reachable (.sequence [.matcher items, .matcher stop])
    (List.forall_mem_cons.mpr ⟨h₆.known _ hitems, List.forall_mem_singleton.mpr hstop⟩)

theorem crafts_statementBody (hw : w.Reachable) : Crafts w statementBody Known := by
  refine crafts_call_bind hw (.firstOf [ruleInput "assignment", ruleInput "expression"])
    (List.forall_mem_nil _) ?_
  intro w₁ body h₁ hbody
  refine crafts_call_bind h₁.reachable .endOfInput (List.forall_mem_nil _) ?_
  intro w₂ stop h₂ hstop
  refine crafts_call_bind h₂.reachable (.next (.matcher stop))
    (List.forall_mem_singleton.mpr hstop) ?_
  intro w₃ last h₃ hlast
  refine crafts_call_bind h₃.reachable (.firstOf [.char ';', .matcher last])
    (List.forall_mem_singleton.mpr hlast) ?_
  intro w₄ stop h₄ hstop
  have hbody := h₄.known _ (h₃.known _ (h₂.known _ hbody))
  exact crafts_call h₄.reachable (.sequence [.matcher body, .matcher stop])
    (List.forall_mem_cons.mpr ⟨hbody, List.forall_mem_singleton.mpr hstop⟩)

theorem crafts_assignmentBody (hw : w.Reachable) : Crafts w assignmentBody Known :=
  crafts_call hw (.sequence [.text "let", ruleInput "name", .char '=', ruleInput "expression"])
    (List.forall_mem_nil _)

/-- Single characters use no matchers. -/
theorem usesAll_chars (cs : List Char) : Input.usesAll (cs.map .char) = [] := by
  induction cs with
  | nil => rfl
  | cons c cs ih => exact ih

theorem crafts_chainBody (hw : w.Reachable) (operand : String) (operators : List Char) :
    Crafts w (chainBody operand operators) Known := by
  refine crafts_call_bind hw (.firstOf (operators.map .char)) (fun m hm => ?_) ?_
  · simp [BuilderCall.uses, usesAll_chars] at hm
  intro w₁ operator h₁ hoperator
  refine crafts_call_bind h₁.reachable (.sequence [.matcher operator, ruleInput operand])
    (List.forall_mem_singleton.mpr hoperator) ?_
  intro w₂ link h₂ hlink
  refine crafts_call_bind h₂.reachable (.zeroOrMore (.matcher link))
    (List.forall_mem_singleton.mpr hlink) ?_
  intro w₃ links h₃ hlinks
  exact crafts_call h₃.reachable (.sequence [ruleInput operand, .matcher links])
    (List.forall_mem_singleton.mpr hlinks)

theorem crafts_powerBody (hw : w.Reachable) : Crafts w powerBody Known := by
  refine crafts_call_bind hw (.adjacent (.char '*')) (List.forall_mem_nil _) ?_
  intro w₁ second h₁ hsecond
  refine crafts_call_bind h₁.reachable (.sequence [.char '*', .matcher second])
    (List.forall_mem_singleton.mpr hsecond) ?_
  intro w₂ stars h₂ hstars
  refine crafts_call_bind h₂.reachable (.token (.token power) (.matcher stars))
    (List.forall_mem_singleton.mpr hstars) ?_
  intro w₃ operator h₃ hoperator
  refine crafts_call_bind h₃.reachable (.sequence [.matcher operator, ruleInput "power"])
    (List.forall_mem_singleton.mpr hoperator) ?_
  intro w₄ exponent h₄ hexponent
  refine crafts_call_bind h₄.reachable (.optional (.matcher exponent))
    (List.forall_mem_singleton.mpr hexponent) ?_
  intro w₅ raised h₅ hraised
  exact crafts_call h₅.reachable (.sequence [ruleInput "unary", .matcher raised])
    (List.forall_mem_singleton.mpr hraised)

theorem crafts_unaryBody (hw : w.Reachable) : Crafts w unaryBody Known := by
  refine crafts_call_bind hw (.optional (.char '-')) (List.forall_mem_nil _) ?_
  intro w₁ minus h₁ hminus
  exact crafts_call h₁.reachable (.sequence [.matcher minus, ruleInput "primary"])
    (List.forall_mem_singleton.mpr hminus)

theorem crafts_primaryBody (hw : w.Reachable) : Crafts w primaryBody Known := by
  refine crafts_call_bind hw (.sequence [.char '(', ruleInput "expression", .char ')'])
    (List.forall_mem_nil _) ?_
  intro w₁ nested h₁ hnested
  exact crafts_call h₁.reachable
    (.firstOf [ruleInput "number", ruleInput "call", ruleInput "name", .matcher nested])
    (List.forall_mem_singleton.mpr hnested)

theorem crafts_callBody (hw : w.Reachable) : Crafts w callBody Known := by
  refine crafts_call_bind hw (.adjacent (.char '(')) (List.forall_mem_nil _) ?_
  intro w₁ opening h₁ hopening
  exact crafts_call h₁.reachable
    (.sequence [ruleInput "name", .matcher opening, ruleInput "arguments", .char ')'])
    (List.forall_mem_singleton.mpr hopening)

theorem crafts_argumentsBody (hw : w.Reachable) : Crafts w argumentsBody Known := by
  refine crafts_call_bind hw (.sequence [.char ',', ruleInput "expression"])
    (List.forall_mem_nil _) ?_
  intro w₁ more h₁ hmore
  refine crafts_call_bind h₁.reachable (.zeroOrMore (.matcher more))
    (List.forall_mem_singleton.mpr hmore) ?_
  intro w₂ others h₂ hothers
  refine crafts_call_bind h₂.reachable (.sequence [ruleInput "expression", .matcher others])
    (List.forall_mem_singleton.mpr hothers) ?_
  intro w₃ several h₃ hseveral
  refine crafts_call_bind h₃.reachable .nothing (List.forall_mem_nil _) ?_
  intro w₄ none h₄ hnone
  exact crafts_call h₄.reachable (.firstOf [.matcher several, .matcher none])
    (List.forall_mem_cons.mpr ⟨h₄.known _ hseveral, List.forall_mem_singleton.mpr hnone⟩)

theorem crafts_nameBody (hw : w.Reachable) : Crafts w nameBody Known := by
  refine crafts_call_bind hw (.firstOf (keywords.map .text)) (List.forall_mem_nil _) ?_
  intro w₁ keyword h₁ hkeyword
  refine crafts_call_bind h₁.reachable (.nextNot (.matcher keyword))
    (List.forall_mem_singleton.mpr hkeyword) ?_
  intro w₂ allowed h₂ hallowed
  exact crafts_call h₂.reachable (.sequence [.matcher allowed, .tokenKind .identifier])
    (List.forall_mem_singleton.mpr hallowed)

theorem crafts_numberBody (hw : w.Reachable) : Crafts w numberBody Known := by
  refine crafts_call_bind hw (.regexp "[0-9]+\\.[0-9]+") (List.forall_mem_nil _) ?_
  intro w₁ decimal h₁ hdecimal
  exact crafts_call h₁.reachable (.firstOf [.matcher decimal, .tokenKind number])
    (List.forall_mem_singleton.mpr hdecimal)

/-- All bodies are crafted. -/
theorem crafts_bodies : ∀ r ∈ bodies, ∀ {w : Workshop}, w.Reachable → Crafts w r.2 Known := by
  simp only [bodies, List.forall_mem_cons]
  exact ⟨crafts_programBody, crafts_statementBody, crafts_assignmentBody,
    (crafts_chainBody · _ _), (crafts_chainBody · _ _), crafts_powerBody, crafts_unaryBody,
    crafts_primaryBody, crafts_callBody, crafts_argumentsBody, crafts_nameBody, crafts_numberBody,
    List.forall_mem_nil _⟩

/-- Rules whose bodies are crafted are defined in a workshop. -/
theorem exists_workshop_defineAll {l : List (String × Build Matcher)}
    (hl : ∀ r ∈ l, ∀ {w : Workshop}, w.Reachable → Crafts w r.2 Known) (hw : w.Reachable)
    {d : Draft} {n : Nat} (hd : (defineAll l).runFrom w.draft w.next = ((.ok (), d), n)) :
    ∃ w' : Workshop, w'.Reachable ∧ w'.draft = d ∧ w'.next = n := by
  induction l generalizing w with
  | nil =>
      cases hd
      exact ⟨w, hw, rfl, rfl⟩
  | cons r l ih =>
      obtain ⟨name, body⟩ := r
      obtain ⟨hbody, hl⟩ := List.forall_mem_cons.mp hl
      obtain ⟨w₁, h₁, hnext, hknown⟩ := hbody hw
      simp only [defineAll, Drafting.runFrom_bind, Drafting.runFrom_lift] at hd
      generalize Build.runFrom body w.next = e at hd hnext hknown
      rcases e with ⟨e | m, n₁⟩
      · cases hd
      have hdefined := h₁.reachable.defined name (.matcher m)
        (List.forall_mem_singleton.mpr (hknown m rfl))
      simp only [Workshop.defined, h₁.draft, hnext] at hdefined
      dsimp only at hd
      generalize (Draft.define name (.matcher m)).runFrom w.draft n₁ = e at hd hdefined
      rcases e with ⟨⟨e | m', d'⟩, n₂⟩
      · cases hd
      exact ih hl hdefined hd

/-- **Crafted.** -/
theorem exists_workshop {root : String} (hroot : root ∈ ruleNames) :
    ∃ w : Workshop, w.Reachable ∧ ⟨⟨95, .rule root⟩, rules, ruleNames⟩ ∈ w.grammars := by
  obtain ⟨w, hw, hd, hn⟩ := exists_workshop_defineAll crafts_bodies (.opened 0) runFrom_defineAll
  refine ⟨w.built root, hw.built root, ?_⟩
  simp only [Workshop.built, hd, hn, runFrom_build_rules hroot]
  exact List.mem_cons_self

end Packrat.Calculator
