import Packrat.Proofs.Calculator.Crafted
import Packrat.Proofs.Peg.Weights

/-!
# Proofs — Calculator — Depth

How deeply the rules of the calculator nest.  Between two rules at the same position weight is lost
(`weight`), and a token is worth five: with an opening parenthesis, one comes from `primary` back to
`expression`, which weighs four more than it.

**Depth** (`depth_not_exceeded`): no rule comes back to itself at the same position, and a parse of
`n` tokens takes no more than `5 * n + 9` rules nested in each other.
-/

namespace Packrat.Calculator

/-- A rule weighs more than those that it enters first. -/
def weight : String → Nat
  | "program" => 8
  | "statement" | "arguments" => 7
  | "expression" => 6
  | "term" => 5
  | "power" => 4
  | "unary" => 3
  | "primary" => 2
  | "call" => 1
  | _ => 0

/-- How many tokens a rule consumes at least, as far as that matters for the weights. -/
def least : String → Nat
  | "name" => 1
  | _ => 0

/-- The rules of the calculator can be weighed. -/
def weighing : Weighing rules where
  weight := weight
  perToken := 5
  least := least
  least_le := fun hl => by
    have hall : ∀ r ∈ rules, least r.1 ≤ r.2.width least := by decide
    exact hall _ (mem_of_lookup hl)
  lighter := fun hl => by
    have hall : ∀ r ∈ rules, ∀ e ∈ r.2.entries least, weight e.2 < weight r.1 + 5 * e.1 := by
      decide
    exact hall _ (mem_of_lookup hl)

theorem weight_le (name : String) : weight name ≤ 8 := by
  unfold weight
  split <;> decide

open Attempt in
/-- A limit of five rules for each token and nine more is enough for any parse. -/
theorem exists_workshop_not_aborted {root : String} (hroot : root ∈ ruleNames) (tokens : List Token)
    {cfg : Config} (hd : 5 * tokens.length + 9 ≤ cfg.maxDepth) (listening : Bool) :
    ∃ w : Workshop, w.Reachable ∧ ⟨⟨95, .rule root⟩, rules, ruleNames⟩ ∈ w.grammars ∧
      cause? (attemptWith cfg rules ⟨95, .rule root⟩ (.start tokens listening)) = none := by
  obtain ⟨w, hw, hg⟩ := exists_workshop hroot
  have hweight : weight root + 5 * tokens.length + 1 ≤ cfg.maxDepth := by
    have := weight_le root
    omega
  exact ⟨w, hw, hg, hw.cause?_root_of_weighing hg weighing rfl hweight listening⟩

/-- **Depth.** -/
theorem depth_not_exceeded {root : String} (hroot : root ∈ ruleNames) (tokens : List Token)
    {cfg : Config} (hd : 5 * tokens.length + 9 ≤ cfg.maxDepth) (listening : Bool) :
    ∃ g, grammar root = .ok g ∧
      (∀ name i j p d, p ≤ tokens.length →
        ¬ VisitsInside g.rules tokens ⟨i, .rule name⟩ p d ⟨j, .rule name⟩ p) ∧
      ∀ p limit, (g.parse cfg listening tokens).result ≠
        .error (.aborted (.depthExceeded p limit)) := by
  obtain ⟨w, hw, hg, hc⟩ := exists_workshop_not_aborted hroot tokens hd listening
  have hclosed := hw.closed _ hg
  refine ⟨_, grammar_eq hroot, fun name i j p d => ?_, fun p limit h => ?_⟩
  · exact weighing.not_visitsInside_rule fun hl => hclosed.body (mem_of_lookup hl)
  · cases hc.symm.trans (cause?_of_verdict h)

/-- Two opening parentheses that are never closed. -/
theorem unclosed_parentheses_not_too_deep :
    let opening (column : Nat) : Token := .ofText .punctuator "(" ⟨1, column⟩
    "program" ∈ ruleNames ∧ 5 * [opening 1, opening 2].length + 9 ≤ (⟨true, 19⟩ : Config).maxDepth ∧
      ∃ g, grammar "program" = .ok g ∧
        (∀ name i j p d, p ≤ [opening 1, opening 2].length → ¬ VisitsInside g.rules
          [opening 1, opening 2] ⟨i, .rule name⟩ p d ⟨j, .rule name⟩ p) ∧
        ∀ p limit, (g.parse ⟨true, 19⟩ false [opening 1, opening 2]).result ≠
          .error (.aborted (.depthExceeded p limit)) := by
  intro opening
  have hroot : "program" ∈ ruleNames := by decide
  exact ⟨hroot, by decide, depth_not_exceeded hroot _ (by decide) false⟩

/-- Nothing is a program, and nine rules are nested until that is seen, but not with one less. -/
example :
    let g : Grammar := ⟨⟨95, .rule "program"⟩, rules, ruleNames⟩
    (g.parse ⟨false, 9⟩ false []).result.toBool = true ∧
      (g.parse ⟨false, 8⟩ false []).result.toBool = false := by
  decide +kernel

end Packrat.Calculator
