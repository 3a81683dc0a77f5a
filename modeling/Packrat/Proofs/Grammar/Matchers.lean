import Mathlib.Data.Finset.Card
import Packrat.Proofs.Grammar.Numbers

/-!
# Proofs — Grammar — Matchers

The matchers of a grammar: the root, the bodies of the rules, and everything inside of these.  They
are finitely many, and they are a `Family` (`Reachable.family_matchers`), so attempts with a grammar
come across no others.
-/

namespace Packrat

namespace Matcher

mutual

/-- The matcher and everything inside of it. -/
def inside : Matcher → List Matcher
  | ⟨id, s⟩ => ⟨id, s⟩ :: insideShape s

def insideShape : Shape Matcher → List Matcher
  | .sequence ms | .firstOf ms => insideList ms
  | .optional m | .oneOrMore m | .zeroOrMore m | .next m | .nextNot m | .token _ m
  | .trivia _ m | .adjacent m => m.inside
  | .literal _ | .pattern _ | .ofKind _ | .endOfInput | .nothing | .rule _ => []

def insideList : List Matcher → List Matcher
  | [] => []
  | m :: ms => m.inside ++ insideList ms

end

variable {m m' m₁ : Matcher}

theorem insideList_eq (ms : List Matcher) : insideList ms = ms.flatMap inside := by
  induction ms with
  | nil => rfl
  | cons m ms ih => rw [insideList, ih, List.flatMap_cons]

theorem inside_eq (m : Matcher) : m.inside = m :: m.parts.flatMap inside := by
  obtain ⟨i, shape⟩ := m
  cases shape with
  | sequence ms | firstOf ms => exact congrArg _ (insideList_eq ms)
  | optional | oneOrMore | zeroOrMore | next | nextNot | token | trivia | adjacent =>
      exact congrArg _ (List.flatMap_singleton _ _).symm
  | literal | pattern | ofKind | endOfInput | nothing | rule => rfl

theorem mem_inside_self (m : Matcher) : m ∈ m.inside := by
  rw [inside_eq]
  exact List.mem_cons_self

theorem mem_inside_iff : m' ∈ m.inside ↔ m' = m ∨ ∃ m₁ ∈ m.parts, m' ∈ m₁.inside := by
  rw [inside_eq, List.mem_cons, List.mem_flatMap]

/-- What is inside of a matcher has its parts inside, too. -/
theorem part_mem_inside : ∀ m : Matcher, m' ∈ m.inside → m₁ ∈ m'.parts → m₁ ∈ m.inside := by
  refine induction_parts fun m ih hm hp => mem_inside_iff.mpr (.inr ?_)
  rcases mem_inside_iff.mp hm with rfl | ⟨m₂, hm₂, hm⟩
  · exact ⟨m₁, hp, mem_inside_self m₁⟩
  · exact ⟨m₂, hm₂, ih m₂ hm₂ hm hp⟩

end Matcher

namespace Grammar

/-- The matchers of the grammar, maybe more than once. -/
def matchers (g : Grammar) : List Matcher :=
  g.root.inside ++ g.rules.flatMap fun r => r.2.inside

/-- The numbers of those that are no references to rules. -/
def numbers (g : Grammar) : Finset Nat :=
  ((g.matchers.filter fun m => !m.isRule).map (·.id)).toFinset

variable {g : Grammar} {m : Matcher}

theorem mem_matchers_iff :
    m ∈ g.matchers ↔ m ∈ g.root.inside ∨ ∃ r ∈ g.rules, m ∈ r.2.inside := by
  rw [matchers, List.mem_append, List.mem_flatMap]

theorem id_mem_numbers (hm : m ∈ g.matchers) (hr : m.isRule = false) : m.id ∈ g.numbers :=
  List.mem_toFinset.mpr (List.mem_map_of_mem (List.mem_filter.mpr ⟨hm, by simp [hr]⟩))

end Grammar

namespace Workshop

variable {w : Workshop} {g : Grammar}

theorem Known.inside : ∀ m : Matcher, w.Known m → ∀ {m'}, m' ∈ m.inside → w.Known m' := by
  refine Matcher.induction_parts fun m ih hm m' hm' => ?_
  rcases Matcher.mem_inside_iff.mp hm' with rfl | ⟨m₁, hm₁, hm'⟩
  · exact hm
  · exact ih m₁ hm₁ (.part hm hm₁) hm'

theorem Known.of_mem_matchers (hg : g ∈ w.grammars) {m : Matcher} (hm : m ∈ g.matchers) :
    w.Known m := by
  rcases Grammar.mem_matchers_iff.mp hm with hm | ⟨r, hr, hm⟩
  · exact Known.inside _ (.root hg) hm
  · exact Known.inside _ (.body hg (show (r.1, r.2) ∈ g.rules from hr)) hm

/-- The matchers of a grammar are a family. -/
theorem Reachable.family_matchers (hw : w.Reachable) (hg : g ∈ w.grammars) :
    Family g.rules (· ∈ g.matchers) where
  part := fun {m m'} hm hp => by
    rw [Grammar.mem_matchers_iff] at hm ⊢
    exact hm.imp (Matcher.part_mem_inside _ · hp) fun ⟨r, hr, hm⟩ =>
      ⟨r, hr, Matcher.part_mem_inside _ hm hp⟩
  body := fun hb =>
    Grammar.mem_matchers_iff.mpr (.inr ⟨_, mem_of_lookup hb, Matcher.mem_inside_self _⟩)
  unique := fun ha hb =>
    hw.stock.unique (Known.of_mem_matchers hg ha) (Known.of_mem_matchers hg hb)

end Workshop

end Packrat
