import Packrat.Proofs.Node.Splicing
import Packrat.Proofs.Text.Span

/-!
# Proofs — Node — Spans

Spans of trees whose tokens stand in order.  The tokens of a subtree are some of those of the tree,
in the same order, so what follows holds of all nodes of such a tree.

**First and last token** (`exists_span?`): the span of a node starts where its first token does and
stops where its last token does.  **All tokens** (`span?_eq_total`): it is the sum of the spans of
all tokens of the node, in whatever order they are added.  **Children** (`span?_within`,
`pairwise_spans`): the span of a node contains those of its children, and these follow each other
without overlaps.
-/

namespace Packrat

/-! ### Tokens in order -/

/-- Every token ends before the later ones start, or right there. -/
def InOrder (ts : List Token) : Prop :=
  ts.Pairwise fun a b => a.endCaret ≤ b.caret

namespace InOrder

variable {ts : List Token} {t first last : Token}

/-- No token starts before the first one. -/
theorem caret_le (h : InOrder ts) (hf : ts.head? = some first) (ht : t ∈ ts) :
    first.caret ≤ t.caret := by
  obtain ⟨ts, rfl⟩ := List.head?_eq_some_iff.mp hf
  rcases List.mem_cons.mp ht with rfl | ht
  · exact Caret.le_refl _
  · exact Caret.le_trans first.caret_le_endCaret (List.rel_of_pairwise_cons h ht)

/-- No token ends after the last one. -/
theorem endCaret_le (h : InOrder ts) (hl : ts.getLast? = some last) (ht : t ∈ ts) :
    t.endCaret ≤ last.endCaret := by
  obtain ⟨ts, rfl⟩ := List.getLast?_eq_some_iff.mp hl
  rcases List.mem_append.mp ht with ht | ht
  · have hle := (List.pairwise_append.mp h).2.2 t ht last (List.mem_singleton_self last)
    exact Caret.le_trans hle last.caret_le_endCaret
  · obtain rfl := List.eq_of_mem_singleton ht
    exact Caret.le_refl _

end InOrder

namespace Node

variable {n c d : Node} {ns : List Node} {s s' : Span}

/-! ### Tokens of subtrees -/

theorem tokens_sublist_tokensList (h : n ∈ ns) : n.tokens.Sublist (tokensList ns) := by
  induction ns with
  | nil => cases h
  | cons m ns ih =>
      rcases List.mem_cons.mp h with rfl | h
      · exact List.sublist_append_left _ _
      · exact (ih h).trans (List.sublist_append_right _ _)

theorem tokens_children_sublist (n : Node) : (tokensList n.children).Sublist n.tokens := by
  obtain ⟨k, t, cs⟩ := n
  exact List.sublist_append_right _ _

/-- A leaf that has tokens has one. -/
theorem exists_token_of_leaf (h : n.children = []) (hne : n.tokens ≠ []) :
    ∃ t, n.tokens = [t] := by
  obtain ⟨k, t, cs⟩ := n
  obtain rfl : cs = [] := h
  cases t with
  | none => exact absurd rfl hne
  | some t => exact ⟨t, rfl⟩

mutual

theorem tokens_sublist_of_mem_preorder :
    ∀ {n : Node}, d ∈ n.preorder → d.tokens.Sublist n.tokens
  | ⟨k, t, cs⟩, h => by
    rcases List.mem_cons.mp h with rfl | h
    · exact .refl _
    · exact (tokens_sublist_of_mem_preorderList h).trans (List.sublist_append_right _ _)

theorem tokens_sublist_of_mem_preorderList :
    ∀ {ns : List Node}, d ∈ preorderList ns → d.tokens.Sublist (tokensList ns)
  | [], h => by cases h
  | n :: ns, h => by
    rcases List.mem_append.mp h with h | h
    · exact (tokens_sublist_of_mem_preorder h).trans (List.sublist_append_left _ _)
    · exact (tokens_sublist_of_mem_preorderList h).trans (List.sublist_append_right _ _)

end

/-! ### Spans -/

/-- **First and last token.** -/
theorem exists_span? (h : InOrder n.tokens) (hne : n.tokens ≠ []) :
    ∃ s first last, n.span? = some s ∧ n.firstToken? = some first ∧ n.lastToken? = some last ∧
      s.start = first.caret ∧ s.stop = last.endCaret := by
  obtain ⟨first, hfirst⟩ := Option.ne_none_iff_exists'.mp (mt List.head?_eq_none_iff.mp hne)
  obtain ⟨last, hlast⟩ := Option.ne_none_iff_exists'.mp (mt List.getLast?_eq_none_iff.mp hne)
  have hstart : first.span.start ≤ last.span.start := by
    rw [first.start_span, last.start_span]
    exact h.caret_le hfirst (List.mem_of_getLast? hlast)
  have hstop : first.span.stop ≤ last.span.stop := by
    rw [first.stop_span, last.stop_span]
    exact h.endCaret_le hlast (List.mem_of_head? hfirst)
  refine ⟨first.span + last.span, first, last, ?_, hfirst, hlast, ?_, ?_⟩
  · simp only [span?, firstToken?, lastToken?, hfirst, hlast]
    rfl
  · rw [Span.start_add, min_eq_left hstart, first.start_span]
  · rw [Span.stop_add, max_eq_right hstop, last.stop_span]

/-- A span that a node has starts and stops with tokens of the node, and contains them all. -/
theorem ends_of_span? (h : InOrder n.tokens) (hs : n.span? = some s) :
    (∃ first ∈ n.tokens, s.start = first.caret) ∧ (∃ last ∈ n.tokens, s.stop = last.endCaret) ∧
      ∀ t ∈ n.tokens, s.start ≤ t.caret ∧ t.endCaret ≤ s.stop := by
  have hne : n.tokens ≠ [] := by
    intro hnil
    simp [span?, firstToken?, hnil] at hs
  obtain ⟨s', first, last, hs', hfirst, hlast, hstart, hstop⟩ := exists_span? h hne
  cases hs.symm.trans hs'
  refine ⟨⟨first, List.mem_of_head? hfirst, hstart⟩, ⟨last, List.mem_of_getLast? hlast, hstop⟩,
    fun t ht => ⟨?_, ?_⟩⟩
  · rw [hstart]
    exact h.caret_le hfirst ht
  · rw [hstop]
    exact h.endCaret_le hlast ht

/-- **All tokens**: what lies between the first and the last one adds nothing. -/
theorem span?_eq_total {x : Span.Grouping} (h : InOrder n.tokens)
    (hx : x.spans.Perm (n.tokens.map Token.span)) : n.span? = some x.total := by
  have hne : n.tokens ≠ [] := by
    intro hnil
    rw [hnil] at hx
    exact x.spans_ne_nil hx.eq_nil
  obtain ⟨s, first, last, hs, hfirst, hlast, hstart, hstop⟩ := exists_span? h hne
  obtain ⟨-, -, hall⟩ := ends_of_span? h hs
  have hadded : ∀ t ∈ n.tokens, t.span ≤ x.total := fun t ht =>
    x.total_le_iff.mp le_rfl _ (hx.mem_iff.mpr (List.mem_map_of_mem ht))
  rw [hs, Option.some_inj]
  apply le_antisymm
  · rw [Span.le_def, hstart, hstop, ← first.start_span, ← last.stop_span]
    exact ⟨(hadded first (List.mem_of_head? hfirst)).1,
      (hadded last (List.mem_of_getLast? hlast)).2⟩
  · refine x.total_le_iff.mpr fun a ha => ?_
    obtain ⟨t, ht, rfl⟩ := List.mem_map.mp (hx.mem_iff.mp ha)
    rw [Span.le_def, t.start_span, t.stop_span]
    exact hall t ht

/-- **Children**: their spans are within the span of the node. -/
theorem span?_within (h : InOrder n.tokens) (hs : n.span? = some s) (hc : c ∈ n.children)
    (hs' : c.span? = some s') : s.start ≤ s'.start ∧ s'.stop ≤ s.stop := by
  have hsub := (tokens_sublist_tokensList hc).trans n.tokens_children_sublist
  obtain ⟨⟨first, hfirst, hstart⟩, ⟨last, hlast, hstop⟩, -⟩ := ends_of_span? (h.sublist hsub) hs'
  obtain ⟨-, -, hall⟩ := ends_of_span? h hs
  rw [hstart, hstop]
  exact ⟨(hall first (hsub.subset hfirst)).1, (hall last (hsub.subset hlast)).2⟩

/-- **Children**: their spans follow each other. -/
theorem pairwise_spans (h : InOrder (tokensList ns)) :
    (ns.filterMap span?).Pairwise fun a b => a.stop ≤ b.start := by
  rw [List.pairwise_filterMap]
  induction ns with
  | nil => exact .nil
  | cons n ns ih =>
      obtain ⟨hn, hns, hle⟩ := List.pairwise_append.mp h
      refine .cons (fun n' hn' s hs s' hs' => ?_) (ih hns)
      have hsub := tokens_sublist_tokensList hn'
      obtain ⟨-, ⟨last, hlast, hstop⟩, -⟩ := ends_of_span? hn hs
      obtain ⟨⟨first, hfirst, hstart⟩, -⟩ := ends_of_span? (hns.sublist hsub) hs'
      rw [hstop, hstart]
      exact hle last hlast first (hsub.subset hfirst)

end Node

end Packrat
