import Packrat.Node

/-!
# Proofs — Node — Splicing

Groups and the tokens of trees.  A *tidy* node has a token of its own only if it has a kind, so that
attaching its children instead, where it is a group, loses nothing.

**Tokens of groups** (`tokens_group`): a group of tidy nodes has their tokens, in order.
-/

namespace Packrat.Node

/-- A group has no token. -/
def Tidy (n : Node) : Prop :=
  n.isGroup = true → n.token = none

variable {n : Node} {ns ns' : List Node}

theorem tidy_of_kind {kind : NodeKind} {t : Option Token} {cs : List Node} :
    Tidy ⟨some kind, t, cs⟩ :=
  nofun

theorem tidy_group (ns : List Node) : (group ns).Tidy :=
  fun _ => rfl

theorem tidy_empty : empty.Tidy :=
  fun _ => rfl

@[simp] theorem tokensList_append : tokensList (ns ++ ns') = tokensList ns ++ tokensList ns' := by
  induction ns with
  | nil => rfl
  | cons n ns ih => simp [tokensList, ih]

/-- Attaching a tidy node attaches its tokens. -/
theorem Tidy.tokensList_spliced (h : n.Tidy) : tokensList n.spliced = n.tokens := by
  obtain ⟨kind, t, cs⟩ := n
  cases kind with
  | none =>
      have ht : t = none := h rfl
      simp [spliced, isGroup, tokens, ht]
  | some kind => simp [spliced, isGroup, tokensList]

theorem tokensList_flatMap_spliced (h : ∀ n ∈ ns, n.Tidy) :
    tokensList (ns.flatMap spliced) = tokensList ns := by
  induction ns with
  | nil => rfl
  | cons n ns ih =>
      obtain ⟨hn, hns⟩ := List.forall_mem_cons.mp h
      rw [List.flatMap_cons, tokensList_append, hn.tokensList_spliced, ih hns]
      rfl

/-- **Tokens of groups.** -/
theorem tokens_group (h : ∀ n ∈ ns, n.Tidy) : (group ns).tokens = tokensList ns :=
  tokensList_flatMap_spliced h

theorem Tidy.tokens_group (h : n.Tidy) : (group [n]).tokens = n.tokens := by
  rw [Node.tokens_group (List.forall_mem_singleton.mpr h)]
  simp [tokensList]

end Packrat.Node
