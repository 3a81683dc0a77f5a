import Packrat.Proofs.Node.Descendants
import Packrat.Proofs.Node.Splicing

/-!
# Proofs — Node — Made

Nodes as they can be made: from a kind, a token and nodes to attach, as a leaf, as a group, and by
attaching one made node to another.  A group is taken apart when it is attached, and its children
are no groups themselves, so taking it apart once is enough.

**No groups below** (`Node.Made.ungrouped`): no node below a made node is a group.  **Tokens**
(`Node.Made.tokens_build`, `Node.Made.tokens_push`): attaching nodes attaches their tokens, whether
they are groups or not.
-/

namespace Packrat

namespace Node

/-- What can be made by the operations that make nodes. -/
inductive Made : Node → Prop where
  | build {cs : List Node} (kind : NodeKind) (token : Option Token) : (∀ c ∈ cs, Made c) →
      Made (.build kind token cs)
  | leaf (t : Token) : Made (.leaf t)
  | group {cs : List Node} : (∀ c ∈ cs, Made c) → Made (.group cs)
  | empty : Made .empty
  | push {n c : Node} : Made n → Made c → Made (n.push c)

/-- The tokens of the node are these, and so is everything that is read off its tokens. -/
structure HasTokens (n : Node) (ts : List Token) : Prop where
  tokens_eq : n.tokens = ts
  first_eq : n.firstToken? = ts.head?
  last_eq : n.lastToken? = ts.getLast?
  text_eq : n.text = " ".intercalate (ts.map (·.text))
  span_none : ts = [] → n.span? = none
  span_some : ∀ first last, ts.head? = some first → ts.getLast? = some last →
    n.span? = some (first.span + last.span)

theorem hasTokens_tokens (n : Node) : n.HasTokens n.tokens where
  tokens_eq := rfl
  first_eq := rfl
  last_eq := rfl
  text_eq := rfl
  span_none := fun h => by simp [span?, firstToken?, h]
  span_some := fun first last hf hl => by simp [span?, firstToken?, lastToken?, hf, hl]

/-- There are no groups among the nodes and below them. -/
def Ungrouped (ns : List Node) : Prop :=
  ∀ d ∈ preorderList ns, d.isGroup = false

variable {n c : Node} {ns ns' : List Node}

theorem ungrouped_append : Ungrouped (ns ++ ns') ↔ Ungrouped ns ∧ Ungrouped ns' := by
  simp only [Ungrouped, preorderList_append, List.forall_mem_append]

/-- What is attached is a node that is no group, or the children of a group. -/
theorem ungrouped_spliced (h : Ungrouped n.children) : Ungrouped n.spliced := by
  cases hn : n.isGroup with
  | true =>
      rw [spliced, if_pos hn]
      exact h
  | false =>
      rw [spliced, if_neg (by simp [hn]), Ungrouped, preorderList, preorder_eq, preorderList,
        List.append_nil]
      exact List.forall_mem_cons.mpr ⟨hn, h⟩

theorem ungrouped_flatMap_spliced (h : ∀ n ∈ ns, Ungrouped n.children) :
    Ungrouped (ns.flatMap spliced) := by
  induction ns with
  | nil => exact List.forall_mem_nil _
  | cons n ns ih =>
      obtain ⟨hn, hns⟩ := List.forall_mem_cons.mp h
      rw [List.flatMap_cons, ungrouped_append]
      exact ⟨ungrouped_spliced hn, ih hns⟩

theorem tokensList_eq_flatMap (ns : List Node) : tokensList ns = ns.flatMap tokens := by
  induction ns with
  | nil => rfl
  | cons n ns ih => rw [tokensList, ih, List.flatMap_cons]

namespace Made

/-- **No groups below.** -/
theorem ungrouped (h : n.Made) : Ungrouped n.children := by
  induction h with
  | build kind token _ ih => exact ungrouped_flatMap_spliced ih
  | leaf => exact List.forall_mem_nil _
  | group _ ih => exact ungrouped_flatMap_spliced ih
  | empty => exact List.forall_mem_nil _
  | push _ _ ihn ihc => exact ungrouped_append.mpr ⟨ihn, ungrouped_spliced ihc⟩

theorem tidy (h : n.Made) : n.Tidy := by
  induction h with
  | build | leaf => exact tidy_of_kind
  | group => exact tidy_group _
  | empty => exact tidy_empty
  | push _ _ ihn _ => exact ihn

/-- **Tokens** of a node with attached nodes. -/
theorem tokens_build (h : ∀ c ∈ ns, c.Made) (kind : NodeKind) (token : Option Token) :
    (Node.build kind token ns).tokens = token.toList ++ ns.flatMap tokens := by
  rw [Node.build, tokens, tokensList_flatMap_spliced fun c hc => (h c hc).tidy,
    tokensList_eq_flatMap]

theorem tokens_group (h : ∀ c ∈ ns, c.Made) : (Node.group ns).tokens = ns.flatMap tokens := by
  rw [Node.tokens_group fun c hc => (h c hc).tidy, tokensList_eq_flatMap]

/-- **Tokens** after one more node has been attached. -/
theorem tokens_push (hc : c.Made) (n : Node) : (n.push c).tokens = n.tokens ++ c.tokens := by
  obtain ⟨k, t, cs⟩ := n
  rw [Node.push, tokens, tokens, tokensList_append, hc.tidy.tokensList_spliced, List.append_assoc]

end Made

end Node

end Packrat
