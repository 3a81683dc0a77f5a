import Packrat.Node.Descendants
import Packrat.Proofs.Node.Places

/-!
# Proofs — Node — Descendants

Going through the nodes below a node with a stack comes by each of their places once, and each node
comes before those below it.  What is still to come is, whatever the stack holds, its nodes from the
last one on, each with those below it (`Descendants.toList_eq`).

**Descendants** (`Node.descendants_eq`): these are the nodes of the children in preorder; so they
are read off the places below the root in lexicographic order (`Node.descendants_places`), and the
tokens of a tree are those of its root and of its descendants (`Node.tokens_eq_filterMap`).
-/

namespace Packrat

/-- What is still to come. -/
theorem Descendants.toList_eq (d : Descendants) :
    d.toList = Node.preorderList d.stack.toList.reverse := by
  fun_induction toList d with
  | case1 d h =>
      have hempty : d.stack.toList = [] := by simpa [next?] using h
      rw [hempty]
      rfl
  | case2 d n d' h ih =>
      obtain ⟨ns, hd, hd'⟩ := stack_of_next? h
      rw [ih, hd, hd', List.reverse_append, List.reverse_append, List.reverse_reverse,
        List.reverse_singleton, List.singleton_append, Node.preorderList, Node.preorderList_append,
        Node.preorder_eq, List.cons_append]

namespace Node

/-- **Descendants.** -/
theorem descendants_eq (n : Node) : n.descendants = preorderList n.children := by
  rw [descendants, Descendants.toList_eq, List.toList_toArray, List.reverse_reverse]

/-- The places of the descendants are the paths that lead down from the root. -/
theorem descendants_places (n : Node) : ∃ paths : List (List Nat),
    n.descendants.map some = paths.map n.at? ∧ paths.Pairwise (· < ·) ∧
      ∀ path, path ∈ paths ↔ path ≠ [] ∧ (n.at? path).isSome = true := by
  obtain ⟨k, t, cs⟩ := n
  have hat : ∀ {q d}, (q, d) ∈ placesIn [] 0 cs ↔
      q ≠ [] ∧ (⟨k, t, cs⟩ : Node).at? q = some d := by
    intro q d
    rw [mem_placesIn_iff]
    constructor
    · rintro ⟨j, path, rfl, h⟩
      exact ⟨by simp, by simpa [at?] using h⟩
    · rintro ⟨hne, h⟩
      obtain ⟨j, path, rfl⟩ := List.exists_cons_of_ne_nil hne
      exact ⟨j, path, by simp, h⟩
  refine ⟨(placesIn [] 0 cs).map Prod.fst, ?_, pairwise_placesIn [] 0 cs, fun path => ?_⟩
  · rw [descendants_eq, ← map_snd_placesIn [] 0 cs, List.map_map, List.map_map]
    exact List.map_congr_left fun ⟨q, d⟩ h => (hat.mp h).2.symm
  · rw [List.mem_map, Option.isSome_iff_exists]
    constructor
    · rintro ⟨⟨q, d⟩, h, rfl⟩
      exact ⟨(hat.mp h).1, d, (hat.mp h).2⟩
    · rintro ⟨hne, d, h⟩
      exact ⟨(path, d), hat.mpr ⟨hne, h⟩, rfl⟩

mutual

theorem tokens_eq_filterMap_preorder : ∀ n : Node, n.tokens = n.preorder.filterMap (·.token)
  | ⟨k, t, cs⟩ => by
      rw [tokens, preorder, List.filterMap_cons, tokensList_eq_filterMap cs]
      cases t <;> rfl

theorem tokensList_eq_filterMap : ∀ ns : List Node,
    tokensList ns = (preorderList ns).filterMap (·.token)
  | [] => rfl
  | n :: ns => by
      rw [tokensList, preorderList, List.filterMap_append, tokens_eq_filterMap_preorder n,
        tokensList_eq_filterMap ns]

end

/-- The tokens of the node and of its descendants. -/
theorem tokens_eq_filterMap (n : Node) :
    n.tokens = (n :: n.descendants).filterMap (·.token) := by
  rw [tokens_eq_filterMap_preorder, preorder_eq, descendants_eq]

end Node

end Packrat
