import Packrat.Node

/-!
# Node — Descendants

Going through the nodes below a node, one after the other.  What is still to come is kept on a
stack, of which the last node is the next one.  When a node is taken its children are put on the
stack, the first of them last, so that the nodes below it come before those after it.
-/

namespace Packrat

namespace Node

theorem length_preorderList_reverse (ns : List Node) :
    (preorderList ns.reverse).length = (preorderList ns).length := by
  induction ns with
  | nil => rfl
  | cons n ns ih => simp [preorderList, preorderList_append, ih, Nat.add_comm]

end Node

/-- Nodes that are still to come, each with those below it. -/
structure Descendants where
  stack : Array Node

namespace Descendants

/-- The next node, and what comes after it. -/
def next? (d : Descendants) : Option (Node × Descendants) :=
  d.stack.back?.map fun n => (n, ⟨d.stack.pop ++ n.children.reverse⟩)

/-- How many nodes are still to come. -/
def count (d : Descendants) : Nat :=
  (Node.preorderList d.stack.toList).length

theorem stack_of_next? {d d' : Descendants} {n : Node} (h : d.next? = some (n, d')) :
    ∃ ns, d.stack.toList = ns ++ [n] ∧ d'.stack.toList = ns ++ n.children.reverse := by
  obtain ⟨n', hn', h⟩ := Option.map_eq_some_iff.mp h
  cases h
  rw [← Array.getLast?_toList, List.getLast?_eq_some_iff] at hn'
  obtain ⟨ns, hns⟩ := hn'
  exact ⟨ns, hns, by simp [hns]⟩

theorem count_of_next? {d d' : Descendants} {n : Node} (h : d.next? = some (n, d')) :
    d.count = d'.count + 1 := by
  obtain ⟨ns, hd, hd'⟩ := stack_of_next? h
  simp only [count, hd, hd', Node.preorderList_append, List.length_append,
    Node.length_preorderList_reverse, Node.preorderList, Node.preorder_eq, List.append_nil,
    List.length_cons, Nat.add_assoc]

/-- All nodes that are still to come, in the order in which they come. -/
def toList (d : Descendants) : List Node :=
  match _h : d.next? with
  | none => []
  | some (n, d') => n :: d'.toList
termination_by d.count
decreasing_by
  rw [count_of_next? _h]
  exact Nat.lt_succ_self _

end Descendants

namespace Node

/-- All nodes below this one, each before those below it. -/
def descendants (n : Node) : List Node :=
  (⟨n.children.reverse.toArray⟩ : Descendants).toList

end Node

end Packrat
