import Packrat.Node

/-!
# Proofs — Node — Places

The same node can hang in a tree more than once, so nodes do not tell where they hang.  A *place* is
the path to a node from the root, as the indices of the children to go to.  The places of a tree can
be listed going down, every node before those below it (`Node.places`), or going up
(`Node.placesUp`).

**Places** (`Node.mem_places_iff`): a path is a place exactly if it leads to a node.  **Order**
(`Node.pairwise_places`): going down lists the paths in lexicographic order.
-/

namespace Packrat

namespace Node

mutual

/-- The nodes of a tree that hangs at a path, with their paths, each before those below it. -/
def places (p : List Nat) : Node → List (List Nat × Node)
  | ⟨k, t, cs⟩ => (p, ⟨k, t, cs⟩) :: placesIn p 0 cs

def placesIn (p : List Nat) (i : Nat) : List Node → List (List Nat × Node)
  | [] => []
  | n :: r => n.places (p ++ [i]) ++ placesIn p (i + 1) r

end

mutual

/-- The same, each after those below it. -/
def placesUp (p : List Nat) : Node → List (List Nat × Node)
  | ⟨k, t, cs⟩ => placesUpIn p 0 cs ++ [(p, ⟨k, t, cs⟩)]

def placesUpIn (p : List Nat) (i : Nat) : List Node → List (List Nat × Node)
  | [] => []
  | n :: r => n.placesUp (p ++ [i]) ++ placesUpIn p (i + 1) r

end

mutual

theorem map_snd_places (p : List Nat) : ∀ n : Node, (n.places p).map Prod.snd = n.preorder
  | ⟨k, t, cs⟩ => by simp only [places, preorder, List.map_cons, map_snd_placesIn p 0 cs]

theorem map_snd_placesIn (p : List Nat) :
    ∀ (i : Nat) (ns : List Node), (placesIn p i ns).map Prod.snd = preorderList ns
  | _, [] => rfl
  | i, n :: r => by
      simp only [placesIn, preorderList, List.map_append, map_snd_places _ n,
        map_snd_placesIn p (i + 1) r]

end

mutual

/-- Going up one comes by the same places. -/
theorem placesUp_perm (p : List Nat) : ∀ n : Node, (n.placesUp p).Perm (n.places p)
  | ⟨k, t, cs⟩ => by
      simp only [placesUp, places]
      exact (List.perm_append_singleton _ _).trans ((placesUpIn_perm p 0 cs).cons _)

theorem placesUpIn_perm (p : List Nat) :
    ∀ (i : Nat) (ns : List Node), (placesUpIn p i ns).Perm (placesIn p i ns)
  | _, [] => .nil
  | i, n :: r => by
      simp only [placesUpIn, placesIn]
      exact (placesUp_perm _ n).append (placesUpIn_perm p (i + 1) r)

end

mutual

/-- **Places.** -/
theorem mem_places_iff {p q : List Nat} {d : Node} :
    ∀ {n : Node}, (q, d) ∈ n.places p ↔ ∃ path, q = p ++ path ∧ n.at? path = some d
  | ⟨k, t, cs⟩ => by
      rw [places, List.mem_cons, mem_placesIn_iff]
      constructor
      · rintro (h | ⟨j, path, rfl, h⟩)
        · cases h
          exact ⟨[], (List.append_nil p).symm, rfl⟩
        · exact ⟨j :: path, by simp, h⟩
      · rintro ⟨_ | ⟨j, path⟩, rfl, h⟩
        · cases h
          simp
        · exact .inr ⟨j, path, by simp, h⟩

theorem mem_placesIn_iff {p q : List Nat} {d : Node} : ∀ {i : Nat} {ns : List Node},
    (q, d) ∈ placesIn p i ns ↔
      ∃ j path, q = p ++ (i + j) :: path ∧ (ns[j]?).bind (·.at? path) = some d
  | i, [] => by simp [placesIn]
  | i, n :: ns => by
      rw [placesIn, List.mem_append, mem_places_iff, mem_placesIn_iff]
      constructor
      · rintro (⟨path, rfl, h⟩ | ⟨j, path, rfl, h⟩)
        · exact ⟨0, path, by simp, h⟩
        · exact ⟨j + 1, path, by rw [Nat.add_right_comm, Nat.add_assoc], h⟩
      · rintro ⟨_ | j, path, rfl, h⟩
        · exact .inl ⟨path, by simp, h⟩
        · exact .inr ⟨j, path, by rw [Nat.add_right_comm, Nat.add_assoc], h⟩

end

mutual

/-- **Order.** -/
theorem pairwise_places (p : List Nat) :
    ∀ n : Node, ((n.places p).map Prod.fst).Pairwise (· < ·)
  | ⟨k, t, cs⟩ => by
      rw [places, List.map_cons, List.pairwise_cons]
      refine ⟨fun q hq => ?_, pairwise_placesIn p 0 cs⟩
      obtain ⟨⟨q, d⟩, hd, rfl⟩ := List.mem_map.mp hq
      obtain ⟨j, path, rfl, -⟩ := mem_placesIn_iff.mp hd
      have hlt : p ++ [] < p ++ (0 + j) :: path := List.append_left_lt (List.nil_lt_cons _ _)
      rwa [List.append_nil] at hlt

theorem pairwise_placesIn (p : List Nat) : ∀ (i : Nat) (ns : List Node),
    ((placesIn p i ns).map Prod.fst).Pairwise (· < ·)
  | _, [] => .nil
  | i, n :: ns => by
      rw [placesIn, List.map_append, List.pairwise_append]
      refine ⟨pairwise_places _ n, pairwise_placesIn p (i + 1) ns, fun q hq q' hq' => ?_⟩
      obtain ⟨⟨q, d⟩, hd, rfl⟩ := List.mem_map.mp hq
      obtain ⟨⟨q', d'⟩, hd', rfl⟩ := List.mem_map.mp hq'
      obtain ⟨path, rfl, -⟩ := mem_places_iff.mp hd
      obtain ⟨j, path', rfl, -⟩ := mem_placesIn_iff.mp hd'
      -- the one is below an earlier child than the other
      have hlt : i :: path < (i + 1 + j) :: path' := List.Lex.rel (by omega)
      rw [List.append_assoc]
      exact List.append_left_lt hlt

end

end Node

end Packrat
