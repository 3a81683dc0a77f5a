import Mathlib.Data.Finset.Card
import Mathlib.Data.List.Basic
import Packrat.Node.Store

/-!
# Proofs — Node — Holding

What a store holds, and for whom.  A tree *stands* in a store if the parts of each of its nodes
stand under the node's number (`NodeStore.Stands`); then no other tree stands under that number, and
it is what is read there (`NodeStore.Stands.tree?_eq`).  A store is *sound* for the nodes that are
held from outside if the holders of every node are counted right, and every node that is held is the
root of a tree.

A node with one holder, who is outside, is a child nowhere, so it is in no tree but its own.  Hence
changing it there changes no other tree, and this is when it is changed there.

**Pushing** (`NodeStore.Sound.push`): attaching a node leaves all trees that are held from outside
as they were, except the one that is attached to, which gets the very nodes that are attached.
-/

namespace Packrat

/-! ### Numbered trees -/

/-- The number is one of the tree's. -/
inductive SharedNode.Has : SharedNode → Nat → Prop where
  | root (n : SharedNode) : Has n n.id
  | child {n c : SharedNode} {a : Nat} : c ∈ n.children → Has c a → Has n a

namespace SharedNode

theorem toNodes_eq (ns : List SharedNode) : toNodes ns = ns.map toNode := by
  induction ns with
  | nil => rfl
  | cons n ns ih => rw [toNodes, ih, List.map_cons]

theorem children_toNode (n : SharedNode) : n.toNode.children = n.children.map toNode := by
  obtain ⟨i, k, t, cs⟩ := n
  exact toNodes_eq cs

theorem kind_toNode (n : SharedNode) : n.toNode.kind = n.kind := by
  cases n; rfl

theorem token_toNode (n : SharedNode) : n.toNode.token = n.token := by
  cases n; rfl

theorem spliced_toNode (n : SharedNode) : n.toNode.spliced = n.spliced.map toNode := by
  simp only [Node.spliced, Node.isGroup, spliced, kind_toNode, children_toNode]
  split <;> rfl

theorem toNode_append_spliced (n c : SharedNode) (a : Nat) :
    toNode ⟨a, n.kind, n.token, n.children ++ c.spliced⟩ = n.toNode.push c.toNode := by
  rw [toNode, toNodes_eq, List.map_append, Node.push, kind_toNode, token_toNode, children_toNode,
    spliced_toNode]

/-- Paths lead to the same places whether nodes are numbered or not. -/
theorem at?_toNode (n : SharedNode) (path : List Nat) :
    n.toNode.at? path = (n.at? path).map toNode := by
  induction path generalizing n with
  | nil => rfl
  | cons i path ih =>
      rw [Node.at?, at?, children_toNode, List.getElem?_map]
      cases n.children[i]? with
      | none => rfl
      | some c => exact ih c

/-- Nodes are read off their numbers one after the other. -/
theorem mapM_ids {read : Nat → Option SharedNode} {ns : List SharedNode}
    (h : ∀ n ∈ ns, read n.id = some n) : (ns.map (·.id)).mapM read = some ns := by
  induction ns with
  | nil => rfl
  | cons n ns ih =>
      obtain ⟨hn, hns⟩ := List.forall_mem_cons.mp h
      simp [List.mapM_cons, hn, ih hns]

theorem sizeOf_lt_of_mem_children {n c : SharedNode} (h : c ∈ n.children) :
    sizeOf c < sizeOf n := by
  obtain ⟨i, k, t, cs⟩ := n
  have := List.sizeOf_lt_of_mem h
  simp only [mk.sizeOf_spec] at *
  omega

end SharedNode

namespace NodeStore

variable {s s' : NodeStore} {roots new : List Nat} {a x : Nat} {t t' : SharedNode}

/-! ### Trees in a store -/

/-- The parts of all nodes of the tree stand under their numbers. -/
inductive Stands (s : NodeStore) : SharedNode → Prop where
  | node {a : Nat} {k : Option NodeKind} {t : Option Token} {cs : List SharedNode} :
      s.parts? a = some ⟨k, t, cs.map (·.id)⟩ → (∀ c ∈ cs, Stands s c) → Stands s ⟨a, k, t, cs⟩

namespace Stands

theorem parts_eq (h : s.Stands t) :
    s.parts? t.id = some ⟨t.kind, t.token, t.children.map (·.id)⟩ := by
  cases h with
  | node hp _ => exact hp

theorem children (h : s.Stands t) : ∀ c ∈ t.children, s.Stands c := by
  cases h with
  | node _ hcs => exact hcs

/-- A tree stands wherever its parts do. -/
theorem of_parts (h : s.Stands t) (hp : ∀ x, t.Has x → s'.parts? x = s.parts? x) :
    s'.Stands t := by
  induction h with
  | node ha _ ih =>
      refine .node ((hp _ (.root _)).trans ha) fun c hc => ih c hc fun x hx => ?_
      exact hp x (.child hc hx)

/-- One number, one tree. -/
theorem unique (h : s.Stands t) (h' : s.Stands t') (hid : t.id = t'.id) : t = t' := by
  induction h generalizing t' with
  | @node a k tok cs hp _ ih =>
      obtain ⟨a', k', tok', cs'⟩ := t'
      obtain rfl : a = a' := hid
      have hparts := hp.symm.trans h'.parts_eq
      simp only [Option.some.injEq, NodeParts.mk.injEq] at hparts
      obtain ⟨rfl, rfl, hids⟩ := hparts
      have hchildren : cs = cs' := by
        -- children are told apart by their numbers, one after the other
        refine List.ext_getElem (by simpa using congrArg List.length hids) fun i hi hi' => ?_
        refine ih _ (List.getElem_mem hi) (h'.children _ (List.getElem_mem hi')) ?_
        have hid : (cs.map (·.id))[i]? = (cs'.map (·.id))[i]? := congrArg (·[i]?) hids
        simpa only [List.getElem?_map, List.getElem?_eq_getElem hi, List.getElem?_eq_getElem hi',
          Option.map_some, Option.some.injEq] using hid
      rw [hchildren]

/-- Each number of a tree is that of a tree inside it. -/
theorem exists_of_has (h : s.Stands t) (hx : t.Has x) :
    ∃ d, d.id = x ∧ s.Stands d ∧ sizeOf d ≤ sizeOf t := by
  induction hx with
  | root n => exact ⟨n, rfl, h, Nat.le_refl _⟩
  | child hc _ ih =>
      obtain ⟨d, hid, hd, hle⟩ := ih (h.children _ hc)
      exact ⟨d, hid, hd, Nat.le_trans hle (Nat.le_of_lt (SharedNode.sizeOf_lt_of_mem_children hc))⟩

/-- No node is below itself. -/
theorem not_below_self (h : s.Stands t) {c : SharedNode} (hc : c ∈ t.children) : ¬ c.Has t.id := by
  intro hx
  obtain ⟨d, hid, hd, hle⟩ := (h.children c hc).exists_of_has hx
  have hlt := SharedNode.sizeOf_lt_of_mem_children hc
  rw [hd.unique h hid] at hle
  omega

/-- A tree is read if its numbers are no more than the levels that are read: they are different on
the way down. -/
theorem readTree_eq (h : s.Stands t) {fuel : Nat} (numbers : Finset Nat)
    (hnumbers : ∀ x, t.Has x → x ∈ numbers) (hfuel : numbers.card ≤ fuel) :
    s.readTree fuel t.id = some t := by
  induction h generalizing fuel numbers with
  | @node a k tok cs hp hcs ih =>
      have hself := hnumbers a (.root ⟨a, k, tok, cs⟩)
      cases fuel with
      | zero =>
          have := Finset.card_pos.mpr ⟨a, hself⟩
          omega
      | succ fuel =>
          have hread : ∀ c ∈ cs, s.readTree fuel c.id = some c := fun c hc => by
            refine ih c hc (numbers.erase a) (fun x hx => ?_) ?_
            · refine Finset.mem_erase.mpr ⟨?_, hnumbers x (.child hc hx)⟩
              rintro rfl
              exact not_below_self (.node hp hcs) hc hx
            · rw [Finset.card_erase_of_mem hself]
              omega
          simp only [readTree, hp, Option.bind_eq_bind, Option.bind_some, SharedNode.mapM_ids hread]
          rfl

theorem lt_length_of_has (h : s.Stands t) (hx : t.Has x) : x < s.cells.length := by
  obtain ⟨d, rfl, hd, -⟩ := h.exists_of_has hx
  obtain ⟨c, hc, -⟩ := Option.map_eq_some_iff.mp hd.parts_eq
  exact (List.getElem?_eq_some_iff.mp hc).1

/-- What stands under a number is read there. -/
theorem tree?_eq (h : s.Stands t) : s.tree? t.id = some t :=
  h.readTree_eq (Finset.range s.cells.length)
    (fun _ hx => Finset.mem_range.mpr (h.lt_length_of_has hx)) (by simp)

end Stands

/-! ### Counting -/

/-- How many times the node is a child of others. -/
def references (s : NodeStore) (a : Nat) : Nat :=
  s.total fun c => c.parts.children.count a

theorem parts?_modify (f : Cell → Cell) :
    (s.modify a f).parts? x =
      if a = x then s.cells[x]?.map fun c => (f c).parts else s.parts? x := by
  simp only [parts?, modify, List.getElem?_modify]
  split
  · simp [Function.comp_def]
  · simp

theorem holders_modify (f : Cell → Cell) :
    (s.modify a f).holders x =
      if a = x then (s.cells[x]?.map fun c => (f c).holders).getD 0 else s.holders x := by
  simp only [holders, modify, List.getElem?_modify]
  split
  · simp [Function.comp_def]
  · simp

theorem exists_cell {p : NodeParts} (h : s.parts? a = some p) :
    ∃ c, s.cells[a]? = some c ∧ c.parts = p :=
  Option.map_eq_some_iff.mp h

theorem holders_eq_of_cell {c : Cell} (h : s.cells[a]? = some c) : s.holders a = c.holders := by
  simp [holders, h]

theorem le_total {c : Cell} {f : Cell → Nat} (h : c ∈ s.cells) : f c ≤ s.total f := by
  obtain ⟨cells⟩ := s
  simp only [total] at h ⊢
  induction cells with
  | nil => cases h
  | cons d cells ih =>
      rw [List.foldr_cons]
      rcases List.mem_cons.mp h with rfl | h
      · exact Nat.le_add_right _ _
      · exact Nat.le_trans (ih h) (Nat.le_add_left _ _)

theorem total_concat (c : Cell) (f : Cell → Nat) :
    (NodeStore.mk (s.cells ++ [c])).total f = s.total f + f c := by
  obtain ⟨cells⟩ := s
  simp only [total]
  induction cells with
  | nil => exact Nat.add_comm _ _
  | cons d cells ih => rw [List.cons_append, List.foldr_cons, List.foldr_cons, ih, Nat.add_assoc]

/-- What is somebody's child is counted. -/
theorem references_pos {p : NodeParts} (h : s.parts? x = some p) (ha : a ∈ p.children) :
    0 < s.references a := by
  obtain ⟨c, hc, rfl⟩ := exists_cell h
  have hle : c.parts.children.count a ≤ s.references a :=
    le_total (f := fun c => c.parts.children.count a) (List.mem_of_getElem? hc)
  have := List.count_pos_iff.mpr ha
  omega

/-- A node that is nobody's child is in no tree but its own. -/
theorem Stands.not_has (h : s.Stands t) (hne : t.id ≠ a) (href : s.references a = 0) :
    ¬ t.Has a := by
  intro ha
  induction ha with
  | root => exact hne rfl
  | @child n c x hc _ ih =>
      refine ih (h.children c hc) (fun hid => ?_) href
      have := references_pos h.parts_eq (List.mem_map.mpr ⟨c, hc, hid⟩)
      omega

/-- The holders of every node are the ones outside and its parents, and what is held is a tree. -/
structure Sound (s : NodeStore) (roots : List Nat) : Prop where
  holders_eq : ∀ a, s.holders a = roots.count a + s.references a
  exists_tree : ∀ a, 0 < s.holders a → ∃ t : SharedNode, t.id = a ∧ s.Stands t

/-- Trees that are held from outside stand in the later store as in the earlier one. -/
def Keeps (s s' : NodeStore) (roots : List Nat) : Prop :=
  ∀ t : SharedNode, t.id ∈ roots → s.Stands t → s'.Stands t

/-- Only one holds the node, and from outside. -/
structure Sole (s : NodeStore) (a : Nat) (roots : List Nat) : Prop where
  not_mem : a ∉ roots
  references_eq : s.references a = 0

namespace Sound

theorem of_perm (h : s.Sound roots) {roots' : List Nat} (hp : roots.Perm roots') :
    s.Sound roots' :=
  ⟨fun a => hp.count_eq a ▸ h.holders_eq a, h.exists_tree⟩

theorem holders_pos (h : s.Sound roots) (ha : a ∈ roots) : 0 < s.holders a := by
  have := List.count_pos_iff.mpr ha
  rw [h.holders_eq]
  omega

theorem sole (h : s.Sound (a :: roots)) (hone : s.holders a = 1) : s.Sole a roots := by
  have := h.holders_eq a
  rw [List.count_cons_self] at this
  exact ⟨List.count_eq_zero.mp (by omega), by omega⟩

/-- Those who are held from outside are trees. -/
theorem exists_trees (h : s.Sound roots) {as : List Nat} (has : ∀ a ∈ as, 0 < s.holders a) :
    ∃ ts : List SharedNode, ts.map (·.id) = as ∧ ∀ t ∈ ts, s.Stands t := by
  induction as with
  | nil => exact ⟨[], rfl, List.forall_mem_nil _⟩
  | cons a as ih =>
      obtain ⟨ha, has⟩ := List.forall_mem_cons.mp has
      obtain ⟨t, hid, ht⟩ := h.exists_tree a ha
      obtain ⟨ts, hids, hts⟩ := ih has
      exact ⟨t :: ts, by rw [List.map_cons, hid, hids], List.forall_mem_cons.mpr ⟨ht, hts⟩⟩

end Sound

/-! ### Making and holding nodes -/

theorem parts?_make (p : NodeParts) :
    (s.make p).2.parts? x = if x = s.cells.length then some p else s.parts? x := by
  simp only [parts?, make, List.getElem?_append]
  split
  · next h => rw [if_neg (Nat.ne_of_lt h)]
  · next h =>
    split
    · next h => simp [h]
    · next hne =>
      rw [List.getElem?_eq_none (by simp; omega), List.getElem?_eq_none (by omega)]

theorem holders_make (p : NodeParts) :
    (s.make p).2.holders x = if x = s.cells.length then 1 else s.holders x := by
  simp only [holders, make, List.getElem?_append]
  split
  · next h => rw [if_neg (Nat.ne_of_lt h)]
  · next h =>
    split
    · next h => simp [h]
    · next hne =>
      rw [List.getElem?_eq_none (by simp; omega), List.getElem?_eq_none (by omega)]

theorem references_make (p : NodeParts) :
    (s.make p).2.references x = s.references x + p.children.count x :=
  total_concat ⟨p, 1⟩ _

theorem holders_length (s : NodeStore) : s.holders s.cells.length = 0 := by
  simp [holders]

/-- What stood in the store before still does. -/
theorem Stands.make (h : s.Stands t) (p : NodeParts) : (s.make p).2.Stands t := by
  refine h.of_parts fun x hx => ?_
  rw [parts?_make, if_neg (Nat.ne_of_lt (h.lt_length_of_has hx))]

/-- The children that the caller holds are held by the new node afterwards, and the node by the
caller alone. -/
theorem Sound.make {p : NodeParts} (h : s.Sound (p.children ++ roots)) :
    (s.make p).2.Sound ((s.make p).1 :: roots) ∧ (s.make p).2.Sole (s.make p).1 roots := by
  have hnew := h.holders_eq s.cells.length
  rw [holders_length, List.count_append] at hnew
  have hsound : (s.make p).2.Sound ((s.make p).1 :: roots) := by
    refine ⟨fun x => ?_, fun x hx => ?_⟩
    · have hx := h.holders_eq x
      rw [List.count_append] at hx
      rw [holders_make, references_make, List.count_cons,
        show (s.make p).1 = s.cells.length from rfl]
      by_cases hxn : x = s.cells.length
      · subst hxn
        simp only [if_true, beq_self_eq_true]
        omega
      · rw [if_neg hxn, if_neg (by simpa using Ne.symm hxn)]
        omega
    · rw [holders_make] at hx
      split at hx
      · next hxn =>
        subst hxn
        have hheld : ∀ a ∈ p.children, 0 < s.holders a := fun a ha =>
          h.holders_pos (List.mem_append_left _ ha)
        obtain ⟨ts, hids, hts⟩ := h.exists_trees hheld
        refine ⟨⟨_, p.kind, p.token, ts⟩, rfl, .node ?_ fun t ht => (hts t ht).make p⟩
        rw [parts?_make, if_pos rfl, hids]
      · obtain ⟨t, hid, ht⟩ := h.exists_tree x hx
        exact ⟨t, hid, ht.make p⟩
  refine ⟨hsound, hsound.sole ?_⟩
  rw [holders_make]
  exact if_pos rfl

/-- Changing the number of holders changes no parts. -/
theorem parts?_modify_holders {f : Cell → Cell} (hf : ∀ c, (f c).parts = c.parts) :
    (s.modify a f).parts? x = s.parts? x := by
  rw [parts?_modify]
  split
  · simp only [hf, parts?]
  · rfl

theorem references_modify_holders {f : Cell → Cell} (hf : ∀ c, (f c).parts = c.parts) :
    (s.modify a f).references x = s.references x := by
  have hmap : (s.modify a f).cells.map (·.parts) = s.cells.map (·.parts) := by
    refine List.ext_getElem? fun i => ?_
    simpa [parts?] using parts?_modify_holders (s := s) (a := a) (x := i) hf
  have htotal : ∀ s : NodeStore, s.references x =
      (s.cells.map (·.parts)).foldr (fun p n => p.children.count x + n) 0 := fun s => by
    rw [references, total, List.foldr_map]
  rw [htotal, htotal, hmap]

theorem Stands.modify_holders (h : s.Stands t) {f : Cell → Cell}
    (hf : ∀ c, (f c).parts = c.parts) : (s.modify a f).Stands t :=
  h.of_parts fun _ _ => parts?_modify_holders hf

theorem Stands.hold (h : s.Stands t) (a : Nat) : (s.hold a).Stands t :=
  h.modify_holders fun _ => rfl

theorem references_hold : (s.hold a).references x = s.references x :=
  references_modify_holders fun _ => rfl

theorem holders_hold (ha : 0 < s.holders a) (x : Nat) :
    (s.hold a).holders x = s.holders x + if a = x then 1 else 0 := by
  rw [hold, holders_modify]
  split
  · next hx =>
    subst hx
    cases hc : s.cells[a]? with
    | none => simp [holders, hc] at ha
    | some c => simp [holders, hc]
  · rfl

theorem Sound.hold (h : s.Sound roots) (ha : 0 < s.holders a) : (s.hold a).Sound (a :: roots) := by
  refine ⟨fun x => ?_, fun x hx => ?_⟩
  · rw [holders_hold ha, references_hold, h.holders_eq, List.count_cons]
    simp only [beq_iff_eq]
    omega
  · rw [holders_hold ha] at hx
    have hpos : 0 < s.holders x := by
      split at hx
      · next hxa => exact hxa ▸ ha
      · exact hx
    obtain ⟨t, hid, ht⟩ := h.exists_tree x hpos
    exact ⟨t, hid, ht.hold a⟩

theorem Stands.holdAll (h : s.Stands t) (as : List Nat) : (s.holdAll as).Stands t := by
  induction as generalizing s with
  | nil => exact h
  | cons a as ih => exact ih (h.hold a)

theorem references_holdAll (s : NodeStore) (as : List Nat) :
    (s.holdAll as).references x = s.references x := by
  induction as generalizing s with
  | nil => rfl
  | cons a as ih => exact (ih (s.hold a)).trans references_hold

theorem Sound.holdAll (h : s.Sound roots) {as : List Nat} (has : ∀ a ∈ as, 0 < s.holders a) :
    (s.holdAll as).Sound (as ++ roots) := by
  induction as generalizing s roots with
  | nil => exact h
  | cons a as ih =>
      obtain ⟨ha, has⟩ := List.forall_mem_cons.mp has
      have hheld : ∀ x ∈ as, 0 < (s.hold a).holders x := fun x hx => by
        rw [holders_hold ha]
        exact Nat.lt_of_lt_of_le (has x hx) (Nat.le_add_right _ _)
      exact (ih (h.hold ha) hheld).of_perm List.perm_middle

/-! ### Letting go -/

theorem references_letGo : (s.letGo a).references x = s.references x :=
  references_modify_holders fun _ => rfl

theorem holders_giveUp : (s.giveUp a).holders x = if a = x then 0 else s.holders x := by
  rw [giveUp, holders_modify]
  split
  · cases s.cells[x]? <;> rfl
  · rfl

/-- What is given up was in no other tree. -/
theorem Stands.giveUp (h : s.Stands t) (hne : t.id ≠ a) (hsole : s.Sole a roots) :
    (s.giveUp a).Stands t := by
  refine h.of_parts fun x hx => ?_
  rw [NodeStore.giveUp, parts?_modify, if_neg]
  rintro rfl
  exact h.not_has hne hsole.references_eq hx

section

variable {c : Cell} (hc : s.cells[a]? = some c)

include hc

theorem holders_letGo (x : Nat) :
    (s.letGo a).holders x = s.holders x - if a = x then 1 else 0 := by
  rw [letGo, holders_modify]
  split
  · next hx =>
    subst hx
    simp [holders, hc]
  · rfl

/-- One of the holders lets go. -/
theorem Sound.letGo (h : s.Sound (a :: roots)) : (s.letGo a).Sound roots := by
  refine ⟨fun x => ?_, fun x hx => ?_⟩
  · have hx := h.holders_eq x
    rw [List.count_cons] at hx
    rw [holders_letGo hc, references_letGo, hx]
    simp only [beq_iff_eq]
    omega
  · rw [holders_letGo hc] at hx
    obtain ⟨t, hid, ht⟩ := h.exists_tree x (by omega)
    exact ⟨t, hid, ht.modify_holders fun _ => rfl⟩

theorem references_giveUp (x : Nat) :
    (s.giveUp a).references x + c.parts.children.count x = s.references x := by
  have := total_modify hc (fun c => ⟨{ c.parts with children := [] }, 0⟩)
    (·.parts.children.count x)
  simpa [references, giveUp] using this

/-- The last holder lets go, and holds the children instead. -/
theorem Sound.giveUp (h : s.Sound (a :: roots)) (hone : c.holders = 1) :
    (s.giveUp a).Sound (c.parts.children ++ roots) := by
  have hsole := h.sole ((holders_eq_of_cell hc).trans hone)
  refine ⟨fun x => ?_, fun x hx => ?_⟩
  · have hx := h.holders_eq x
    have hr := references_giveUp hc x
    rw [List.count_cons] at hx
    rw [holders_giveUp, List.count_append]
    split
    · next hax =>
      subst hax
      have hcount := List.count_eq_zero.mpr hsole.not_mem
      have := hsole.references_eq
      omega
    · next hax =>
      rw [if_neg (by simpa using hax)] at hx
      omega
  · rw [holders_giveUp] at hx
    split at hx
    · omega
    · next hax =>
      obtain ⟨t, rfl, ht⟩ := h.exists_tree x hx
      exact ⟨t, rfl, ht.giveUp (Ne.symm hax) hsole⟩

end

/-- Letting go of nodes leaves what is held from elsewhere in place, and adds no children. -/
theorem Sound.release {as : List Nat} (h : s.Sound (as ++ roots)) :
    (release as s).Sound roots ∧ s.Keeps (release as s) roots ∧
      ∀ x, (release as s).references x ≤ s.references x := by
  fun_induction NodeStore.release as s generalizing roots with
  | case1 s => exact ⟨h, fun _ _ ht => ht, fun _ => Nat.le_refl _⟩
  | case2 a as s hc _ =>
      have hpos := h.holders_pos (List.mem_cons_self ..)
      simp [holders, hc] at hpos
  | case3 a as s c hc hzero _ =>
      have hpos := h.holders_pos (List.mem_cons_self ..)
      rw [holders_eq_of_cell hc, hzero] at hpos
      exact absurd hpos (Nat.lt_irrefl 0)
  | case4 a as s c hc _ hone ih =>
      have hsole := h.sole ((holders_eq_of_cell hc).trans hone)
      obtain ⟨hsound, hkeeps, hle⟩ := ih (List.append_assoc .. ▸ h.giveUp hc hone)
      refine ⟨hsound, fun t hid ht => hkeeps t hid (ht.giveUp ?_ hsole), fun x => ?_⟩
      · rintro rfl
        exact hsole.not_mem (List.mem_append_right _ hid)
      · have := hle x
        have := references_giveUp hc x
        omega
  | case5 a as s c hc hzero hone ih =>
      obtain ⟨hsound, hkeeps, hle⟩ := ih (h.letGo hc)
      refine ⟨hsound, fun t hid ht => hkeeps t hid (ht.modify_holders fun _ => rfl), fun x => ?_⟩
      exact Nat.le_trans (hle x) (Nat.le_of_eq references_letGo)

/-! ### Changing nodes -/

/-- The tree stands in the store and is held once, from outside, beside other nodes. -/
structure Owned (s : NodeStore) (t : SharedNode) (roots : List Nat) : Prop where
  sound : s.Sound (t.id :: roots)
  sole : s.Sole t.id roots
  stands : s.Stands t

theorem Keeps.trans {s'' : NodeStore} (h : s.Keeps s' roots) (h' : s'.Keeps s'' roots) :
    s.Keeps s'' roots :=
  fun t hid ht => h' t hid (h t hid ht)

theorem Keeps.mono {more : List Nat} (h : s.Keeps s' more) (hsub : ∀ x ∈ roots, x ∈ more) :
    s.Keeps s' roots :=
  fun t hid ht => h t (hsub _ hid) ht

theorem Sound.owned_make (k : Option NodeKind) (tok : Option Token) {ts : List SharedNode}
    (h : s.Sound (ts.map (·.id) ++ roots)) (hts : ∀ t ∈ ts, s.Stands t) :
    let e := s.make ⟨k, tok, ts.map (·.id)⟩
    e.2.Owned ⟨e.1, k, tok, ts⟩ roots ∧ s.Keeps e.2 roots := by
  intro e
  obtain ⟨hsound, hsole⟩ := Sound.make (p := ⟨k, tok, ts.map (·.id)⟩) h
  refine ⟨⟨hsound, hsole, .node ?_ fun t ht => (hts t ht).make _⟩, fun t _ ht => ht.make _⟩
  rw [parts?_make]
  exact if_pos rfl

/-- A new node without children. -/
theorem Sound.owned_bare (k : Option NodeKind) (tok : Option Token) (h : s.Sound roots) :
    (s.make ⟨k, tok, []⟩).2.Owned ⟨(s.make ⟨k, tok, []⟩).1, k, tok, []⟩ roots ∧
      s.Keeps (s.make ⟨k, tok, []⟩).2 roots := by
  have hnone : s.Sound (([] : List SharedNode).map (·.id) ++ roots) := h
  exact hnone.owned_make k tok (List.forall_mem_nil _)

theorem Owned.release (as : List Nat) (h : s.Owned t (as ++ roots)) :
    (release as s).Owned t roots ∧ s.Keeps (release as s) roots := by
  have hsound : s.Sound (as ++ t.id :: roots) := h.sound.of_perm List.perm_middle.symm
  obtain ⟨hsound, hkeeps, hle⟩ := hsound.release
  refine ⟨⟨hsound, ⟨?_, ?_⟩, hkeeps t (List.mem_cons_self ..) h.stands⟩,
    hkeeps.mono fun x hx => List.mem_cons_of_mem _ hx⟩
  · exact fun hmem => h.sole.not_mem (List.mem_append_right _ hmem)
  · exact Nat.le_zero.mp (h.sole.references_eq ▸ hle t.id)

/-- Attaching changes the children of the one node. -/
theorem parts?_attach {p : NodeParts} (h : s.parts? a = some p) (new : List Nat) (x : Nat) :
    (s.attach a new).parts? x =
      if a = x then some { p with children := p.children ++ new } else s.parts? x := by
  rw [NodeStore.attach, parts?_modify]
  split
  · next hx =>
    obtain ⟨c, hc, rfl⟩ := exists_cell h
    rw [← hx, hc, Option.map_some]
  · rfl

theorem holders_attach (s : NodeStore) (a : Nat) (new : List Nat) (x : Nat) :
    (s.attach a new).holders x = s.holders x := by
  rw [NodeStore.attach, holders_modify]
  split
  · rfl
  · rfl

theorem references_attach {p : NodeParts} (h : s.parts? a = some p) (new : List Nat) (x : Nat) :
    (s.attach a new).references x = s.references x + new.count x := by
  obtain ⟨c, hc, rfl⟩ := exists_cell h
  have htotal := total_modify hc
    (fun c => { c with parts := { c.parts with children := c.parts.children ++ new } })
    (·.parts.children.count x)
  simp only [List.count_append] at htotal
  simp only [references, NodeStore.attach]
  omega

/-- A node that is nobody's child is in no tree but its own, which is the only one to change. -/
theorem Stands.attach {p : NodeParts} {u : SharedNode} (hu : s.Stands u)
    (h : s.parts? a = some p) (href : s.references a = 0) (hne : u.id ≠ a) (new : List Nat) :
    (s.attach a new).Stands u := by
  refine hu.of_parts fun x hx => ?_
  rw [parts?_attach h, if_neg]
  rintro rfl
  exact hu.not_has hne href hx

/-- Attaching trees to a node that is nobody's child makes a tree of it. -/
theorem Stands.attached {ts : List SharedNode} (ht : s.Stands t) (href : s.references t.id = 0)
    (hts : ∀ c ∈ ts, s.Stands c) (hnot : t.id ∉ ts.map (·.id)) :
    (s.attach t.id (ts.map (·.id))).Stands ⟨t.id, t.kind, t.token, t.children ++ ts⟩ := by
  have hparts := parts?_attach ht.parts_eq (ts.map (·.id)) t.id
  rw [if_pos rfl, ← List.map_append] at hparts
  refine .node hparts (List.forall_mem_append.mpr ⟨fun u hu => ?_, fun u hu => ?_⟩)
  · refine (ht.children u hu).attach ht.parts_eq href (fun hid => ?_) _
    exact ht.not_below_self hu (hid ▸ .root u)
  · exact (hts u hu).attach ht.parts_eq href
      (fun hid => hnot (List.mem_map.mpr ⟨u, hu, hid⟩)) _

/-- A node that nobody else holds can be changed in place. -/
theorem Owned.attach {ts : List SharedNode} (h : s.Owned t (ts.map (·.id) ++ roots))
    (hts : ∀ c ∈ ts, s.Stands c) :
    (s.attach t.id (ts.map (·.id))).Owned ⟨t.id, t.kind, t.token, t.children ++ ts⟩ roots ∧
      s.Keeps (s.attach t.id (ts.map (·.id))) roots := by
  obtain ⟨hsound, ⟨hnot, href⟩, ht⟩ := h
  rw [List.mem_append, not_or] at hnot
  have hreferences := references_attach ht.parts_eq (ts.map (·.id))
  have hstands := ht.attached href hts hnot.1
  refine ⟨⟨⟨fun x => ?_, fun x hx => ?_⟩, ⟨hnot.2, ?_⟩, hstands⟩, fun u hu hus => ?_⟩
  · have hx := hsound.holders_eq x
    simp only [List.count_cons, List.count_append] at hx
    rw [holders_attach, hreferences, hx, List.count_cons]
    simp only
    omega
  · rw [holders_attach] at hx
    by_cases hxt : x = t.id
    · exact ⟨⟨t.id, t.kind, t.token, t.children ++ ts⟩, hxt.symm, hstands⟩
    · obtain ⟨u, rfl, hu⟩ := hsound.exists_tree x hx
      exact ⟨u, rfl, hu.attach ht.parts_eq href hxt _⟩
  · rw [hreferences, href, List.count_eq_zero.mpr hnot.1]
  · exact hus.attach ht.parts_eq href (fun hid => hnot.2 (hid ▸ hu)) _

/-- A node becomes one that nobody else holds: itself or a copy. -/
theorem Sound.unshare (h : s.Sound (t.id :: roots)) (ht : s.Stands t) :
    (s.unshare t.id).2.Owned ⟨(s.unshare t.id).1, t.kind, t.token, t.children⟩ roots ∧
      s.Keeps (s.unshare t.id).2 roots := by
  obtain ⟨a, k, tok, cs⟩ := t
  obtain ⟨c, hc, hparts⟩ := exists_cell ht.parts_eq
  simp only [NodeStore.unshare, hc]
  split
  · next hone =>
    have hsole := h.sole ((holders_eq_of_cell hc).trans hone)
    exact ⟨⟨h, hsole, ht⟩, fun _ _ hu => hu⟩
  · have hheld : ∀ x ∈ cs.map (·.id), 0 < s.holders x := fun x hx => by
      have := references_pos ht.parts_eq hx
      rw [h.holders_eq]
      omega
    have hstands : ∀ u ∈ cs, (s.holdAll (cs.map (·.id))).Stands u := fun u hu =>
      (ht.children u hu).holdAll _
    obtain ⟨hmade, hkeeps⟩ := (h.holdAll hheld).owned_make k tok hstands
    obtain ⟨howned, hkeeps'⟩ := Owned.release [a] hmade
    simp only [hparts]
    refine ⟨howned, fun u hid hu => hkeeps' u hid ?_⟩
    exact hkeeps u (List.mem_cons_of_mem _ hid) (hu.holdAll _)

/-- Children of others can be held from outside, too. -/
theorem Owned.hold_children {c : SharedNode} (h : s.Owned t roots) (hc : s.Stands c) :
    (s.holdAll (c.children.map (·.id))).Owned t (c.children.map (·.id) ++ roots) := by
  have hrefs : ∀ x ∈ c.children.map (·.id), 0 < s.references x := fun x hx =>
    references_pos hc.parts_eq hx
  have hheld : ∀ x ∈ c.children.map (·.id), 0 < s.holders x := fun x hx => by
    have := hrefs x hx
    rw [h.sound.holders_eq]
    omega
  refine ⟨(h.sound.holdAll hheld).of_perm List.perm_middle, ⟨?_, ?_⟩, h.stands.holdAll _⟩
  · refine fun hmem => (List.mem_append.mp hmem).elim (fun hmem => ?_) h.sole.not_mem
    have := hrefs _ hmem
    rw [h.sole.references_eq] at this
    exact absurd this (Nat.lt_irrefl 0)
  · rw [references_holdAll, h.sole.references_eq]

/-- Attaching a node gives the tree with more children, and nobody else sees it. -/
theorem Sound.push {c : SharedNode} (h : s.Sound (t.id :: c.id :: roots)) (ht : s.Stands t)
    (hc : s.Stands c) :
    (s.push t.id c.id).2.Owned ⟨(s.push t.id c.id).1, t.kind, t.token, t.children ++ c.spliced⟩
      roots ∧ s.Keeps (s.push t.id c.id).2 roots := by
  obtain ⟨howned, hkeeps⟩ := h.unshare ht
  have hc' := hkeeps c (List.mem_cons_self ..) hc
  have hkeeps := hkeeps.mono fun x hx => List.mem_cons_of_mem _ hx
  simp only [NodeStore.push, hc'.parts_eq, SharedNode.spliced]
  split
  · -- of a group, the children are held before the group is let go
    have hheld := howned.hold_children hc'
    obtain ⟨hattached, hkeeps'⟩ := hheld.attach fun u hu => (hc'.children u hu).holdAll _
    obtain ⟨hreleased, hkeeps''⟩ := Owned.release [c.id] hattached
    refine ⟨hreleased, hkeeps.trans fun u hid hu => hkeeps'' u hid ?_⟩
    exact hkeeps' u (List.mem_cons_of_mem _ hid) (hu.holdAll _)
  · have hone : (s.unshare t.id).2.Owned _ ([c].map (·.id) ++ roots) := howned
    obtain ⟨hattached, hkeeps'⟩ := hone.attach (by simpa using hc')
    exact ⟨hattached, hkeeps.trans hkeeps'⟩

/-- Attaching several nodes attaches them one after the other. -/
theorem Owned.pushAll {cs : List SharedNode} (h : s.Owned t (cs.map (·.id) ++ roots))
    (hcs : ∀ c ∈ cs, s.Stands c) :
    let e := NodeStore.pushAll (cs.map (·.id)) (t.id, s)
    e.2.Owned ⟨e.1, t.kind, t.token, t.children ++ cs.flatMap (·.spliced)⟩ roots ∧
      s.Keeps e.2 roots := by
  induction cs generalizing s t with
  | nil =>
      obtain ⟨a, k, tok, ts⟩ := t
      simpa [NodeStore.pushAll] using ⟨h, fun _ _ hu => hu⟩
  | cons c cs ih =>
      obtain ⟨hc, hcs⟩ := List.forall_mem_cons.mp hcs
      obtain ⟨howned, hkeeps⟩ := h.sound.push h.stands hc
      have hkept : ∀ u ∈ cs, (s.push t.id c.id).2.Stands u := fun u hu =>
        hkeeps u (List.mem_append_left _ (List.mem_map_of_mem hu)) (hcs u hu)
      obtain ⟨howned, hkeeps'⟩ := ih howned hkept
      rw [List.append_assoc] at howned
      exact ⟨howned, (hkeeps.mono fun x hx => List.mem_append_right _ hx).trans hkeeps'⟩

end NodeStore

end Packrat
