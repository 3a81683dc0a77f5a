import Mathlib.Logic.Function.Basic
import Packrat.Node.Registers
import Packrat.Proofs.Node.Holding

/-!
# Proofs — Node — Sharing

Registers as if each had trees of its own.  There, a plan is a tree that is made of the trees in the
registers (`NodePlan.tree`), and what is done with one register leaves all others alone
(`RegisterStep.effect`).  Registers that share the nodes of a store are related to this by the
numbered trees that they hold (`Registers.Holds`): every step preserves the relation
(`Registers.Holds.after`), and so does every run.

**Sharing is unseen** (`Registers.sharing_unseen`): after every run the paths of all registers lead
to the trees that they lead to without sharing.  Attaching a node changes the register that it is
attached to, where the children before it stay the same nodes, and nothing else.
-/

namespace Packrat

/-! ### Without sharing -/

section

variable (v : String → Option Node)

mutual

/-- The planned tree, where the registers have these trees. -/
def NodePlan.tree : NodePlan → Node
  | .build kind token plans => .build kind token (treeList plans)
  | .leaf token => .leaf token
  | .group plans => .group (treeList plans)
  | .empty => .empty
  | .held name path => ((v name).bind (·.at? path)).getD .empty

def NodePlan.treeList : List NodePlan → List Node
  | [] => []
  | p :: ps => p.tree :: treeList ps

end

namespace RegisterStep

/-- The trees in the registers after a step, where every register has its own. -/
def effect : RegisterStep → String → Option Node
  | .set name plan => Function.update v name (some (plan.tree v))
  | .copy name source path =>
    match (v source).bind (·.at? path) with
    | some n => Function.update v name (some n)
    | none => v
  | .push name plan => Function.update v name ((v name).map (·.push (plan.tree v)))

end RegisterStep

end

/-- The trees in the registers after several steps, where every register has its own. -/
def RegisterStep.effects (steps : List RegisterStep) : String → Option Node :=
  steps.foldl effect fun _ => none

/-- The register that a step is about. -/
def RegisterStep.register : RegisterStep → String
  | .set name _ | .copy name _ _ | .push name _ => name

/-! ### Paths -/

theorem SharedNode.has_of_at? {t u : SharedNode} {path : List Nat} (h : t.at? path = some u) :
    t.Has u.id := by
  induction path generalizing t with
  | nil =>
      cases h
      exact .root _
  | cons i path ih =>
      obtain ⟨c, hc, hu⟩ := Option.bind_eq_some_iff.mp h
      exact .child (List.mem_of_getElem? hc) (ih hu)

namespace NodeStore

variable {s s' : NodeStore} {roots : List Nat} {t u : SharedNode}

theorem Stands.follow_eq (h : s.Stands t) (path : List Nat) :
    s.follow t.id path = (t.at? path).map (·.id) := by
  induction path generalizing t with
  | nil => rfl
  | cons i path ih =>
      simp only [follow, SharedNode.at?, h.parts_eq, Option.bind_some, List.getElem?_map]
      cases hc : t.children[i]? with
      | none => rfl
      | some c => exact ih (h.children c (List.mem_of_getElem? hc))

theorem Stands.at? {path : List Nat} (h : s.Stands t) (hu : t.at? path = some u) : s.Stands u := by
  induction path generalizing t with
  | nil =>
      cases hu
      exact h
  | cons i path ih =>
      obtain ⟨c, hc, hu⟩ := Option.bind_eq_some_iff.mp hu
      exact ih (h.children c (List.mem_of_getElem? hc)) hu

/-- What is below a node that somebody holds is held, too. -/
theorem Sound.holders_pos_at? {path : List Nat} (h : s.Sound roots) (ht : s.Stands t)
    (hpos : 0 < s.holders t.id) (hu : t.at? path = some u) : 0 < s.holders u.id := by
  induction path generalizing t with
  | nil =>
      cases hu
      exact hpos
  | cons i path ih =>
      obtain ⟨c, hc, hu⟩ := Option.bind_eq_some_iff.mp hu
      have hmem := List.mem_of_getElem? hc
      have := references_pos ht.parts_eq (List.mem_map_of_mem hmem)
      exact ih (ht.children c hmem) (by rw [h.holders_eq]; omega) hu

/-- What a step from the one store brings is a tree that the caller holds now; what was held before
is kept. -/
structure Brings (s : NodeStore) (roots : List Nat) (e : Nat × NodeStore) (t : SharedNode) :
    Prop where
  id_eq : e.1 = t.id
  sound : e.2.Sound (t.id :: roots)
  stands : e.2.Stands t
  keeps : s.Keeps e.2 roots

/-- The same for several trees. -/
structure BringsAll (s : NodeStore) (roots : List Nat) (e : List Nat × NodeStore)
    (ts : List SharedNode) : Prop where
  ids_eq : e.1 = ts.map (·.id)
  sound : e.2.Sound (ts.map (·.id) ++ roots)
  stands : ∀ t ∈ ts, e.2.Stands t
  keeps : s.Keeps e.2 roots

theorem Sound.brings_bare (k : Option NodeKind) (tok : Option Token) (h : s.Sound roots) :
    s.Brings roots (s.make ⟨k, tok, []⟩) ⟨(s.make ⟨k, tok, []⟩).1, k, tok, []⟩ := by
  obtain ⟨howned, hkeeps⟩ := h.owned_bare k tok
  exact ⟨rfl, howned.sound, howned.stands, hkeeps⟩

/-- A new node with the nodes attached that were brought. -/
theorem BringsAll.brings_pushAll {e : List Nat × NodeStore} {ts : List SharedNode}
    (h : s.BringsAll roots e ts) (k : Option NodeKind) (tok : Option Token) :
    ∃ a, s.Brings roots (pushAll e.1 (e.2.make ⟨k, tok, []⟩))
      ⟨a, k, tok, ts.flatMap (·.spliced)⟩ := by
  obtain ⟨hbare, hkeeps⟩ := h.sound.owned_bare k tok
  have hstands : ∀ t ∈ ts, (e.2.make ⟨k, tok, []⟩).2.Stands t := fun t ht =>
    hkeeps t (List.mem_append_left _ (List.mem_map_of_mem ht)) (h.stands t ht)
  obtain ⟨howned, hkeeps'⟩ := hbare.pushAll hstands
  rw [h.ids_eq]
  refine ⟨_, rfl, howned.sound, howned.stands, h.keeps.trans (Keeps.trans ?_ hkeeps')⟩
  exact hkeeps.mono fun x hx => List.mem_append_right _ hx

theorem Sound.brings_hold (h : s.Sound roots) (ht : s.Stands t) (hpos : 0 < s.holders t.id) :
    s.Brings roots (t.id, s.hold t.id) t :=
  ⟨rfl, h.hold hpos, ht.hold _, fun _ _ hu => hu.hold _⟩

end NodeStore

/-! ### Plans -/

namespace Registers

variable {slots : List (String × Nat)} {s s' : NodeStore} {roots : List Nat}
  {v : String → Option SharedNode} {name : String} {a : Nat} {t : SharedNode}

/-- The trees without the numbers. -/
def unnumbered (v : String → Option SharedNode) : String → Option Node :=
  fun x => (v x).map (·.toNode)

/-- The slots hold these trees. -/
structure Shows (slots : List (String × Nat)) (s : NodeStore) (roots : List Nat)
    (v : String → Option SharedNode) : Prop where
  lookup_eq : ∀ x, slots.lookup x = (v x).map (·.id)
  stands : ∀ x t, v x = some t → s.Stands t
  mem : ∀ x t, v x = some t → t.id ∈ roots

namespace Shows

variable (h : Shows slots s roots v)

include h

theorem keeps {more : List Nat} (hk : s.Keeps s' roots) (hmore : ∀ x ∈ roots, x ∈ more) :
    Shows slots s' more v :=
  ⟨h.lookup_eq, fun x t hx => hk t (h.mem x t hx) (h.stands x t hx),
    fun x t hx => hmore _ (h.mem x t hx)⟩

theorem numberAt?_eq (x : String) (path : List Nat) :
    numberAt? slots s x path = ((v x).bind (·.at? path)).map (·.id) := by
  rw [numberAt?, h.lookup_eq]
  cases hx : v x with
  | none => rfl
  | some t => exact (h.stands x t hx).follow_eq path

theorem stands_at? {x : String} {path : List Nat} (ht : (v x).bind (·.at? path) = some t) :
    s.Stands t := by
  obtain ⟨n, hn, ht⟩ := Option.bind_eq_some_iff.mp ht
  exact (h.stands x n hn).at? ht

theorem brings_hold {x : String} {path : List Nat} (hs : s.Sound roots)
    (ht : (v x).bind (·.at? path) = some t) : s.Brings roots (t.id, s.hold t.id) t := by
  refine hs.brings_hold (h.stands_at? ht) ?_
  obtain ⟨n, hn, ht⟩ := Option.bind_eq_some_iff.mp ht
  exact hs.holders_pos_at? (h.stands x n hn) (hs.holders_pos (h.mem x n hn)) ht

end Shows

theorem unnumbered_at? (v : String → Option SharedNode) (x : String) (path : List Nat) :
    (unnumbered v x).bind (·.at? path) = ((v x).bind (·.at? path)).map (·.toNode) := by
  cases hx : v x with
  | none => simp [unnumbered, hx]
  | some t => simp [unnumbered, hx, SharedNode.at?_toNode]

theorem unnumbered_update (v : String → Option SharedNode) (x : String) (n : Option SharedNode) :
    unnumbered (Function.update v x n) = Function.update (unnumbered v) x (n.map (·.toNode)) := by
  funext y
  simp only [unnumbered, Function.update_apply]
  split <;> rfl

/-- The tree was planned; where it is one that is held, it is the very same. -/
structure Planned (v : String → Option SharedNode) (plan : NodePlan) (t : SharedNode) : Prop where
  toNode_eq : t.toNode = plan.tree (unnumbered v)
  same : ∀ x path u, plan = .held x path → (v x).bind (·.at? path) = some u → t = u

/-- A new node is planned if the nodes that are attached to it are. -/
theorem planned_of_children {ts : List SharedNode} {plans : List NodePlan} {plan : NodePlan}
    {k : Option NodeKind} {tok : Option Token}
    (hts : ts.map (·.toNode) = NodePlan.treeList (unnumbered v) plans)
    (hplan : plan.tree (unnumbered v) =
      ⟨k, tok, (NodePlan.treeList (unnumbered v) plans).flatMap (·.spliced)⟩)
    (hnew : ∀ x path, plan ≠ .held x path) :
    Planned v plan ⟨a, k, tok, ts.flatMap (·.spliced)⟩ := by
  refine ⟨?_, fun x path _ hheld => absurd hheld (hnew x path)⟩
  rw [SharedNode.toNode, SharedNode.toNodes_eq, hplan, ← hts, List.map_flatMap, List.flatMap_map]
  simp only [SharedNode.spliced_toNode]

mutual

/-- A plan that is carried out brings the planned tree. -/
theorem brings_carryOut : ∀ (plan : NodePlan) {s : NodeStore} {roots : List Nat},
    s.Sound roots → Shows slots s roots v →
    ∃ t, s.Brings roots (carryOut slots plan s) t ∧ Planned v plan t
  | .build kind token plans, s, roots, hs, hv => by
      obtain ⟨ts, hbrings, hts⟩ := brings_carryOutAll plans hs hv
      obtain ⟨a, hnew⟩ := hbrings.brings_pushAll (some kind) token
      exact ⟨_, hnew, planned_of_children hts rfl nofun⟩
  | .leaf token, s, roots, hs, hv =>
      ⟨_, hs.brings_bare _ _, rfl, nofun⟩
  | .group plans, s, roots, hs, hv => by
      obtain ⟨ts, hbrings, hts⟩ := brings_carryOutAll plans hs hv
      obtain ⟨a, hnew⟩ := hbrings.brings_pushAll none none
      exact ⟨_, hnew, planned_of_children hts rfl nofun⟩
  | .empty, s, roots, hs, hv =>
      ⟨_, hs.brings_bare _ _, rfl, nofun⟩
  | .held x path, s, roots, hs, hv => by
      rw [carryOut, hv.numberAt?_eq]
      cases ht : (v x).bind (·.at? path) with
      | none =>
          refine ⟨_, hs.brings_bare _ _, ?_, fun y path' u hheld hu => ?_⟩
          · rw [NodePlan.tree, unnumbered_at?, ht]
            rfl
          · cases hheld
            cases ht.symm.trans hu
      | some t =>
          refine ⟨t, hv.brings_hold hs ht, ?_, fun y path' u hheld hu => ?_⟩
          · rw [NodePlan.tree, unnumbered_at?, ht]
            rfl
          · cases hheld
            exact Option.some.inj (ht.symm.trans hu)

theorem brings_carryOutAll : ∀ (plans : List NodePlan) {s : NodeStore} {roots : List Nat},
    s.Sound roots → Shows slots s roots v →
    ∃ ts : List SharedNode, s.BringsAll roots (carryOutAll slots plans s) ts ∧
      ts.map (·.toNode) = NodePlan.treeList (unnumbered v) plans
  | [], s, roots, hs, hv =>
      ⟨[], ⟨rfl, hs, List.forall_mem_nil _, fun _ _ hu => hu⟩, rfl⟩
  | p :: ps, s, roots, hs, hv => by
      obtain ⟨t, hfirst, ht⟩ := brings_carryOut p hs hv
      have hmore : ∀ x ∈ roots, x ∈ t.id :: roots := fun x hx => List.mem_cons_of_mem _ hx
      -- the first node is held while the others are made
      obtain ⟨ts, hrest, hts⟩ := brings_carryOutAll ps hfirst.sound (hv.keeps hfirst.keeps hmore)
      refine ⟨t :: ts, ⟨?_, hrest.sound.of_perm List.perm_middle, ?_, ?_⟩, ?_⟩
      · exact congrArg₂ List.cons hfirst.id_eq hrest.ids_eq
      · exact List.forall_mem_cons.mpr
          ⟨hrest.keeps t (List.mem_cons_self ..) hfirst.stands, hrest.stands⟩
      · exact hfirst.keeps.trans (hrest.keeps.mono hmore)
      · rw [List.map_cons, NodePlan.treeList, ht.toNode_eq, hts]

end

/-! ### Slots -/

/-- All slots but one. -/
def others (slots : List (String × Nat)) (name : String) : List (String × Nat) :=
  slots.filter (·.1 ≠ name)

theorem lookup_cons_of_ne {k x : String} (h : x ≠ k) :
    List.lookup x ((k, a) :: slots) = slots.lookup x := by
  rw [List.lookup_cons, beq_false_of_ne h]

theorem lookup_others {x : String} (hx : x ≠ name) :
    (others slots name).lookup x = slots.lookup x := by
  induction slots with
  | nil => rfl
  | cons p slots ih =>
      obtain ⟨k, a⟩ := p
      by_cases hk : k = name
      · rw [others, List.filter_cons_of_neg (by simpa using hk), ← others, ih,
          lookup_cons_of_ne (hk ▸ hx)]
      · rw [others, List.filter_cons_of_pos (by simpa using hk), ← others, List.lookup_cons,
          List.lookup_cons, ih]

theorem lookup_slotsWith (x : String) :
    (slotsWith slots name a).lookup x = if x = name then some a else slots.lookup x := by
  rw [slotsWith, ← others]
  split
  · next hx => rw [hx, List.lookup_cons_self]
  · next hx => rw [lookup_cons_of_ne hx, lookup_others hx]

theorem others_slotsWith : others (slotsWith slots name a) name = others slots name := by
  rw [others, slotsWith, List.filter_cons_of_neg (by simp), List.filter_filter]
  simp only [Bool.and_self, others]

theorem mem_of_lookup {x : String} (h : slots.lookup x = some a) : a ∈ slots.map (·.2) := by
  obtain ⟨before, after, rfl, -⟩ := List.lookup_eq_some_iff.mp h
  simp

/-- What is in the slots is what is in one of them, and in all others. -/
theorem perm_others (hnodup : (slots.map (·.1)).Nodup) (name : String) :
    (slots.map (·.2)).Perm ((slots.lookup name).toList ++ (others slots name).map (·.2)) := by
  induction slots with
  | nil => exact .refl _
  | cons p slots ih =>
      obtain ⟨k, a⟩ := p
      obtain ⟨hk, hnodup⟩ := List.nodup_cons.mp hnodup
      by_cases hkn : k = name
      · subst hkn
        have hrest : others slots k = slots := List.filter_eq_self.mpr fun q hq => by
          simpa using fun heq : q.1 = k => hk (List.mem_map.mpr ⟨q, hq, heq⟩)
        rw [others, List.filter_cons_of_neg (by simp), ← others, hrest, List.lookup_cons_self]
        exact .refl _
      · rw [others, List.filter_cons_of_pos (by simpa using hkn), ← others,
          lookup_cons_of_ne (Ne.symm hkn)]
        exact ((ih hnodup).cons a).trans List.perm_middle.symm

theorem nodup_slotsWith (hnodup : (slots.map (·.1)).Nodup) :
    ((slotsWith slots name a).map (·.1)).Nodup := by
  refine List.nodup_cons.mpr ⟨?_, hnodup.sublist (List.filter_sublist.map _)⟩
  simp

/-! ### Steps -/

/-- The registers hold these trees. -/
structure Holds (r : Registers) (v : String → Option SharedNode) : Prop where
  nodup : (r.slots.map (·.1)).Nodup
  sound : r.store.Sound (r.slots.map (·.2))
  lookup_eq : ∀ x, r.slots.lookup x = (v x).map (·.id)
  stands : ∀ x t, v x = some t → r.store.Stands t

namespace Holds

variable {r : Registers} {plan : NodePlan} {source : String} {path : List Nat}

theorem initial : Holds .initial fun _ => none where
  nodup := .nil
  sound := ⟨fun _ => rfl, fun _ hpos => absurd hpos (Nat.lt_irrefl 0)⟩
  lookup_eq _ := rfl
  stands := nofun

section

variable (h : r.Holds v)

include h

theorem shows : Shows r.slots r.store (r.slots.map (·.2)) v :=
  ⟨h.lookup_eq, h.stands, fun x t hx => mem_of_lookup (by rw [h.lookup_eq, hx]; rfl)⟩

/-- The paths lead into the trees that are held. -/
theorem at?_eq (x : String) (path : List Nat) : r.at? x path = (v x).bind (·.at? path) := by
  rw [at?, h.shows.numberAt?_eq]
  cases ht : (v x).bind (·.at? path) with
  | none => rfl
  | some t => exact (h.shows.stands_at? ht).tree?_eq

/-- A tree that has come into a register is held there; the other registers hold what they did. -/
theorem slotsWith {s : NodeStore} (hs : s.Sound (t.id :: (others r.slots name).map (·.2)))
    (ht : s.Stands t) (hkeeps : r.store.Keeps s ((others r.slots name).map (·.2))) :
    Holds ⟨Registers.slotsWith r.slots name t.id, s⟩ (Function.update v name (some t)) where
  nodup := nodup_slotsWith h.nodup
  sound := hs
  lookup_eq x := by
    rw [lookup_slotsWith, Function.update_apply, h.lookup_eq]
    split <;> rfl
  stands x u hx := by
    rw [Function.update_apply] at hx
    split at hx
    · cases hx
      exact ht
    · next hxn =>
      refine hkeeps u (mem_of_lookup (x := x) ?_) (h.stands x u hx)
      rw [lookup_others hxn, h.lookup_eq, hx]
      rfl

theorem put {e : Nat × NodeStore} (ht : r.store.Brings (r.slots.map (·.2)) e t) :
    (r.put name e.1 e.2).Holds (Function.update v name (some t)) := by
  have hperm := perm_others h.nodup name
  have hsound : e.2.Sound
      ((r.slots.lookup name).toList ++ t.id :: (others r.slots name).map (·.2)) :=
    ht.sound.of_perm ((hperm.cons _).trans List.perm_middle.symm)
  obtain ⟨hreleased, hkeeps, -⟩ := hsound.release
  rw [Registers.put, ht.id_eq]
  refine h.slotsWith hreleased (hkeeps t (List.mem_cons_self ..) ht.stands) fun u hid hu => ?_
  refine hkeeps u (List.mem_cons_of_mem _ hid) (ht.keeps u ?_ hu)
  exact hperm.mem_iff.mpr (List.mem_append_right _ hid)

theorem set (name : String) (plan : NodePlan) :
    ∃ t, Planned v plan t ∧ (r.set name plan).Holds (Function.update v name (some t)) := by
  obtain ⟨t, hbrings, hplan⟩ := brings_carryOut plan h.sound h.shows
  exact ⟨t, hplan, h.put hbrings⟩

theorem copy (name : String) (ht : (v source).bind (·.at? path) = some t) :
    (r.copy name source path).Holds (Function.update v name (some t)) := by
  rw [Registers.copy, h.shows.numberAt?_eq, ht]
  exact h.put (h.shows.brings_hold h.sound ht)

theorem copy_none (name : String) (ht : (v source).bind (·.at? path) = none) :
    r.copy name source path = r := by
  rw [Registers.copy, h.shows.numberAt?_eq, ht]
  rfl

/-- Attaching a node gives the register a node with more children that is in no other tree. -/
theorem push (plan : NodePlan) (ht : v name = some t) :
    ∃ c a, Planned v plan c ∧
      (r.push name plan).store.Sole a
        ((others (r.push name plan).slots name).map (·.2)) ∧
      (r.push name plan).Holds
        (Function.update v name (some ⟨a, t.kind, t.token, t.children ++ c.spliced⟩)) := by
  obtain ⟨c, hbrings, hplan⟩ := brings_carryOut plan h.sound h.shows
  have hlookup : r.slots.lookup name = some t.id := by rw [h.lookup_eq, ht]; rfl
  have hperm := perm_others h.nodup name
  rw [hlookup] at hperm
  have hkeep : ∀ x ∈ (others r.slots name).map (·.2), x ∈ r.slots.map (·.2) := fun x hx =>
    hperm.mem_iff.mpr (List.mem_cons_of_mem _ hx)
  have hsound := hbrings.sound.of_perm ((hperm.cons _).trans (.swap ..))
  have hstands := hbrings.keeps t (hperm.mem_iff.mpr (List.mem_cons_self ..)) (h.stands name t ht)
  -- if the plan has taken a node of the register itself, a copy is changed
  obtain ⟨howned, hkeeps⟩ := hsound.push hstands hbrings.stands
  rw [Registers.push, hlookup]
  simp only [hbrings.id_eq]
  refine ⟨c, _, hplan, ?_, h.slotsWith howned.sound howned.stands ?_⟩
  · rw [others_slotsWith]
    exact howned.sole
  · exact (hbrings.keeps.mono hkeep).trans hkeeps

/-- Only its register leads to a node that is held there once and nowhere else. -/
theorem only_path {x : String} {path : List Nat} {u : SharedNode} (ht : v name = some t)
    (hsole : r.store.Sole t.id ((others r.slots name).map (·.2)))
    (hu : (v x).bind (·.at? path) = some u) (hid : u.id = t.id) : x = name ∧ path = [] := by
  obtain ⟨n, hn, hpath⟩ := Option.bind_eq_some_iff.mp hu
  by_cases hx : x = name
  · subst hx
    cases ht.symm.trans hn
    refine ⟨rfl, ?_⟩
    cases path with
    | nil => rfl
    | cons i path =>
        obtain ⟨c, hc, hu⟩ := Option.bind_eq_some_iff.mp hpath
        have hhas := SharedNode.has_of_at? hu
        rw [hid] at hhas
        exact absurd hhas ((h.stands x t ht).not_below_self (List.mem_of_getElem? hc))
  · have hmem : n.id ∈ (others r.slots name).map (·.2) := by
      refine mem_of_lookup (x := x) ?_
      rw [lookup_others hx, h.lookup_eq, hn]
      rfl
    have hne : n.id ≠ t.id := fun heq => hsole.not_mem (heq ▸ hmem)
    have hhas := SharedNode.has_of_at? hpath
    rw [hid] at hhas
    exact absurd hhas ((h.stands x n hn).not_has hne hsole.references_eq)

theorem push_none (plan : NodePlan) (ht : v name = none) : r.push name plan = r := by
  rw [Registers.push, h.lookup_eq, ht]
  rfl

/-- A step changes the trees as if nothing was shared, and only in the register that it is about. -/
theorem after (step : RegisterStep) :
    ∃ v', (r.after step).Holds v' ∧ unnumbered v' = step.effect (unnumbered v) ∧
      ∀ x, x ≠ step.register → v' x = v x := by
  cases step with
  | set name plan =>
      obtain ⟨t, hplan, hset⟩ := h.set name plan
      refine ⟨_, hset, ?_, fun x hx => Function.update_of_ne hx _ _⟩
      rw [unnumbered_update, Option.map_some, hplan.toNode_eq]
      rfl
  | copy name source path =>
      rw [RegisterStep.effect, unnumbered_at?]
      cases ht : (v source).bind (·.at? path) with
      | none =>
          refine ⟨v, ?_, rfl, fun _ _ => rfl⟩
          rw [Registers.after, h.copy_none name ht]
          exact h
      | some t =>
          refine ⟨_, h.copy name ht, ?_, fun x hx => Function.update_of_ne hx _ _⟩
          exact unnumbered_update ..
  | push name plan =>
      rw [RegisterStep.effect]
      cases ht : v name with
      | none =>
          refine ⟨v, ?_, ?_, fun _ _ => rfl⟩
          · rw [Registers.after, h.push_none plan ht]
            exact h
          · have hnone : unnumbered v name = none := by rw [unnumbered, ht]; rfl
            rw [hnone, Option.map_none, ← hnone, Function.update_eq_self]
      | some t =>
          obtain ⟨c, a, hplan, -, hpush⟩ := h.push plan ht
          refine ⟨_, hpush, ?_, fun x hx => Function.update_of_ne hx _ _⟩
          rw [unnumbered_update, unnumbered, ht]
          simp only [Option.map_some, SharedNode.toNode_append_spliced, hplan.toNode_eq]

end

end Holds

/-- After every run the registers hold the trees that they hold if nothing is shared. -/
theorem exists_holds_run (steps : List RegisterStep) :
    ∃ v, (run steps).Holds v ∧ unnumbered v = RegisterStep.effects steps := by
  induction steps using List.reverseRecOn with
  | nil => exact ⟨_, Holds.initial, rfl⟩
  | append_singleton steps step ih =>
      obtain ⟨v, hv, heffects⟩ := ih
      obtain ⟨v', hv', heffect, -⟩ := hv.after step
      refine ⟨v', ?_, ?_⟩
      · rw [run, List.foldl_append]
        exact hv'
      · rw [heffect, heffects, RegisterStep.effects, RegisterStep.effects, List.foldl_append]
        rfl

/-! ### Sharing -/

/-- What is done with registers that share nodes is what is done with registers that do not.
Attaching a node leaves all paths of other registers at the very nodes where they were, and at its
register it leaves the children before it the nodes they were.  Where two paths lead to the same
node, they lead to equal trees. -/
theorem sharing_unseen (steps : List RegisterStep) (name : String) (plan : NodePlan) :
    let r := run steps
    let r' := r.push name plan
    (∀ x path,
      (r.at? x path).map (·.toNode) = (RegisterStep.effects steps x).bind (·.at? path)) ∧
    (∀ x path, x ≠ name → r'.at? x path = r.at? x path) ∧
    (r.at? name [] = none → r' = r) ∧
    (∀ n, r.at? name [] = some n → ∃ a added,
      r'.at? name [] = some ⟨a, n.kind, n.token, n.children ++ added⟩ ∧
      added.map (·.toNode) = (plan.tree (RegisterStep.effects steps)).spliced ∧
      (∀ x path m, plan = .held x path → r.at? x path = some m → added = m.spliced) ∧
      ∀ x path m, r'.at? x path = some m → m.id = a → x = name ∧ path = []) ∧
    ∀ x path x' path' m m', r.at? x path = some m → r.at? x' path' = some m' → m.id = m'.id →
      m = m' := by
  intro r r'
  obtain ⟨v, hv, heffects⟩ := exists_holds_run steps
  obtain ⟨v', hv', -, hothers⟩ := hv.after (.push name plan)
  refine ⟨fun x path => ?_, fun x path hx => ?_, fun hnone => ?_, fun n hn => ?_, ?_⟩
  · rw [hv.at?_eq, ← heffects, unnumbered_at?]
  · rw [hv.at?_eq, ← hothers x hx]
    exact hv'.at?_eq x path
  · rw [hv.at?_eq, Option.bind_eq_none_iff] at hnone
    exact hv.push_none plan (Option.eq_none_iff_forall_ne_some.mpr fun t ht => nomatch hnone t ht)
  · have ht : v name = some n := by
      rw [hv.at?_eq] at hn
      obtain ⟨t, ht, hid⟩ := Option.bind_eq_some_iff.mp hn
      exact ht.trans hid
    obtain ⟨c, a, hplan, hsole, hpush⟩ := hv.push plan ht
    have hself := Function.update_self name (some ⟨a, n.kind, n.token, n.children ++ c.spliced⟩) v
    refine ⟨a, c.spliced, ?_, ?_, fun x path m hheld hm => ?_, fun x path m hm hid => ?_⟩
    · rw [hpush.at?_eq, hself]
      rfl
    · rw [← SharedNode.spliced_toNode, hplan.toNode_eq, heffects]
    · rw [hv.at?_eq] at hm
      rw [hplan.same x path m hheld hm]
    · exact hpush.only_path hself hsole (hpush.at?_eq x path ▸ hm) hid
  · intro x path x' path' m m' hm hm' hid
    rw [hv.at?_eq] at hm hm'
    exact (hv.shows.stands_at? hm).unique (hv.shows.stands_at? hm') hid

/-- A list that two registers share is attached to itself in one of them. -/
theorem list_attached_to_itself :
    let steps : List RegisterStep :=
      [.set "a" (.build (.rule "list") none [.leaf ⟨.identifier, "x", ⟨1, 1⟩, []⟩]),
        .copy "b" "a" []]
    let r' := (run steps).push "a" (.held "b" [])
    ∃ n a, (run steps).at? "a" [] = some n ∧ (run steps).at? "b" [] = some n ∧
      r'.at? "b" [] = some n ∧
      r'.at? "a" [] = some ⟨a, n.kind, n.token, n.children ++ n.spliced⟩ ∧ a ≠ n.id := by
  intro steps r'
  -- the copy is the node in the other register
  obtain ⟨v, hv, heffects⟩ := exists_holds_run (steps.take 1)
  have hset : unnumbered v "a" = some _ := congrFun heffects "a"
  obtain ⟨n, hn, -⟩ := Option.map_eq_some_iff.mp hset
  have hsource : (v "a").bind (·.at? []) = some n := by rw [hn]; rfl
  have hcopy : (run steps).Holds (Function.update v "b" (some n)) := hv.copy "b" hsource
  have ha : (run steps).at? "a" [] = some n := by
    rw [hcopy.at?_eq, Function.update_of_ne (by decide), hn]
    rfl
  have hb : (run steps).at? "b" [] = some n := by
    rw [hcopy.at?_eq, Function.update_self]
    rfl
  obtain ⟨-, hothers, -, hpush, -⟩ := sharing_unseen steps "a" (.held "b" [])
  obtain ⟨a, added, hafter, -, hadded, honly⟩ := hpush n ha
  rw [hadded "b" [] n rfl hb] at hafter
  have hothers := (hothers "b" [] (by decide)).trans hb
  refine ⟨n, a, ha, hb, hothers, hafter, fun hid => ?_⟩
  exact absurd (honly "b" [] n hothers hid.symm).1 (by decide)

end Registers

end Packrat
