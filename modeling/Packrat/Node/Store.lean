import Packrat.Node

/-!
# Node — Store

Nodes that are shared.  A node is known by its number, and a store keeps what stands under each
number: the parts of the node, where children are numbers again, and how many hold it.  The parents
of a node hold it, once for each time it is their child, and so does whoever else has its number.  A
node that nobody holds any more is given up.

To change a node one has to be its only holder.  If others hold it, too, a copy is changed in its
place, which has the same children (`NodeStore.unshare`).

What stands under a number is read as a tree in which every node still has its number
(`SharedNode`), so that nodes that are the same can be told from nodes that are merely equal.
-/

namespace Packrat

/-- A tree whose nodes are numbered: equal numbers mean the same node. -/
structure SharedNode where
  id : Nat
  kind : Option NodeKind
  token : Option Token
  children : List SharedNode

namespace SharedNode

mutual

/-- The tree without the numbers. -/
def toNode : SharedNode → Node
  | ⟨_, k, t, cs⟩ => ⟨k, t, toNodes cs⟩

def toNodes : List SharedNode → List Node
  | [] => []
  | n :: r => n.toNode :: toNodes r

end

/-- What attaching the node attaches: the children of a group, else the node. -/
def spliced (n : SharedNode) : List SharedNode :=
  if n.kind.isNone then n.children else [n]

/-- The node that is reached by going to the child with each of the given indices in turn. -/
def at? (n : SharedNode) : List Nat → Option SharedNode
  | [] => some n
  | i :: path => (n.children[i]?).bind (·.at? path)

end SharedNode

/-- The parts of a node; the children are known by their numbers. -/
structure NodeParts where
  kind : Option NodeKind
  token : Option Token
  children : List Nat

/-- A node in a store, and how many hold it. -/
structure Cell where
  parts : NodeParts
  holders : Nat

/-- What stands under each number, from zero on.  Numbers are not used again. -/
structure NodeStore where
  cells : List Cell

namespace NodeStore

/-- Nothing stands in the store. -/
def blank : NodeStore := ⟨[]⟩

variable (s : NodeStore)

def parts? (a : Nat) : Option NodeParts :=
  s.cells[a]?.map (·.parts)

/-- How many hold the node. -/
def holders (a : Nat) : Nat :=
  (s.cells[a]?.map (·.holders)).getD 0

/-- Adds up something over all that stands in the store. -/
def total (f : Cell → Nat) : Nat :=
  s.cells.foldr (fun c n => f c + n) 0

def modify (a : Nat) (f : Cell → Cell) : NodeStore :=
  ⟨s.cells.modify a f⟩

theorem total_modify {s : NodeStore} {a : Nat} {c : Cell} (h : s.cells[a]? = some c)
    (f : Cell → Cell) (g : Cell → Nat) : (s.modify a f).total g + g c = s.total g + g (f c) := by
  obtain ⟨cells⟩ := s
  simp only [total, modify] at h ⊢
  induction cells generalizing a with
  | nil => cases h
  | cons d cells ih =>
      cases a with
      | zero =>
          cases h
          simp [Nat.add_comm, Nat.add_left_comm]
      | succ a =>
          have := ih (a := a) (by simpa using h)
          simp only [List.modify_succ_cons, List.foldr_cons]
          omega

/-! ### Making and holding nodes -/

/-- A new node, which the caller holds. -/
def make (parts : NodeParts) : Nat × NodeStore :=
  (s.cells.length, ⟨s.cells ++ [⟨parts, 1⟩]⟩)

/-- One more holds the node. -/
def hold (a : Nat) : NodeStore :=
  s.modify a fun c => { c with holders := c.holders + 1 }

/-- One more holds each of the nodes. -/
def holdAll (as : List Nat) : NodeStore :=
  as.foldl hold s

/-- One less holds the node. -/
def letGo (a : Nat) : NodeStore :=
  s.modify a fun c => { c with holders := c.holders - 1 }

/-- Nobody holds the node any more, and it does not hold its children any more. -/
def giveUp (a : Nat) : NodeStore :=
  s.modify a fun c => ⟨{ c.parts with children := [] }, 0⟩

/-- Each of the nodes has one holder less.  Those that nobody holds any more are given up, and then
their children have one holder less, too. -/
def release : List Nat → NodeStore → NodeStore
  | [], s => s
  | a :: as, s =>
    match _h : s.cells[a]? with
    | none => release as s
    | some c =>
      if _h₀ : c.holders = 0 then release as s
      else if c.holders = 1 then release (c.parts.children ++ as) (s.giveUp a)
      else release as (s.letGo a)
termination_by as s => (s.total (·.holders), as.length)
decreasing_by
  · exact Prod.Lex.right _ (Nat.lt_succ_self _)
  · exact Prod.Lex.right _ (Nat.lt_succ_self _)
  · have := total_modify _h (fun c => ⟨{ c.parts with children := [] }, 0⟩) (·.holders)
    exact Prod.Lex.left _ _ (by simp only [giveUp] at *; omega)
  · have := total_modify _h (fun c => { c with holders := c.holders - 1 }) (·.holders)
    exact Prod.Lex.left _ _ (by simp only [letGo] at *; omega)

/-! ### Changing nodes -/

/-- The node, if the caller is its only holder, else a copy of it that the caller holds in its
place. -/
def unshare (a : Nat) : Nat × NodeStore :=
  match s.cells[a]? with
  | none => (a, s)
  | some c =>
    if c.holders = 1 then (a, s)
    else
      let (copy, s) := (s.holdAll c.parts.children).make c.parts
      (copy, s.release [a])

/-- Attaches nodes after the children of a node, which from now on holds them. -/
def attach (a : Nat) (new : List Nat) : NodeStore :=
  s.modify a fun c => { c with parts := { c.parts with children := c.parts.children ++ new } }

/-- Attaches a node to another one.  The caller holds both, and afterwards what has become of the
second one.  Of a group, the children are attached. -/
def push (a child : Nat) : Nat × NodeStore :=
  let (a, s) := s.unshare a
  match s.parts? child with
  | none => (a, s)
  | some p =>
    if p.kind.isNone then (a, ((s.holdAll p.children).attach a p.children).release [child])
    else (a, s.attach a [child])

/-- Attaches nodes one after the other. -/
def pushAll : List Nat → Nat × NodeStore → Nat × NodeStore
  | [], e => e
  | n :: ns, (a, s) => pushAll ns (s.push a n)

/-! ### Reading nodes -/

/-- The node that is reached by going to the child with each of the given indices in turn. -/
def follow (a : Nat) : List Nat → Option Nat
  | [] => some a
  | i :: path => (s.parts? a).bind fun p => (p.children[i]?).bind (follow · path)

/-- The tree under a number; `fuel` bounds how deep it is. -/
def readTree : (fuel : Nat) → Nat → Option SharedNode
  | 0, _ => none
  | fuel + 1, a => do
    let p ← s.parts? a
    let children ← p.children.mapM (readTree fuel)
    return ⟨a, p.kind, p.token, children⟩

/-- The tree under a number.  It is not deeper than there are numbers. -/
def tree? (a : Nat) : Option SharedNode :=
  s.readTree s.cells.length a

end NodeStore

end Packrat
