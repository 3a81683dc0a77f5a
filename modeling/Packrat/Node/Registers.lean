import Packrat.Node.Store

/-!
# Node — Registers

Named places that hold nodes of one store.  Nodes are made by plans, which may use the nodes that
are held, and those below them, without copying them.
-/

namespace Packrat

/-- How to make a node. -/
inductive NodePlan where
  | build (kind : NodeKind) (token : Option Token) (children : List NodePlan)
  | leaf (token : Token)
  | group (children : List NodePlan)
  | empty
  /-- The node that is reached by a path from the node in a register. -/
  | held (register : String) (path : List Nat)
  deriving Inhabited

/-- Named places for nodes. -/
structure Registers where
  slots : List (String × Nat)
  store : NodeStore

namespace Registers

/-- No register holds anything. -/
def initial : Registers := ⟨[], .blank⟩

/-- The number of the node that is reached by a path from the node in a register. -/
def numberAt? (slots : List (String × Nat)) (s : NodeStore) (name : String) (path : List Nat) :
    Option Nat :=
  (slots.lookup name).bind (s.follow · path)

/-! ### Plans -/

section

variable (slots : List (String × Nat))

mutual

/-- Carries out a plan; the caller holds the node.  Where there is no node in a register, an empty
group is taken. -/
def carryOut : NodePlan → NodeStore → Nat × NodeStore
  | .build kind token plans, s =>
    let (ns, s) := carryOutAll plans s
    NodeStore.pushAll ns (s.make ⟨some kind, token, []⟩)
  | .leaf token, s => s.make ⟨some (.token token.kind), some token, []⟩
  | .group plans, s =>
    let (ns, s) := carryOutAll plans s
    NodeStore.pushAll ns (s.make ⟨none, none, []⟩)
  | .empty, s => s.make ⟨none, none, []⟩
  | .held name path, s =>
    match numberAt? slots s name path with
    | some a => (a, s.hold a)
    | none => s.make ⟨none, none, []⟩

def carryOutAll : List NodePlan → NodeStore → List Nat × NodeStore
  | [], s => ([], s)
  | p :: ps, s =>
    let (n, s) := carryOut p s
    let (ns, s) := carryOutAll ps s
    (n :: ns, s)

end

/-- The slots with another node under a name. -/
def slotsWith (name : String) (a : Nat) : List (String × Nat) :=
  (name, a) :: slots.filter (·.1 ≠ name)

end

/-! ### Operations -/

variable (r : Registers)

/-- Puts a node, which the caller holds in a later state of the store, into a register.  What the
register held is let go. -/
def put (name : String) (a : Nat) (s : NodeStore) : Registers :=
  ⟨slotsWith r.slots name a, s.release (r.slots.lookup name).toList⟩

/-- Puts a newly planned node into a register. -/
def set (name : String) (plan : NodePlan) : Registers :=
  let (a, s) := carryOut r.slots plan r.store
  r.put name a s

/-- Puts the node that is reached by a path from another register into a register. -/
def copy (name source : String) (path : List Nat) : Registers :=
  match numberAt? r.slots r.store source path with
  | some a => r.put name a (r.store.hold a)
  | none => r

/-- Attaches a planned node to the node in a register. -/
def push (name : String) (plan : NodePlan) : Registers :=
  match r.slots.lookup name with
  | some a =>
    let (child, s) := carryOut r.slots plan r.store
    let (a, s) := s.push a child
    ⟨slotsWith r.slots name a, s⟩
  | none => r

/-- The node that is reached by a path from the node in a register. -/
def at? (name : String) (path : List Nat) : Option SharedNode :=
  (numberAt? r.slots r.store name path).bind r.store.tree?

end Registers

/-- Something done with registers. -/
inductive RegisterStep where
  | set (name : String) (plan : NodePlan)
  | copy (name source : String) (path : List Nat)
  | push (name : String) (plan : NodePlan)

namespace Registers

def after (r : Registers) : RegisterStep → Registers
  | .set name plan => r.set name plan
  | .copy name source path => r.copy name source path
  | .push name plan => r.push name plan

/-- What is left after several steps. -/
def run (steps : List RegisterStep) : Registers :=
  steps.foldl after initial

end Registers

end Packrat
