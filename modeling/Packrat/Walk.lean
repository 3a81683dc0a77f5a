import Packrat.Node

/-!
# Walk

Walking syntax trees with visitors.  A visitor names the kinds of node it wants to see.  A walker
drives its visitors over trees and says which calls it makes to whom, in the order of the calls: a
visitor's own behaviour is a fold over the calls it gets.  Visitors are entered in the order in
which they were added and left in the reverse order, so the calls nest like the nodes do.
-/

namespace Packrat

/-- What a walker calls a visitor for. -/
inductive Call where
  | init
  | subscriptions
  | visitFile (root : Node)
  | visitNode (node : Node)
  | leaveNode (node : Node)
  | leaveFile (root : Node)
  | destroy

/-- Somebody, known as `name`, who wants to see nodes of the given kinds. -/
structure Visitor (ν : Type) where
  name : ν
  subscriptions : List NodeKind

/-- Groups have no kind, so nobody is subscribed to them. -/
def Visitor.isSubscribed {ν : Type} (v : Visitor ν) (n : Node) : Bool :=
  match n.kind with
  | some k => v.subscriptions.contains k
  | none => false

/-- The visitors that have been added, first one first. -/
structure Walker (ν : Type) where
  visitors : List (Visitor ν)

namespace Walker

variable {ν : Type}

/-- A walker without visitors. -/
def idle : Walker ν := ⟨[]⟩

/-- Adds a visitor after the others. -/
def add (w : Walker ν) (v : Visitor ν) : Walker ν :=
  ⟨w.visitors ++ [v]⟩

/-- What a visitor is called for when it is added: its subscriptions are read once. -/
def addCalls (v : Visitor ν) : List (ν × Call) :=
  [(v.name, .init), (v.name, .subscriptions)]

mutual

/-- The calls for a node and for all nodes below it. -/
def nodeCalls (vs : List (Visitor ν)) : Node → List (ν × Call)
  | ⟨k, t, cs⟩ =>
    let node : Node := ⟨k, t, cs⟩
    let subscribed := vs.filter (·.isSubscribed node)
    subscribed.map (fun v => (v.name, .visitNode node)) ++ nodesCalls vs cs ++
      subscribed.reverse.map (fun v => (v.name, .leaveNode node))

def nodesCalls (vs : List (Visitor ν)) : List Node → List (ν × Call)
  | [] => []
  | n :: r => nodeCalls vs n ++ nodesCalls vs r

end

/-- The calls for one tree. -/
def walk (w : Walker ν) (root : Node) : List (ν × Call) :=
  w.visitors.map (fun v => (v.name, .visitFile root)) ++ nodeCalls w.visitors root ++
    w.visitors.reverse.map (fun v => (v.name, .leaveFile root))

/-- The calls that retire the visitors. -/
def finish (w : Walker ν) : List (ν × Call) :=
  w.visitors.map fun v => (v.name, .destroy)

/-- The calls for several trees, after which the visitors are retired. -/
def scan (w : Walker ν) (roots : List Node) : List (ν × Call) :=
  roots.flatMap w.walk ++ w.finish

end Walker

end Packrat
