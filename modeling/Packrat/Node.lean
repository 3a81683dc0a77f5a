import Packrat.Token

/-!
# Node

Syntax trees.  A node has a kind, unless it is a *group*: groups are how a matcher hands several
nodes to its parent, and attaching a group attaches its children instead (`Node.push`,
`Node.build`).  A node's tokens are its own token, if it has one, and then those of its children in
order.
-/

namespace Packrat

/-- A node is made by a grammar rule or from a token. -/
inductive NodeKind where
  | rule (name : String)
  | token (kind : TokenKind)
  deriving DecidableEq

namespace NodeKind

/-- The name of the rule or of the kind of token. -/
def name : NodeKind → String
  | rule n => n
  | token k => k.name

def tokenKind? : NodeKind → Option TokenKind
  | rule _ => none
  | token k => some k

end NodeKind

/-- A node of a syntax tree; it is a group if it has no kind. -/
structure Node where
  kind : Option NodeKind
  token : Option Token
  children : List Node

/-! ### Equality -/

mutual

/-- Are two trees the same in all parts? -/
def Node.beq : Node → Node → Bool
  | ⟨k, t, cs⟩, ⟨k', t', cs'⟩ => k = k' && t = t' && Node.beqList cs cs'

def Node.beqList : List Node → List Node → Bool
  | [], [] => true
  | n :: r, n' :: r' => n.beq n' && Node.beqList r r'
  | _, _ => false

end

mutual

theorem Node.beq_iff : ∀ a b : Node, a.beq b = true ↔ a = b
  | ⟨_, _, cs⟩, ⟨_, _, cs'⟩ => by simp [Node.beq, Node.beqList_iff cs cs', and_assoc]

theorem Node.beqList_iff : ∀ a b : List Node, Node.beqList a b = true ↔ a = b
  | [], [] => by simp [Node.beqList]
  | n :: r, n' :: r' => by simp [Node.beqList, Node.beq_iff n n', Node.beqList_iff r r']
  | [], _ :: _ => by simp [Node.beqList]
  | _ :: _, [] => by simp [Node.beqList]

end

instance : DecidableEq Node := fun a b =>
  decidable_of_iff _ (Node.beq_iff a b)

namespace Node

/-! ### Making nodes -/

def isGroup (n : Node) : Bool :=
  n.kind.isNone

/-- What attaching the node attaches: the children of a group, else the node. -/
def spliced (n : Node) : List Node :=
  if n.isGroup then n.children else [n]

/-- Attaches `child` after the children of `n`. -/
def push (n child : Node) : Node :=
  { n with children := n.children ++ child.spliced }

/-- A node to which the children are attached in order. -/
def build (kind : NodeKind) (token : Option Token) (children : List Node) : Node :=
  ⟨some kind, token, children.flatMap spliced⟩

/-- The leaf for a token, of the token's kind. -/
def leaf (t : Token) : Node :=
  ⟨some (.token t.kind), some t, []⟩

/-- The group of the given nodes. -/
def group (children : List Node) : Node :=
  ⟨none, none, children.flatMap spliced⟩

/-- The group of no nodes; attaching it attaches nothing. -/
def empty : Node :=
  ⟨none, none, []⟩

/-! ### Reading nodes -/

def hasKind (n : Node) (kind : NodeKind) : Bool :=
  n.kind = some kind

def isRule (n : Node) (name : String) : Bool :=
  n.hasKind (.rule name)

def tokenText? (n : Node) : Option String :=
  n.token.map (·.text)

/-- The children of the given kind. -/
def childrenOf (n : Node) (kind : NodeKind) : List Node :=
  n.children.filter (·.hasKind kind)

mutual

/-- The node and all nodes below it, each before those below it. -/
def preorder : Node → List Node
  | ⟨k, t, cs⟩ => ⟨k, t, cs⟩ :: preorderList cs

def preorderList : List Node → List Node
  | [] => []
  | n :: r => n.preorder ++ preorderList r

end

theorem preorderList_append (ns ns' : List Node) :
    preorderList (ns ++ ns') = preorderList ns ++ preorderList ns' := by
  induction ns with
  | nil => rfl
  | cons n ns ih => simp [preorderList, ih]

theorem preorder_eq (n : Node) : n.preorder = n :: preorderList n.children := by
  cases n; rfl

/-- The node that is reached by going to the child with each of the given indices in turn. -/
def at? (n : Node) : List Nat → Option Node
  | [] => some n
  | i :: path => (n.children[i]?).bind (·.at? path)

mutual

/-- The tokens of the tree: the node's own token, then those of its children in order. -/
def tokens : Node → List Token
  | ⟨_, t, cs⟩ => t.toList ++ tokensList cs

def tokensList : List Node → List Token
  | [] => []
  | n :: r => n.tokens ++ tokensList r

end

def firstToken? (n : Node) : Option Token :=
  n.tokens.head?

def lastToken? (n : Node) : Option Token :=
  n.tokens.getLast?

/-- Where the tree starts, if it has any tokens. -/
def start? (n : Node) : Option Caret :=
  n.firstToken?.map (·.caret)

/-- The span from the first token of the tree to its last. -/
def span? (n : Node) : Option Span := do
  let first ← n.firstToken?
  let last ← n.lastToken?
  return first.span + last.span

/-- The texts of all tokens of the tree, with single spaces between them. -/
def text (n : Node) : String :=
  " ".intercalate (n.tokens.map (·.text))

/-- The name of the node's kind; a group has a name that is no kind's. -/
def kindName (n : Node) : String :=
  match n.kind with
  | some k => k.name
  | none => "<synthetic>"

end Node

end Packrat
