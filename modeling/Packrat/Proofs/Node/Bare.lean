import Packrat.Parse

/-!
# Proofs — Node — Bare

Tokens, trivia and trees without their layout: what is left is *bare* when it is not known any more
where tokens stood and which trivia stood before them.  Making nodes of bare parts makes bare nodes
(`Node.bare_group`, `Node.bare_build`, `bare_tokenNode`).
-/

namespace Packrat

/-- The token without its place and without the trivia before it. -/
def Token.bare (t : Token) : Token :=
  .ofText t.kind t.text .origin

/-- The trivia, of bare tokens. -/
def Trivia.bare (t : Trivia Token) : Trivia Token :=
  { t with tokens := t.tokens.map Token.bare }

namespace Node

mutual

/-- The tree, with bare tokens. -/
def bare : Node → Node
  | ⟨k, t, cs⟩ => ⟨k, t.map Token.bare, bareList cs⟩

def bareList : List Node → List Node
  | [] => []
  | n :: ns => n.bare :: bareList ns

end

end Node

/-- The outcome, with a bare node and bare trivia. -/
def Match.bare (m : Match) : Match :=
  { m with node := m.node.bare, trivia := m.trivia.map Trivia.bare }

def Outcome.bare : Outcome → Outcome
  | .matched m => .matched m.bare
  | .failed p => .failed p

/-- The error, without the place in the text and with a bare token: its kind, its position and what
was found there are left. -/
def ParseError.bare : ParseError → ParseError
  | .recognition position found _ => .recognition position (found.map Token.bare) .origin
  | .aborted c => .aborted c

/-! ### Bare tokens -/

namespace Token

variable {t t' : Token} {ts : List Token}

theorem bare_eq_iff : t.bare = t'.bare ↔ t.kind = t'.kind ∧ t.text = t'.text := by
  simp [bare, ofText]

theorem map_text_bare : (ts.map bare).map (·.text) = ts.map (·.text) := by
  simp [bare, ofText, Function.comp_def]

end Token

/-! ### Bare nodes -/

namespace Node

variable {n n' : Node} {ns : List Node}

theorem bareList_eq (ns : List Node) : bareList ns = ns.map bare := by
  induction ns with
  | nil => rfl
  | cons n ns ih => rw [bareList, ih, List.map_cons]

theorem isGroup_bare (n : Node) : n.bare.isGroup = n.isGroup := by
  obtain ⟨k, t, cs⟩ := n
  rfl

theorem children_bare (n : Node) : n.bare.children = n.children.map bare := by
  obtain ⟨k, t, cs⟩ := n
  exact bareList_eq cs

theorem spliced_bare (n : Node) : n.bare.spliced = n.spliced.map bare := by
  simp only [spliced, isGroup_bare, children_bare]
  split <;> rfl

theorem flatMap_spliced_bare (ns : List Node) :
    (ns.map bare).flatMap spliced = (ns.flatMap spliced).map bare := by
  simp only [List.flatMap_map, List.map_flatMap, spliced_bare]

theorem bare_group (ns : List Node) : (group ns).bare = group (ns.map bare) := by
  simp only [group, bare, bareList_eq, flatMap_spliced_bare, Option.map_none]

theorem bare_build (kind : NodeKind) (t : Option Token) (ns : List Node) :
    (build kind t ns).bare = build kind (t.map Token.bare) (ns.map bare) := by
  simp only [build, bare, bareList_eq, flatMap_spliced_bare]

theorem bare_leaf (t : Token) : (leaf t).bare = leaf t.bare := rfl

end Node

theorem bare_tokenNode (kind : TokenKind) (ts : List Token) :
    (Attempt.tokenNode kind ts).bare = Attempt.tokenNode kind (ts.map Token.bare) := by
  match ts with
  | [] => rfl
  | [t] => rfl
  | t :: t' :: ts =>
      simp only [Attempt.tokenNode, Node.bare_leaf, List.map_cons, Token.map_text_bare]
      rfl

/-! ### What layout leaves as it is -/

theorem Match.stop_eq_of_bare_eq {m m' : Match} (h : m.bare = m'.bare) : m.stop = m'.stop :=
  (congrArg Match.stop h : m.bare.stop = m'.bare.stop)

/-- Two outcomes that are the same once they are bare are both matches or both failures. -/
theorem Outcome.cases_of_bare_eq {o o' : Outcome} (h : o.bare = o'.bare) :
    (∃ r r', o = .matched r ∧ o' = .matched r' ∧ r.bare = r'.bare) ∨
      ∃ p, o = .failed p ∧ o' = .failed p := by
  cases o with
  | matched r =>
      cases o' with
      | matched r' => exact .inl ⟨r, r', rfl, rfl, matched.inj h⟩
      | failed => cases h
  | failed p =>
      cases o' with
      | matched => cases h
      | failed => exact .inr ⟨p, rfl, congrArg failed (failed.inj h).symm⟩

theorem ParseError.position?_bare (e : ParseError) : e.bare.position? = e.position? := by
  cases e <;> rfl

theorem ParseError.bare_unrecognised {ts ts' : List Token}
    (h : ts.map Token.bare = ts'.map Token.bare) (p : Nat) :
    (unrecognised ts p).bare = (unrecognised ts' p).bare := by
  have hp : ts[p]?.map Token.bare = ts'[p]?.map Token.bare := by
    simpa using congrArg (·[p]?) h
  simp only [unrecognised]
  generalize ts[p]? = o at hp ⊢
  generalize ts'[p]? = o' at hp ⊢
  cases o with
  | none =>
      cases o' with
      | none => rfl
      | some => cases hp
  | some t =>
      cases o' with
      | none => cases hp
      | some t' =>
          have ht : t.bare = t'.bare := Option.some.inj hp
          simp only [bare, Option.map_some, ht]

end Packrat
