import Packrat.Proofs.Memo.Used
import Packrat.Proofs.Node.Splicing
import Packrat.Proofs.Peg.Verdict

/-!
# Proofs — Peg — Tiling

A match loses no token.  The tokens that it consumed are cut into `Block`s, one after the other:
one for every terminal, token matcher and trivia matcher that had a part in the match (`Cut`).
The blocks that are leaves are the tokens of the node and the others are the trivia, each in order
(`Tiles`).  A leaf is a token as it was, where a terminal matched it, or several that were merged.

This takes that no trivia are captured inside of what becomes a token, or trivia, itself
(`TriviaApart`): those would be consumed twice.

**Tiling** (`Yields.tiled`), by induction on the derivation: what is thrown away at a lookahead, a
failed alternative or the last round of a repetition has no block.
-/

namespace Packrat

/-! ### Blocks -/

/-- What becomes of some tokens in a row. -/
inductive Block where
  /-- A leaf. -/
  | plain (t : Token)
  /-- The leaf that several tokens are merged into. -/
  | merged (kind : TokenKind) (t : Token) (ts : List Token)
  | trivia (tr : Trivia Token)

namespace Block

def tokens : Block → List Token
  | plain t => [t]
  | merged _ t ts => t :: ts
  | trivia tr => tr.tokens

/-- The token of the leaf. -/
def leaf? : Block → Option Token
  | plain t => some t
  | merged kind t ts => some (.merged kind t ts)
  | trivia _ => none

def trivia? : Block → Option (Trivia Token)
  | trivia tr => some tr
  | plain _ | merged _ _ _ => none

end Block

/-! ### What a matcher can come across -/

/-- Does the matcher accept the token, as one that consumes a single token? -/
def Matcher.AcceptsToken (m : Matcher) (t : Token) : Prop :=
  match m.shape with
  | .literal text => t.text = text
  | .pattern r => r.accepts t.text = true
  | .ofKind k => t.kind = k
  | _ => False

section

variable (rules : List (String × Matcher))

/-- One comes from the first matcher to the second by going to parts and to the bodies of rules. -/
inductive Reaches : Matcher → Matcher → Prop where
  | refl {m} : Reaches m m
  | part {m m₁ m'} : m₁ ∈ m.parts → Reaches m₁ m' → Reaches m m'
  | body {i name m m'} : rules.lookup name = some m → Reaches m m' → Reaches ⟨i, .rule name⟩ m'

/-- No trivia are captured. -/
def CapturesNothing (m : Matcher) : Prop :=
  ∀ i k m', ¬ Reaches rules m ⟨i, .trivia k m'⟩

/-- No trivia are captured inside of tokens and trivia. -/
structure TriviaApart (m : Matcher) : Prop where
  token : ∀ {i k m'}, Reaches rules m ⟨i, .token k m'⟩ → CapturesNothing rules m'
  trivia : ∀ {i k m'}, Reaches rules m ⟨i, .trivia k m'⟩ → CapturesNothing rules m'

variable (tokens : List Token)

/-- Where the matcher matches, from the first position to the second, what it consumes falls into
these blocks. -/
inductive Cut : Matcher → Nat → List Block → Nat → Prop where
  | terminal {m p t} : tokens[p]? = some t → m.AcceptsToken t → Cut m p [.plain t] (p + 1)
  | nothing {m p} : Yields rules tokens m p (.matched .empty [] p) → Cut m p [] p
  | sequence {i p m ms bs e bs' e'} : Cut m p bs e → Cut ⟨i, .sequence ms⟩ e bs' e' →
      Cut ⟨i, .sequence (m :: ms)⟩ p (bs ++ bs') e'
  | firstOf_head {i p m ms bs e} : Cut m p bs e → Cut ⟨i, .firstOf (m :: ms)⟩ p bs e
  | firstOf_tail {i p m ms q bs e} : Yields rules tokens m p (.failed q) →
      Cut ⟨i, .firstOf ms⟩ p bs e → Cut ⟨i, .firstOf (m :: ms)⟩ p bs e
  | optional {i p m bs e} : Cut m p bs e → Cut ⟨i, .optional m⟩ p bs e
  | zeroOrMore_last {i p m bs} : Cut m p bs p → Cut ⟨i, .zeroOrMore m⟩ p bs p
  | zeroOrMore_more {i p m bs e bs' e'} : Cut m p bs e → e ≠ p →
      Cut ⟨i, .zeroOrMore m⟩ e bs' e' → Cut ⟨i, .zeroOrMore m⟩ p (bs ++ bs') e'
  | oneOrMore_last {i p m bs} : Cut m p bs p → Cut ⟨i, .oneOrMore m⟩ p bs p
  | oneOrMore_more {i p m bs e bs' e'} : Cut m p bs e → e ≠ p →
      Cut ⟨i, .zeroOrMore m⟩ e bs' e' → Cut ⟨i, .oneOrMore m⟩ p (bs ++ bs') e'
  | token_nothing {i p k m n tr e} : Yields rules tokens m p (.matched n tr e) →
      tokens.extract p e = [] → Cut ⟨i, .token k m⟩ p [] e
  | token {i p k m n tr e t ts} : Yields rules tokens m p (.matched n tr e) →
      tokens.extract p e = t :: ts → Cut ⟨i, .token k m⟩ p [.merged k t ts] e
  | trivia {i p k m n tr e} : Yields rules tokens m p (.matched n tr e) →
      Cut ⟨i, .trivia k m⟩ p [.trivia ⟨k, tokens.extract p e⟩] e
  | adjacent {i p m bs e} : Touching tokens p → Cut m p bs e → Cut ⟨i, .adjacent m⟩ p bs e
  | rule {i p name body bs e} : rules.lookup name = some body → Cut body p bs e →
      Cut ⟨i, .rule name⟩ p bs e

end

/-- One after the other, the blocks are the tokens from `p` to `e`; their leaves are the tokens of
the node, and the others are the trivia. -/
structure Tiles (tokens : List Token) (bs : List Block) (p : Nat) (n : Node)
    (tr : List (Trivia Token)) (e : Nat) : Prop where
  consumed : bs.flatMap Block.tokens = tokens.extract p e
  leaves : bs.filterMap Block.leaf? = n.tokens
  trivia : bs.filterMap Block.trivia? = tr

/-- A match from `p` to `e`, with the given node and trivia, is cut into blocks that tile it. -/
def Tiled (rules : List (String × Matcher)) (tokens : List Token) (m : Matcher) (p : Nat) (n : Node)
    (tr : List (Trivia Token)) (e : Nat) : Prop :=
  ∃ bs, Cut rules tokens m p bs e ∧ Tiles tokens bs p n tr e

/-- The second matcher is what is left to try of the first, after its first part. -/
inductive Matcher.Rest : Matcher → Matcher → Prop where
  | sequence {i m ms} : Rest ⟨i, .sequence (m :: ms)⟩ ⟨i, .sequence ms⟩
  | firstOf {i m ms} : Rest ⟨i, .firstOf (m :: ms)⟩ ⟨i, .firstOf ms⟩
  | oneOrMore {i m} : Rest ⟨i, .oneOrMore m⟩ ⟨i, .zeroOrMore m⟩

variable {rules : List (String × Matcher)} {tokens : List Token} {m m₁ m₂ m' : Matcher}
  {p e e' : Nat} {n n' : Node} {tr tr' : List (Trivia Token)}

theorem Reaches.trans (h : Reaches rules m m₁) (h' : Reaches rules m₁ m') : Reaches rules m m' := by
  induction h with
  | refl => exact h'
  | part hp _ ih => exact .part hp (ih h')
  | body hb _ ih => exact .body hb (ih h')

theorem Reaches.of_part (h : m₁ ∈ m.parts) : Reaches rules m m₁ :=
  .part h .refl

/-- What is left reaches, apart from itself, what the whole does. -/
theorem Reaches.of_rest (hr : m₁.Rest m₂) (h : Reaches rules m₂ m') (hn : ¬ m₁.Rest m') :
    Reaches rules m₁ m' := by
  cases hr with
  | sequence | firstOf =>
      cases h with
      | refl => exact absurd (by constructor) hn
      | part hp h => exact .part (List.mem_cons_of_mem _ hp) h
  | oneOrMore =>
      cases h with
      | refl => exact absurd (by constructor) hn
      | part hp h => exact .part hp h

theorem CapturesNothing.of_reaches (h : CapturesNothing rules m) (hr : Reaches rules m m') :
    CapturesNothing rules m' :=
  fun i k m' h' => h i k m' (hr.trans h')

theorem CapturesNothing.part (h : CapturesNothing rules m) (hp : m' ∈ m.parts) :
    CapturesNothing rules m' :=
  h.of_reaches (.of_part hp)

theorem CapturesNothing.rest (h : CapturesNothing rules m₁) (hr : m₁.Rest m₂) :
    CapturesNothing rules m₂ :=
  fun i k m' h' => h i k m' (h'.of_rest hr nofun)

theorem CapturesNothing.of_parts (hr : m.isRule = false) (hm : ∀ k m', m.shape ≠ .trivia k m')
    (h : ∀ m' ∈ m.parts, CapturesNothing rules m') : CapturesNothing rules m := by
  intro i k m' h'
  cases h' with
  | refl => exact hm k m' rfl
  | part hp h' => exact h _ hp i k m' h'
  | body => cases hr

theorem TriviaApart.of_capturesNothing (h : CapturesNothing rules m) : TriviaApart rules m :=
  ⟨fun h' => (h.of_reaches h').part (List.mem_singleton_self _),
    fun h' => (h.of_reaches h').part (List.mem_singleton_self _)⟩

theorem TriviaApart.of_parts (hr : m.isRule = false) (ht : ∀ k m', m.shape ≠ .token k m')
    (hv : ∀ k m', m.shape ≠ .trivia k m') (h : ∀ m' ∈ m.parts, TriviaApart rules m') :
    TriviaApart rules m := by
  constructor
  · intro i k m' h'
    cases h' with
    | refl => exact absurd rfl (ht k m')
    | part hp h' => exact (h _ hp).token h'
    | body => cases hr
  · intro i k m' h'
    cases h' with
    | refl => exact absurd rfl (hv k m')
    | part hp h' => exact (h _ hp).trivia h'
    | body => cases hr

theorem TriviaApart.of_token {i : Nat} {k : TokenKind} (h : CapturesNothing rules m) :
    TriviaApart rules ⟨i, .token k m⟩ :=
  .of_capturesNothing (.of_parts rfl nofun (List.forall_mem_singleton.mpr h))

theorem TriviaApart.of_trivia {i : Nat} {k : TriviaKind} (h : CapturesNothing rules m) :
    TriviaApart rules ⟨i, .trivia k m⟩ := by
  constructor
  · intro i' k' m' h'
    cases h' with
    | part hp h' =>
        exact (TriviaApart.of_capturesNothing h).token (List.eq_of_mem_singleton hp ▸ h')
  · intro i' k' m' h'
    cases h' with
    | refl => exact h
    | part hp h' =>
        exact (TriviaApart.of_capturesNothing h).trivia (List.eq_of_mem_singleton hp ▸ h')

theorem TriviaApart.of_body {i : Nat} {name : String} (hb : rules.lookup name = some m)
    (h : TriviaApart rules m) : TriviaApart rules ⟨i, .rule name⟩ := by
  constructor
  · intro i k m' h'
    cases h' with
    | part hp => cases hp
    | body hb' h' =>
        cases hb.symm.trans hb'
        exact h.token h'
  · intro i k m' h'
    cases h' with
    | part hp => cases hp
    | body hb' h' =>
        cases hb.symm.trans hb'
        exact h.trivia h'

theorem TriviaApart.of_reaches (h : TriviaApart rules m) (hr : Reaches rules m m') :
    TriviaApart rules m' :=
  ⟨fun h' => h.token (hr.trans h'), fun h' => h.trivia (hr.trans h')⟩

theorem TriviaApart.part (h : TriviaApart rules m) (hp : m' ∈ m.parts) : TriviaApart rules m' :=
  h.of_reaches (.of_part hp)

theorem TriviaApart.rest (h : TriviaApart rules m₁) (hr : m₁.Rest m₂) : TriviaApart rules m₂ :=
  ⟨fun h' => h.token (h'.of_rest hr nofun), fun h' => h.trivia (h'.of_rest hr nofun)⟩

/-! ### Nodes and trivia of matches -/

/-- The nodes of matches are tidy: what hands on several nodes makes a group without a token. -/
theorem Yields.tidy {o : Answer} (h : Yields rules tokens m p o) :
    ∀ n tr e, o = .matched n tr e → n.Tidy := by
  induction h with
  | firstOf_head _ ih | optional _ ih | adjacent _ _ ih => exact ih
  | firstOf_tail _ _ _ ih => exact ih
  | sequence_cons | zeroOrMore_last | zeroOrMore_more | oneOrMore_last | oneOrMore_more =>
      rintro n tr e ⟨⟩
      exact Node.tidy_group _
  | sequence_nil | optional_none | zeroOrMore_none | next | nextNot | endOfInput | nothing
  | trivia =>
      rintro n tr e ⟨⟩
      exact Node.tidy_empty
  | literal | pattern | ofKind | rule =>
      rintro n tr e ⟨⟩
      exact Node.tidy_of_kind
  | token =>
      rintro n tr e ⟨⟩
      simp only [Node.ofMerged]
      split <;> exact Node.tidy_of_kind
  | _ => rintro n tr e ⟨⟩

theorem Yields.trivia_eq_nil {o : Answer} (h : Yields rules tokens m p o) :
    CapturesNothing rules m → ∀ n tr e, o = .matched n tr e → tr = [] := by
  induction h with
  | literal | pattern | ofKind | sequence_nil | optional_none | zeroOrMore_none | next | nextNot
  | endOfInput | nothing =>
      rintro _ n tr e ⟨⟩
      rfl
  | sequence_cons _ _ ih ih' =>
      rintro hn n tr e ⟨⟩
      rw [ih (hn.part List.mem_cons_self) _ _ _ rfl, ih' (hn.rest .sequence) _ _ _ rfl,
        List.append_nil]
  | zeroOrMore_more _ _ _ ih ih' =>
      rintro hn n tr e ⟨⟩
      rw [ih (hn.part (List.mem_singleton_self _)) _ _ _ rfl, ih' hn _ _ _ rfl, List.append_nil]
  | oneOrMore_more _ _ _ ih ih' =>
      rintro hn n tr e ⟨⟩
      rw [ih (hn.part (List.mem_singleton_self _)) _ _ _ rfl,
        ih' (hn.rest .oneOrMore) _ _ _ rfl, List.append_nil]
  | firstOf_head _ ih => exact fun hn => ih (hn.part List.mem_cons_self)
  | firstOf_tail _ _ _ ih => exact fun hn => ih (hn.rest .firstOf)
  | zeroOrMore_last _ ih | oneOrMore_last _ ih | token _ ih =>
      rintro hn n tr e ⟨⟩
      exact ih (hn.part (List.mem_singleton_self _)) _ _ _ rfl
  | optional _ ih | adjacent _ _ ih => exact fun hn => ih (hn.part (List.mem_singleton_self _))
  | trivia => exact fun hn => absurd .refl (hn _ _ _)
  | rule hb _ ih =>
      rintro hn n tr e ⟨⟩
      exact ih (hn.of_reaches (.body hb .refl)) _ _ _ rfl
  | _ => rintro _ n tr e ⟨⟩

/-! ### Tiles -/

theorem extract_self (ts : List Token) (p : Nat) : ts.extract p p = [] := by
  simp

theorem extract_append (ts : List Token) (h : p ≤ e) (h' : e ≤ e') :
    ts.extract p e ++ ts.extract e e' = ts.extract p e' := by
  obtain ⟨a, rfl⟩ := Nat.exists_eq_add_of_le h
  obtain ⟨b, rfl⟩ := Nat.exists_eq_add_of_le h'
  have ha : p + a - p = a := Nat.add_sub_cancel_left p a
  have hb : p + a + b - p = a + b := by omega
  have hb' : p + a + b - (p + a) = b := Nat.add_sub_cancel_left (p + a) b
  rw [List.extract_eq_take_drop, List.extract_eq_take_drop, List.extract_eq_take_drop, ha, hb, hb',
    List.take_add, List.drop_drop]

theorem extract_succ {ts : List Token} {t : Token} (h : ts[p]? = some t) :
    ts.extract p (p + 1) = [t] := by
  rw [List.extract_eq_take_drop, Nat.add_sub_cancel_left, List.take_one, List.head?_drop, h]
  rfl

namespace Tiles

variable {bs bs' : List Block}

theorem nothing : Tiles tokens [] p .empty [] p :=
  ⟨(extract_self tokens p).symm, rfl, rfl⟩

theorem plain {t : Token} (ht : tokens[p]? = some t) :
    Tiles tokens [.plain t] p (.leaf t) [] (p + 1) :=
  ⟨(extract_succ ht).symm, rfl, rfl⟩

theorem merged {t : Token} {ts : List Token} (h : tokens.extract p e = t :: ts) (kind : TokenKind) :
    Tiles tokens [.merged kind t ts] p (.ofMerged kind (tokens.extract p e)) [] e := by
  rw [h]
  exact ⟨by simpa [Block.tokens] using h.symm, rfl, rfl⟩

theorem merged_nothing (h : tokens.extract p e = []) (kind : TokenKind) :
    Tiles tokens [] p (.ofMerged kind (tokens.extract p e)) [] e := by
  rw [h]
  exact ⟨h.symm, rfl, rfl⟩

theorem ofTrivia (kind : TriviaKind) :
    Tiles tokens [.trivia ⟨kind, tokens.extract p e⟩] p .empty [⟨kind, tokens.extract p e⟩] e :=
  ⟨by simp [Block.tokens], rfl, rfl⟩

/-- Another node with the same tokens. -/
theorem of_tokens_eq (h : Tiles tokens bs p n tr e) (hn : n'.tokens = n.tokens) :
    Tiles tokens bs p n' tr e :=
  ⟨h.consumed, h.leaves.trans hn.symm, h.trivia⟩

theorem append (h : Tiles tokens bs p n tr e) (h' : Tiles tokens bs' e n' tr' e') (hn : n.Tidy)
    (hn' : n'.Tidy) (hp : p ≤ e) (he : e ≤ e') :
    Tiles tokens (bs ++ bs') p (.group [n, n']) (tr ++ tr') e' := by
  have hg : (Node.group [n, n']).tokens = n.tokens ++ n'.tokens := by
    rw [Node.tokens_group (List.forall_mem_cons.mpr ⟨hn, List.forall_mem_singleton.mpr hn'⟩)]
    simp [Node.tokensList]
  refine ⟨?_, ?_, ?_⟩
  · rw [List.flatMap_append, h.consumed, h'.consumed, extract_append tokens hp he]
  · rw [List.filterMap_append, h.leaves, h'.leaves, hg]
  · rw [List.filterMap_append, h.trivia, h'.trivia]

end Tiles

/-- A match without node and trivia consumed nothing that counts. -/
theorem Tiled.nothing (hy : Yields rules tokens m p (.matched .empty [] p)) (n : Node)
    (tr : List (Trivia Token)) (e : Nat) (ho : Answer.matched .empty [] p = .matched n tr e) :
    Tiled rules tokens m p n tr e := by
  cases ho
  exact ⟨[], .nothing hy, .nothing⟩

/-- **Tiling.** -/
theorem Yields.tiled {o : Answer} (h : Yields rules tokens m p o) :
    TriviaApart rules m → ∀ n tr e, o = .matched n tr e → Tiled rules tokens m p n tr e := by
  induction h with
  | literal ht hx | pattern ht hx | ofKind ht hx =>
      rintro _ n tr e ⟨⟩
      exact ⟨_, .terminal ht hx, .plain ht⟩
  | sequence_nil => exact fun _ => .nothing .sequence_nil
  -- whatever was tried here is thrown away
  | optional_none hy => exact fun _ => .nothing (.optional_none hy)
  | zeroOrMore_none hy => exact fun _ => .nothing (.zeroOrMore_none hy)
  | next hy => exact fun _ => .nothing (.next hy)
  | nextNot hy => exact fun _ => .nothing (.nextNot hy)
  | endOfInput hl => exact fun _ => .nothing (.endOfInput hl)
  | nothing => exact fun _ => .nothing .nothing
  | sequence_cons hy hy' ih ih' =>
      rintro ha n tr e ⟨⟩
      obtain ⟨bs, hcut, htiles⟩ := ih (ha.part List.mem_cons_self) _ _ _ rfl
      obtain ⟨bs', hcut', htiles'⟩ := ih' (ha.rest .sequence) _ _ _ rfl
      exact ⟨_, .sequence hcut hcut', htiles.append htiles' (hy.tidy _ _ _ rfl)
        (hy'.tidy _ _ _ rfl) hy.le_stop hy'.le_stop⟩
  | zeroOrMore_more hy hne hy' ih ih' =>
      rintro ha n tr e ⟨⟩
      obtain ⟨bs, hcut, htiles⟩ := ih (ha.part (List.mem_singleton_self _)) _ _ _ rfl
      obtain ⟨bs', hcut', htiles'⟩ := ih' ha _ _ _ rfl
      exact ⟨_, .zeroOrMore_more hcut hne hcut', htiles.append htiles' (hy.tidy _ _ _ rfl)
        (hy'.tidy _ _ _ rfl) hy.le_stop hy'.le_stop⟩
  | oneOrMore_more hy hne hy' ih ih' =>
      rintro ha n tr e ⟨⟩
      obtain ⟨bs, hcut, htiles⟩ := ih (ha.part (List.mem_singleton_self _)) _ _ _ rfl
      obtain ⟨bs', hcut', htiles'⟩ := ih' (ha.rest .oneOrMore) _ _ _ rfl
      exact ⟨_, .oneOrMore_more hcut hne hcut', htiles.append htiles' (hy.tidy _ _ _ rfl)
        (hy'.tidy _ _ _ rfl) hy.le_stop hy'.le_stop⟩
  | firstOf_head _ ih =>
      intro ha n tr e ho
      obtain ⟨bs, hcut, htiles⟩ := ih (ha.part List.mem_cons_self) n tr e ho
      exact ⟨bs, .firstOf_head hcut, htiles⟩
  | firstOf_tail hy _ _ ih =>
      intro ha n tr e ho
      obtain ⟨bs, hcut, htiles⟩ := ih (ha.rest .firstOf) n tr e ho
      exact ⟨bs, .firstOf_tail hy hcut, htiles⟩
  | optional _ ih =>
      intro ha n tr e ho
      obtain ⟨bs, hcut, htiles⟩ := ih (ha.part (List.mem_singleton_self _)) n tr e ho
      exact ⟨bs, .optional hcut, htiles⟩
  | adjacent ht _ ih =>
      rintro ha n tr e rfl
      obtain ⟨bs, hcut, htiles⟩ := ih (ha.part (List.mem_singleton_self _)) n tr e rfl
      exact ⟨bs, .adjacent ht hcut, htiles⟩
  | zeroOrMore_last hy ih =>
      rintro ha n tr e ⟨⟩
      obtain ⟨bs, hcut, htiles⟩ := ih (ha.part (List.mem_singleton_self _)) _ _ _ rfl
      exact ⟨bs, .zeroOrMore_last hcut, htiles.of_tokens_eq (hy.tidy _ _ _ rfl).tokens_group⟩
  | oneOrMore_last hy ih =>
      rintro ha n tr e ⟨⟩
      obtain ⟨bs, hcut, htiles⟩ := ih (ha.part (List.mem_singleton_self _)) _ _ _ rfl
      exact ⟨bs, .oneOrMore_last hcut, htiles.of_tokens_eq (hy.tidy _ _ _ rfl).tokens_group⟩
  | @token i p k m n tr e hy ih =>
      rintro ha n' tr' e' ⟨⟩
      -- the trivia would be consumed a second time, but there are none
      rw [hy.trivia_eq_nil (ha.token .refl) _ _ _ rfl]
      cases h : tokens.extract p e with
      | nil => exact ⟨_, .token_nothing hy h, h ▸ .merged_nothing h k⟩
      | cons t ts => exact ⟨_, .token hy h, h ▸ .merged h k⟩
  | trivia hy ih =>
      rintro ha n tr e ⟨⟩
      rw [hy.trivia_eq_nil (ha.trivia .refl) _ _ _ rfl]
      exact ⟨_, .trivia hy, .ofTrivia _⟩
  | rule hb hy ih =>
      rintro ha n tr e ⟨⟩
      obtain ⟨bs, hcut, htiles⟩ := ih (ha.of_reaches (.body hb .refl)) _ _ _ rfl
      exact ⟨bs, .rule hb hcut, htiles.of_tokens_eq (hy.tidy _ _ _ rfl).tokensList_spliced⟩
  | _ => rintro _ n tr e ⟨⟩

open Attempt in
/-- **Nothing is lost.**  In any state that comes up, and with any configuration, a match of a
matcher from the workshop of the grammar is cut into blocks that tile it; a parse is tiled from the
first token to the last. -/
theorem matches_tiled {w : Workshop} (hw : w.Reachable) {g : Grammar} (hg : g ∈ w.grammars)
    (tokens : List Token) :
    (∀ m, w.Known m → TriviaApart g.rules m → ∀ s, State.Used g.rules tokens w.Known s →
      ∀ cfg depth r, ((attempt cfg (enterRule cfg g.rules depth) m).outcome s).1 =
        .ok (.matched r) → Tiled g.rules tokens m s.cursor r.node r.trivia r.stop) ∧
    (TriviaApart g.rules g.root → ∀ cfg listening out,
      (g.parse cfg listening tokens).result = .ok out →
        Tiled g.rules tokens g.root 0 out.root out.trivia tokens.length) := by
  constructor
  · intro m hm ha s hs cfg depth r hr
    have ht : Told g.rules tokens w.Known m s (attempt cfg (enterRule cfg g.rules depth) m s) :=
      tells_attempt (fun _ => hw.family hg) depth (fun _ => hm) (hs.truthful (hw.family hg))
    simp only [Attempt.outcome] at hr
    generalize attempt cfg (enterRule cfg g.rules depth) m s = e at hr ht
    cases ht with
    | ok _ yields _ =>
        cases hr
        exact yields.tiled ha _ _ _ rfl
    | backtrack => cases hr
    | abort => cases hr
  · exact fun ha cfg listening out h => (hw.yields_of_parse hg h).tiled ha _ _ _ rfl

/-- Two tokens that are merged, a comment and a word: an attempt of the first part, and a parse. -/
theorem stars_comment_and_word_tiled :
    let stars : Matcher := ⟨2, .token ⟨"POWER"⟩ ⟨1, .oneOrMore ⟨0, .literal "*"⟩⟩⟩
    let comment : Matcher := ⟨4, .trivia .comment ⟨3, .ofKind .comment⟩⟩
    let w := (((((Workshop.opened 0).called (.oneOrMore (.char '*'))).called
      (.token (.token ⟨"POWER"⟩) (.matcher ⟨1, .oneOrMore ⟨0, .literal "*"⟩⟩))).called
      (.commentTrivia (.tokenKind .comment))).defined "root"
      (.many [.matcher stars, .matcher comment, .text "x"])).built "root"
    let body : Matcher := ⟨6, .sequence [stars, comment, ⟨5, .literal "x"⟩]⟩
    let g : Grammar := ⟨⟨8, .rule "root"⟩, [("root", body)], ["root"]⟩
    let star : Token := .ofText .punctuator "*" .origin
    let tokens : List Token :=
      [star, star, .ofText .comment "// two" .origin, .ofText .identifier "x" .origin]
    w.Reachable ∧ g ∈ w.grammars ∧ TriviaApart g.rules g.root ∧
      (∃ r, ((attempt ⟨false, 1⟩ (enterRule ⟨false, 1⟩ g.rules 1) stars).outcome
          (.start tokens false)).1 = .ok (.matched r) ∧
        Tiled g.rules tokens stars 0 r.node r.trivia r.stop) ∧
      ∃ out, (g.parse ⟨false, 1⟩ false tokens).result = .ok out ∧
        Tiled g.rules tokens g.root 0 out.root out.trivia 4 := by
  intro stars comment w body g star tokens
  have hw : w.Reachable := by
    refine .built _ (.defined _ _ (.called _ (.called _ (.called _ (.opened 0) nofun) ?_) nofun) ?_)
    · intro m hm
      rw [List.eq_of_mem_singleton hm]
      exact .made (List.mem_singleton_self _)
    · intro m hm
      rcases List.mem_cons.mp hm with rfl | hm
      · exact .made (List.mem_cons_of_mem _ List.mem_cons_self)
      · rw [List.eq_of_mem_singleton hm]
        exact .made List.mem_cons_self
  have hg : g ∈ w.grammars := List.mem_singleton_self g
  have hstars : TriviaApart g.rules stars :=
    .of_token (.of_parts rfl nofun (List.forall_mem_singleton.mpr (.of_parts rfl nofun nofun)))
  have hcomment : TriviaApart g.rules comment := .of_trivia (.of_parts rfl nofun nofun)
  have hword : TriviaApart g.rules ⟨5, .literal "x"⟩ :=
    .of_capturesNothing (.of_parts rfl nofun nofun)
  have ha : TriviaApart g.rules g.root := by
    refine .of_body rfl (.of_parts rfl nofun nofun ?_)
    exact List.forall_mem_cons.mpr
      ⟨hstars, List.forall_mem_cons.mpr ⟨hcomment, List.forall_mem_singleton.mpr hword⟩⟩
  have hknown : w.Known stars :=
    .made (List.mem_cons_of_mem _ (List.mem_cons_of_mem _ List.mem_cons_self))
  have htiled := matches_tiled hw hg tokens
  have hattempt := htiled.1 stars hknown hstars _ (.start false) ⟨false, 1⟩ 1 _ rfl
  have hok : (g.parse ⟨false, 1⟩ false tokens).result.toBool = true := by decide +kernel
  refine ⟨hw, hg, ha, ⟨_, rfl, hattempt⟩, ?_⟩
  cases hr : (g.parse ⟨false, 1⟩ false tokens).result with
  | ok out => exact ⟨out, rfl, htiled.2 ha _ _ _ hr⟩
  | error e =>
      rw [hr] at hok
      cases hok

end Packrat
