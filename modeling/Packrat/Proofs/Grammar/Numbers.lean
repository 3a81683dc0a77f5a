import Packrat.Proofs.Grammar.Workshop

/-!
# Proofs — Grammar — Numbers

Numbers identify matchers.  A `Stock` is a collection of matchers, with everything inside them, in
which every matcher has a number of its own, smaller than the next one and larger than the numbers
of its parts, and every choice has alternatives.  Building from a stock adds to it (`Adds`), since
a new matcher gets the next number, its parts were there before, and builders reject empty choices.

**The stock of a workshop** (`Reachable.stock`): the matchers known in a reachable workshop are
one. So they are a `Family` for each of its grammars: the bodies of the rules are among them.
-/

namespace Packrat

/-- Matchers with their parts, told apart by their numbers, which are smaller than `n`.  There are
no choices without alternatives. -/
structure Stock (K : Matcher → Prop) (n : Nat) : Prop where
  part : ∀ {m m'}, K m → m' ∈ m.parts → K m'
  unique : ∀ {a b}, K a → K b → a.id = b.id → a = b
  id_lt : ∀ {m}, K m → m.id < n
  part_lt : ∀ {m m'}, K m → m' ∈ m.parts → m'.id < m.id
  choice : ∀ {m}, K m → m.shape ≠ .firstOf []

/-- Building from the number `n` turns the stock `K` into one with more matchers, of which `Q` holds
together with the result. -/
def Adds {α : Type} (K : Matcher → Prop) (n : Nat) (x : Build α)
    (Q : (Matcher → Prop) → α → Prop) : Prop :=
  ∃ K' : Matcher → Prop, (∀ m, K m → K' m) ∧ Stock K' (x.runFrom n).2 ∧
    ∀ a, (x.runFrom n).1 = .ok a → Q K' a

/-- The matchers of `F` include their parts and all bodies of rules, and no two share a number. -/
structure Family (rules : List (String × Matcher)) (F : Matcher → Prop) : Prop where
  part : ∀ {m m'}, F m → m' ∈ m.parts → F m'
  body : ∀ {name body}, rules.lookup name = some body → F body
  unique : ∀ {a b}, F a → F b → a.id = b.id → a = b

variable {K K' : Matcher → Prop} {n n' : Nat}

namespace Stock

theorem empty (n : Nat) : Stock (fun _ => False) n :=
  ⟨nofun, nofun, nofun, nofun, nofun⟩

/-- Fewer matchers, as long as their parts are still there. -/
theorem fewer (h : Stock K n) (hK : ∀ m, K' m → K m)
    (hparts : ∀ m m', K' m → m' ∈ m.parts → K' m') : Stock K' n where
  part := hparts _ _
  unique := fun ha hb => h.unique (hK _ ha) (hK _ hb)
  id_lt := fun hm => h.id_lt (hK _ hm)
  part_lt := fun hm => h.part_lt (hK _ hm)
  choice := fun hm => h.choice (hK _ hm)

/-- A matcher with the next number, made of matchers in the stock. -/
theorem make (h : Stock K n) {shape : Shape Matcher} (hparts : ∀ m ∈ shape.parts, K m)
    (hshape : shape ≠ .firstOf []) : Stock (fun m => K m ∨ m = ⟨n, shape⟩) (n + 1) where
  part := by
    rintro m m' (hm | rfl) hp
    · exact .inl (h.part hm hp)
    · exact .inl (hparts m' hp)
  unique := by
    rintro a b (ha | rfl) (hb | rfl) hid
    -- the new number is larger than all others
    · exact h.unique ha hb hid
    · exact absurd hid (Nat.ne_of_lt (h.id_lt ha))
    · exact absurd hid.symm (Nat.ne_of_lt (h.id_lt hb))
    · rfl
  id_lt := by
    rintro m (hm | rfl)
    · exact Nat.lt_succ_of_lt (h.id_lt hm)
    · exact Nat.lt_succ_self n
  part_lt := by
    rintro m m' (hm | rfl) hp
    · exact h.part_lt hm hp
    · exact h.id_lt (hparts m' hp)
  choice := by
    rintro m (hm | rfl)
    · exact h.choice hm
    · exact hshape

end Stock

/-! ### Building adds -/

section

variable {α β : Type} {x : Build α} {P Q : (Matcher → Prop) → α → Prop}

theorem adds_pure (h : Stock K n) {a : α} (ha : Q K a) : Adds K n (pure a) Q :=
  ⟨K, fun _ hm => hm, h, fun _ e => by cases e; exact ha⟩

theorem adds_throw (h : Stock K n) (e : GrammarError) : Adds K n (throw e : Build α) Q :=
  ⟨K, fun _ hm => hm, h, nofun⟩

theorem adds_bind {f : α → Build β} {R : (Matcher → Prop) → β → Prop} (hx : Adds K n x P)
    (hf : ∀ K' n' a, (∀ m, K m → K' m) → Stock K' n' → P K' a → Adds K' n' (f a) R) :
    Adds K n (x >>= f) R := by
  obtain ⟨K', hK, hs, hP⟩ := hx
  simp only [Adds]
  rw [runFrom_bind]
  generalize x.runFrom n = e at hs hP
  rcases e with ⟨e | a, n'⟩
  · exact ⟨K', hK, hs, nofun⟩
  · obtain ⟨K'', hK', hs', hR⟩ := hf K' n' a hK hs (hP a rfl)
    exact ⟨K'', fun m hm => hK' m (hK m hm), hs', hR⟩

end

theorem adds_make (h : Stock K n) {shape : Shape Matcher} (hparts : ∀ m ∈ shape.parts, K m)
    (hshape : shape ≠ .firstOf []) : Adds K n (Matcher.make shape) fun K' m => K' m :=
  ⟨_, fun _ => .inl, h.make hparts hshape, fun _ e => by cases e; exact .inr rfl⟩

/-- A matcher that has no parts. -/
theorem adds_leaf (h : Stock K n) {shape : Shape Matcher} (hparts : shape.parts = [])
    (hshape : shape ≠ .firstOf []) : Adds K n (Matcher.make shape) fun K' m => K' m :=
  adds_make h (fun _ hm => by rw [hparts] at hm; cases hm) hshape

theorem adds_literal (h : Stock K n) (text : String) :
    Adds K n (Matcher.literal text) fun K' m => K' m := by
  simp only [Matcher.literal]
  split
  · exact adds_throw h _
  · exact adds_leaf h rfl nofun

theorem adds_ofParts (h : Stock K n) {shape : List Matcher → Shape Matcher}
    (hshape : ∀ ms, (shape ms).parts = ms) {ms : List Matcher} (hne : ms ≠ [])
    (hms : ∀ m ∈ ms, K m) : Adds K n (Matcher.ofParts shape ms) fun K' m => K' m := by
  simp only [Matcher.ofParts]
  split
  · exact adds_pure h (hms _ (List.mem_singleton_self _))
  · refine adds_make h (fun m hm => hms m (by rwa [hshape] at hm)) fun he => hne ?_
    rw [← hshape ms, he]
    rfl

mutual

/-- What an input is resolved to is in the stock if what it uses is. -/
theorem adds_resolve (o : Operator) : ∀ (i : Input) {K : Matcher → Prop} {n : Nat}, Stock K n →
    (∀ m ∈ i.uses, K m) → Adds K n (i.resolve o) fun K' m => K' m
  | .matcher m, _, _, h, hi => adds_pure h (hi m (List.mem_singleton_self m))
  | .text s, _, _, h, _ => adds_literal h s
  | .char _, _, _, h, _ | .tokenKind _, _, _, h, _ | .node (.token _), _, _, h, _
  | .node (.rule _), _, _, h, _ => adds_leaf h rfl nofun
  | .many [], _, _, h, _ => adds_throw h _
  | .many (i :: is), _, _, h, hi => by
      simp only [Input.resolve]
      refine adds_bind (adds_resolve .sequence i h fun m hm => hi m ?_) fun K' n' m hK h hm => ?_
      · exact List.mem_append_left _ hm
      · refine adds_bind (adds_resolveAll .sequence is h fun m hm => hK m (hi m ?_))
          fun K'' n'' ms hK' h hms => ?_
        · exact List.mem_append_right _ hm
        · exact adds_ofParts h (fun _ => rfl) nofun (List.forall_mem_cons.mpr ⟨hK' m hm, hms⟩)
  | .invalid _, _, _, h, _ => adds_throw h _

theorem adds_resolveAll (o : Operator) : ∀ (is : List Input) {K : Matcher → Prop} {n : Nat},
    Stock K n → (∀ m ∈ Input.usesAll is, K m) →
    Adds K n (Input.resolveAll o is) fun K' ms => ∀ m ∈ ms, K' m
  | [], _, _, h, _ => adds_pure h fun _ hm => nomatch hm
  | i :: is, _, _, h, hi => by
      simp only [Input.resolveAll]
      refine adds_bind (adds_resolve o i h fun m hm => hi m ?_) fun K' n' m hK h hm => ?_
      · exact List.mem_append_left _ hm
      · refine adds_bind (adds_resolveAll o is h fun m hm => hK m (hi m ?_))
          fun K'' n'' ms hK' h hms => ?_
        · exact List.mem_append_right _ hm
        · exact adds_pure h (List.forall_mem_cons.mpr ⟨hK' m hm, hms⟩)

end

theorem adds_resolveSome (h : Stock K n) (o : Operator) {is : List Input}
    (hi : ∀ m ∈ Input.usesAll is, K m) :
    Adds K n (Input.resolveSome o is) fun K' ms => ms ≠ [] ∧ ∀ m ∈ ms, K' m := by
  refine adds_bind (adds_resolveAll o is h hi) fun K' n' ms _ h hms => ?_
  split
  · exact adds_throw h _
  · next hne => exact adds_pure h ⟨fun he => hne (he ▸ rfl), hms⟩

/-- Builders that make one matcher around their input. -/
theorem adds_around (h : Stock K n) (o : Operator) {i : Input} (hi : ∀ m ∈ i.uses, K m)
    {shape : Matcher → Shape Matcher} (hshape : ∀ m, (shape m).parts = [m]) :
    Adds K n (i.resolve o >>= fun m => Matcher.make (shape m)) fun K' m => K' m := by
  refine adds_bind (adds_resolve o i h hi) fun K' n' m _ h hm => ?_
  refine adds_make h (fun m' hm' => ?_) fun he => ?_
  · rw [hshape] at hm'
    exact List.eq_of_mem_singleton hm' ▸ hm
  · have hparts := hshape m
    rw [he] at hparts
    cases hparts

theorem adds_sequence (h : Stock K n) {is : List Input} (hi : ∀ m ∈ Input.usesAll is, K m) :
    Adds K n (Matcher.sequence is) fun K' m => K' m :=
  adds_bind (adds_resolveSome h .sequence hi) fun _ _ _ _ h hms =>
    adds_ofParts h (fun _ => rfl) hms.1 hms.2

/-- Every call of a builder adds. -/
theorem adds_call (h : Stock K n) (c : BuilderCall) (hc : ∀ m ∈ c.uses, K m) :
    Adds K n c.build fun K' m => K' m := by
  cases c with
  | literal text => exact adds_literal h text
  | regexp source =>
      show Adds K n (Matcher.regexp source) _
      simp only [Matcher.regexp]
      split
      · exact adds_leaf h rfl nofun
      · exact adds_throw h _
  | endOfInput | nothing | rule name => exact adds_leaf h rfl nofun
  | sequence is => exact adds_sequence h hc
  | firstOf is =>
      exact adds_bind (adds_resolveSome h .firstOf hc) fun _ _ _ _ h hms =>
        adds_ofParts h (fun _ => rfl) hms.1 hms.2
  | optional i => exact adds_around h .optional hc fun _ => rfl
  | oneOrMore i => exact adds_around h .oneOrMore hc fun _ => rfl
  | zeroOrMore i => exact adds_around h .zeroOrMore hc fun _ => rfl
  | next i => exact adds_around h .next hc fun _ => rfl
  | nextNot i => exact adds_around h .nextNot hc fun _ => rfl
  | token kind i =>
      cases kind with
      | token k => exact adds_around h .token hc fun _ => rfl
      | rule name => exact adds_throw h _
  | commentTrivia i => exact adds_around h .commentTrivia hc fun _ => rfl
  | skippedTrivia i => exact adds_around h .skippedTrivia hc fun _ => rfl
  | adjacent i => exact adds_around h .adjacent hc fun _ => rfl

/-- A definition adds a reference and a body.  What is in the draft then was there before, or is the
body. -/
theorem adds_define (h : Stock K n) (d : Draft) (name : String) {body : Input}
    (hb : ∀ m ∈ body.uses, K m) :
    ∃ K' : Matcher → Prop, (∀ m, K m → K' m) ∧
      Stock K' ((Draft.define name body).runFrom d n).2 ∧
      (∀ m, ((Draft.define name body).runFrom d n).1.1 = .ok m → K' m) ∧
      ∀ r ∈ ((Draft.define name body).runFrom d n).1.2.rules, r ∈ d.rules ∨ K' r.2 := by
  have hb : ∀ m ∈ Input.usesAll [body], K m := by simpa [Input.usesAll] using hb
  obtain ⟨K', hK, hs, hQ⟩ := adds_sequence h hb
  rw [runFrom_define]
  cases d.isDefined name with
  | true => exact ⟨K, fun _ => id, h, nofun, fun _ => .inl⟩
  | false =>
      generalize Build.runFrom (Matcher.sequence [body]) n = e at hs hQ
      rcases e with ⟨e | m, n'⟩
      · exact ⟨K', hK, hs, nofun, fun _ => .inl⟩
      · have hreference : Stock (fun m => K' m ∨ m = ⟨n', .rule name⟩) (n' + 1) :=
          hs.make (List.forall_mem_nil _) nofun
        refine ⟨_, fun m hm => .inl (hK m hm), hreference, fun _ he => ?_, fun r hr => ?_⟩
        · exact .inr (Except.ok.inj he).symm
        · refine (mem_putRule hr).imp_right fun he => .inl ?_
          rw [he]
          exact hQ m rfl

/-! ### The stock of a workshop -/

namespace Workshop

variable {w w' : Workshop}

/-- A stock with everything known before and everything that is new. -/
theorem stock_of_new (hs : Stock K w'.next) (hK : ∀ m, w.Known m → K m)
    (hmade : ∀ m ∈ w'.made, m ∈ w.made ∨ K m)
    (hdraft : ∀ r ∈ w'.draft.rules, r ∈ w.draft.rules ∨ K r.2)
    (hgrammars : ∀ g ∈ w'.grammars, g ∈ w.grammars ∨ K g.root ∧ ∀ r ∈ g.rules, K r.2) :
    Stock w'.Known w'.next := by
  refine hs.fewer (fun m hm => ?_) fun _ _ => .part
  induction hm with
  | made h => exact (hmade _ h).elim (fun h => hK _ (.made h)) id
  | drafted h => exact (hdraft _ h).elim (fun h => hK _ (.drafted h)) id
  | root hg => exact (hgrammars _ hg).elim (fun hg => hK _ (.root hg)) And.left
  | body hg h => exact (hgrammars _ hg).elim (fun hg => hK _ (.body hg h)) fun hg => hg.2 _ h
  | part _ hp ih => exact hs.part ih hp

/-- **Numbers identify.** -/
theorem Reachable.stock (h : w.Reachable) : Stock w.Known w.next := by
  induction h with
  | opened n =>
      refine (Stock.empty n).fewer (fun m hm => ?_) fun _ _ => .part
      induction hm with
      | made h | drafted h | root h | body h => cases h
      | part _ _ ih => exact ih
  | @called w c hw hc ih =>
      obtain ⟨K', hK, hs, hQ⟩ := adds_call ih c hc
      simp only [Workshop.called]
      generalize Build.runFrom c.build w.next = e at hs hQ
      rcases e with ⟨e | m, n⟩
      · exact stock_of_new hs hK (fun _ => .inl) (fun _ => .inl) fun _ => .inl
      · refine stock_of_new hs hK ?_ (fun _ => .inl) fun _ => .inl
        exact List.forall_mem_cons.mpr ⟨.inr (hQ m rfl), fun _ => .inl⟩
  | @defined w name body hw hb ih =>
      obtain ⟨K', hK, hs, hreference, hrules⟩ := adds_define ih w.draft name hb
      simp only [Workshop.defined]
      generalize (Draft.define name body).runFrom w.draft w.next = e at hs hreference hrules
      rcases e with ⟨⟨e | m, d⟩, n⟩
      · exact stock_of_new hs hK (fun _ => .inl) hrules fun _ => .inl
      · refine stock_of_new hs hK ?_ hrules fun _ => .inl
        exact List.forall_mem_cons.mpr ⟨.inr (hreference m rfl), fun _ => .inl⟩
  | @built w root hw ih =>
      -- where nothing is built, the draft is lost all the same
      have hnone : Stock (Workshop.Known { w with draft := .blank }) w.next :=
        stock_of_new ih (fun _ hm => hm) (fun _ => .inl) (List.forall_mem_nil _) fun _ => .inl
      simp only [Workshop.built]
      rw [runFrom_build]
      by_cases hr : w.draft.isDefined root = true
      · rw [if_pos hr]
        cases hd : w.draft.firstDangling? with
        | some r => exact hnone
        | none =>
            have hs : Stock (fun m => w.Known m ∨ m = ⟨w.next, .rule root⟩) (w.next + 1) :=
              ih.make (List.forall_mem_nil _) nofun
            refine stock_of_new hs (fun _ => .inl) (fun _ => .inl) (List.forall_mem_nil _) ?_
            exact List.forall_mem_cons.mpr
              ⟨.inr ⟨.inr rfl, fun r hr => .inl (.drafted hr)⟩, fun _ => .inl⟩
      · rw [if_neg hr]
        exact hnone

theorem Reachable.family (h : w.Reachable) {g : Grammar} (hg : g ∈ w.grammars) :
    Family g.rules w.Known where
  part := .part
  body := fun hb => .body hg (mem_of_lookup hb)
  unique := h.stock.unique

end Workshop

end Packrat
