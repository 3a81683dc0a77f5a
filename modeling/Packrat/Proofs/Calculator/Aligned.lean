import Packrat.Proofs.Calculator.Windows
import Packrat.Proofs.Memo.Ready
import Packrat.Proofs.Peg.Algebra

/-!
# Proofs — Calculator — Aligned

Programs beside their printed statements.  Printing leaves out comments and stray semicolons, so the
items of a program are *aligned* with those of another list of tokens if each is trivia, or makes a
window into the other list (`Aligned`, `exists_aligned`).

* `Aligned.exists_yields`: the printed statements are matched with the nodes that they had.
* **Side by side** (`Aligned.cause_eq_none`): if the items of the program are tried without an
  abort, so are the printed statements, even if outcomes are remembered.

The second goes item by item.  For trivia no rule is visited, and for a statement none after its
semicolon, so before the next item nothing is remembered that could make a difference.  Only the
last statement may have no semicolon; then the end of the tokens has been looked at in both runs.
-/

namespace Packrat.Calculator

open Attempt Lanes

variable {F : Matcher → Prop} {cfg : Config} {tokens tokens' rs us : List Token} {m m' : Matcher}
  {tr tr' : List (Trivia Token)} {n n' : Node} {s s' t t' : State} {l l' : List (Matcher × Nat)}
  {c' : Option Abort} {q q' p e e' i k d depth : Nat}

/-! ### Items -/

/-- An item is trivia, for which no rule is visited, or a statement, which does not start like
trivia. -/
theorem item_cases (hl : Lexed tokens) (hy : Yields rules tokens (itemRule 0) q (.matched n tr e)) :
    q < e ∧ (n = .empty ∧ (∀ {d m' p}, Visits rules tokens (itemRule 0) q d m' p →
        m'.isRule = false) ∨
      OpensAt tokens q ∧ Yields rules tokens ⟨5, .rule "statement"⟩ q (.matched n tr e)) := by
  have hcomment : ∀ m ∈ (⟨1, .trivia .comment ⟨0, .ofKind .comment⟩⟩ : Matcher).inside,
      m.isRule = false := by decide
  have hstray : ∀ m ∈
      (⟨4, .trivia .skippedText ⟨3, .oneOrMore ⟨2, .literal ";"⟩⟩⟩ : Matcher).inside,
      m.isRule = false := by decide
  cases hy with
  | firstOf_head hy =>
      refine ⟨?_, .inl ⟨?_, fun hv => ?_⟩⟩
      · cases hy with
        | trivia hy => cases hy; exact Nat.lt_succ_self q
      · cases hy; rfl
      · exact isRule_of_visits_firstOf [] hy (List.forall_mem_singleton.mpr hcomment) hv
  | firstOf_tail _ hy =>
      cases hy with
      | firstOf_head hy =>
          refine ⟨?_, .inl ⟨?_, fun hv => ?_⟩⟩
          · cases hy with
            | trivia hy =>
                cases hy with
                | oneOrMore_last hy => cases hy
                | oneOrMore_more hy _ hrest =>
                    cases hy
                    exact hrest.le_stop
          · cases hy; rfl
          · exact isRule_of_visits_firstOf [_] hy (List.forall_mem_cons.mpr
              ⟨hcomment, List.forall_mem_singleton.mpr hstray⟩) hv
      | firstOf_tail _ hy =>
          cases hy with
          | firstOf_head hy =>
              have hs : Derives ebnf tokens (.rule "statement") q e :=
                ⟨_, hy.spelled tabled_ebnf .rule⟩
              obtain ⟨hlt, hnone, hk⟩ := statement_head hl hs
              exact ⟨hlt, .inr ⟨fun t ht => ⟨hk t ht, fun hs => hnone t ht (by simp [hs])⟩, hy⟩⟩
          | firstOf_tail _ hy => cases hy

/-! ### Windows in programs -/

theorem getElem?_extract {l : List Token} (h : i < e - q) : (l.extract q e)[i]? = l[q + i]? := by
  rw [List.extract_eq_take_drop, List.getElem?_take, if_pos h, List.getElem?_drop]

/-- The same tokens up to where a statement ends make a window. -/
theorem window_of_extract (hq : q ≤ e) (he : e ≤ tokens.length) (hq' : q' ≤ e')
    (he' : e' ≤ tokens'.length)
    (hsame : (tokens.extract q e).map Token.bare = (tokens'.extract q' e').map Token.bare)
    (hchain : (tokens.extract q e).IsChain Joint) (hchain' : (tokens'.extract q' e').IsChain Joint)
    (hstops : StopsAt tokens (q + k))
    (hend : e = q + k + 1 ∨ e = q + k ∧ tokens.length ≤ e ∧ tokens'.length ≤ e') :
    Window tokens tokens' q q' k := by
  have hlength : e - q = e' - q' := by
    have := congrArg List.length hsame
    simp only [List.length_map, List.extract_eq_take_drop, List.length_take, List.length_drop]
      at this
    omega
  have hjoint : ∀ {l : List Token} {q e : Nat}, e ≤ l.length → (l.extract q e).IsChain Joint →
      (e = q + k + 1 ∨ e = q + k ∧ l.length ≤ e) → ∀ j < k, ∀ r r', l[q + j]? = some r →
        l[q + (j + 1)]? = some r' → Joint r r' := by
    intro l q e he hchain hend j hj r r' hr hr'
    have hlt : q + (j + 1) < l.length := (List.getElem?_eq_some_iff.mp hr').1
    have hlt : j + 1 < e - q := by omega
    rw [← getElem?_extract (Nat.lt_of_succ_lt hlt)] at hr
    rw [← getElem?_extract hlt] at hr'
    rw [List.isChain_iff_getElem] at hchain
    obtain ⟨h, rfl⟩ := List.getElem?_eq_some_iff.mp hr
    obtain ⟨h', rfl⟩ := List.getElem?_eq_some_iff.mp hr'
    exact hchain j h'
  refine ⟨fun j hj => ?_, hstops, hjoint he hchain (by omega), hjoint he' hchain' (by omega)⟩
  by_cases hlt : j < e - q
  · have := congrArg (·[j]?) hsame
    simp only [List.getElem?_map] at this
    rwa [getElem?_extract hlt, getElem?_extract (hlength ▸ hlt)] at this
  · -- both lists end here
    rw [List.getElem?_eq_none (by omega), List.getElem?_eq_none (by omega)]

theorem Reads.exists_extract {us' : List Token} (h : Reads (rs.drop q) (us ++ us'))
    (hq : q ≤ rs.length) : ∃ e, q ≤ e ∧ e ≤ rs.length ∧ Reads (rs.extract q e) us ∧
      Reads (rs.drop e) us' := by
  obtain ⟨rs₁, rs₂, hrs, h₁, h₂⟩ := h.exists_append
  have hlength := congrArg List.length hrs
  rw [List.length_drop, List.length_append] at hlength
  refine ⟨q + rs₁.length, by omega, by omega, ?_, ?_⟩
  · rwa [List.extract_eq_take_drop, Nat.add_sub_cancel_left, hrs, List.take_left]
  · rwa [← List.drop_drop, hrs, List.drop_left]

theorem Lexed.extract (hl : Lexed tokens) (q e : Nat) : Lexed (tokens.extract q e) := by
  rw [List.extract_eq_take_drop]
  exact fun t ht => hl t (List.mem_of_mem_drop (List.mem_of_mem_take ht))

/-- A statement ends at the end of a window, or right after its semicolon. -/
inductive Closes (tokens tokens' : List Token) (q q' k : Nat) : Nat → Nat → Prop where
  | semicolon : Closes tokens tokens' q q' k (q + k + 1) (q' + k + 1)
  | ended : tokens.length = q + k → tokens'.length = q' + k →
      Closes tokens tokens' q q' k (q + k) (q' + k)

theorem spliced_of_rule {name : String}
    (hy : Yields rules tokens ⟨i, .rule name⟩ q (.matched n tr e)) : n.spliced = [n] := by
  cases hy
  rfl

/-- The tokens of a statement make a window in any list where they are printed. -/
theorem exists_window (hl : Lexed tokens) (hl' : Lexed tokens')
    (hy : Yields rules tokens ⟨5, .rule "statement"⟩ q (.matched n tr e)) (hq : q < e)
    (hcalls : CallFree [n]) (hq' : q' ≤ e') (he' : e' ≤ tokens'.length)
    (hreads : Reads (tokens'.extract q' e') n.tokens)
    (hlast : tokens.length ≤ e → tokens'.length ≤ e') :
    ∃ k, Window tokens tokens' q q' k ∧ Closes tokens tokens' q q' k e e' := by
  have hs := spells_of_yields hy
  have he : e ≤ tokens.length := hy.stop_le (.inr (Nat.ne_of_gt hq))
  obtain ⟨hsource, hframed⟩ := reads_and_framed hl (by decide) hs hcalls
  have hsame := hsource.map_bare_eq hreads
  have hwindow := fun {k} => @window_of_extract tokens tokens' q q' e e' k (Nat.le_of_lt hq) he hq'
    he' hsame (hsource.isChain_joint hframed.follows (hl.extract q e))
    (hreads.isChain_joint hframed.follows (hl'.extract q' e'))
  have hlength := congrArg List.length hsame
  simp only [List.length_map, List.extract_eq_take_drop, List.length_take, List.length_drop]
    at hlength
  obtain ⟨r, hbody, hend⟩ := derives_statement ⟨_, hs⟩
  obtain ⟨k, rfl⟩ := Nat.exists_eq_add_of_le (hbody.elim Derives.le Derives.le)
  refine ⟨k, ?_⟩
  obtain ⟨⟨t, ht, htext⟩, rfl⟩ | ⟨hle, rfl⟩ := hend
  · obtain rfl : e' = q' + k + 1 := by omega
    refine ⟨hwindow (forall_token_at ht ⟨?_, htext⟩) (.inl rfl), .semicolon⟩
    exact kind_of_mem_punctuation (hl.at ht) (by simp [htext, punctuation])
  · obtain rfl : e' = q' + k := by omega
    have hlast := hlast hle
    refine ⟨hwindow (fun t ht => ?_) (.inr ⟨rfl, hle, hlast⟩),
      .ended (Nat.le_antisymm hle he) (Nat.le_antisymm hlast he')⟩
    rw [List.getElem?_eq_none hle] at ht
    cases ht

/-! ### Programs side by side -/

/-- The items of a program from the first position on, and those of the same program without trivia
from the second. -/
inductive Aligned (tokens tokens' : List Token) : Nat → Nat → Prop where
  | ended : Aligned tokens tokens' tokens.length tokens'.length
  | trivia {q q' e : Nat} {tr : List (Trivia Token)} :
      Yields rules tokens (itemRule 0) q (.matched .empty tr e) → q < e →
      (∀ {d m' p}, Visits rules tokens (itemRule 0) q d m' p → m'.isRule = false) →
      Aligned tokens tokens' e q' → Aligned tokens tokens' q q'
  | statement {q q' k e e' : Nat} {n : Node} {tr : List (Trivia Token)} :
      Yields rules tokens (itemRule 0) q (.matched n tr e) → q < e → OpensAt tokens q →
      Window tokens tokens' q q' k → Closes tokens tokens' q q' k e e' →
      Aligned tokens tokens' e e' → Aligned tokens tokens' q q'

theorem length_le_of_reads_nil (h : Reads (rs.drop q) []) : rs.length ≤ q := by
  generalize hrs : rs.drop q = l at h
  cases h
  exact List.drop_eq_nil_iff.mp hrs

/-- After the last token nothing is an item. -/
theorem lt_of_item (hl : Lexed tokens)
    (hy : Yields rules tokens (itemRule 0) q (.matched n tr e)) : q < tokens.length := by
  by_contra hlt
  obtain ⟨r, hf⟩ := fails_item (n := 0) hl (Nat.le_of_not_lt hlt)
  cases hy.unique hf

theorem eq_empty_of_items (hl : Lexed tokens)
    (hy : Yields rules tokens ⟨i, .zeroOrMore (itemRule 0)⟩ q (.matched n tr e))
    (hq : tokens.length ≤ q) : n = .empty := by
  cases hy with
  | zeroOrMore_none => rfl
  | zeroOrMore_last hy | zeroOrMore_more hy => exact absurd (lt_of_item hl hy) (Nat.not_lt_of_le hq)

/-- The items of a program are aligned with its printed statements. -/
theorem exists_aligned (hl : Lexed tokens) (hl' : Lexed tokens')
    (hy : Yields rules tokens ⟨i, .zeroOrMore (itemRule 0)⟩ q (.matched n tr tokens.length))
    (hcalls : CallFree n.spliced) (hq' : q' ≤ tokens'.length)
    (hreads : Reads (tokens'.drop q') (Node.tokensList n.spliced)) :
    Aligned tokens tokens' q q' := by
  generalize hm : (⟨i, .zeroOrMore (itemRule 0)⟩ : Matcher) = m at hy
  generalize ho : Answer.matched n tr tokens.length = o at hy
  induction hy generalizing n tr q' with
  | zeroOrMore_none =>
      cases ho
      obtain rfl : q' = tokens'.length := Nat.le_antisymm hq' (length_le_of_reads_nil hreads)
      exact .ended
  | zeroOrMore_last hy =>
      cases hm
      exact absurd (item_cases hl hy).1 (Nat.lt_irrefl _)
  | zeroOrMore_more hy _ hrest _ ih =>
      cases hm
      cases ho
      rw [Node.spliced_group_pair] at hcalls hreads
      obtain ⟨hlt, ⟨rfl, hvisits⟩ | ⟨ho, hs⟩⟩ := item_cases hl hy
      · exact .trivia hy hlt hvisits (ih hcalls hq' hreads rfl rfl)
      · obtain ⟨hcalls, hcalls'⟩ := CallFree.append_iff.mp hcalls
        rw [Node.tokensList_append] at hreads
        obtain ⟨e', hle, he', hreads, hreads'⟩ := hreads.exists_extract hq'
        have hlast : tokens.length ≤ _ → tokens'.length ≤ e' := fun h => by
          obtain rfl := eq_empty_of_items hl hrest h
          exact length_le_of_reads_nil hreads'
        have hn := spliced_of_rule hs
        rw [hn] at hcalls hreads
        rw [Node.tokensList, Node.tokensList, List.append_nil] at hreads
        obtain ⟨k, hw, hc⟩ := exists_window hl hl' hs hlt hcalls hle he' hreads hlast
        exact .statement hy hlt ho hw hc (ih hcalls' he' hreads' rfl rfl)
  | _ => cases hm

theorem Closes.exists_eq (h : Closes tokens tokens' q q' k e e') :
    ∃ i, e = q + i ∧ e' = q' + i := by
  cases h with
  | semicolon => exact ⟨k + 1, rfl, rfl⟩
  | ended => exact ⟨k, rfl, rfl⟩

theorem admits_item (ho : OpensAt tokens q) (k : Nat) : Admits tokens q k (itemRule 0) 0 :=
  ⟨Nat.zero_le k, .inr ⟨ho, rfl, Matcher.mem_inside_self _⟩⟩

/-- An item in a window is matched in both lists, with the same node up to layout. -/
theorem Window.exists_match (hw : Window tokens tokens' q q' k) (ho : OpensAt tokens q)
    (hc : Closes tokens tokens' q q' k e e') (hq : q < e)
    (hy : Yields rules tokens (itemRule 0) q (.matched n tr e)) :
    q' < e' ∧ ∃ n' tr', n.bare = n'.bare ∧
      Yields rules tokens' (itemRule 0) q' (.matched n' tr' e') := by
  obtain ⟨i, rfl, rfl⟩ := hc.exists_eq
  refine ⟨Nat.lt_add_of_pos_right (Nat.pos_of_lt_add_right hq), ?_⟩
  exact hw.copied.matched (admits_item ho k) (i := i) hy

theorem group_empty_of_items
    (hy : Yields rules tokens ⟨i, .zeroOrMore m⟩ q (.matched n tr e)) :
    Node.group [.empty, n] = n := by
  cases hy with
  | zeroOrMore_none => rfl
  | zeroOrMore_last | zeroOrMore_more => exact Node.group_empty _

/-- After a round that consumes something, the repetition matches the rest. -/
theorem exists_rest {n₁ : Node} {tr₁ : List (Trivia Token)}
    (hm : Yields rules tokens m q (.matched n₁ tr₁ e)) (hlt : q < e)
    (hy : Yields rules tokens ⟨i, .zeroOrMore m⟩ q (.matched n tr p)) :
    ∃ n₂ tr₂, n = .group [n₁, n₂] ∧
      Yields rules tokens ⟨i, .zeroOrMore m⟩ e (.matched n₂ tr₂ p) := by
  cases hy with
  | zeroOrMore_none hf => cases hm.unique hf
  | zeroOrMore_last hm' =>
      cases hm.unique hm'
      exact absurd hlt (Nat.lt_irrefl _)
  | zeroOrMore_more hm' _ hrest =>
      cases hm.unique hm'
      exact ⟨_, _, rfl, hrest⟩

/-- The printed statements are matched with the nodes that they had. -/
theorem Aligned.exists_yields (h : Aligned tokens tokens' q q') (hl : Lexed tokens)
    (hl' : Lexed tokens')
    (hy : Yields rules tokens ⟨i, .zeroOrMore (itemRule 0)⟩ q (.matched n tr e)) :
    ∃ n' tr', n.bare = n'.bare ∧
      Yields rules tokens' ⟨i, .zeroOrMore (itemRule 0)⟩ q' (.matched n' tr' tokens'.length) := by
  induction h generalizing n tr with
  | ended =>
      obtain rfl := eq_empty_of_items hl hy (Nat.le_refl _)
      obtain ⟨r, hf⟩ := fails_item hl' (Nat.le_refl tokens'.length)
      exact ⟨.empty, [], rfl, .zeroOrMore_none hf⟩
  | trivia hitem hlt _ _ ih =>
      obtain ⟨n₁, tr₁, rfl, hrest⟩ := exists_rest hitem hlt hy
      rw [group_empty_of_items hrest]
      exact ih hrest
  | statement hitem hlt ho hw hc _ ih =>
      obtain ⟨n₁, tr₁, rfl, hrest⟩ := exists_rest hitem hlt hy
      obtain ⟨hlt', n₂, tr₂, hn₂, hy₂⟩ := hw.exists_match ho hc hlt hitem
      obtain ⟨n₃, tr₃, hn₃, hy₃⟩ := ih hrest
      exact ⟨_, _, Node.bare_group_pair hn₂ hn₃, .zeroOrMore_more hy₂ (Nat.ne_of_gt hlt') hy₃⟩

/-! ### Runs side by side -/

section

variable (hF : Family rules F) (hitem : F (itemRule 0))

/-- Nothing is remembered that could make a difference in a window. -/
theorem level_of_ready (hs : s.Ready rules tokens F cfg q) (hs' : s'.Ready rules tokens' F cfg q')
    (k : Nat) : (lanes tokens tokens' q q' k).Level F cfg s s' where
  counted := hs.counted
  counted' := hs'.counted
  closed := hs.closed
  closed' := hs'.closed
  tally := trivial
  holds_iff := fun hmem {_ _} hm _ hr =>
    iff_of_false (hs.not_holds hmem hm hr (Nat.le_add_right _ _))
      (hs'.not_holds hmem hm hr (Nat.le_add_right _ _))

/-- At the end of a window there is another without tokens. -/
theorem level_at_end (hlevel : (lanes tokens tokens' q q' k).Level F cfg s s') :
    (lanes tokens tokens' (q + k) (q' + k) 0).Level F cfg s s' where
  counted := hlevel.counted
  counted' := hlevel.counted'
  closed := hlevel.closed
  closed' := hlevel.closed'
  tally := trivial
  holds_iff := fun hmem {m i} hm hz hr => by
    have hitems : ∀ m ∈ (itemRule 0).inside, m.isRule = true → proper m = true := by decide
    have hadjacent : isAdjacent m = false := by
      obtain ⟨i, shape⟩ := m
      cases shape <;> first | rfl | cases hr
    obtain ⟨hle, hz⟩ := hz
    obtain rfl : i = 0 := Nat.le_zero.mp hle
    have hz' : Admits tokens q k m k :=
      ⟨Nat.le_refl k, .inl ⟨hz.elim And.left fun h => hitems m h.2.2 hr,
        guarded_of_not_adjacent hadjacent⟩⟩
    exact hlevel.holds_iff hmem hm hz' hr

/-- The states before two aligned items: nothing is remembered from there on, or nothing follows. -/
inductive InStep (F : Matcher → Prop) (cfg : Config) (tokens tokens' : List Token) (s s' : State) :
    Nat → Nat → Prop where
  | ready {q q' : Nat} : s.Ready rules tokens F cfg q → s'.Ready rules tokens' F cfg q' →
      InStep F cfg tokens tokens' s s' q q'
  | ended {q q' : Nat} : tokens.length ≤ q → s.cursor = q → s'.cursor = q' →
      (lanes tokens tokens' q q' 0).Level F cfg s s' → InStep F cfg tokens tokens' s s' q q'

/-- Before the semicolon of a statement, rules are visited only in its window. -/
theorem lt_of_visits_item (hw : Window tokens tokens' q q' k) (ho : OpensAt tokens q)
    (hv : Visits rules tokens (itemRule 0) q d m' p) (hr : m'.isRule = true) : p < q + k + 1 := by
  obtain ⟨i, rfl, hz, -⟩ :=
    (hw.copied.even fun _ _ => trivial).visits_across (admits_item ho k) hr hv
  exact Nat.lt_succ_of_le (Nat.add_le_add_left hz.1 q)

theorem InStep.ready_of_lt (h : InStep F cfg tokens tokens' s s' q q') (hq : q < tokens.length) :
    s.Ready rules tokens F cfg q ∧ s'.Ready rules tokens' F cfg q' := by
  cases h with
  | ready hs hs' => exact ⟨hs, hs'⟩
  | ended hle => exact absurd hq (Nat.not_lt_of_le hle)

theorem InStep.level (h : InStep F cfg tokens tokens' s s' q q') :
    s.cursor = q ∧ s'.cursor = q' ∧ (lanes tokens tokens' q q' 0).Level F cfg s s' := by
  cases h with
  | ready hs hs' => exact ⟨hs.cursor_eq, hs'.cursor_eq, level_of_ready hs hs' 0⟩
  | ended _ hp hp' hlevel => exact ⟨hp, hp', hlevel⟩

/-- The window at the end of both lists. -/
theorem window_at_end (tokens tokens' : List Token) :
    Window tokens tokens' tokens.length tokens'.length 0 where
  same := fun j _ => by
    rw [List.getElem?_eq_none (Nat.le_add_right _ _), List.getElem?_eq_none (Nat.le_add_right _ _)]
  stops := fun t ht => by simp at ht
  joint := fun j hj => absurd hj (Nat.not_lt_zero j)
  joint' := fun j hj => absurd hj (Nat.not_lt_zero j)

include hF hitem

/-- In a window, the attempts of the two items go side by side. -/
theorem goes_item (depth : Nat) (hw : Window tokens tokens' q q' k) (ho : OpensAt tokens q) :
    (lanes tokens tokens' q q' k).Goes F cfg (attempt cfg (enterRule cfg rules depth))
      (itemRule 0) 0 :=
  goes_attempt (hw.copied.even fun _ _ => trivial) hF depth _ hitem 0 (admits_item ho k)

/-- After aligned statements come aligned items. -/
theorem inStep_after (hw : Window tokens tokens' q q' k) (ho : OpensAt tokens q)
    (hc : Closes tokens tokens' q q' k e e') (hs : s.Ready rules tokens F cfg q)
    (hs' : s'.Ready rules tokens' F cfg q')
    (hn : cause? (attempt cfg (enterRule cfg rules depth) (itemRule 0) s) = none)
    (hn' : cause? (attempt cfg (enterRule cfg rules depth) (itemRule 0) s') = none)
    (hy : Yields rules tokens (itemRule 0) q (.matched n tr e))
    (hy' : Yields rules tokens' (itemRule 0) q' (.matched n' tr' e'))
    (hlevel : (lanes tokens tokens' q q' k).Level F cfg
      (attempt cfg (enterRule cfg rules depth) (itemRule 0) s).2
      (attempt cfg (enterRule cfg rules depth) (itemRule 0) s').2) :
    InStep F cfg tokens tokens' (attempt cfg (enterRule cfg rules depth) (itemRule 0) s).2
      (attempt cfg (enterRule cfg rules depth) (itemRule 0) s').2 e e' := by
  cases hc with
  | semicolon =>
      exact .ready (hs.after hF hitem hn hy (lt_of_visits_item hw ho))
        (hs'.after hF hitem hn' hy' (lt_of_visits_item hw.swap (hw.opensAt ho)))
  | ended hlen =>
      -- what has been remembered for the end may be looked up once more
      exact .ended (Nat.le_of_eq hlen)
        (hs.cursor_attempt hF hitem hn hy) (hs'.cursor_attempt hF hitem hn' hy')
        (level_at_end hlevel)

/-- **Side by side.**  If the items of a program are tried without an abort, so are the printed
statements. -/
theorem Aligned.cause_eq_none (h : Aligned tokens tokens' q q') (hl : Lexed tokens)
    (hl' : Lexed tokens') (hs : InStep F cfg tokens tokens' s s' q q')
    (ht : Trail (attempt cfg (enterRule cfg rules depth)) s l none t)
    (hall : ∀ l₁, Course rules tokens ⟨i, .zeroOrMore (itemRule 0)⟩ q l₁ → l₁ <+: l)
    (ht' : Trail (attempt cfg (enterRule cfg rules depth)) s' l' c' t')
    (hc' : Course rules tokens' ⟨i, .zeroOrMore (itemRule 0)⟩ q' l') : c' = none := by
  induction h generalizing s s' l l' with
  | ended =>
      obtain ⟨l₂, rfl⟩ := exists_first .zeroOrMore hall
      obtain ⟨-, hn, -⟩ := ht.of_cons
      obtain ⟨hp, hp', hlevel⟩ := hs.level
      have hend := goes_item hF hitem depth (window_at_end tokens tokens')
        (fun t ht => by simp at ht) hlevel hp hp'
      obtain hc | ⟨l₂, rfl, hrest⟩ :=
        exists_after_first .zeroOrMore ht' hc' (hend.twin.none_iff.mp hn)
      · exact hc
      · obtain rfl := hc'.tail_eq_nil fun m' p' hg => by
          cases hg with
          | zeroOrMore hy => exact absurd (lt_of_item hl' hy) (Nat.lt_irrefl _)
        cases hrest
        rfl
  | @trivia q q' e tr hy hlt hvisits _ ih =>
      obtain ⟨l₂, rfl⟩ := exists_first .zeroOrMore hall
      obtain ⟨-, hn, hrest⟩ := ht.of_cons
      obtain ⟨hs, hs'⟩ := hs.ready_of_lt (lt_of_item hl hy)
      have hg : GoesOn rules tokens ⟨i, .zeroOrMore (itemRule 0)⟩ q _ e :=
        .zeroOrMore hy (Nat.ne_of_gt hlt)
      have hs := hs.after hF hitem hn hy fun hv hr => by
        rw [hvisits hv] at hr
        cases hr
      exact ih (.ready hs hs') hrest (Course.all_tail .zeroOrMore rfl hg hall) ht' hc'
  | @statement q q' k e e' n tr hy hlt ho hw hc _ ih =>
      obtain ⟨l₂, rfl⟩ := exists_first .zeroOrMore hall
      obtain ⟨-, hn, hrest⟩ := ht.of_cons
      obtain ⟨hs, hs'⟩ := hs.ready_of_lt (lt_of_item hl hy)
      have hg : GoesOn rules tokens ⟨i, .zeroOrMore (itemRule 0)⟩ q _ e :=
        .zeroOrMore hy (Nat.ne_of_gt hlt)
      have hend :=
        goes_item hF hitem depth hw ho (level_of_ready hs hs' k) hs.cursor_eq hs'.cursor_eq
      have hn' := hend.twin.none_iff.mp hn
      obtain hc₁ | ⟨l₂', rfl, hrest'⟩ := exists_after_first .zeroOrMore ht' hc' hn'
      · exact hc₁
      · obtain ⟨hlt', n', tr', -, hy'⟩ := hw.exists_match ho hc hlt hy
        have hg' : GoesOn rules tokens' ⟨i, .zeroOrMore (itemRule 0)⟩ q' _ e' :=
          .zeroOrMore hy' (Nat.ne_of_gt hlt')
        exact ih (inStep_after hF hitem hw ho hc hs hs' hn hn' hy hy' (hend.level hn)) hrest
          (Course.all_tail .zeroOrMore rfl hg hall) hrest' (hc'.tail hg')

end

end Packrat.Calculator
