import Packrat.Proofs.Calculator.Complete

/-!
# Proofs — Calculator — Programs

Programs and their items.  Semicolons in a row may be derived as several strays, while they are
matched as one, so after them the rest is derived anew (`exists_run`).

**Programs** (`complete_program`): what can be derived as a program is matched as one.
-/

namespace Packrat.Calculator

variable {tokens : List Token} {n i p e : Nat} (hl : Lexed tokens)

include hl

/-- A statement has tokens, and does not start with a comment or a semicolon. -/
theorem statement_head (h : Derives ebnf tokens (.rule "statement") p e) :
    p < e ∧ NoneOf tokens p [";"] ∧ ∀ t, tokens[p]? = some t → t.kind ≠ .comment := by
  obtain ⟨q, hbody, hstop⟩ := derives_statement h
  have hqe : q ≤ e := by omega
  obtain hbody | hbody := hbody
  · obtain ⟨r, ⟨t, ht, hs⟩, hname, -, hvalue⟩ := derives_assignment hbody
    have hle := hname.le
    have hle' := hvalue.le
    refine ⟨by omega, TextAt.noneOf ⟨t, ht, hs⟩ (by decide), forall_token_at ht fun hk => ?_⟩
    exact absurd (hk.symm.trans (kind_of_let (hl.at ht) hs)) (by decide)
  · have hb := begins_of_expression hl hbody
    obtain ⟨t, ht, hs⟩ := hb.starts
    have hothers := hs.not_mem_others (hl.at ht)
    exact ⟨Nat.lt_of_lt_of_le hb.lt hqe,
      NoneOf.mono (TextAt.noneOf ⟨t, ht, rfl⟩ hothers) (by decide),
      forall_token_at ht (hs.kind_ne_comment (hl.at ht))⟩

/-- Without its first semicolon, a run of them is shorter or gone. -/
theorem derives_items_tail (hend : tokens.length ≤ e) (hs : TextAt tokens p ";")
    (h : Derives ebnf tokens (.many item) p e) : Derives ebnf tokens (.many item) (p + 1) e := by
  obtain ⟨t, ht, htext⟩ := id hs
  obtain rfl | ⟨q, hitem, hrest⟩ := derives_many_iff.mp h
  · rw [List.getElem?_eq_none hend] at ht
    cases ht
  · obtain ⟨rfl, t', ht', hk⟩ | ⟨-, hmore⟩ | hstatement := derives_item hitem
    · exact hrest
    · obtain rfl | ⟨r, hs', hmore⟩ := derives_many_iff.mp hmore
      · exact hrest
      · have hstray : Derives ebnf tokens item (p + 1) q :=
          derives_alt_iff.mpr (.inr (derives_alt_iff.mpr (.inl
            (derives_dropped_iff.mpr (derives_cat_iff.mpr ⟨r, hs', hmore⟩)))))
        exact derives_many_iff.mpr (.inr ⟨q, hstray, hrest⟩)
    · exact absurd (by simp [htext]) ((statement_head hl hstatement).2.1 t ht)

/-- All semicolons in a row are taken at once, and what is left is derived as before. -/
theorem exists_run (hend : tokens.length ≤ e) {ℓ : Nat} (hle : e ≤ p + ℓ)
    (h : Derives ebnf tokens (.many item) p e) {j : Nat} :
    ∃ q, p ≤ q ∧ Matches rules tokens ⟨i, .zeroOrMore ⟨j, .literal ";"⟩⟩ p q ∧
      Derives ebnf tokens (.many item) q e := by
  induction ℓ generalizing p with
  | zero =>
      have hnone : NoneOf tokens p [";"] := .of_length_le (Nat.le_trans hend hle)
      exact ⟨p, Nat.le_refl p, .zeroOrMore_none (hnone.fails List.mem_cons_self), h⟩
  | succ ℓ ih =>
      by_cases hs : TextAt tokens p ";"
      · obtain ⟨q, hq, hrun, hrest⟩ := ih (by omega) (derives_items_tail hl hend hs h)
        have hrun := Matches.zeroOrMore_more hs.matches (Nat.lt_succ_self p) hrun
        exact ⟨q, Nat.le_of_succ_le hq, hrun, hrest⟩
      · exact ⟨p, Nat.le_refl p, .zeroOrMore_none (.literal fun t ht he => hs ⟨t, ht, he⟩), h⟩

/-- After the last token there are no more items. -/
theorem fails_item (h : tokens.length ≤ p) : Fails rules tokens (itemRule n) p := by
  have hnone : ∀ t, tokens[p]? ≠ some t := by simp [List.getElem?_eq_none h]
  have hstatement : Fails rules tokens ⟨n + 5, .rule "statement"⟩ p :=
    .rule rfl (.sequence_head (.firstOf (List.forall_mem_cons.mpr
      ⟨.rule rfl (.sequence_head (.literal fun t ht => absurd ht (hnone t))),
        List.forall_mem_singleton.mpr (fails_expression hl fun t ht => absurd ht (hnone t))⟩)))
  refine .firstOf ?_
  simp only [List.forall_mem_cons]
  exact ⟨.trivia (.ofKind fun t ht => absurd ht (hnone t)),
    .trivia (.oneOrMore (.literal fun t ht => absurd ht (hnone t))), hstatement,
    List.forall_mem_nil _⟩

theorem matches_items (hend : tokens.length ≤ e) {ℓ : Nat} (hle : e ≤ p + ℓ)
    (h : Derives ebnf tokens (.many item) p e) :
    Matches rules tokens ⟨i, .zeroOrMore (itemRule n)⟩ p e := by
  induction ℓ generalizing p with
  | zero =>
      obtain rfl : p = e := Nat.le_antisymm h.le hle
      exact .zeroOrMore_none (fails_item hl hend)
  | succ ℓ ih =>
      obtain rfl | ⟨q, hitem, hrest⟩ := derives_many_iff.mp h
      · exact .zeroOrMore_none (fails_item hl hend)
      · obtain ⟨rfl, t, ht, hk⟩ | ⟨hs, -⟩ | hstatement := derives_item hitem
        · exact .zeroOrMore_more (.firstOf_head (.trivia (.ofKind ht hk))) (Nat.lt_succ_self p)
            (ih (by omega) hrest)
        · -- the run may go on after the first stray semicolons that were derived
          have hle' : e ≤ p + 1 + ℓ := by omega
          obtain ⟨q, hq, hrun, hrest⟩ := exists_run hl hend hle' (derives_items_tail hl hend hs h)
          have hcomment : Fails rules tokens ⟨n, .ofKind .comment⟩ p := by
            obtain ⟨t, ht, htext⟩ := id hs
            have hk := kind_of_mem_punctuation (hl.at ht) (by simp [htext, punctuation])
            exact .ofKind (forall_token_at ht fun hk' => absurd (hk'.symm.trans hk) (by decide))
          exact .zeroOrMore_more (.firstOf_tail (.trivia hcomment) (.firstOf_head
            (.trivia (.oneOrMore hs.matches (Nat.lt_succ_self p) hrun)))) hq (ih (by omega) hrest)
        · obtain ⟨hlt, hnone, hk⟩ := statement_head hl hstatement
          have hm := complete_statement hl (ℓ + 1) (by have := hrest.le; omega) hstatement trivial
          exact .zeroOrMore_more (.firstOf_tail (.trivia (.ofKind hk)) (.firstOf_tail
            (.trivia (.oneOrMore (hnone.fails List.mem_cons_self))) (.firstOf_head (hm _)))) hlt
            (ih (by omega) hrest)

theorem complete_program (h : Derives ebnf tokens (.rule "program") p e) :
    Matches rules tokens ⟨i, .rule "program"⟩ p e := by
  obtain ⟨hitems, hn⟩ := derives_program h
  have hle : e ≤ p + e := Nat.le_add_left e p
  exact .rule rfl (.sequence_cons (matches_items hl hn hle hitems)
    (.sequence_cons (.endOfInput hn) .sequence_nil))

end Packrat.Calculator
