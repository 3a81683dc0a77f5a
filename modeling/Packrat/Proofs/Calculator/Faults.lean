import Packrat.Proofs.Calculator.Lexing

/-!
# Proofs — Calculator — Faults

Where the lexer stops with an error.  Whether the text of a token goes on is decided by the next
character, so a text can be cut right before the fault: what is before it has the tokens that were
read, and what is after it makes no difference, but for the two characters that decide that it is a
fault (`Lexes.exists_stuck`).

**Faults** (`error_located`): an error is where the text stops having tokens.
-/

namespace Packrat.Calculator

variable {k : Caret} {kind : TokenKind} {cs u v w after after' : List Char} {us ts : List Token}
  {e : LexError}

/-- A text with the tokens `us` can be read up to where `v` comes next. -/
inductive Stuck (k : Caret) (u : List Char) (us : List Token) : List Char → LexError → Prop where
  /-- The next character does not start a token. -/
  | noToken {c : Char} {v : List Char} : isBlank c = false →
      (∀ kind cs, ¬ Lexeme kind (c :: cs)) →
      Stuck k u us (c :: v) (.notStartOfToken (k.after u) c)
  /-- There is a dot without digits after an integer. -/
  | dot {u' v : List Char} {us' : List Token} {t : Token} : us = us' ++ [t] → t.kind = number →
      (∀ d ∈ t.text.toList, d.isDigit = true) → u = u' ++ t.text.toList → t.caret = k.after u' →
      (∀ d, v.head? = some d → d.isDigit = false) →
      Stuck k u us ('.' :: v) (.trailingDot (k.after u))

/-- What has been read before makes no difference. -/
theorem Stuck.prepend (w : List Char) (ts : List Token) (h : Stuck (k.after w) u us v e) :
    Stuck k (w ++ u) (ts ++ us) v e := by
  generalize hk : k.after w = k' at h
  cases h with
  | noToken hblank hc =>
      rw [← hk, ← Caret.after_append]
      exact .noToken hblank hc
  | @dot u' v us' t hus hkind hdigits hu hcaret hv =>
      have hus : ts ++ us = ts ++ us' ++ [t] := by rw [hus, List.append_assoc]
      have hu : w ++ u = w ++ u' ++ t.text.toList := by rw [hu, List.append_assoc]
      have hcaret : t.caret = k.after (w ++ u') := by rw [hcaret, ← hk, Caret.after_append]
      rw [← hk, ← Caret.after_append]
      exact .dot hus hkind hdigits hu hcaret hv

theorem EndsBefore.left (h : EndsBefore kind cs (after ++ after')) : EndsBefore kind cs after :=
  fun c hc => h c (by rw [List.head?_append, hc, Option.some_or])

theorem EndsBefore.congr (h : EndsBefore kind cs after) (he : after'.head? = after.head?) :
    EndsBefore kind cs after' :=
  fun c hc => h c (he ▸ hc)

theorem head?_eq_of_take (h : w.take 2 = v.take 2) : w.head? = v.head? := by
  have := congrArg List.head? h
  rwa [List.head?_take, List.head?_take, if_neg (by decide)] at this

theorem Visible.left (h : Visible (cs ++ after)) : Visible cs :=
  fun c hc => h c (by rw [List.head?_append, hc, Option.some_or])

/-- An integer at the end of a text. -/
theorem lexes_integer (hne : cs ≠ []) (hcs : ∀ c ∈ cs, c.isDigit = true) (hv : Visible cs) :
    Lexes k cs (.ok [⟨number, .ofList cs, k, []⟩]) := by
  have he : EndsBefore number cs [] := fun c hc => by cases hc
  have hl := Lexes.token (k := k) (.integer hne hcs) hv he .nothing
  rwa [List.append_nil] at hl

/-- A text can be cut before its fault. -/
theorem Fault.exists_stuck (h : Fault k cs e) (hv : Visible cs) :
    ∃ u v us, cs = u ++ v ∧ Lexes k u (.ok us) ∧ Stuck k u us v e ∧
      ∀ v', v'.take 2 = v.take 2 → Lexes k (u ++ v') (.error e) := by
  cases h with
  | @noToken c cs hc =>
      refine ⟨[], c :: cs, [], rfl, .nothing, .noToken (hv c rfl) hc, fun v' hv' => ?_⟩
      obtain ⟨cs', rfl⟩ := List.head?_eq_some_iff.mp (head?_eq_of_take hv')
      exact .fault hv (.noToken hc)
  | @dot ds cs hne hds hcs =>
      have hvisible : ∀ {v' : List Char}, Visible (ds ++ v') := hv.left.append hne
      have hstuck : Stuck k ds [⟨number, .ofList ds, k, []⟩] ('.' :: cs)
          (.trailingDot (k.after ds)) := by
        have htext : ds = [] ++ (String.ofList ds).toList := by
          rw [String.toList_ofList, List.nil_append]
        exact .dot (List.nil_append _).symm rfl (by rwa [String.toList_ofList]) htext rfl hcs
      refine ⟨ds, '.' :: cs, _, rfl, lexes_integer hne hds hv.left, hstuck, fun v' hv' => ?_⟩
      obtain ⟨cs', rfl⟩ := List.head?_eq_some_iff.mp (head?_eq_of_take hv')
      refine .fault hvisible (.dot hne hds fun c hc => hcs c ?_)
      -- the second of the two characters is the one after the dot
      have hsecond : cs'.take 1 = cs.take 1 := by simpa using hv'
      have := congrArg List.head? hsecond
      rw [List.head?_take, List.head?_take, if_neg (by decide), if_neg (by decide)] at this
      rw [← this, hc]

/-- So can every text that has one. -/
theorem Lexes.exists_stuck {r : Except LexError (List Token)} (h : Lexes k cs r)
    (hr : r = .error e) :
    ∃ u v us, cs = u ++ v ∧ Lexes k u (.ok us) ∧ Stuck k u us v e ∧
      ∀ v', v'.take 2 = v.take 2 → Lexes k (u ++ v') (.error e) := by
  induction h with
  | nothing => cases hr
  | @blank k c cs r hc _ ih =>
      obtain ⟨u, v, us, rfl, hu, hstuck, hsame⟩ := ih hr
      exact ⟨c :: u, v, us, rfl, .blank hc hu, hstuck.prepend [c] [],
        fun v' hv' => .blank hc (hsame v' hv')⟩
  | @token k kind cs after r hl hv he _ ih =>
      have hr : r = .error e := by
        cases r with
        | ok ts => cases hr
        | error e => exact hr
      obtain ⟨u, v, us, rfl, hu, hstuck, hsame⟩ := ih hr
      refine ⟨cs ++ u, v, ⟨kind, .ofList cs, k, []⟩ :: us, (List.append_assoc _ _ _).symm,
        .token hl hv he.left hu, hstuck.prepend cs [⟨kind, .ofList cs, k, []⟩],
        fun v' hv' => ?_⟩
      rw [List.append_assoc]
      refine .token hl hv (he.congr ?_) (hsame v' hv')
      rw [List.head?_append, List.head?_append, head?_eq_of_take hv']
  | fault hv he =>
      cases hr
      exact he.exists_stuck hv

/-- **Faults.**  The lexer reads all of a text or up to a fault; it needs no more steps than the
text has characters.  An error is where what has been read ends: the next character is no white
space and does not start a token, or there is a dot without digits after an integer.  Whatever
follows, the error is the same if the next two characters are. -/
theorem error_located (text : String) :
    (Lexes .origin text.toList (Lexer.tokens text) ∧
      ∀ fuel, text.toList.length ≤ fuel →
        Lexer.tokensFrom fuel (.ofText text.toList) = Lexer.tokens text) ∧
    ∀ e, Lexer.tokens text = .error e → (∀ k, e ≠ .unexpectedEnd k) ∧
      ∃ u v us, text.toList = u ++ v ∧ v ≠ [] ∧ e.location = Caret.origin.after u ∧
        Lexer.tokens (.ofList u) = .ok us ∧ Stuck .origin u us v e ∧
        ∀ v', v'.take 2 = v.take 2 → Lexer.tokens (.ofList (u ++ v')) = .error e := by
  have hlexes := tokens_eq_iff.mp (rfl : Lexer.tokens text = Lexer.tokens text)
  refine ⟨⟨hlexes, fun fuel hfuel => hlexes.tokensFrom_eq hfuel⟩, fun e he => ?_⟩
  obtain ⟨u, v, us, hsplit, hu, hstuck, hsame⟩ := hlexes.exists_stuck he
  have hcases : (∀ k, e ≠ .unexpectedEnd k) ∧ v ≠ [] ∧ e.location = Caret.origin.after u := by
    cases hstuck with
    | noToken => exact ⟨fun _ h => (by cases h), List.cons_ne_nil _ _, rfl⟩
    | dot => exact ⟨fun _ h => (by cases h), List.cons_ne_nil _ _, rfl⟩
  refine ⟨hcases.1, u, v, us, hsplit, hcases.2.1, hcases.2.2, ?_, hstuck, fun v' hv' => ?_⟩
  · rwa [tokens_eq_iff, String.toList_ofList]
  · rw [tokens_eq_iff, String.toList_ofList]
    exact hsame v' hv'

/-- A dot without digits after an integer, on the second line. -/
example : Lexer.tokens "1.5\n x /20.x" = .error (.trailingDot ⟨2, 7⟩) ∧
    (Lexer.tokens "1.5\n x /20").isOk = true :=
  ⟨rfl, rfl⟩

end Packrat.Calculator
