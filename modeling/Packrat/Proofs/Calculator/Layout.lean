import Packrat.Proofs.Calculator.Lexeme
import Packrat.Proofs.Text.Span

/-!
# Proofs — Calculator — Layout

Where tokens lie in their source.  A `Layout` cuts a text into gaps of white space and the texts of
tokens, in turn, with a gap at either end; every token is at the caret after all characters before
it.

**Layout** (`tokens_tile_source`): every text that the lexer accepts has a layout with the tokens
that it gives.  So the tokens follow each other in the text, without overlaps.
-/

namespace Packrat.Calculator

/-- Gaps with a text after each of them, except the last. -/
def woven : List (List Char) → List (List Char) → List Char
  | gap :: gaps, text :: texts => gap ++ text ++ woven gaps texts
  | gaps, _ => gaps.flatten

/-- The characters of the tokens' texts. -/
def chars (ts : List Token) : List (List Char) :=
  ts.map fun t => t.text.toList

/-- Everything before the token with the given index, the gap before it included. -/
def before (gaps : List (List Char)) (ts : List Token) (i : Nat) : List Char :=
  woven (gaps.take (i + 1)) ((chars ts).take i)

/-- A text that starts at the caret `k` is cut into gaps and the texts of tokens. -/
structure Layout (k : Caret) (cs : List Char) (ts : List Token) (gaps : List (List Char)) :
    Prop where
  length_eq : gaps.length = ts.length + 1
  blank : ∀ gap ∈ gaps, ∀ c ∈ gap, isBlank c = true
  text_eq : woven gaps (chars ts) = cs
  lexeme : ∀ t ∈ ts, Lexeme t.kind t.text.toList
  caret_eq : ∀ i t, ts[i]? = some t → t.caret = k.after (before gaps ts i)

/-! ### Laying out -/

namespace Layout

variable {k : Caret} {cs w g : List Char} {ts : List Token} {t : Token} {gaps : List (List Char)}

theorem woven_indent (w g : List Char) (gaps texts : List (List Char)) :
    woven ((w ++ g) :: gaps) texts = w ++ woven (g :: gaps) texts := by
  cases texts <;> simp [woven]

/-- A text of white space is one gap. -/
theorem nil (hw : ∀ c ∈ w, isBlank c = true) : Layout k w [] [w] where
  length_eq := rfl
  blank := List.forall_mem_singleton.mpr hw
  text_eq := by simp [woven, chars]
  lexeme := List.forall_mem_nil _
  caret_eq := fun i t ht => by simp at ht

/-- White space in front makes the first gap longer. -/
theorem indent (h : Layout (k.after w) cs ts (g :: gaps)) (hw : ∀ c ∈ w, isBlank c = true) :
    Layout k (w ++ cs) ts ((w ++ g) :: gaps) where
  length_eq := h.length_eq
  blank := by
    obtain ⟨hg, hgaps⟩ := List.forall_mem_cons.mp h.blank
    exact List.forall_mem_cons.mpr ⟨List.forall_mem_append.mpr ⟨hw, hg⟩, hgaps⟩
  text_eq := by rw [woven_indent, h.text_eq]
  lexeme := h.lexeme
  caret_eq := fun i t ht => by
    rw [h.caret_eq i t ht, before, before, List.take_succ_cons, List.take_succ_cons, woven_indent,
      Caret.after_append]

/-- A token in front comes after an empty gap. -/
theorem cons (h : Layout (k.after t.text.toList) cs ts gaps) (ht : t.caret = k)
    (hl : Lexeme t.kind t.text.toList) :
    Layout k (t.text.toList ++ cs) (t :: ts) ([] :: gaps) where
  length_eq := congrArg (· + 1) h.length_eq
  blank := List.forall_mem_cons.mpr ⟨List.forall_mem_nil _, h.blank⟩
  text_eq := by
    rw [← h.text_eq]
    rfl
  lexeme := List.forall_mem_cons.mpr ⟨hl, h.lexeme⟩
  caret_eq := by
    rintro (_ | i) t' ht'
    · cases ht'
      rw [ht]
      rfl
    · rw [List.getElem?_cons_succ] at ht'
      rw [h.caret_eq i t' ht', ← Caret.after_append]
      rfl

end Layout

/-! ### Reading tokens -/

namespace Lexer

theorem exists_of_bind_ok {ε α β : Type} {x : Except ε α} {f : α → β} {b : β}
    (h : (x >>= fun a => pure (f a)) = .ok b) : ∃ a, x = .ok a ∧ f a = b := by
  cases x with
  | error e => cases h
  | ok a => exact ⟨a, rfl, Except.ok.inj h⟩

/-- What one token and the white space after it are of the text that is left. -/
theorem token_ok {l l' : Lexer} {t : Token} (h : l.token = (.ok t, l')) :
    t.caret = l.caret ∧ Lexeme t.kind t.text.toList ∧
      ∃ after, l.rest = t.text.toList ++ after ∧
        l' = skipBlanks ⟨after, l.caret.after t.text.toList⟩ := by
  simp only [token] at h
  split at h
  · next kind n hn =>
    cases h
    refine ⟨rfl, ?_, l.rest.drop n, ?_⟩
    · simpa [Token.ofText] using lexeme_of_next hn
    · simp [Token.ofText, skip]
  · cases h

/-- White space that was skipped is the first gap. -/
theorem layout_skipBlanks {l : Lexer} {ts : List Token} {gaps : List (List Char)}
    (h : Layout l.skipBlanks.caret l.skipBlanks.rest ts ([] :: gaps)) :
    Layout l.caret l.rest ts (l.rest.takeWhile isBlank :: gaps) := by
  have := h.indent (w := l.rest.takeWhile isBlank) fun _ => List.mem_takeWhile_imp
  rwa [skipBlanks, List.takeWhile_append_dropWhile, List.append_nil] at this

/-- The tokens that are read are laid out in the text that is left.  By induction on the number of
tokens that may be read: every token takes a character at least. -/
theorem exists_layout_of_tokensFrom {fuel : Nat} {l : Lexer} {ts : List Token}
    (h : tokensFrom fuel l = .ok ts) (hfuel : l.rest.length ≤ fuel) :
    ∃ gaps, Layout l.caret l.rest ts ([] :: gaps) := by
  induction fuel generalizing l ts with
  | zero =>
      cases h
      rw [List.eq_nil_of_length_eq_zero (Nat.le_zero.mp hfuel)]
      exact ⟨[], .nil (List.forall_mem_nil _)⟩
  | succ fuel ih =>
      simp only [tokensFrom] at h
      split at h
      · next he =>
        cases h
        rw [List.isEmpty_iff.mp he]
        exact ⟨[], .nil (List.forall_mem_nil _)⟩
      · split at h
        · next t l' ht =>
          obtain ⟨hcaret, hlexeme, after, hrest, rfl⟩ := token_ok ht
          obtain ⟨ts', hts', rfl⟩ := exists_of_bind_ok h
          have hlt : 0 < t.text.toList.length := List.length_pos_iff.mpr hlexeme.ne_nil
          have hle : (after.dropWhile isBlank).length ≤ after.length :=
            List.length_dropWhile_le isBlank after
          obtain ⟨gaps, hgaps⟩ := ih hts' (by
            rw [hrest, List.length_append] at hfuel
            simp only [skipBlanks]
            omega)
          rw [hrest]
          exact ⟨_, (layout_skipBlanks hgaps).cons hcaret hlexeme⟩
        · cases h

/-- All of a text that the lexer accepts is laid out. -/
theorem exists_layout {text : String} {ts : List Token} (h : tokens text = .ok ts) :
    ∃ gaps, Layout .origin text.toList ts gaps := by
  have hle : (text.toList.dropWhile isBlank).length ≤ text.toList.length :=
    List.length_dropWhile_le isBlank _
  obtain ⟨gaps, hgaps⟩ := exists_layout_of_tokensFrom h hle
  exact ⟨_, layout_skipBlanks hgaps⟩

end Lexer

/-! ### Tokens in a layout -/

namespace Layout

variable {k : Caret} {cs g : List Char} {ts : List Token} {t : Token} {gaps : List (List Char)}
  {i : Nat}

/-- The tokens after the first are laid out after it. -/
theorem tail (h : Layout k cs (t :: ts) (g :: gaps)) :
    Layout (k.after (g ++ t.text.toList)) (woven gaps (chars ts)) ts gaps where
  length_eq := Nat.succ.inj h.length_eq
  blank := (List.forall_mem_cons.mp h.blank).2
  text_eq := rfl
  lexeme := (List.forall_mem_cons.mp h.lexeme).2
  caret_eq := fun i t' ht' => by
    rw [h.caret_eq (i + 1) t' ht', ← Caret.after_append]
    rfl

/-- A token and everything before it are the start of the text. -/
theorem before_append_prefix (h : Layout k cs ts gaps) (ht : ts[i]? = some t) :
    before gaps ts i ++ t.text.toList <+: cs := by
  rw [← h.text_eq]
  induction i generalizing k cs ts gaps with
  | zero =>
      obtain ⟨ts, rfl⟩ := List.head?_eq_some_iff.mp (List.head?_eq_getElem?.trans ht)
      obtain ⟨g, gaps, rfl⟩ := List.exists_cons_of_length_eq_add_one h.length_eq
      exact ⟨woven gaps (chars ts), by simp [before, woven, chars]⟩
  | succ i ih =>
      cases ts with
      | nil => cases ht
      | cons t₀ ts =>
          obtain ⟨g, gaps, rfl⟩ := List.exists_cons_of_length_eq_add_one h.length_eq
          obtain ⟨post, hpost⟩ := ih h.tail ht
          refine ⟨post, ?_⟩
          simp only [before, List.take_succ_cons, chars, List.map_cons, woven,
            List.append_assoc] at hpost ⊢
          rw [hpost]

/-- The caret after the last character of a token. -/
theorem after_text (h : Layout k cs ts gaps) (ht : t ∈ ts) :
    t.caret.after t.text.toList = t.endCaret := by
  rw [Caret.after_of_not_mem (h.lexeme t ht).lineFeed_not_mem, String.length_toList]
  rfl

theorem caret_lt_endCaret (h : Layout k cs ts gaps) (ht : t ∈ ts) : t.caret < t.endCaret := by
  rw [← h.after_text ht]
  exact Caret.lt_after (h.lexeme t ht).ne_nil

/-- No token is before the start of the text. -/
theorem le_caret (h : Layout k cs ts gaps) (ht : t ∈ ts) : k ≤ t.caret := by
  obtain ⟨i, hi⟩ := List.mem_iff_getElem?.mp ht
  rw [h.caret_eq i t hi]
  exact Caret.le_after k _

/-- Every token ends before the next one starts, or right there. -/
theorem pairwise_endCaret_le (h : Layout k cs ts gaps) :
    ts.Pairwise fun a b => a.endCaret ≤ b.caret := by
  induction ts generalizing k cs gaps with
  | nil => exact .nil
  | cons t ts ih =>
      obtain ⟨g, gaps, rfl⟩ := List.exists_cons_of_length_eq_add_one h.length_eq
      have ht : t.caret = k.after g := (h.caret_eq 0 t rfl).trans (by simp [before, woven, chars])
      refine List.pairwise_cons.mpr ⟨fun b hb => ?_, ih h.tail⟩
      have hle := h.tail.le_caret hb
      rwa [Caret.after_append, ← ht, h.after_text List.mem_cons_self] at hle

end Layout

/-- **Layout.** -/
theorem tokens_tile_source {text : String} {ts : List Token} (h : Lexer.tokens text = .ok ts) :
    (∃ gaps, gaps.length = ts.length + 1 ∧ (∀ gap ∈ gaps, ∀ c ∈ gap, isBlank c = true) ∧
      woven gaps (chars ts) = text.toList ∧
      ∀ i t, ts[i]? = some t → t.caret = Caret.origin.after (before gaps ts i)) ∧
    (∀ t ∈ ts, t.text ≠ "" ∧ '\n' ∉ t.text.toList ∧
      t.caret.after t.text.toList = ⟨t.line, t.endColumn⟩ ∧
      t.span.start = t.caret ∧ t.span.stop = ⟨t.line, t.endColumn⟩) ∧
    ts.Pairwise (fun a b => a.caret < b.caret) ∧
    ts.Pairwise (fun a b => a.span.stop ≤ b.span.start) := by
  obtain ⟨gaps, hl⟩ := Lexer.exists_layout h
  have hends := List.Pairwise.and_mem.mp hl.pairwise_endCaret_le
  refine ⟨⟨gaps, hl.length_eq, hl.blank, hl.text_eq, hl.caret_eq⟩, fun t ht => ?_, ?_, ?_⟩
  · have hlex := hl.lexeme t ht
    refine ⟨fun he => hlex.ne_nil (by rw [he]; rfl), hlex.lineFeed_not_mem, hl.after_text ht,
      t.start_span, t.stop_span⟩
  · exact hends.imp fun ⟨ha, _, hle⟩ => Caret.lt_of_lt_of_le (hl.caret_lt_endCaret ha) hle
  · refine hends.imp fun {a b} ⟨_, _, hle⟩ => ?_
    rwa [a.stop_span, b.start_span]

/-- A comment with a carriage return at its end, a tabulator and a wide space. -/
theorem comment_and_call_tile_source :
    let text := "x = 1.5 // é\r\n\tf(x)\u2003** 2\n"
    let ts : List Token := [.ofText .identifier "x" ⟨1, 1⟩, .ofText .punctuator "=" ⟨1, 3⟩,
      .ofText number "1.5" ⟨1, 5⟩, .ofText .comment "// é\r" ⟨1, 9⟩,
      .ofText .identifier "f" ⟨2, 2⟩, .ofText .punctuator "(" ⟨2, 3⟩,
      .ofText .identifier "x" ⟨2, 4⟩, .ofText .punctuator ")" ⟨2, 5⟩,
      .ofText .punctuator "*" ⟨2, 7⟩, .ofText .punctuator "*" ⟨2, 8⟩, .ofText number "2" ⟨2, 10⟩]
    Lexer.tokens text = .ok ts ∧
      (∃ gaps, gaps.length = 12 ∧ (∀ gap ∈ gaps, ∀ c ∈ gap, isBlank c = true) ∧
        woven gaps (chars ts) = text.toList ∧
        ∀ i t, ts[i]? = some t → t.caret = Caret.origin.after (before gaps ts i)) ∧
      ts.Pairwise (fun a b => a.caret < b.caret) := by
  intro text ts
  have h : Lexer.tokens text = .ok ts := by
    subst text ts
    rfl
  obtain ⟨htiled, -, hlt, -⟩ := tokens_tile_source h
  exact ⟨h, htiled, hlt⟩

end Packrat.Calculator
