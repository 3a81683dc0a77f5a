import Mathlib.Data.String.Basic
import Mathlib.Logic.Function.Iterate
import Packrat.Proofs.Calculator.Lexing
import Packrat.Proofs.Text.Position

/-!
# Proofs — Calculator — Stepping

The lexer, one character at a time.  A lexer is *at* a byte of its text (`Lexer.At`) if the text
that is left starts there, and its caret has come past all that is before.  A single step
(`Lexer.advance`) moves past one character, the offset by its bytes and the caret by the character
itself.

**Steps** (`skip_eq_iterate`, `At.skip`): to skip `n` characters is to take `n` single steps.

**Reading** (`At.token_eq`): tokens are read by single steps, which look at the next two characters
at most.  The text of a token is what is between the bytes where it starts and ends.

**Bounds** (`Reached.caret_lt`, `tokens_lt`): below `2 ^ 32 - 1` characters, 32 bits hold the carets
of the lexer, the lines and columns of all tokens, and the columns where tokens end.
-/

namespace Packrat.Calculator.Lexer

open String (utf8Len)

/-! ### Steps -/

/-- Moves past the next character, if there is one. -/
def advance (l : Lexer) : Lexer :=
  match l.rest with
  | [] => l
  | c :: cs => ⟨cs, l.caret.advance c⟩

theorem length_rest_advance_lt {l : Lexer} {keep : Char → Bool}
    (h : l.rest.head?.any keep = true) : l.advance.rest.length < l.rest.length := by
  obtain ⟨_ | ⟨c, cs⟩, k⟩ := l
  · cases h
  · exact Nat.lt_succ_self _

/-- Moves past the characters that are kept, up to the first that is not. -/
def advanceWhile (keep : Char → Bool) (l : Lexer) : Lexer :=
  if l.rest.head?.any keep then l.advance.advanceWhile keep else l
termination_by l.rest.length
decreasing_by exact length_rest_advance_lt ‹_›

variable {l : Lexer} {k : Caret} {c : Char} {cs : List Char} {text : String}
  {p : String.Pos.Raw}

theorem advance_cons : advance ⟨c :: cs, k⟩ = ⟨cs, k.advance c⟩ := rfl

theorem skip_zero (l : Lexer) : l.skip 0 = l := rfl

theorem skip_succ (l : Lexer) (n : Nat) : l.skip (n + 1) = l.advance.skip n := by
  obtain ⟨_ | ⟨c, cs⟩, k⟩ := l
  · simp [skip, advance]
  · rfl

/-- **Steps.** -/
theorem skip_eq_iterate (l : Lexer) (n : Nat) : l.skip n = advance^[n] l := by
  induction n generalizing l with
  | zero => rfl
  | succ n ih => rw [skip_succ, ih, Function.iterate_succ_apply]

theorem skip_add (l : Lexer) (m n : Nat) : l.skip (m + n) = (l.skip m).skip n := by
  rw [skip_eq_iterate, skip_eq_iterate, skip_eq_iterate, Nat.add_comm,
    Function.iterate_add_apply]

/-- The loop takes a step for each of the characters that it keeps. -/
theorem advanceWhile_eq (keep : Char → Bool) (l : Lexer) :
    l.advanceWhile keep = l.skip (l.rest.takeWhile keep).length := by
  obtain ⟨cs, k⟩ := l
  induction cs generalizing k with
  | nil =>
      rw [advanceWhile]
      rfl
  | cons c cs ih =>
      rw [advanceWhile, List.takeWhile_cons]
      cases h : keep c with
      | false => simp [h, skip_zero]
      | true =>
          rw [if_pos (by simpa using h), if_pos rfl, List.length_cons, skip_succ]
          exact ih (k.advance c)

theorem drop_length_takeWhile (keep : Char → Bool) (cs : List Char) :
    cs.drop (cs.takeWhile keep).length = cs.dropWhile keep := by
  have h := List.take_append_drop (cs.takeWhile keep).length cs
  rw [take_length_takeWhile] at h
  exact List.append_cancel_left (h.trans List.takeWhile_append_dropWhile.symm)

theorem skipBlanks_eq (l : Lexer) : l.skipBlanks = l.advanceWhile isBlank := by
  rw [advanceWhile_eq, skip, take_length_takeWhile, drop_length_takeWhile, skipBlanks]

/-! ### Bytes -/

/-- The lexer is at a byte of the text. -/
def At (l : Lexer) (text : String) (p : String.Pos.Raw) : Prop :=
  ∃ before, text.toList = before ++ l.rest ∧ p = ⟨utf8Len before⟩ ∧
    l.caret = Caret.origin.after before

theorem at_zero (text : String) : At ⟨text.toList, .origin⟩ text 0 :=
  ⟨[], rfl, rfl, rfl⟩

namespace At

theorem text_eq {before : List Char} (h : text.toList = before ++ l.rest) :
    text = .ofList (before ++ l.rest) := by
  rw [← h, String.ofList_toList]

/-- The character at the byte is the next one. -/
theorem get?_eq (h : l.At text p) : p.get? text = l.rest.head? := by
  obtain ⟨before, htext, rfl, -⟩ := h
  rw [text_eq htext, String.get?_of_valid]

/-- A step moves the offset by the bytes of the character, and the caret by the character. -/
theorem advance (h : l.At text p) (hc : p.get? text = some c) :
    l.advance.At text (p + c) ∧ l.advance.caret = l.caret.advance c := by
  rw [h.get?_eq] at hc
  obtain ⟨before, htext, rfl, hcaret⟩ := h
  obtain ⟨cs, hrest⟩ := List.head?_eq_some_iff.mp hc
  obtain ⟨rest, k⟩ := l
  subst hrest
  refine ⟨⟨before ++ [c], ?_, ?_, ?_⟩, rfl⟩
  · simpa [Lexer.advance] using htext
  · rw [String.utf8Len_append, String.Pos.Raw.ext_iff, String.Pos.Raw.byteIdx_add_char]
    simp
  · rw [Caret.after_append, ← hcaret]
    rfl

/-- Characters that are skipped are those between the bytes before and after. -/
theorem skip (h : l.At text p) (n : Nat) :
    ∃ p', (l.skip n).At text p' ∧ p.extract text p' = .ofList (l.rest.take n) := by
  obtain ⟨before, htext, rfl, hcaret⟩ := h
  refine ⟨⟨utf8Len before + utf8Len (l.rest.take n)⟩,
    ⟨before ++ l.rest.take n, ?_, ?_, ?_⟩, ?_⟩
  · rw [List.append_assoc, Lexer.skip, List.take_append_drop, htext]
  · rw [String.utf8Len_append]
  · rw [Lexer.skip, hcaret, Caret.after_append]
  · rw [text_eq htext, ← List.take_append_drop n l.rest, ← List.append_assoc]
    simpa using String.extract_of_valid before (l.rest.take n) (l.rest.drop n)

/-- Nothing is left when all bytes have been passed. -/
theorem isEmpty_iff (h : l.At text p) : l.isEmpty = true ↔ text.utf8ByteSize ≤ p.byteIdx := by
  obtain ⟨before, htext, rfl, -⟩ := h
  rw [text_eq htext, String.utf8ByteSize_ofList, String.utf8Len_append, Lexer.isEmpty,
    List.isEmpty_iff, ← String.utf8Len_eq_zero]
  show _ ↔ utf8Len before + utf8Len l.rest ≤ utf8Len before
  omega

theorem skipBlanks (h : l.At text p) : ∃ p', l.skipBlanks.At text p' := by
  rw [skipBlanks_eq, advanceWhile_eq]
  exact (h.skip _).imp fun _ => And.left

theorem afterError (h : l.At text p) (e : LexError) : ∃ p', (l.afterError e).At text p' := by
  cases e with
  | trailingDot => exact (h.skip _).imp fun _ => And.left
  | notStartOfToken | unexpectedEnd => exact ⟨p, h⟩

theorem line_and_column_le (h : l.At text p) :
    l.caret.line ≤ 1 + text.length ∧ l.caret.column ≤ 1 + text.length := by
  obtain ⟨before, htext, -, hcaret⟩ := h
  have hle : before.length ≤ text.length := by
    rw [← String.length_toList, htext, List.length_append]
    exact Nat.le_add_right _ _
  have hline := Caret.line_after_origin_le before
  have hcolumn := Caret.column_after_origin_le before
  rw [hcaret]
  omega

end At

/-! ### Reading -/

/-- Reads a number: digits, and if there is a dot, the digits after it. -/
def readNumber (l : Lexer) : Except LexError TokenKind × Lexer :=
  let dot := l.advanceWhile Char.isDigit
  if dot.rest.head? = some '.' then
    let fraction := dot.advance
    let stop := fraction.advanceWhile Char.isDigit
    if stop.rest.length = fraction.rest.length then (.error (.trailingDot dot.caret), stop)
    else (.ok number, stop)
  else (.ok number, dot)

/-- Reads the text of a token, and tells its kind. -/
def readKind (l : Lexer) : Except LexError TokenKind × Lexer :=
  match l.rest with
  | [] => (.error (.unexpectedEnd l.caret), l)
  | c :: cs =>
    if c = '/' ∧ cs.head? = some '/' then (.ok .comment, l.advanceWhile (· ≠ '\n'))
    else if c.isDigit then l.readNumber
    else if isWordStart c then (.ok .identifier, l.advance.advanceWhile isXidContinue)
    else if isSign c then (.ok .punctuator, l.advance)
    else (.error (.notStartOfToken l.caret c), l)

/-- The steps of a number are as many as its length, or go past its dot. -/
theorem readNumber_eq (l : Lexer) :
    l.readNumber =
      match numberLength? l.rest with
      | some n => (.ok number, l.skip n)
      | none =>
        (.error (.trailingDot (l.caret.after (l.rest.takeWhile Char.isDigit))),
          l.skip ((l.rest.takeWhile Char.isDigit).length + 1)) := by
  generalize hds : l.rest.takeWhile Char.isDigit = ds
  have hcaret : (l.skip ds.length).caret = l.caret.after ds := by
    rw [skip, ← hds, take_length_takeWhile]
  simp only [readNumber, advanceWhile_eq, hds, hcaret]
  by_cases hd : (l.skip ds.length).rest.head? = some '.'
  · obtain ⟨es, hes⟩ := List.head?_eq_some_iff.mp hd
    have hdrop : l.rest.drop ds.length = '.' :: es := hes
    have hfraction : (l.skip ds.length).advance = l.skip (ds.length + 1) := by
      rw [skip_add, skip_succ, skip_zero]
    have hrest : (l.skip (ds.length + 1)).rest = es := by
      rw [← hfraction, advance, hes]
    have hle := (List.takeWhile_prefix Char.isDigit (l := es)).length_le
    generalize hm : (es.takeWhile Char.isDigit).length = m at hle
    have hstop : (l.skip (ds.length + 1 + m)).rest.length = es.length - m := by
      rw [skip_add, skip, hrest, List.length_drop]
    have hlength : numberLength? l.rest = if m = 0 then none else some (ds.length + 1 + m) := by
      simp only [numberLength?, hds, hdrop, hm]
    simp only [if_pos hd, hfraction, hrest, hm, ← skip_add, hstop, hlength]
    -- nothing was read after the dot if nothing less is left
    by_cases hzero : m = 0
    · rw [if_pos hzero, if_pos (by omega), hzero]
    · rw [if_neg hzero, if_neg (by omega)]
  · have hlength : numberLength? l.rest = some ds.length := by
      simp only [numberLength?, hds]
      split
      · next es hes => exact absurd (congrArg List.head? hes) hd
      · rfl
    rw [if_neg hd, hlength]

/-- What is looked up is what is read. -/
theorem readKind_eq (l : Lexer) :
    l.readKind =
      match l.next with
      | .ok (kind, n) => (.ok kind, l.skip n)
      | .error e => (.error e, l.afterError e) := by
  obtain ⟨_ | ⟨c, cs⟩, k⟩ := l
  · rfl
  by_cases hcomment : c = '/' ∧ cs.head? = some '/'
  · simp only [readKind, if_pos hcomment, advanceWhile_eq]
    obtain ⟨rfl, hcs⟩ := hcomment
    obtain ⟨cs, rfl⟩ := List.head?_eq_some_iff.mp hcs
    rfl
  rw [next_of_cons rfl hcomment]
  simp only [readKind, if_neg hcomment, readNumber_eq]
  cases c.isDigit with
  | true =>
      cases numberLength? (c :: cs) <;> rfl
  | false =>
      cases isWordStart c with
      | true => simp [advanceWhile_eq, advance_cons, skip_succ, Nat.add_comm 1]
      | false => cases isSign c <;> rfl

/-- **Reading.** -/
theorem At.token_eq (h : l.At text p) :
    ∃ p' p'', l.readKind.2.At text p' ∧ l.token.2.At text p'' ∧
      l.token =
        match l.readKind.1 with
        | .ok kind => (.ok (.ofText kind (p.extract text p') l.caret),
            l.readKind.2.advanceWhile isBlank)
        | .error e => (.error e, l.readKind.2) := by
  simp only [token, readKind_eq]
  cases l.next with
  | ok r =>
      obtain ⟨p', hp', htext⟩ := h.skip r.2
      obtain ⟨p'', hp''⟩ := hp'.skipBlanks
      refine ⟨p', p'', hp', hp'', ?_⟩
      rw [htext]
      simp only [skipBlanks_eq]
  | error e =>
      obtain ⟨p', hp'⟩ := h.afterError e
      exact ⟨p', p', hp', hp', rfl⟩

/-- Lexers that come about when the tokens of a text are read one after the other. -/
inductive Reached (text : String) : Lexer → Prop where
  | start : Reached text (ofText text.toList)
  | token {l : Lexer} : Reached text l → Reached text l.token.2

/-- All of them are somewhere in the text. -/
theorem Reached.exists_at (h : Reached text l) : ∃ p, l.At text p := by
  induction h with
  | start => exact (at_zero text).skipBlanks
  | token _ ih =>
      obtain ⟨p, hp⟩ := ih
      obtain ⟨-, p'', -, hp'', -⟩ := hp.token_eq
      exact ⟨p'', hp''⟩

/-! ### Bounds -/

theorem Reached.caret_lt (h : Reached text l) (hlength : text.length < 2 ^ 32 - 1) :
    l.caret.line < 2 ^ 32 ∧ l.caret.column < 2 ^ 32 := by
  obtain ⟨p, hp⟩ := h.exists_at
  have hle := hp.line_and_column_le
  omega

/-- **Bounds.** -/
theorem tokens_lt {ts : List Token} (h : tokens text = .ok ts) (hlength : text.length < 2 ^ 32 - 1)
    {t : Token} (ht : t ∈ ts) :
    t.line < 2 ^ 32 ∧ t.column < 2 ^ 32 ∧ t.endColumn < 2 ^ 32 := by
  obtain ⟨gaps, hl⟩ := exists_layout h
  obtain ⟨i, hi⟩ := List.mem_iff_getElem?.mp ht
  have hend : t.endCaret = Caret.origin.after (before gaps ts i ++ t.text.toList) := by
    rw [Caret.after_append, ← hl.caret_eq i t hi, hl.after_text ht]
  have hle := (hl.before_append_prefix hi).length_le
  rw [String.length_toList] at hle
  have hline : t.line ≤ _ := (congrArg Caret.line hend).trans_le (Caret.line_after_origin_le _)
  have hcolumn : t.endColumn ≤ _ :=
    (congrArg Caret.column hend).trans_le (Caret.column_after_origin_le _)
  have hstart : t.column ≤ t.endColumn := Nat.le_add_right _ _
  omega

end Packrat.Calculator.Lexer
