import Packrat.Proofs.Calculator.Lexing

/-!
# Proofs — Calculator — Relexed

Tokens that are read again, each on its own.  A token is `Legible` if its text can be read at the
start of another one.  That the lexer made a token of a text depends on the character after it only
where the text would go on: a line feed ends the text of every token, and a space that of every one
that is not a comment (`bounds_of_isBlank`).

**Relexing** (`tokens_of_lines`): if the texts of the tokens of a source are put on lines of their
own, they are a source with the same tokens, each at the start of its line.
-/

namespace Packrat.Calculator

variable {k : Caret} {kind : TokenKind} {c : Char} {cs after : List Char} {ts : List Token}
  {t : Token}

/-- What the text of a token is like, and that there is nothing else about it. -/
structure Legible (t : Token) : Prop where
  lexeme : Lexeme t.kind t.text.toList
  visible : Visible t.text.toList
  trivia_eq : t.trivia = []

/-- The tokens that are read are legible. -/
theorem Lexes.legible {r : Except LexError (List Token)} (h : Lexes k cs r) (hr : r = .ok ts) :
    ∀ t ∈ ts, Legible t := by
  induction h generalizing ts with
  | nothing =>
      cases hr
      exact List.forall_mem_nil _
  | blank _ _ ih => exact ih hr
  | @token k kind cs after r hl hv _ _ ih =>
      cases r with
      | error e => cases hr
      | ok us =>
          cases hr
          refine List.forall_mem_cons.mpr ⟨⟨?_, ?_, rfl⟩, ih rfl⟩
          · rwa [String.toList_ofList]
          · rwa [String.toList_ofList]
  | fault => cases hr

/-! ### What ends a token -/

/-- White space ends the text of a token, but comments only end with the line. -/
theorem bounds_of_isBlank (hc : isBlank c = true) (hk : kind = .comment → c = '\n')
    (hword : isXidContinue c = false) (hdigit : c.isDigit = false) : Bounds kind cs c where
  comment := hk
  number := fun _ => ⟨hdigit, by rintro rfl; cases hc⟩
  word := fun _ => hword
  sign := fun _ _ => by rintro rfl; cases hc

theorem endsBefore_nil (kind : TokenKind) (cs : List Char) : EndsBefore kind cs [] :=
  fun _ hc => by cases hc

theorem endsBefore_lineFeed (kind : TokenKind) (cs after : List Char) :
    EndsBefore kind cs ('\n' :: after) := fun c hc => by
  cases hc
  exact bounds_of_isBlank (by decide) (fun _ => rfl) rfl rfl

/-! ### Lines -/

/-- The texts of the tokens, with the character between them. -/
def separated (c : Char) (ts : List Token) : List Char :=
  [c].intercalate (chars ts)

theorem toList_intercalate_text (c : Char) (ts : List Token) :
    ((String.singleton c).intercalate (ts.map (·.text))).toList = separated c ts := by
  rw [String.toList_intercalate, List.map_map, String.toList_singleton]
  rfl

theorem separated_cons_cons (c : Char) (t u : Token) (ts : List Token) :
    separated c (t :: u :: ts) = t.text.toList ++ c :: separated c (u :: ts) := by
  simp [separated, chars]

/-- The text of a legible token is read as that token. -/
theorem Legible.lexes_cons (ht : Legible t) (he : EndsBefore t.kind t.text.toList after)
    (h : Lexes (k.after t.text.toList) after (.ok ts)) :
    Lexes k (t.text.toList ++ after) (.ok ({ t with caret := k } :: ts)) := by
  obtain ⟨hl, hv, htrivia⟩ := ht
  have htoken := Lexes.token hl hv he h
  rwa [String.ofList_toList, ← htrivia] at htoken

/-- What is on lines of its own is read at the start of these. -/
theorem lexes_lines (hts : ∀ t ∈ ts, Legible t) (i : Nat) :
    Lexes ⟨i + 1, 1⟩ (separated '\n' ts)
      (.ok (ts.mapIdx fun j t => { t with caret := ⟨i + j + 1, 1⟩ })) := by
  induction ts generalizing i with
  | nil => exact .nothing
  | cons t ts ih =>
      obtain ⟨ht, hts⟩ := List.forall_mem_cons.mp hts
      cases ts with
      | nil =>
          have h := ht.lexes_cons (k := ⟨i + 1, 1⟩) (endsBefore_nil _ _) .nothing
          rw [List.append_nil] at h
          simpa [separated, chars] using h
      | cons u ts =>
          rw [separated_cons_cons, List.mapIdx_cons]
          refine ht.lexes_cons (endsBefore_lineFeed _ _ _) (.blank (by decide) ?_)
          rw [Caret.after_of_not_mem ht.lexeme.lineFeed_not_mem]
          have h := ih hts (i + 1)
          simp only [Nat.add_assoc, Nat.add_comm 1] at h ⊢
          exact h

/-- **Relexing.** -/
theorem tokens_of_lines {text : String} {ts : List Token} (h : Lexer.tokens text = .ok ts) :
    Lexer.tokens ("\n".intercalate (ts.map (·.text))) =
      .ok (ts.mapIdx fun i t => { t with caret := ⟨i + 1, 1⟩ }) := by
  have hlines := lexes_lines ((tokens_eq_iff.mp h).legible rfl) 0
  rw [tokens_eq_iff]
  simp only [Nat.zero_add] at hlines
  rw [show "\n" = String.singleton '\n' from rfl, toList_intercalate_text]
  exact hlines

/-- A comment that contains numbers and strokes, two strokes apart, and a fraction before a word. -/
theorem comment_and_fraction_relexed :
    let text := "x=1.5y // é 3.//\r\n/ /z"
    let ts : List Token := [.ofText .identifier "x" ⟨1, 1⟩, .ofText .punctuator "=" ⟨1, 2⟩,
      .ofText number "1.5" ⟨1, 3⟩, .ofText .identifier "y" ⟨1, 6⟩,
      .ofText .comment "// é 3.//\r" ⟨1, 8⟩, .ofText .punctuator "/" ⟨2, 1⟩,
      .ofText .punctuator "/" ⟨2, 3⟩, .ofText .identifier "z" ⟨2, 4⟩]
    Lexer.tokens text = .ok ts ∧
      Lexer.tokens "x\n=\n1.5\ny\n// é 3.//\r\n/\n/\nz" =
        .ok (ts.mapIdx fun i t => { t with caret := ⟨i + 1, 1⟩ }) := by
  intro text ts
  have h : Lexer.tokens text = .ok ts := by
    subst text ts
    rfl
  exact ⟨h, tokens_of_lines h⟩

end Packrat.Calculator
