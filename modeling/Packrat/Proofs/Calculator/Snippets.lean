import Packrat.Proofs.Calculator.Layout
import Packrat.Proofs.Diagnostic.Snippet
import Packrat.Proofs.Events.Recognition

/-!
# Proofs — Calculator — Snippets

Labels on tokens.  A token stands on one line of its source, after as many characters as its caret
says, whatever white space there is before it: only line feeds start a line, for the lexer as for
the list of lines.  Where lines are listed without a carriage return at their end, that may be the
last character of a comment, but of no other token.

**Snippets** (`snippet_marks_token`): a label on a token quotes the token's line and marks the
token, and a token that was not expected has such a label.
-/

namespace Packrat.Calculator

variable {text : String} {tokens : List Token} {t : Token}

/-- A token stands on a line, where its span marks it. -/
theorem exists_marks (h : Lexer.tokens text = .ok tokens) (ht : t ∈ tokens) :
    ∃ above start rest below, StandsOnLine text.toList above start t.text.toList rest below ∧
      t.caret = ⟨above.length + 1, start.length + 1⟩ ∧
      t.span.Marks above.length start t.text.toList := by
  obtain ⟨gaps, hl⟩ := Lexer.exists_layout h
  obtain ⟨i, hi⟩ := List.mem_iff_getElem?.mp ht
  obtain ⟨post, hpost⟩ := hl.before_append_prefix hi
  obtain ⟨above, start, rest, below, hstands, hcaret⟩ :=
    exists_standsOnLine (hl.lexeme t ht).lineFeed_not_mem (before gaps tokens i) post
  have hcaret : t.caret = ⟨above.length + 1, start.length + 1⟩ := (hl.caret_eq i t hi).trans hcaret
  refine ⟨above, start, rest, below, hpost ▸ hstands, hcaret, ⟨?_, ?_⟩⟩
  · rw [t.start_span, hcaret]
  · rw [t.stop_span, Token.endCaret, Token.endColumn, Token.line, Token.column, hcaret,
      String.length_toList]

/-- A token is listed with all its characters, unless it is a comment at the end of a line that is
ended by a carriage return and a line feed. -/
theorem pieceAsListed_text (h : Lexer.tokens text = .ok tokens) (ht : t ∈ tokens)
    (rest below : List Char) :
    pieceAsListed t.text.toList rest below = t.text.toList ∨
      t.kind = .comment ∧ rest = [] ∧ below ≠ [] ∧
        t.text.toList = pieceAsListed t.text.toList rest below ++ ['\r'] := by
  obtain ⟨gaps, hl⟩ := Lexer.exists_layout h
  simp only [pieceAsListed, asListed]
  split
  · next hrest =>
    split
    · exact .inl rfl
    · next hbelow =>
      by_cases hk : t.kind = .comment
      · by_cases hlast : t.text.toList.getLast? = some '\r'
        · refine .inr ⟨hk, hrest, hbelow, ?_⟩
          rw [dropReturn, if_pos hlast, List.dropLast_append_getLast? _ hlast]
        · exact .inl (if_neg hlast)
      · exact .inl (dropReturn_of_not_mem ((hl.lexeme t ht).return_not_mem hk))
  · exact .inl rfl

/-- The token of an error is the one at the error's position. -/
theorem mem_of_recognition {g : Grammar} {cfg : Config} {listening : Bool} {p : Nat} {k : Caret}
    (h : (g.parse cfg listening tokens).result = .error (.recognition p (some t) k)) :
    t ∈ tokens := by
  have hfound : ∃ q, ParseError.unrecognised tokens q = .recognition p (some t) k := by
    simp only [Grammar.parse] at h
    generalize attemptWith cfg g.rules g.root (.start tokens listening) = e at h
    rcases e with ⟨(_ | _) | r, s⟩
    · exact ⟨_, Except.error.inj h⟩
    · cases h
    · simp only [Grammar.verdict] at h
      split at h
      · cases h
      · exact ⟨_, Except.error.inj h⟩
  obtain ⟨q, hq⟩ := hfound
  exact List.mem_of_getElem? (ParseError.eq_of_unrecognised hq).2.1.symm

/-- **Snippets.** -/
theorem snippet_marks_token (h : Lexer.tokens text = .ok tokens) :
    (∀ t ∈ tokens, ∃ above start rest below,
      StandsOnLine text.toList above start t.text.toList rest below ∧
      t.caret = ⟨above.length + 1, start.length + 1⟩ ∧
      (pieceAsListed t.text.toList rest below = t.text.toList ∨
        t.kind = .comment ∧ rest = [] ∧ below ≠ [] ∧
          t.text.toList = pieceAsListed t.text.toList rest below ++ ['\r']) ∧
      ∀ (l : Packrat.Layout) (gutter : Nat) (message : Option String),
        Terminal.snippet l (textLines text.toList) gutter ⟨t.span, message⟩ =
          Terminal.margin l gutter (some (above.length + 1)) ++
            [.text (" " ++ .ofList (asListed below (start ++ t.text.toList ++ rest)) ++ "\n")] ++
            Terminal.margin l gutter none ++
            [.text (" " ++ blanks (textWidth start)), .paint ⟨some .yellow, true, false⟩,
              .text (.ofList (List.replicate
                (max 1 (textWidth (pieceAsListed t.text.toList rest below))) l.glyphs.marker)),
              .reset] ++
            message.elim []
              (fun m => [.paint ⟨some .blue, false, false⟩, .text (" " ++ m), .reset]) ++
            [.text "\n"]) ∧
    ∀ (g : Grammar) (cfg : Config) (listening : Bool) (p : Nat) (t : Token) (k : Caret),
      (g.parse cfg listening tokens).result = .error (.recognition p (some t) k) →
        t ∈ tokens ∧ (ParseError.recognition p (some t) k).diagnostic.labels =
          [⟨t.span, some "not expected here"⟩] := by
  refine ⟨fun t ht => ?_, fun g cfg listening p t k he => ⟨mem_of_recognition he, rfl⟩⟩
  obtain ⟨gaps, hl⟩ := Lexer.exists_layout h
  obtain ⟨above, start, rest, below, hstands, hcaret, hmarks⟩ := exists_marks h ht
  refine ⟨above, start, rest, below, hstands, hcaret, pieceAsListed_text h ht rest below, ?_⟩
  exact Terminal.snippet_of_standsOnLine hstands (hl.lexeme t ht).ne_nil hmarks

/-- A comment that ends with a carriage return, and a sign that was not expected before it. -/
theorem comment_and_unexpected_sign_marked :
    let text := "x =\t2 // é\r\n+ 1\n"
    let sign : Token := .ofText .punctuator "=" ⟨1, 3⟩
    let comment : Token := .ofText .comment "// é\r" ⟨1, 7⟩
    let tokens : List Token := [.ofText .identifier "x" ⟨1, 1⟩, sign, .ofText number "2" ⟨1, 5⟩,
      comment, .ofText .punctuator "+" ⟨2, 1⟩, .ofText number "1" ⟨2, 3⟩]
    let g : Grammar := ⟨⟨0, .ofKind .identifier⟩, [], []⟩
    Lexer.tokens text = .ok tokens ∧
      (∃ above start rest below,
        StandsOnLine text.toList above start comment.text.toList rest below ∧
        comment.caret = ⟨above.length + 1, start.length + 1⟩) ∧
      (g.parse ⟨false, 1⟩ false tokens).result = .error (.recognition 1 (some sign) ⟨1, 3⟩) ∧
      sign ∈ tokens := by
  intro text sign comment tokens g
  have htokens : Lexer.tokens text = .ok tokens := by
    subst text tokens
    rfl
  have herror : (g.parse ⟨false, 1⟩ false tokens).result =
      .error (.recognition 1 (some sign) ⟨1, 3⟩) := rfl
  obtain ⟨hmarked, hfound⟩ := snippet_marks_token htokens
  have hcomment : comment ∈ tokens :=
    List.mem_of_getElem? (show tokens[3]? = some comment from rfl)
  obtain ⟨above, start, rest, below, hstands, hcaret, -⟩ := hmarked comment hcomment
  exact ⟨htokens, ⟨above, start, rest, below, hstands, hcaret⟩, herror,
    (hfound g _ _ _ _ _ herror).1⟩

end Packrat.Calculator
