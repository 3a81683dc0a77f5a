import Packrat.Proofs.Calculator.Relexed

/-!
# Proofs — Calculator — Line ends

Lines that end with a carriage return and a line feed.  A carriage return is white space, so it ends
the text of a token as a line feed does, but for comments: these go on up to the line feed and take
the carriage return with them (`withReturn`).

**Line ends** (`tokens_withReturns`): with carriage returns before its line feeds, a text has the
same tokens at the same carets, but for the comments on lines that are ended, or the same error at
the same caret.  Such comments are not the same (`comment_takes_return`).
-/

namespace Packrat.Calculator

/-- The text with a carriage return before every line feed. -/
def withReturns (cs : List Char) : List Char :=
  cs.flatMap fun c => if c = '\n' then ['\r', '\n'] else [c]

/-- What becomes of a token of a text with that, where `last` is the line that no line feed ends. -/
def withReturn (last : Nat) (t : Token) : Token :=
  if t.kind = .comment ∧ t.caret.line < last then { t with text := t.text ++ "\r" } else t

variable {k : Caret} {kind : TokenKind} {c : Char} {cs after : List Char} {last : Nat}
  {r r' : Except LexError (List Token)} {t : Token}

/-! ### Texts -/

theorem withReturns_lineFeed (cs : List Char) :
    withReturns ('\n' :: cs) = '\r' :: '\n' :: withReturns cs := rfl

theorem withReturns_cons (hc : c ≠ '\n') (cs : List Char) :
    withReturns (c :: cs) = c :: withReturns cs := by
  simp only [withReturns, List.flatMap_cons, if_neg hc, List.singleton_append]

/-- Within a line nothing changes. -/
theorem withReturns_append (hcs : '\n' ∉ cs) (after : List Char) :
    withReturns (cs ++ after) = cs ++ withReturns after := by
  induction cs with
  | nil => rfl
  | cons c cs ih =>
      obtain ⟨hc, hcs⟩ := List.ne_and_not_mem_of_not_mem_cons hcs
      rw [List.cons_append, withReturns_cons (Ne.symm hc), ih hcs, List.cons_append]

/-- The text starts as before, or with a carriage return in place of a line feed. -/
theorem head?_withReturns (h : (withReturns cs).head? = some c) :
    cs.head? = some c ∨ c = '\r' := by
  cases cs with
  | nil => cases h
  | cons d cs =>
      by_cases hd : d = '\n'
      · subst hd
        cases h
        exact .inr rfl
      · rw [withReturns_cons hd] at h
        exact .inl h

/-! ### Tokens -/

theorem withReturn_eq_self_iff :
    withReturn last t = t ↔ (t.kind = .comment → last ≤ t.caret.line) := by
  have hlonger : t.text ++ "\r" ≠ t.text := fun h => by
    simpa using congrArg String.length h
  simp only [withReturn]
  split
  · next h =>
    exact iff_of_false (fun he => hlonger (congrArg Token.text he))
      fun hle => absurd h.2 (Nat.not_lt_of_le (hle h.1))
  · next h => exact iff_of_true rfl fun hk => Nat.le_of_not_lt fun hlt => h ⟨hk, hlt⟩

/-- A comment on a line that is ended. -/
theorem withReturn_of_lt (hlt : k.line < last) :
    withReturn last ⟨.comment, .ofList cs, k, []⟩ =
      ⟨.comment, .ofList (cs ++ ['\r']), k, []⟩ := by
  rw [withReturn, if_pos ⟨rfl, hlt⟩, String.ofList_append]

/-! ### Lexing -/

theorem Lexes.unique (h : Lexes k cs r) (h' : Lexes k cs r') : r = r' :=
  (h.tokensFrom_eq (Nat.le_refl _)).symm.trans (h'.tokensFrom_eq (Nat.le_refl _))

/-- What follows white space is lexed on its own. -/
theorem Lexes.of_blank (hc : isBlank c = true) (h : Lexes k (c :: cs) r) :
    Lexes (k.advance c) cs r := by
  obtain ⟨r', h'⟩ := exists_lexes (k.advance c) cs
  rwa [h.unique (.blank hc h')]

theorem Visible.withReturns (h : Visible cs) : Visible (withReturns cs) := by
  cases cs with
  | nil => exact h
  | cons c cs =>
      have hc : c ≠ '\n' := by
        rintro rfl
        cases h '\n' rfl
      rw [withReturns_cons hc]
      exact h

/-- A text with no line feed ahead of it ends on the line it starts on. -/
theorem line_after_of_not_mem (h : '\n' ∉ cs) : (k.after cs).line = k.line := by
  rw [Caret.after_of_not_mem h]

theorem Fault.withReturns {e : LexError} (h : Fault k cs e) (hv : Visible cs) :
    Fault k (withReturns cs) e := by
  cases h with
  | @noToken c cs hc =>
      have hne : c ≠ '\n' := by
        rintro rfl
        cases hv '\n' rfl
      rw [withReturns_cons hne]
      exact .noToken hc
  | @dot ds cs hne hds hcs =>
      have hline : '\n' ∉ ds := fun hmem => by cases hds '\n' hmem
      rw [withReturns_append hline, withReturns_cons (by decide)]
      refine .dot hne hds fun c hc => ?_
      rcases head?_withReturns hc with hc | rfl
      · exact hcs c hc
      · rfl

/-- A carriage return ends the text of a token, if that is not a comment. -/
theorem EndsBefore.withReturns (h : EndsBefore kind cs after)
    (hk : kind = .comment → after = []) : EndsBefore kind cs (withReturns after) := by
  intro c hc
  rcases head?_withReturns hc with hc' | rfl
  · exact h c hc'
  · refine bounds_of_isBlank (by decide) (fun he => ?_) rfl rfl
    rw [hk he] at hc
    cases hc

/-- The text of a comment may go on with a carriage return. -/
theorem Lexeme.append_return (h : Lexeme kind cs) (hk : kind = .comment) :
    Lexeme .comment (cs ++ ['\r']) := by
  cases h with
  | comment hcs => exact .comment (by simpa using hcs)
  | integer | decimal | word | sign => exact absurd hk (by decide)

/-- A line feed ends the line. -/
theorem line_lt_after_lineFeed (hline : '\n' ∉ cs) (rest : List Char) :
    k.line < ((k.after cs).after ('\n' :: rest)).line := by
  have hfeed : ((k.after cs).advance '\n').line = k.line + 1 := by
    rw [Caret.advance, if_pos rfl, line_after_of_not_mem hline]
  have hle := ((k.after cs).advance '\n').le_after rest
  rw [Caret.le_def] at hle
  rw [Caret.after_cons]
  omega

/-- A text with a carriage return before every line feed is cut at the same places, but for
comments that end with a line feed: these have one more character. -/
theorem Lexes.withReturns (h : Lexes k cs r) :
    Lexes k (withReturns cs) (r.map (List.map (withReturn (k.after cs).line))) := by
  induction h with
  | nothing => exact .nothing
  | @blank k c cs r hc _ ih =>
      by_cases hfeed : c = '\n'
      · subst hfeed
        exact .blank (by decide) (.blank hc ih)
      · rw [withReturns_cons hfeed]
        exact .blank hc ih
  | @token k kind cs after r hl hv he _ ih =>
      have hline : '\n' ∉ cs := hl.lineFeed_not_mem
      have hmap : ∀ (last : Nat) (t : Token), (r.map (t :: ·)).map (List.map (withReturn last)) =
          (r.map (List.map (withReturn last))).map (withReturn last t :: ·) :=
        fun last t => by cases r <;> rfl
      rw [withReturns_append hline, Caret.after_append, hmap]
      by_cases hended : kind = .comment ∧ after ≠ []
      · -- the carriage return belongs to the comment, and the line feed comes next
        obtain ⟨rfl, hne⟩ := hended
        obtain ⟨c, rest, rfl⟩ := List.exists_cons_of_ne_nil hne
        obtain rfl : c = '\n' := (he c rfl).comment rfl
        rw [withReturn_of_lt (line_lt_after_lineFeed hline rest), withReturns_lineFeed,
          show cs ++ '\r' :: '\n' :: Calculator.withReturns rest =
            (cs ++ ['\r']) ++ '\n' :: Calculator.withReturns rest by simp]
        refine .token (hl.append_return rfl) (hv.append hl.ne_nil) (endsBefore_lineFeed _ _ _) ?_
        rw [Caret.after_append]
        exact Lexes.of_blank (by decide) ih
      · have hlast : kind = .comment → after = [] := fun hk => by
          by_contra hne
          exact hended ⟨hk, hne⟩
        have hself : withReturn ((k.after cs).after after).line
            ⟨kind, .ofList cs, k, []⟩ = ⟨kind, .ofList cs, k, []⟩ := by
          refine withReturn_eq_self_iff.mpr fun hk => ?_
          rw [hlast hk]
          exact Nat.le_of_eq (line_after_of_not_mem hline)
        rw [hself]
        exact .token hl hv (he.withReturns hlast) ih
  | fault hv he => exact .fault hv.withReturns (he.withReturns hv)

/-- **Line ends.**  So the tokens are the same ones if and only if no comment stands before the
last line. -/
theorem tokens_withReturns (text : String) :
    let last := (Caret.origin.after text.toList).line
    let ended := String.ofList (withReturns text.toList)
    Lexer.tokens ended = (Lexer.tokens text).map (List.map (withReturn last)) ∧
      (Lexer.tokens ended = Lexer.tokens text ↔
        ∀ ts, Lexer.tokens text = .ok ts → ∀ t ∈ ts, t.kind = .comment → last ≤ t.caret.line) := by
  intro last ended
  have hended : Lexer.tokens ended = (Lexer.tokens text).map (List.map (withReturn last)) := by
    rw [tokens_eq_iff, String.toList_ofList]
    exact (tokens_eq_iff.mp rfl).withReturns
  refine ⟨hended, ?_⟩
  rw [hended]
  cases Lexer.tokens text with
  | error e => exact iff_of_true rfl fun ts h => by cases h
  | ok ts =>
      have hself : ts.map (withReturn last) = ts ↔ ∀ t ∈ ts, withReturn last t = t := by
        simpa using List.map_inj_left (f := withReturn last) (g := id) (l := ts)
      simp only [Except.map, Except.ok.injEq, hself, withReturn_eq_self_iff, forall_eq']

/-- A comment before a line feed takes the carriage return into its text. -/
theorem comment_takes_return :
    ¬ ∀ text : String, '\r' ∉ text.toList →
      Lexer.tokens (.ofList (withReturns text.toList)) = Lexer.tokens text := by
  intro h
  have hsame : (Except.ok [.ofText .comment "// one\r" ⟨1, 1⟩, .ofText number "2" ⟨2, 1⟩] :
      Except LexError (List Token)) =
        .ok [.ofText .comment "// one" ⟨1, 1⟩, .ofText number "2" ⟨2, 1⟩] :=
    h "// one\n2" (by decide)
  simp [Token.ofText] at hsame

end Packrat.Calculator
