import Packrat.Proofs.Calculator.Layout

/-!
# Proofs — Calculator — Lexing

What the lexer reads, without the lexer.  `EndsBefore kind cs after` says that the text of a token
does not go on with what comes after it, which only depends on the next character.  `Fault` says
that no token can be read, and why.  What is read next is a lexeme that does not go on
(`next_of_lexeme`), and if there is none there is a fault (`exists_lexeme_or_fault`).

`Lexes` cuts a whole text into white space and tokens, up to its end or to a fault.

**Lexing** (`tokens_eq_iff`): every text is cut in one way only, and it is the lexer's.
-/

namespace Packrat.Calculator

open Lexer

/-- The character right after the text of a token is not part of it. -/
structure Bounds (kind : TokenKind) (cs : List Char) (c : Char) : Prop where
  comment : kind = .comment → c = '\n'
  number : kind = number → c.isDigit = false ∧ (c = '.' → '.' ∈ cs)
  word : kind = .identifier → isXidContinue c = false
  sign : kind = .punctuator → cs = ['/'] → c ≠ '/'

/-- The text of a token does not go on with what comes after it. -/
def EndsBefore (kind : TokenKind) (cs after : List Char) : Prop :=
  ∀ c, after.head? = some c → Bounds kind cs c

/-- No token can be read of a text that starts at the caret. -/
inductive Fault (k : Caret) : List Char → LexError → Prop where
  | noToken {c : Char} {cs : List Char} : (∀ kind ds, ¬ Lexeme kind (c :: ds)) →
      Fault k (c :: cs) (.notStartOfToken k c)
  | dot {ds cs : List Char} : ds ≠ [] → (∀ d ∈ ds, d.isDigit = true) →
      (∀ c, cs.head? = some c → c.isDigit = false) →
      Fault k (ds ++ '.' :: cs) (.trailingDot (k.after ds))

variable {l : Lexer} {k : Caret} {kind : TokenKind} {n : Nat} {c : Char} {e : LexError}
  {cs ds es after after' : List Char}

/-! ### Characters -/

theorem takeWhile_append_eq {p : Char → Bool} (hcs : ∀ c ∈ cs, p c = true)
    (hafter : ∀ c, after.head? = some c → p c = false) : (cs ++ after).takeWhile p = cs := by
  rw [List.takeWhile_append_of_pos hcs]
  cases after with
  | nil => rw [List.takeWhile_nil, List.append_nil]
  | cons c after =>
      rw [List.takeWhile_cons_of_neg (by simp [hafter c rfl]), List.append_nil]

/-- A text starts with the characters of a sort up to the first that is not. -/
theorem exists_span (p : Char → Bool) (cs : List Char) :
    ∃ ds after, cs = ds ++ after ∧ (∀ c ∈ ds, p c = true) ∧
      ∀ c, after.head? = some c → p c = false := by
  refine ⟨cs.takeWhile p, cs.dropWhile p, List.takeWhile_append_dropWhile.symm,
    fun _ => List.mem_takeWhile_imp, fun c hc => ?_⟩
  have hnot := List.head?_dropWhile_not p cs
  rwa [hc] at hnot

/-- Only digits, words, signs and the strokes of a comment start a token. -/
theorem no_lexeme_iff :
    (∀ kind cs, ¬ Lexeme kind (c :: cs)) ↔
      c.isDigit = false ∧ isWordStart c = false ∧ isSign c = false := by
  constructor
  · intro h
    have hd : c.isDigit = false := by
      by_contra hd
      exact h number [] (.integer (List.cons_ne_nil _ _) (by simpa using hd))
    have hw : isWordStart c = false := by
      by_contra hw
      exact h .identifier [] (.word (by simpa using hw) hd (List.forall_mem_nil _))
    refine ⟨hd, hw, ?_⟩
    by_contra hs
    exact h .punctuator [] (.sign (by simpa using hs) hw hd)
  · rintro ⟨hd, hw, hs⟩ kind cs h
    have hdigit : ∀ ds : List Char, ds.head? = some c → ¬ ∀ d ∈ ds, d.isDigit = true :=
      fun ds hc h => by simp [h c (List.mem_of_head? hc)] at hd
    generalize ht : c :: cs = text at h
    cases h with
    | comment =>
        cases ht
        exact absurd hs (by decide)
    | integer _ hds => exact hdigit _ (by rw [← ht]; rfl) hds
    | @decimal ds es hne hds =>
        obtain ⟨d, ds, rfl⟩ := List.exists_cons_of_ne_nil hne
        cases ht
        exact hdigit _ rfl hds
    | word hw' =>
        cases ht
        simp [hw'] at hw
    | sign hs' =>
        cases ht
        simp [hs'] at hs

/-! ### What is read next -/

namespace Lexer

theorem numberLength?_integer (hds : ∀ c ∈ ds, c.isDigit = true)
    (ha : ∀ c, after.head? = some c → c.isDigit = false ∧ c ≠ '.') :
    numberLength? (ds ++ after) = some ds.length := by
  have hspan := takeWhile_append_eq hds fun c hc => (ha c hc).1
  simp only [numberLength?, hspan, List.drop_left]
  split
  · exact absurd rfl (ha '.' rfl).2
  · rfl

/-- After a dot, the number goes on with all digits that follow. -/
theorem numberLength?_dot (hds : ∀ c ∈ ds, c.isDigit = true) (hes : ∀ c ∈ es, c.isDigit = true)
    (ha : ∀ c, after.head? = some c → c.isDigit = false) :
    numberLength? (ds ++ '.' :: (es ++ after)) =
      if es = [] then none else some (ds ++ '.' :: es).length := by
  have hspan : (ds ++ '.' :: (es ++ after)).takeWhile Char.isDigit = ds :=
    takeWhile_append_eq hds fun c hc => by cases hc; rfl
  simp only [numberLength?, hspan, List.drop_left, takeWhile_append_eq hes ha,
    List.length_eq_zero_iff, List.length_append, List.length_cons, Nat.add_assoc, Nat.add_comm 1]

/-- What does not start like a comment is told by its first character. -/
theorem next_of_cons (hl : l.rest = c :: cs) (hc : ¬ (c = '/' ∧ cs.head? = some '/')) :
    l.next =
      if c.isDigit then
        match numberLength? (c :: cs) with
        | some n => .ok (number, n)
        | none => .error (.trailingDot (l.caret.after (l.rest.takeWhile Char.isDigit)))
      else if isWordStart c then .ok (.identifier, 1 + (cs.takeWhile isXidContinue).length)
      else if isSign c then .ok (.punctuator, 1)
      else .error (.notStartOfToken l.caret c) := by
  simp only [next, hl]
  split
  · next he => cases he
  · next he =>
    cases he
    exact absurd ⟨rfl, rfl⟩ hc
  · next he =>
    cases he
    rfl

/-- Numbers are told by their first digit. -/
theorem next_of_digits (hne : ds ≠ []) (hds : ∀ d ∈ ds, d.isDigit = true)
    (hl : l.rest = ds ++ after) :
    l.next =
      match numberLength? (ds ++ after) with
      | some n => .ok (number, n)
      | none => .error (.trailingDot (l.caret.after (l.rest.takeWhile Char.isDigit))) := by
  obtain ⟨d, ds, rfl⟩ := List.exists_cons_of_ne_nil hne
  have hd : d.isDigit = true := hds d List.mem_cons_self
  have hslash : ¬ (d = '/' ∧ (ds ++ after).head? = some '/') := by
    rintro ⟨rfl, -⟩
    cases hd
  rw [List.cons_append] at hl ⊢
  rw [next_of_cons hl hslash, if_pos hd]

/-- **Longest match.** -/
theorem next_of_lexeme (h : Lexeme kind cs) (he : EndsBefore kind cs after)
    (hl : l.rest = cs ++ after) : l.next = .ok (kind, cs.length) := by
  cases h with
  | @comment cs hcs =>
      have hspan : ('/' :: '/' :: cs ++ after).takeWhile (fun c => c ≠ '\n') = '/' :: '/' :: cs :=
        takeWhile_append_eq (by simpa using fun c hc => ne_of_mem_of_not_mem hc hcs)
          fun c hc => by simp [(he c hc).comment rfl]
      simp only [next, hl, List.cons_append] at hspan ⊢
      rw [hspan]
  | integer hne hds =>
      have hbounds : ∀ c, after.head? = some c → c.isDigit = false ∧ c ≠ '.' := fun c hc => by
        obtain ⟨hc, hdot⟩ := (he c hc).number rfl
        exact ⟨hc, fun h => by cases hds '.' (hdot h)⟩
      rw [next_of_digits hne hds hl, numberLength?_integer hds hbounds]
  | @decimal ds es hne hds hne' hes =>
      have hl' : l.rest = ds ++ '.' :: (es ++ after) := by rw [hl, List.append_assoc]; rfl
      rw [next_of_digits hne hds hl',
        numberLength?_dot hds hes fun c hc => ((he c hc).number rfl).1, if_neg hne']
  | @word c cs hw hd hcs =>
      have hslash : ¬ (c = '/' ∧ (cs ++ after).head? = some '/') := by
        rintro ⟨rfl, -⟩
        cases hw
      rw [List.cons_append] at hl
      rw [next_of_cons hl hslash, if_neg (by simp [hd]), if_pos hw,
        takeWhile_append_eq hcs fun c hc => (he c hc).word rfl, List.length_cons, Nat.add_comm]
  | @sign c hs hw hd =>
      have hslash : ¬ (c = '/' ∧ after.head? = some '/') := by
        rintro ⟨rfl, h⟩
        exact (he _ h).sign rfl rfl rfl
      rw [next_of_cons hl hslash, if_neg (by simp [hd]), if_neg (by simp [hw]), if_pos hs]
      rfl

/-- The text of the token is what is taken from the text that is left. -/
theorem token_of_lexeme (h : Lexeme kind cs) (he : EndsBefore kind cs after) :
    (⟨cs ++ after, k⟩ : Lexer).token =
      (.ok ⟨kind, .ofList cs, k, []⟩, skipBlanks ⟨after, k.after cs⟩) := by
  have hnext := next_of_lexeme (l := ⟨cs ++ after, k⟩) h he rfl
  simp only [token, hnext, skip, List.take_left, List.drop_left, Token.ofText]

theorem next_of_fault (h : Fault l.caret l.rest e) : l.next = .error e := by
  generalize hk : l.caret = k, hl : l.rest = text at h
  cases h with
  | @noToken c cs hc =>
      obtain ⟨hd, hw, hs⟩ := no_lexeme_iff.mp hc
      have hslash : ¬ (c = '/' ∧ cs.head? = some '/') := by
        rintro ⟨rfl, -⟩
        cases hs
      rw [next_of_cons hl hslash, if_neg (by simp [hd]), if_neg (by simp [hw]),
        if_neg (by simp [hs]), hk]
  | @dot ds cs hne hds hcs =>
      have hspan : (ds ++ '.' :: cs).takeWhile Char.isDigit = ds :=
        takeWhile_append_eq hds fun c hc => by cases hc; rfl
      have hlength := numberLength?_dot hds (List.forall_mem_nil _) hcs
      rw [next_of_digits hne hds hl, ← List.nil_append cs, hlength, if_pos rfl]
      simp only [hl, hk, hspan]

theorem token_of_fault (h : Fault l.caret l.rest e) : l.token = (.error e, l.afterError e) := by
  simp only [token, next_of_fault h]

end Lexer

theorem bounds_number (h : c.isDigit = false) (hdot : c = '.' → '.' ∈ cs) : Bounds number cs c where
  comment := fun hk => absurd hk (by decide)
  number := fun _ => ⟨h, hdot⟩
  word := fun hk => absurd hk (by decide)
  sign := fun hk => absurd hk (by decide)

/-- A number, or a fault after its digits. -/
theorem exists_number_or_fault (k : Caret) (hc : c.isDigit = true) (cs : List Char) :
    (∃ ds after, c :: cs = ds ++ after ∧ Lexeme number ds ∧ EndsBefore number ds after) ∨
      ∃ e, Fault k (c :: cs) e := by
  obtain ⟨ds, after, hcs, hds, hafter⟩ := exists_span Char.isDigit (c :: cs)
  have hne : ds ≠ [] := by
    rintro rfl
    have hafter := hafter c (by rw [← List.nil_append after, ← hcs]; rfl)
    rw [hc] at hafter
    cases hafter
  by_cases hdot : after.head? = some '.'
  · obtain ⟨rest, rfl⟩ := List.head?_eq_some_iff.mp hdot
    obtain ⟨es, after, rfl, hes, hrest⟩ := exists_span Char.isDigit rest
    by_cases hempty : es = []
    · subst hempty
      rw [hcs]
      exact .inr ⟨_, .dot hne hds hrest⟩
    · refine .inl ⟨ds ++ '.' :: es, after, by rw [hcs, List.append_assoc]; rfl,
        .decimal hne hds hempty hes, fun x hx => bounds_number (hrest x hx) fun _ => by simp⟩
  · refine .inl ⟨ds, after, hcs, .integer hne hds, fun x hx => bounds_number (hafter x hx) ?_⟩
    rintro rfl
    exact absurd hx hdot

theorem exists_lexeme_or_fault (k : Caret) (hne : cs ≠ []) :
    (∃ kind ds after, cs = ds ++ after ∧ Lexeme kind ds ∧ EndsBefore kind ds after) ∨
      ∃ e, Fault k cs e := by
  obtain ⟨c, cs, rfl⟩ := List.exists_cons_of_ne_nil hne
  by_cases hcomment : c = '/' ∧ cs.head? = some '/'
  · obtain ⟨rfl, hcs⟩ := hcomment
    obtain ⟨cs, rfl⟩ := List.head?_eq_some_iff.mp hcs
    obtain ⟨ds, after, rfl, hds, hafter⟩ := exists_span (· ≠ '\n') cs
    refine .inl ⟨.comment, '/' :: '/' :: ds, after, rfl, .comment fun h => ?_, fun x hx => ?_⟩
    · simpa using hds _ h
    · exact ⟨fun _ => by simpa using hafter x hx, fun hk => absurd hk (by decide),
        fun hk => absurd hk (by decide), fun hk => absurd hk (by decide)⟩
  cases hd : c.isDigit with
  | true => exact (exists_number_or_fault k hd cs).imp_left fun ⟨ds, after, h⟩ => ⟨_, ds, after, h⟩
  | false =>
      cases hw : isWordStart c with
      | true =>
          obtain ⟨ds, after, rfl, hds, hafter⟩ := exists_span isXidContinue cs
          refine .inl ⟨.identifier, c :: ds, after, rfl, .word hw hd hds, fun x hx => ?_⟩
          exact ⟨fun hk => absurd hk (by decide), fun hk => absurd hk (by decide),
            fun _ => hafter x hx, fun hk => absurd hk (by decide)⟩
      | false =>
          cases hs : isSign c with
          | true =>
              refine .inl ⟨.punctuator, [c], cs, rfl, .sign hs hw hd, fun x hx => ?_⟩
              refine ⟨fun hk => absurd hk (by decide), fun hk => absurd hk (by decide),
                fun hk => absurd hk (by decide), fun _ hc => ?_⟩
              rintro rfl
              exact hcomment ⟨List.head_eq_of_cons_eq hc, hx⟩
          | false => exact .inr ⟨_, .noToken (no_lexeme_iff.mpr ⟨hd, hw, hs⟩)⟩

/-! ### Whole texts -/

/-- The text does not start with white space. -/
def Visible (cs : List Char) : Prop :=
  ∀ c, cs.head? = some c → isBlank c = false

/-- A text that starts at a caret, and what its tokens are, or the fault it has. -/
inductive Lexes : Caret → List Char → Except LexError (List Token) → Prop where
  | nothing {k : Caret} : Lexes k [] (.ok [])
  | blank {k : Caret} {c : Char} {cs : List Char} {r : Except LexError (List Token)} :
      isBlank c = true → Lexes (k.advance c) cs r → Lexes k (c :: cs) r
  | token {k : Caret} {kind : TokenKind} {cs after : List Char}
      {r : Except LexError (List Token)} :
      Lexeme kind cs → Visible cs → EndsBefore kind cs after → Lexes (k.after cs) after r →
      Lexes k (cs ++ after) (r.map (⟨kind, .ofList cs, k, []⟩ :: ·))
  | fault {k : Caret} {cs : List Char} {e : LexError} :
      Visible cs → Fault k cs e → Lexes k cs (.error e)

/-- Every text can be cut. -/
theorem exists_lexes (k : Caret) (cs : List Char) : ∃ r, Lexes k cs r := by
  induction hn : cs.length using Nat.strong_induction_on generalizing k cs with
  | _ n ih =>
    subst hn
    cases cs with
    | nil => exact ⟨_, .nothing⟩
    | cons c cs =>
        cases hblank : isBlank c with
        | true =>
            obtain ⟨r, hr⟩ := ih cs.length (Nat.lt_succ_self _) (k.advance c) cs rfl
            exact ⟨r, .blank hblank hr⟩
        | false =>
            have hvisible : Visible (c :: cs) := fun x hx => by cases hx; exact hblank
            rcases exists_lexeme_or_fault k (List.cons_ne_nil c cs) with
              ⟨kind, ds, after, hcs, hl, he⟩ | ⟨e, he⟩
            · have hlt : 0 < ds.length := List.length_pos_iff.mpr hl.ne_nil
              obtain ⟨r, hr⟩ := ih after.length
                (by rw [hcs, List.length_append]; omega) (k.after ds) after rfl
              rw [hcs] at hvisible ⊢
              refine ⟨_, .token hl (fun x hx => hvisible x ?_) he hr⟩
              rw [List.head?_append, hx, Option.some_or]
            · exact ⟨_, .fault hvisible he⟩

theorem Lexer.skipBlanks_of_visible (h : Visible cs) : skipBlanks ⟨cs, k⟩ = ⟨cs, k⟩ := by
  cases cs with
  | nil => rfl
  | cons c cs =>
      have hc : isBlank c = false := h c rfl
      simp [skipBlanks, hc, Caret.after]

theorem Visible.append (h : Visible cs) (hne : cs ≠ []) : Visible (cs ++ after) := by
  obtain ⟨c, cs, rfl⟩ := List.exists_cons_of_ne_nil hne
  exact h

theorem Fault.ne_nil (h : Fault k cs e) : cs ≠ [] := by
  cases h with
  | noToken => exact List.cons_ne_nil _ _
  | dot => simp

/-- The lexer cuts a text like that, if it may read enough tokens. -/
theorem Lexes.tokensFrom_eq {r : Except LexError (List Token)} (h : Lexes k cs r) :
    ∀ {fuel : Nat}, cs.length ≤ fuel → tokensFrom fuel (skipBlanks ⟨cs, k⟩) = r := by
  induction h with
  | nothing => intro fuel _; cases fuel <;> rfl
  | @blank k c cs r hc _ ih =>
      intro fuel hfuel
      have hskip : skipBlanks ⟨c :: cs, k⟩ = skipBlanks ⟨cs, k.advance c⟩ := by
        simp [skipBlanks, hc, Caret.after]
      rw [hskip]
      exact ih (Nat.le_of_succ_le hfuel)
  | @token k kind cs after r hl hv he _ ih =>
      intro fuel hfuel
      have hlt : 0 < cs.length := List.length_pos_iff.mpr hl.ne_nil
      rw [List.length_append] at hfuel
      obtain ⟨fuel, rfl⟩ := Nat.exists_eq_add_one_of_ne_zero (n := fuel) (by omega)
      rw [skipBlanks_of_visible (hv.append hl.ne_nil)]
      have hempty : (⟨cs ++ after, k⟩ : Lexer).isEmpty = false := by simp [isEmpty, hl.ne_nil]
      have hfuel : after.length ≤ fuel := by omega
      simp only [tokensFrom, hempty, token_of_lexeme hl he, ih hfuel]
      cases r <;> rfl
  | @fault k cs e hv he =>
      intro fuel hfuel
      have hlt : 0 < cs.length := List.length_pos_iff.mpr he.ne_nil
      obtain ⟨fuel, rfl⟩ := Nat.exists_eq_add_one_of_ne_zero (n := fuel) (by omega)
      rw [skipBlanks_of_visible hv]
      have hempty : (⟨cs, k⟩ : Lexer).isEmpty = false := by simp [isEmpty, he.ne_nil]
      simp only [tokensFrom, hempty, token_of_fault (l := ⟨cs, k⟩) he]
      rfl

/-- **Lexing.** -/
theorem tokens_eq_iff {text : String} {r : Except LexError (List Token)} :
    Lexer.tokens text = r ↔ Lexes .origin text.toList r := by
  obtain ⟨r', h⟩ := exists_lexes .origin text.toList
  have htokens : Lexer.tokens text = r' := h.tokensFrom_eq (Nat.le_refl _)
  constructor
  · rintro rfl
    rwa [htokens]
  · intro h'
    exact h'.tokensFrom_eq (Nat.le_refl _)

end Packrat.Calculator
