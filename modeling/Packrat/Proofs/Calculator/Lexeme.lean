import Mathlib.Data.List.TakeWhile
import Packrat.Calculator.Lexer

/-!
# Proofs — Calculator — Lexeme

What the texts of tokens look like.  `Lexeme kind cs` says that `cs` may be the text of a token of
that kind: a comment, an integer or a decimal fraction, a word, or a single sign.

**Lexemes** (`lexeme_of_next`): what the lexer reads next is one of these, so no token is empty
(`Lexeme.ne_nil`) or goes past the end of its line (`Lexeme.lineFeed_not_mem`).
-/

namespace Packrat.Calculator

open Lexer

/-- The texts of tokens, by kind. -/
inductive Lexeme : TokenKind → List Char → Prop where
  | comment {cs : List Char} : '\n' ∉ cs → Lexeme .comment ('/' :: '/' :: cs)
  | integer {ds : List Char} : ds ≠ [] → (∀ c ∈ ds, c.isDigit = true) → Lexeme number ds
  | decimal {ds es : List Char} : ds ≠ [] → (∀ c ∈ ds, c.isDigit = true) → es ≠ [] →
      (∀ c ∈ es, c.isDigit = true) → Lexeme number (ds ++ '.' :: es)
  | word {c : Char} {cs : List Char} : isWordStart c = true → c.isDigit = false →
      (∀ c ∈ cs, isXidContinue c = true) → Lexeme .identifier (c :: cs)
  | sign {c : Char} : isSign c = true → isWordStart c = false → c.isDigit = false →
      Lexeme .punctuator [c]

/-! ### What is read next -/

theorem take_length_takeWhile {α : Type} (p : α → Bool) (l : List α) :
    l.take (l.takeWhile p).length = l.takeWhile p :=
  (List.prefix_iff_eq_take.mp (List.takeWhile_prefix p)).symm

/-- A number is read up to the end of its digits, or up to the end of its fraction. -/
theorem lexeme_of_numberLength? {c : Char} {cs : List Char} {n : Nat} (hc : c.isDigit = true)
    (h : numberLength? (c :: cs) = some n) : Lexeme number ((c :: cs).take n) := by
  simp only [numberLength?] at h
  generalize hds : (c :: cs).takeWhile Char.isDigit = ds at h
  have hne : ds ≠ [] := by
    rw [← hds, List.takeWhile_cons_of_pos hc]
    exact List.cons_ne_nil _ _
  have hdigits : ∀ d ∈ ds, d.isDigit = true := fun d hd => List.mem_takeWhile_imp (hds ▸ hd)
  have htake : (c :: cs).take ds.length = ds := hds ▸ take_length_takeWhile _ _
  split at h
  · next es hes =>
    have hsplit : c :: cs = ds ++ '.' :: es := by
      rw [← List.take_append_drop ds.length (c :: cs), htake, hes]
    split at h
    · cases h
    · next hf =>
      cases h
      rw [hsplit, Nat.add_assoc, List.take_length_add_append, Nat.add_comm 1, List.take_succ_cons,
        take_length_takeWhile]
      exact .decimal hne hdigits (fun he => hf (by rw [he]; rfl)) fun _ => List.mem_takeWhile_imp
  · cases h
    rw [htake]
    exact .integer hne hdigits

/-- **Lexemes.** -/
theorem lexeme_of_next {l : Lexer} {kind : TokenKind} {n : Nat} (h : l.next = .ok (kind, n)) :
    Lexeme kind (l.rest.take n) := by
  simp only [next] at h
  split at h
  · cases h
  · next cs hcs =>
    cases h
    rw [take_length_takeWhile, hcs]
    exact .comment fun hn => by simpa using List.mem_takeWhile_imp hn
  · next c cs _ hcs =>
    rw [hcs] at h ⊢
    split at h
    · next hd =>
      split at h
      · next hn =>
        cases h
        exact lexeme_of_numberLength? hd hn
      · cases h
    · next hd =>
      have hd : c.isDigit = false := by simpa using hd
      split at h
      · next hw =>
        cases h
        rw [Nat.add_comm, List.take_succ_cons, take_length_takeWhile]
        exact .word hw hd fun _ => List.mem_takeWhile_imp
      · next hw =>
        split at h
        · next hs =>
          cases h
          exact .sign hs (by simpa using hw) hd
        · cases h

/-! ### What lexemes are -/

namespace Lexeme

variable {kind : TokenKind} {cs : List Char}

theorem ne_nil (h : Lexeme kind cs) : cs ≠ [] := by
  cases h with
  | integer hne => exact hne
  | decimal hne => exact List.append_ne_nil_of_left_ne_nil hne _
  | comment | word | sign => exact List.cons_ne_nil _ _

/-- A character that is neither a digit or a dot, nor part of a word, nor a sign is only in
comments. -/
theorem comment_or_not_mem (h : Lexeme kind cs) (c : Char) (hdigit : c.isDigit = false)
    (hdot : c ≠ '.') (hstart : isWordStart c = false) (hword : isXidContinue c = false)
    (hsign : isSign c = false) :
    (kind = .comment ∧ ∃ cs', cs = '/' :: '/' :: cs' ∧ '\n' ∉ cs') ∨ c ∉ cs := by
  have hdigits : ∀ {ds : List Char}, (∀ d ∈ ds, d.isDigit = true) → c ∉ ds := fun hds hc =>
    absurd (hds c hc) (by simp [hdigit])
  cases h with
  | comment hcs => exact .inl ⟨rfl, _, rfl, hcs⟩
  | integer _ hds => exact .inr (hdigits hds)
  | decimal _ hds _ hes =>
      refine .inr fun hc => ?_
      rcases List.mem_append.mp hc with hc | hc
      · exact hdigits hds hc
      · exact hdigits hes (List.mem_of_ne_of_mem hdot hc)
  | word hs _ hcs =>
      refine .inr fun hc => ?_
      rcases List.mem_cons.mp hc with rfl | hc
      · exact absurd hs (by simp [hstart])
      · exact absurd (hcs c hc) (by simp [hword])
  | sign hs =>
      refine .inr fun hc => ?_
      cases List.eq_of_mem_singleton hc
      exact absurd hs (by simp [hsign])

/-- A line feed is white space. -/
theorem lineFeed_not_mem (h : Lexeme kind cs) : '\n' ∉ cs := by
  rcases h.comment_or_not_mem '\n' rfl (by decide) rfl rfl rfl with ⟨-, cs, rfl, hcs⟩ | hcs
  · simp [hcs]
  · exact hcs

/-- And so is a carriage return, which a comment may contain. -/
theorem return_not_mem (h : Lexeme kind cs) (hk : kind ≠ .comment) : '\r' ∉ cs := by
  rcases h.comment_or_not_mem '\r' rfl (by decide) rfl rfl rfl with ⟨hk', -⟩ | hcs
  · exact absurd hk' hk
  · exact hcs

end Lexeme

end Packrat.Calculator
