import Packrat.Calculator.Grammar
import Packrat.Proofs.Calculator.Relexed
import Packrat.Proofs.Node.Bare
import Packrat.Proofs.Peg.Soundness

/-!
# Proofs — Calculator — Printed

Reading the tokens of a tree again.  `Reads rs us` says how the tokens `us` of a tree are made of
tokens `rs` of a source: each of one, only `**` of two stars that touch.  What they are made of is
known up to its layout (`Reads.map_bare_eq`).

**Printing** (`exists_tokens_of_reads`): if the tokens of a tree are made of tokens of a source and
none of these is a comment, then their texts with single spaces between them are a source whose
tokens make them, too.
-/

namespace Packrat.Calculator

open Attempt

/-- One of the two tokens of which `**` is made. -/
def IsStar (t : Token) : Prop :=
  t.kind = .punctuator ∧ t.text = "*"

/-- The second tokens, which are of a tree, are made of the first. -/
inductive Reads : List Token → List Token → Prop where
  | nil : Reads [] []
  | one {r u rs us} : u.kind ≠ power → r.kind = u.kind → r.text = u.text → Reads rs us →
      Reads (r :: rs) (u :: us)
  | stars {r r' u rs us} : u.kind = power → u.text = "**" → IsStar r → IsStar r' →
      touches r r' = true → Reads rs us → Reads (r :: r' :: rs) (u :: us)

variable {k : Caret} {kind : TokenKind} {c c' : Char} {rs rs' us : List Token} {r r' u : Token}

theorem IsStar.bare_eq (h : IsStar r) (h' : IsStar r') : r.bare = r'.bare :=
  Token.bare_eq_iff.mpr ⟨h.1.trans h'.1.symm, h.2.trans h'.2.symm⟩

/-- Up to layout, the tokens of a tree are made of the same tokens wherever these come from. -/
theorem Reads.map_bare_eq (h : Reads rs us) (h' : Reads rs' us) :
    rs.map Token.bare = rs'.map Token.bare := by
  induction h generalizing rs' with
  | nil =>
      cases h'
      rfl
  | one hk hkind htext _ ih =>
      cases h' with
      | one _ hkind' htext' h' =>
          rw [List.map_cons, List.map_cons, ih h', Token.bare_eq_iff.mpr
            ⟨hkind.trans hkind'.symm, htext.trans htext'.symm⟩]
      | stars hk' => exact absurd hk' hk
  | stars hk _ hr hr' _ _ ih =>
      cases h' with
      | one hk' => exact absurd hk hk'
      | stars _ _ hs hs' _ h' =>
          simp only [List.map_cons, ih h', hr.bare_eq hs, hr'.bare_eq hs']

/-! ### Printing -/

/-- What is printed after a token: the others with a space before them, if there are any. -/
def spaced : List Token → List Char
  | [] => []
  | us => ' ' :: separated ' ' us

theorem separated_cons (u : Token) (us : List Token) :
    separated ' ' (u :: us) = u.text.toList ++ spaced us := by
  cases us with
  | nil => simp [separated, chars, spaced]
  | cons v us => exact separated_cons_cons ' ' u v us

theorem endsBefore_spaced {cs : List Char} (hk : kind ≠ .comment) (us : List Token) :
    EndsBefore kind cs (spaced us) := by
  cases us with
  | nil => exact endsBefore_nil _ _
  | cons u us =>
      intro c hc
      cases hc
      exact bounds_of_isBlank (by decide) (fun h => absurd h hk) rfl rfl

/-- A sign that is no stroke ends before anything. -/
theorem endsBefore_sign {after : List Char} (hc : c ≠ '/') :
    EndsBefore .punctuator [c] after := fun _ _ =>
  ⟨fun h => absurd h (by decide), fun h => absurd h (by decide), fun h => absurd h (by decide),
    fun _ h => absurd (List.head_eq_of_cons_eq h) hc⟩

/-- The first half of `**`, or the second. -/
theorem lexes_star {after : List Char} {ts : List Token}
    (h : Lexes (k.advance '*') after (.ok ts)) :
    Lexes k ('*' :: after) (.ok (.ofText .punctuator "*" k :: ts)) := by
  have hl : Lexeme .punctuator ['*'] := .sign rfl rfl rfl
  exact .token hl (fun c hc => by cases hc; rfl) (endsBefore_sign (by decide)) h

theorem touches_star (k : Caret) :
    touches (.ofText .punctuator "*" k) (.ofText .punctuator "*" (k.advance '*')) = true := by
  have hlength : "*".length = 1 := by decide
  refine touches_eq_true_iff.mpr ⟨rfl, ?_⟩
  show k.column + 1 ≤ k.column + "*".length
  rw [hlength]

/-- What is printed can be read again. -/
theorem Reads.exists_lexes (h : Reads rs us) (hrs : ∀ r ∈ rs, Legible r ∧ r.kind ≠ .comment)
    (k : Caret) : ∃ rs', Lexes k (separated ' ' us) (.ok rs') ∧ Reads rs' us := by
  -- the same for what is printed after a token
  have hspaced : ∀ {us : List Token}, (∀ k, ∃ rs', Lexes k (separated ' ' us) (.ok rs') ∧
      Reads rs' us) → ∀ k, ∃ rs', Lexes k (spaced us) (.ok rs') ∧ Reads rs' us := by
    intro us h k
    cases us with
    | nil => exact h k
    | cons u us =>
        obtain ⟨rs', hl, hreads⟩ := h (k.advance ' ')
        exact ⟨rs', .blank (by decide) hl, hreads⟩
  induction h generalizing k with
  | nil => exact ⟨[], .nothing, .nil⟩
  | @one r u rs us hk hkind htext h ih =>
      obtain ⟨⟨hr, hcomment⟩, hrs⟩ := List.forall_mem_cons.mp hrs
      obtain ⟨rs', hl, hreads⟩ := hspaced (ih hrs) (k.after r.text.toList)
      refine ⟨{ r with caret := k } :: rs', ?_, .one hk hkind htext hreads⟩
      rw [separated_cons, ← htext]
      exact hr.lexes_cons (endsBefore_spaced hcomment us) hl
  | @stars r r' u rs us hk htext hr hr' _ h ih =>
      obtain ⟨-, hrs⟩ := List.forall_mem_cons.mp hrs
      obtain ⟨-, hrs⟩ := List.forall_mem_cons.mp hrs
      obtain ⟨rs', hl, hreads⟩ := hspaced (ih hrs) ((k.advance '*').advance '*')
      refine ⟨_, ?_, .stars hk htext ⟨rfl, rfl⟩ ⟨rfl, rfl⟩ (touches_star k) hreads⟩
      rw [separated_cons, htext]
      exact lexes_star (lexes_star hl)

/-- **Printing.** -/
theorem exists_tokens_of_reads (h : Reads rs us)
    (hrs : ∀ r ∈ rs, Legible r ∧ r.kind ≠ .comment) :
    ∃ rs', Lexer.tokens (" ".intercalate (us.map (·.text))) = .ok rs' ∧ Reads rs' us := by
  obtain ⟨rs', hl, hreads⟩ := h.exists_lexes hrs .origin
  refine ⟨rs', tokens_eq_iff.mpr ?_, hreads⟩
  rw [show " " = String.singleton ' ' from rfl, toList_intercalate_text]
  exact hl

end Packrat.Calculator
