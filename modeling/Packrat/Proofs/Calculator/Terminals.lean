import Packrat.Proofs.Calculator.Lexeme
import Packrat.Proofs.Calculator.Rules
import Packrat.Proofs.Pattern.Leads

/-!
# Proofs — Calculator — Terminals

How the terminals of the calculator grammar tell tokens apart.  The lexer gives every text one kind,
so signs, the word `let` and decimal fractions are of no other kind than theirs.

**Decimals** (`isDecimal_of_accepts`): a text that the pattern for numbers accepts is one or more
digits, a dot, and one or more digits.
-/

namespace Packrat.Calculator

open Lexer Pattern

/-! ### Decimal fractions -/

/-- Digits, a dot and digits. -/
def IsDecimal (s : String) : Prop :=
  ∃ ds es, s.toList = ds ++ '.' :: es ∧ ds ≠ [] ∧ es ≠ [] ∧ (∀ c ∈ ds, c.isDigit = true) ∧
    ∀ c ∈ es, c.isDigit = true

section

variable {text : Array Char} {i j n : Nat} {s : CharSet}

/-- Characters of a set in a row. -/
theorem exists_append_of_times_char (h : Times ((Expr.char s).Leads text) n i j) :
    ∃ cs, cs.length = n ∧ (∀ c ∈ cs, s.has c = true) ∧
      text.toList.drop i = cs ++ text.toList.drop j := by
  induction h with
  | zero => exact ⟨[], rfl, List.forall_mem_nil _, rfl⟩
  | succ hr _ ih =>
      obtain ⟨rfl, c, hc, hs⟩ := hr
      obtain ⟨cs, rfl, hcs, hdrop⟩ := ih
      refine ⟨c :: cs, rfl, List.forall_mem_cons.mpr ⟨hs, hcs⟩, ?_⟩
      rw [List.cons_append, ← hdrop]
      obtain ⟨hlt, rfl⟩ := List.getElem?_eq_some_iff.mp (Array.getElem?_toList ▸ hc)
      exact List.drop_eq_getElem_cons hlt

theorem has_digits_iff {c : Char} : (CharSet.range 48 57).has c = true ↔ c.isDigit = true := by
  simp only [CharSet.has, Char.isDigit, Bool.and_eq_true, decide_eq_true_eq, ge_iff_le]
  rfl

theorem has_single_iff {c d : Char} : (CharSet.single d).has c = true ↔ c = d := by
  simp only [CharSet.has, CharSet.single, Bool.and_eq_true, decide_eq_true_eq]
  rw [← Char.toNat_inj]
  omega

theorem exists_digits_of_leads (h : digitsExpr.Leads text i j) :
    ∃ ds, ds ≠ [] ∧ (∀ c ∈ ds, c.isDigit = true) ∧
      text.toList.drop i = ds ++ text.toList.drop j := by
  obtain ⟨n, hn, -, ht⟩ := h
  obtain ⟨ds, rfl, hds, hdrop⟩ := exists_append_of_times_char ht
  exact ⟨ds, List.ne_nil_of_length_pos hn, fun c hc => has_digits_iff.mp (hds c hc), hdrop⟩

end

/-- **Decimals.** -/
theorem isDecimal_of_accepts {s : String} (h : decimalPattern.accepts s = true) : IsDecimal s := by
  obtain ⟨i, j, hi, k, ⟨rfl, hstart⟩, j', ⟨k, hds, k', hdot, hes⟩, rfl, hend⟩ :=
    exists_leads_of_accepts h
  obtain ⟨ds, hne, hdigits, hdrop⟩ := exists_digits_of_leads hds
  obtain ⟨es, hne', hdigits', hdrop'⟩ := exists_digits_of_leads hes
  obtain ⟨dot, hlength, hdot, hdrop''⟩ := exists_append_of_times_char (.succ hdot .zero)
  obtain ⟨c, rfl⟩ := List.length_eq_one_iff.mp hlength
  have hc : c = '.' := has_single_iff.mp (hdot c (List.mem_singleton_self c))
  obtain rfl := (textStart_holdsAt_iff hi).mp hstart
  rw [List.drop_of_length_le (textEnd_holdsAt_iff.mp hend), List.append_nil] at hdrop'
  refine ⟨ds, es, ?_, hne, hne', hdigits, hdigits'⟩
  calc s.toList = ds ++ s.toList.drop k := hdrop
    _ = ds ++ c :: s.toList.drop k' := congrArg (ds ++ ·) hdrop''
    _ = ds ++ '.' :: es := by rw [hc, hdrop']

/-! ### Kinds -/

/-- What the first character says about the kind of a token. -/
inductive Heads : TokenKind → Char → List Char → Prop where
  | number {c cs} : c.isDigit = true → Heads number c cs
  | word {c cs} : isWordStart c = true → c.isDigit = false → Heads .identifier c cs
  | sign {c} : isWordStart c = false → c.isDigit = false → Heads .punctuator c []
  | comment {c cs} : Heads .comment '/' (c :: cs)

variable {t : Token} {kind : TokenKind} {cs : List Char}

theorem Lexeme.exists_heads (h : Lexeme kind cs) : ∃ c cs', cs = c :: cs' ∧ Heads kind c cs' := by
  cases h with
  | comment => exact ⟨_, _, rfl, .comment⟩
  | integer hne hds =>
      obtain ⟨d, ds, rfl⟩ := List.exists_cons_of_ne_nil hne
      exact ⟨d, ds, rfl, .number (hds d List.mem_cons_self)⟩
  | decimal hne hds =>
      obtain ⟨d, ds, rfl⟩ := List.exists_cons_of_ne_nil hne
      exact ⟨d, _, rfl, .number (hds d List.mem_cons_self)⟩
  | word hw hd => exact ⟨_, _, rfl, .word hw hd⟩
  | sign _ hw hd => exact ⟨_, _, rfl, .sign hw hd⟩

/-- A text that starts with a digit is a number. -/
theorem kind_of_isDecimal (h : Lexeme t.kind t.text.toList) (ht : IsDecimal t.text) :
    t.kind = number := by
  obtain ⟨ds, es, htext, hne, -, hds, -⟩ := ht
  obtain ⟨d, ds, rfl⟩ := List.exists_cons_of_ne_nil hne
  have hd := hds d List.mem_cons_self
  obtain ⟨c, cs, hcs, hheads⟩ := h.exists_heads
  obtain ⟨rfl, -⟩ := List.cons.inj (hcs.symm.trans htext)
  generalize t.kind = kind at hheads
  cases hheads with
  | number => rfl
  | word _ hc | sign _ hc => cases hc.symm.trans hd
  | comment => cases hd

/-- The signs that the grammar has. -/
def punctuation : List String :=
  ["(", ")", ",", ";", "=", "+", "-", "*", "/", "%"]

/-- A sign is nothing else. -/
theorem kind_of_mem_punctuation (h : Lexeme t.kind t.text.toList) (ht : t.text ∈ punctuation) :
    t.kind = .punctuator := by
  have hall : ∀ s ∈ punctuation, s.toList.length = 1 ∧
      s.toList.all (fun c => !isWordStart c && !c.isDigit) = true := by decide
  obtain ⟨hlength, hchars⟩ := hall _ ht
  obtain ⟨c, cs, hcs, hheads⟩ := h.exists_heads
  rw [hcs] at hlength hchars
  generalize t.kind = kind at hheads
  cases hheads with
  | number hd => simp [hd] at hchars
  | word hw => simp [hw] at hchars
  | sign => rfl
  | comment => simp at hlength

/-- The word `let` is nothing else. -/
theorem kind_of_let (h : Lexeme t.kind t.text.toList) (ht : t.text = "let") :
    t.kind = .identifier := by
  obtain ⟨c, cs, hcs, hheads⟩ := h.exists_heads
  rw [ht] at hcs
  obtain ⟨rfl, rfl⟩ := List.cons.inj hcs
  generalize t.kind = kind at hheads
  cases hheads with
  | number hd => cases hd
  | word => rfl

end Packrat.Calculator
