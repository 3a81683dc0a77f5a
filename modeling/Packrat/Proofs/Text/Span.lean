import Mathlib.Data.List.Basic
import Packrat.Proofs.Text.Join
import Packrat.Token

/-!
# Proofs — Text — Span

Spans of a source.  A span *covers* the characters that the source has between its two carets.

**Uniqueness** (`Span.Covers.unique`): carets tell places of a text apart, so a span covers at most
one text.
-/

namespace Packrat

/-- These are the characters of the source between the two carets of the span. -/
def Span.Covers (s : Span) (source cs : List Char) : Prop :=
  ∃ pre post, source = pre ++ cs ++ post ∧ s.start = Caret.origin.after pre ∧
    s.stop = Caret.origin.after (pre ++ cs)

/-! ### Places of a text -/

namespace Caret

variable {k : Caret} {cs pre pre' : List Char}

theorem eq_nil_of_after_eq (h : k.after cs = k) : cs = [] := by
  by_contra hne
  have hlt : k < k.after cs := lt_after hne
  exact hlt.ne' h

/-- Two starts of a text after which the caret is the same are the same. -/
theorem eq_of_after_eq (h : pre <+: cs) (h' : pre' <+: cs) (he : k.after pre = k.after pre') :
    pre = pre' := by
  rcases List.prefix_or_prefix_of_prefix h h' with ⟨d, rfl⟩ | ⟨d, rfl⟩
  · rw [after_append] at he
    rw [eq_nil_of_after_eq he.symm, List.append_nil]
  · rw [after_append] at he
    rw [eq_nil_of_after_eq he, List.append_nil]

end Caret

namespace Span

variable {s a : Span} {source cs cs' : List Char}

/-- Only the carets matter. -/
theorem Covers.congr (h : a.Covers source cs) (hstart : s.start = a.start)
    (hstop : s.stop = a.stop) : s.Covers source cs := by
  obtain ⟨pre, post, he, h₁, h₂⟩ := h
  exact ⟨pre, post, he, hstart.trans h₁, hstop.trans h₂⟩

/-- **Uniqueness.** -/
theorem Covers.unique (h : s.Covers source cs) (h' : s.Covers source cs') : cs = cs' := by
  obtain ⟨pre, post, rfl, hstart, hstop⟩ := h
  obtain ⟨pre', post', he, hstart', hstop'⟩ := h'
  have hpre : pre = pre' := by
    refine Caret.eq_of_after_eq ⟨cs ++ post, (List.append_assoc _ _ _).symm⟩
      ⟨cs' ++ post', ?_⟩ (hstart.symm.trans hstart')
    rw [he, List.append_assoc]
  subst hpre
  exact List.append_cancel_left
    (Caret.eq_of_after_eq ⟨post, rfl⟩ ⟨post', he.symm⟩ (hstop.symm.trans hstop'))

end Span

/-! ### Spans of tokens -/

namespace Token

theorem caret_le_endCaret (t : Token) : t.caret ≤ t.endCaret :=
  .inr ⟨rfl, Nat.le_add_right _ _⟩

theorem start_span (t : Token) : t.span.start = t.caret :=
  min_eq_left t.caret_le_endCaret

theorem stop_span (t : Token) : t.span.stop = t.endCaret :=
  max_eq_right t.caret_le_endCaret

end Token

end Packrat
