import Packrat.Text.Caret

/-!
# Proofs — Text — Caret

Carets on the way through a text.  A caret moves over a text as it moves over its pieces, one after
the other (`after_append`), and strictly onwards with every character (`lt_after`), so a text that a
caret has not moved over is empty.  Within a line it moves one column for each character
(`after_of_not_mem`).
-/

namespace Packrat.Caret

variable {a b c k : Caret} {cs cs' : List Char}

/-! ### Order -/

theorem lt_of_lt_of_le (h : a < b) (h' : b ≤ c) : a < c := by
  simp only [lt_def, le_def] at *
  omega

theorem le_of_lt (h : a < b) : a ≤ b := by
  simp only [lt_def, le_def] at *
  omega

theorem le_trans (h : a ≤ b) (h' : b ≤ c) : a ≤ c := by
  simp only [le_def] at *
  omega

/-! ### Moving through a text -/

theorem after_cons (k : Caret) (c : Char) (cs : List Char) :
    k.after (c :: cs) = (k.advance c).after cs := rfl

theorem after_append (k : Caret) (cs cs' : List Char) :
    k.after (cs ++ cs') = (k.after cs).after cs' :=
  List.foldl_append

theorem lt_advance (k : Caret) (c : Char) : k < k.advance c := by
  simp only [advance, lt_def]
  split
  · exact .inl (Nat.lt_succ_self _)
  · exact .inr ⟨rfl, Nat.lt_succ_self _⟩

theorem le_after (k : Caret) (cs : List Char) : k ≤ k.after cs := by
  induction cs generalizing k with
  | nil => exact le_refl k
  | cons c cs ih => exact le_trans (le_of_lt (lt_advance k c)) (ih (k.advance c))

/-- Every character moves the caret on. -/
theorem lt_after (h : cs ≠ []) : k < k.after cs := by
  cases cs with
  | nil => exact absurd rfl h
  | cons c cs => exact lt_of_lt_of_le (lt_advance k c) (le_after _ cs)

/-- Within a line, a caret moves one column for each character. -/
theorem after_of_not_mem (h : '\n' ∉ cs) : k.after cs = ⟨k.line, k.column + cs.length⟩ := by
  induction cs generalizing k with
  | nil => rfl
  | cons c cs ih =>
      obtain ⟨hc, hcs⟩ := List.ne_and_not_mem_of_not_mem_cons h
      rw [after_cons, ih hcs, advance, if_neg (Ne.symm hc), List.length_cons]
      simp only [mk.injEq, true_and]
      omega

end Packrat.Caret
