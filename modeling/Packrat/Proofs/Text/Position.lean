import Mathlib.Data.List.DropRight
import Packrat.Proofs.Text.Caret

/-!
# Proofs — Text — Position

The positions of one text.  A position is told by what stands before it, a prefix of the text, and
its caret is where the caret before the text has come after this prefix.  Columns start again in
every line, but never before the line has changed, so carets are ordered as their positions are
(`carets_order_positions`).

**Closed form** (`after_origin`): the line of a caret is one more than the line feeds before it, and
its column one more than the characters after the last of these.  Neither is more than the length
of the text and one (`line_after_origin_le`, `column_after_origin_le`), so for a text of fewer than
`2 ^ 32 - 1` characters 32 bits hold them.
-/

namespace Packrat.Caret

variable {a b : Caret} {cs u v text : List Char}

/-! ### Order -/

theorem compare_eq (a b : Caret) :
    compare a b = (compare a.line b.line).then (compare a.column b.column) := rfl

theorem compare_eq_lt_iff : compare a b = .lt ↔ a < b := by
  rw [compare_eq, Ordering.then_eq_lt, Nat.compare_eq_lt, Nat.compare_eq_eq, Nat.compare_eq_lt,
    lt_def]

theorem compare_eq_gt_iff : compare a b = .gt ↔ b < a := by
  rw [compare_eq, Ordering.then_eq_gt, Nat.compare_eq_gt, Nat.compare_eq_eq, Nat.compare_eq_gt,
    lt_def, eq_comm (a := a.line)]

theorem compare_self (a : Caret) : compare a a = .eq := by
  rw [compare_eq, Nat.compare_eq_eq.mpr rfl, Nat.compare_eq_eq.mpr rfl]
  rfl

/-! ### The closed form -/

/-- **Closed form.** -/
theorem after_origin (cs : List Char) :
    origin.after cs = ⟨1 + cs.count '\n', 1 + (cs.rtakeWhile (· ≠ '\n')).length⟩ := by
  -- from the end, as the caret moves on with every character that is added
  induction cs using List.reverseRecOn with
  | nil => rfl
  | append_singleton cs c ih =>
      rw [after_append, ih, after_cons, advance]
      by_cases hc : c = '\n'
      · subst hc
        rw [if_pos rfl, List.rtakeWhile_concat_neg _ _ _ (by simp), List.count_append]
        rfl
      · rw [if_neg hc, List.rtakeWhile_concat_pos _ _ _ (by simpa using hc), List.count_append,
          List.count_singleton]
        simp [hc, Nat.add_assoc, after]

theorem line_after_origin_le (cs : List Char) : (origin.after cs).line ≤ 1 + cs.length := by
  rw [after_origin]
  exact Nat.add_le_add_left List.count_le_length 1

theorem column_after_origin_le (cs : List Char) : (origin.after cs).column ≤ 1 + cs.length := by
  rw [after_origin]
  exact Nat.add_le_add_left (List.rtakeWhile_suffix _ _).length_le 1

/-! ### Positions -/

theorem eq_of_length_eq (hu : u <+: text) (hv : v <+: text) (h : u.length = v.length) : u = v :=
  (List.prefix_of_prefix_length_le hu hv (Nat.le_of_eq h)).eq_of_length h

/-- Of two positions, the caret comes to the second after the first. -/
theorem after_lt_after (hu : u <+: text) (hv : v <+: text) (h : u.length < v.length) :
    origin.after u < origin.after v := by
  obtain ⟨cs, rfl⟩ := List.prefix_of_prefix_length_le hu hv (Nat.le_of_lt h)
  rw [after_append]
  refine lt_after fun hcs => ?_
  simp [hcs] at h

/-- Carets compare as the lengths of what stands before them. -/
theorem compare_after (hu : u <+: text) (hv : v <+: text) :
    compare (origin.after u) (origin.after v) = compare u.length v.length := by
  rcases Nat.lt_trichotomy u.length v.length with h | h | h
  · rw [compare_eq_lt_iff.mpr (after_lt_after hu hv h), Nat.compare_eq_lt.mpr h]
  · rw [eq_of_length_eq hu hv h, compare_self, Nat.compare_eq_eq.mpr rfl]
  · rw [compare_eq_gt_iff.mpr (after_lt_after hv hu h), Nat.compare_eq_gt.mpr h]

/-- **Carets order positions.**  Of two positions of a text, the caret of the one that comes first
is smaller, so different positions have different carets; and the caret of a position counts the
line feeds before it, and the characters after the last of these.  It counts no more than there
are. -/
theorem carets_order_positions (hu : u <+: text) (hv : v <+: text) :
    (origin.after u < origin.after v ↔ u.length < v.length) ∧
    compare (origin.after u) (origin.after v) = compare u.length v.length ∧
    (origin.after u = origin.after v ↔ u = v) ∧
    origin.after u = ⟨1 + u.count '\n', 1 + (u.rtakeWhile (· ≠ '\n')).length⟩ ∧
    (origin.after u).line ≤ 1 + u.length ∧ (origin.after u).column ≤ 1 + u.length := by
  have hcompare := compare_after hu hv
  refine ⟨?_, hcompare, ⟨fun h => ?_, fun h => h ▸ rfl⟩, after_origin u, line_after_origin_le u,
    column_after_origin_le u⟩
  · rw [← compare_eq_lt_iff, hcompare, Nat.compare_eq_lt]
  · rw [h, compare_self] at hcompare
    exact eq_of_length_eq hu hv (Nat.compare_eq_eq.mp hcompare.symm)

/-- The column jumps back at the line feed, and the caret is larger all the same. -/
theorem caret_larger_after_line_end :
    "ab\r".toList <+: "ab\r\nc".toList ∧ "ab\r\nc".toList <+: "ab\r\nc".toList ∧
    origin.after "ab\r".toList < origin.after "ab\r\nc".toList ∧
    origin.after "ab\r".toList = ⟨1, 4⟩ ∧ origin.after "ab\r\nc".toList = ⟨2, 2⟩ := by
  have hu : "ab\r".toList <+: "ab\r\nc".toList := ⟨['\n', 'c'], rfl⟩
  have hv : "ab\r\nc".toList <+: "ab\r\nc".toList := List.prefix_rfl
  refine ⟨hu, hv, (carets_order_positions hu hv).1.mpr (by decide), ?_, ?_⟩
  · rw [(carets_order_positions hu hv).2.2.2.1]
    rfl
  · rw [(carets_order_positions hv hv).2.2.2.1]
    rfl

end Packrat.Caret
