import Mathlib.Data.List.TakeWhile
import Packrat.Proofs.Text.Lines
import Packrat.Text.Wrap

/-!
# Proofs — Text — Wrap

Wrapping loses no word.  All the ways in which a text is cut can be undone: units, marked units,
pieces and words with their spaces, put one after the other again, are the text they were made of
(`Wrap.units_chars`, `Wrap.words_toChars`, `Wrap.Word.atHyphens_toChars`,
`Wrap.Word.fitted_toChars`).

**Wrapping** (`mem_of_mem_wrapText`): so the lines of a wrapped text have only characters of the
text, and no line feeds.
-/

namespace Packrat

namespace Wrap

/-! ### Units -/

theorem eq_of_splitEscape? {cs inside rest : List Char}
    (h : splitEscape? cs = some (inside, rest)) : cs = inside ++ rest := by
  induction cs generalizing inside with
  | nil => cases h
  | cons c cs ih =>
      rw [splitEscape?] at h
      split at h
      · cases h
        rfl
      · obtain ⟨⟨a, b⟩, hcs, hab⟩ := Option.map_eq_some_iff.mp h
        cases hab
        rw [ih hcs, List.cons_append]

theorem unitsFrom_chars {fuel : Nat} {cs : List Char} (h : cs.length ≤ fuel) :
    (unitsFrom fuel cs).flatMap (·.chars) = cs := by
  fun_induction unitsFrom fuel cs with
  | case1 cs => exact (List.length_eq_zero_iff.mp (Nat.le_zero.mp h)).symm
  | case2 => rfl
  | case3 fuel cs inside rest hsplit ih =>
      have hcs := eq_of_splitEscape? hsplit
      have hlength := congrArg List.length hcs
      simp only [List.length_append, List.length_cons] at h hlength
      rw [List.flatMap_cons, ih (by omega), hcs]
      rfl
  | case4 => simp
  | case5 fuel c cs _ ih =>
      simp only [List.length_cons] at h
      rw [List.flatMap_cons, ih (by omega)]
      rfl
  | case6 fuel c cs _ _ ih =>
      simp only [List.length_cons] at h
      rw [List.flatMap_cons, ih (by omega)]
      rfl

theorem units_chars (cs : List Char) : (units cs).flatMap (·.chars) = cs :=
  unitsFrom_chars (Nat.le_refl _)

/-! ### Words -/

/-- Units are marked in order. -/
theorem map_fst_markUnits (held us : List Unit) (marks : List Bool) :
    (markUnits held us marks).map (·.1) = held.reverse ++ us := by
  fun_induction markUnits held us marks with
  | case1 held => simp [Function.comp_def]
  | case2 held u us hvisible marks ih => simp [ih]
  | case3 held u us c m marks hvisible hheld ih => simp [ih, hheld]
  | case4 held u us c m marks hvisible h hs hheld ih => simp [ih, hheld, Function.comp_def]
  | case5 held u us c hvisible ih => simp [ih, Function.comp_def]

theorem flatten_cutAtMarks (piece : List Char) (us : List (Unit × Bool)) :
    (cutAtMarks piece us).flatten = piece.reverse ++ us.flatMap (·.1.chars) := by
  induction us generalizing piece with
  | nil =>
      rw [cutAtMarks]
      split
      · next h => simp [List.isEmpty_iff.mp h]
      · simp
  | cons u us ih =>
      obtain ⟨u, m⟩ := u
      rw [cutAtMarks]
      split <;> simp [ih]

theorem Word.toChars_ofChars (cs : List Char) : (Word.ofChars cs).toChars = cs := by
  have hcs : (cs.reverse.dropWhile (· = ' ')).reverse ++ (cs.reverse.takeWhile (· = ' ')).reverse =
      cs := by
    rw [← List.reverse_append, List.takeWhile_append_dropWhile, List.reverse_reverse]
  have hspaces : (cs.reverse.takeWhile (· = ' ')).reverse =
      List.replicate (cs.reverse.takeWhile (· = ' ')).length ' ' := by
    rw [List.eq_replicate_iff, List.length_reverse]
    refine ⟨rfl, fun c hc => ?_⟩
    simpa using List.mem_takeWhile_imp (List.mem_reverse.mp hc)
  have hlength := congrArg List.length hcs
  simp only [List.length_append, List.length_reverse] at hlength
  rw [Word.ofChars, Word.toChars]
  simp only [List.length_reverse]
  rw [← hlength, Nat.add_sub_cancel_left, ← hspaces, hcs]

/-- A line is its words with their spaces. -/
theorem words_toChars (line : List Char) : (words line).flatMap (·.toChars) = line := by
  have hunits : ∀ us : List (Unit × Bool),
      us.flatMap (·.1.chars) = (us.map (·.1)).flatMap (·.chars) := fun us => by
    rw [List.flatMap_map]
  simp only [words, List.flatMap_map, Word.toChars_ofChars]
  rw [List.flatMap_id', flatten_cutAtMarks, hunits, map_fst_markUnits]
  exact units_chars line

theorem flatten_cutAtHyphens (piece cs : List Char) :
    (cutAtHyphens piece cs).flatten = piece.reverse ++ cs := by
  fun_induction cutAtHyphens piece cs with
  | case1 => simp
  | case2 _ _ _ _ ih => simp [ih]
  | case3 _ _ _ _ ih => simp [ih]
  | case4 _ _ _ _ ih => simp [ih]

theorem cutAtHyphens_ne_nil (piece cs : List Char) : cutAtHyphens piece cs ≠ [] := by
  fun_induction cutAtHyphens piece cs with
  | case1 => exact List.cons_ne_nil _ _
  | case2 => exact List.cons_ne_nil _ _
  | case3 _ _ _ _ ih => exact ih
  | case4 _ _ _ _ ih => exact ih

theorem flatten_cutAtWidth (limit : Nat) (piece : List Char) (used : Nat) (us : List Unit) :
    (cutAtWidth limit piece used us).flatten = piece.reverse ++ us.flatMap (·.chars) := by
  fun_induction cutAtWidth limit piece used us with
  | case1 _ _ h => simp [List.isEmpty_iff.mp h]
  | case2 => simp
  | case3 _ _ _ _ _ ih => simp [ih]
  | case4 _ _ _ _ _ ih => simp [ih]

/-- The last piece has the spaces. -/
theorem wordsOfPieces_toChars (spaces : Nat) {ps : List (List Char)} (h : ps ≠ []) :
    (wordsOfPieces spaces ps).flatMap (·.toChars) = ps.flatten ++ List.replicate spaces ' ' := by
  fun_induction wordsOfPieces spaces ps with
  | case1 => exact absurd rfl h
  | case2 => simp [Word.toChars]
  | case3 p ps hps ih =>
      rw [List.flatMap_cons, ih hps, List.flatten_cons, List.append_assoc]
      simp [Word.toChars]

/-- Hyphens are no ends of words. -/
theorem Word.atHyphens_toChars (w : Word) : w.atHyphens.flatMap (·.toChars) = w.toChars := by
  rw [atHyphens, wordsOfPieces_toChars _ (cutAtHyphens_ne_nil _ _), flatten_cutAtHyphens]
  rfl

/-- Words that are too wide are cut, but nothing is left out. -/
theorem Word.fitted_toChars (limit : Nat) (w : Word) :
    (w.fitted limit).flatMap (·.toChars) = w.toChars := by
  rw [fitted]
  split
  · next hwide =>
    have hflatten : (cutAtWidth limit [] 0 (units w.chars)).flatten = w.chars := by
      rw [flatten_cutAtWidth, units_chars]
      rfl
    have hne : cutAtWidth limit [] 0 (units w.chars) ≠ [] := fun hnil => by
      -- only a word without characters is cut into nothing
      rw [hnil] at hflatten
      rw [Word.width, ← hflatten] at hwide
      exact absurd hwide (Nat.not_lt_zero limit)
    rw [wordsOfPieces_toChars _ hne, hflatten]
    rfl
  · simp

/-! ### Lines -/

variable {ws : List Word} {c : Char}

theorem mem_of_mem_takeLines {ns : List Nat} {line : List Word} {w : Word}
    (h : line ∈ takeLines ns ws) (hw : w ∈ line) : w ∈ ws := by
  induction ns generalizing ws with
  | nil => cases h
  | cons n ns ih =>
      rcases List.mem_cons.mp h with rfl | h
      · exact List.mem_of_mem_take hw
      · exact List.mem_of_mem_drop (ih h)

theorem mem_of_mem_arrange {k : Costs} {limit : Nat} {line : List Word} {w : Word}
    (h : line ∈ arrange k limit ws) (hw : w ∈ line) : w ∈ ws := by
  rw [arrange] at h
  split at h
  · rw [List.mem_singleton.mp h] at hw
    cases hw
  · exact mem_of_mem_takeLines h hw

/-- Of the words of a line, only the spaces at the end are left out. -/
theorem mem_of_mem_lineOf (h : c ∈ lineOf ws) : c ∈ ws.flatMap (·.toChars) := by
  fun_induction lineOf ws with
  | case1 => cases h
  | case2 w =>
      rw [List.flatMap_singleton]
      exact List.mem_append_left _ h
  | case3 w ws hws ih =>
      rw [List.flatMap_cons, List.mem_append]
      exact (List.mem_append.mp h).imp_right ih

theorem mem_of_mem_wrapLine {limit : Nat} {line wrapped : List Char}
    (h : wrapped ∈ wrapLine limit line) (hc : c ∈ wrapped) : c ∈ line := by
  obtain ⟨ws, hws, rfl⟩ := List.mem_map.mp h
  obtain ⟨w, hw, hc⟩ := List.mem_flatMap.mp (mem_of_mem_lineOf hc)
  have hc : c ∈ (((words line).flatMap (·.atHyphens)).flatMap (·.fitted limit)).flatMap
      (·.toChars) :=
    List.mem_flatMap.mpr ⟨w, mem_of_mem_arrange hws hw, hc⟩
  simpa only [List.flatMap_assoc, Word.fitted_toChars, Word.atHyphens_toChars,
    words_toChars] using hc

end Wrap

/-- **Wrapping.** -/
theorem mem_of_mem_wrapText {limit : Nat} {cs line : List Char} {c : Char}
    (h : line ∈ wrapText limit cs) (hc : c ∈ line) : c ∈ cs ∧ c ≠ '\n' := by
  obtain ⟨piece, hpiece, hline⟩ := List.mem_flatMap.mp h
  exact mem_of_mem_splitLineFeeds hpiece (Wrap.mem_of_mem_wrapLine hline hc)

end Packrat
