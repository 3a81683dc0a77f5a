import Mathlib.Data.Nat.Basic
import Mathlib.Order.Lattice
import Packrat.Diagnostic.Terminal
import Packrat.Proofs.Text.Lines

/-!
# Proofs — Diagnostic — Rows

A diagnostic with labels as rows, written without colours.  A row has a field for the number of a
line, the gutter, and what stands to the right of it (`Terminal.row`).  Every label has two of them:
the line it starts on, and the markers under what it covers (`Terminal.labelRows`).

**Rows** (`Terminal.rows_laid_out`): after the headline and the place there are an empty row and the
rows of the labels.  All of them have the gutter in the same column, and no row is broken.
-/

namespace Packrat

namespace Terminal

/-! ### Output -/

/-- What is written, with or without colours. -/
def written (colors : Bool) (inks : List Ink) : List Char :=
  inks.flatMap fun i => (i.write colors).toList

theorem written_append (colors : Bool) (is js : List Ink) :
    written colors (is ++ js) = written colors is ++ written colors js :=
  List.flatMap_append

theorem written_flatMap {α : Type} (colors : Bool) (xs : List α) (f : α → List Ink) :
    written colors (xs.flatMap f) = xs.flatMap fun x => written colors (f x) :=
  List.flatMap_assoc

theorem toList_render (l : Layout) (colors : Bool) (d : Diagnostic) (source : Option String) :
    (render l colors d source).toList = written colors (inks l d source) := by
  rw [render, String.toList_join, List.flatMap_map]
  rfl

theorem toList_blanks (n : Nat) : (blanks n).toList = List.replicate n ' ' :=
  String.toList_ofList

variable (l : Layout)

/-- A row with a field for a number, and what stands to the right of the gutter. -/
def row (gutter : Nat) (field rest : List Char) : List Char :=
  field.leftpad gutter ' ' ++ ' ' :: l.glyphs.gutter.toList ++ rest

/-- The characters in the columns from the one up to the other. -/
def columns (line : List Char) (start stop : Nat) : List Char :=
  (line.take (stop - 1)).drop (start - 1)

/-- The two rows of a label. -/
def labelRows (lines : List (List Char)) (gutter : Nat) (x : Label) : List (List Char) :=
  let line := (lines[x.span.start.line - 1]?).getD []
  let before := columns line 1 x.span.start.column
  let stop := if x.span.isSingleLine then x.span.stop.column else line.length + 1
  let marks := max 1 (textWidth (columns line x.span.start.column stop))
  [row l gutter (toString x.span.start.line).toList (' ' :: line),
    row l gutter [] (' ' :: List.replicate (textWidth before) ' ' ++
      List.replicate marks l.glyphs.marker ++ x.message.elim [] fun m => ' ' :: m.toList)]

theorem written_margin (gutter : Nat) (number : Option Nat) :
    written false (margin l gutter number) =
      row l gutter ((number.map toString).getD "").toList [] := by
  simp [written, margin, row, Ink.write, toList_blanks, List.leftpad, String.length_toList]

variable {line : List Char} {s : Span}

theorem beforeLabel_eq : beforeLabel line s = columns line 1 s.start.column := by
  rw [beforeLabel, cutBefore_eq]
  rfl

theorem covered_eq (hcolumn : 1 ≤ s.start.column) :
    covered line s = columns line s.start.column
      (if s.isSingleLine then s.stop.column else line.length + 1) := by
  simp only [covered, cutBefore_eq, columns]
  split
  · rw [List.drop_take, ← Nat.sub_sub_sub_cancel_right hcolumn]
  · rw [Nat.add_sub_cancel, List.take_length]

theorem written_snippet {x : Label} (hcolumn : 1 ≤ x.span.start.column)
    (lines : List (List Char)) (gutter : Nat) :
    written false (snippet l lines gutter x) = joinLines (labelRows l lines gutter x) := by
  simp only [snippet, written_append, written_margin, beforeLabel_eq, covered_eq hcolumn]
  cases hm : x.message <;>
    simp [written, Ink.write, joinLines, labelRows, row, toList_blanks, quotedLine, hm]

theorem written_snippets {labels : List Label} (hcolumns : ∀ x ∈ labels, 1 ≤ x.span.start.column)
    (lines : List (List Char)) (gutter : Nat) :
    written false (labels.flatMap (snippet l lines gutter)) =
      joinLines (labels.flatMap (labelRows l lines gutter)) := by
  rw [written_flatMap, joinLines, List.flatMap_assoc, List.flatMap, List.flatMap,
    List.map_congr_left fun x hx => written_snippet l (hcolumns x hx) lines gutter]
  rfl

/-! ### The gutter -/

/-- The field is as wide as the longest number of a line on which a label starts. -/
structure Widest (labels : List Label) (gutter : Nat) : Prop where
  le : ∀ x ∈ labels, (toString x.span.start.line).length ≤ gutter
  exists_eq : ∃ x ∈ labels, (toString x.span.start.line).length = gutter

theorem widest_gutterWidth {d : Diagnostic} (h : d.labels ≠ []) :
    Widest d.labels (gutterWidth d) := by
  rw [gutterWidth, if_neg (by simpa using h), List.foldl_max, Nat.zero_max]
  have hsome := List.isSome_max?_of_ne_nil
    (l := d.labels.map fun x => (toString x.span.start.line).length) (by simpa using h)
  obtain ⟨gutter, hmax⟩ := Option.isSome_iff_exists.mp hsome
  obtain ⟨hmem, hle⟩ := List.max?_eq_some_iff.mp hmax
  rw [hmax, Option.getD_some]
  exact ⟨fun x hx => hle _ (List.mem_map_of_mem hx), List.mem_map.mp hmem⟩

/-- The row is one line, on which the gutter stands after a field of that width. -/
structure Aligned (gutter : Nat) (r : List Char) : Prop where
  not_mem : '\n' ∉ r
  gutter_eq : ∃ field rest, field.length = gutter ∧
    r = field ++ ' ' :: l.glyphs.gutter.toList ++ rest

theorem aligned_row {gutter : Nat} {field rest : List Char} (hg : '\n' ∉ l.glyphs.gutter.toList)
    (hlength : field.length ≤ gutter) (hfield : '\n' ∉ field) (hrest : '\n' ∉ rest) :
    Aligned l gutter (row l gutter field rest) := by
  refine ⟨?_, field.leftpad gutter ' ', rest, ?_, rfl⟩
  · simp [row, List.leftpad, hg, hfield, hrest]
  · rw [List.length_leftpad, Nat.max_eq_left hlength]

/-- All drawing characters show. -/
theorem isControl_glyphs (hglyphs : l.glyphs = .ascii ∨ l.glyphs = .unicode) :
    (l.glyphs.marker :: (l.glyphs.gutter.toList ++ l.glyphs.arrow.toList)).any isControl =
      false := by
  rcases hglyphs with h | h <;> (rw [h]; rfl)

theorem not_mem_glyphs (hglyphs : l.glyphs = .ascii ∨ l.glyphs = .unicode) {c : Char}
    (hc : isControl c = true) :
    c ≠ l.glyphs.marker ∧ c ∉ l.glyphs.gutter.toList ∧ c ∉ l.glyphs.arrow.toList := by
  have hmem : c ∉ l.glyphs.marker :: (l.glyphs.gutter.toList ++ l.glyphs.arrow.toList) :=
    fun h => List.any_eq_false.mp (isControl_glyphs l hglyphs) c h hc
  rwa [List.mem_cons, List.mem_append, not_or, not_or] at hmem

theorem isControl_of_isDigit {c : Char} (h : c.isDigit = true) : isControl c = false := by
  simp only [Char.isDigit, Bool.and_eq_true, decide_eq_true_eq, UInt32.le_iff_toNat_le,
    ge_iff_le] at h
  simp only [isControl, Char.toNat, Bool.or_eq_false_iff, Bool.and_eq_false_iff,
    decide_eq_false_iff_not]
  obtain ⟨hle, hge⟩ := h
  have : '0'.val.toNat = 48 := rfl
  have : '9'.val.toNat = 57 := rfl
  omega

theorem not_mem_toString {c : Char} (hc : isControl c = true) (n : Nat) :
    c ∉ (toString n).toList := fun h => by
  cases hc.symm.trans (isControl_of_isDigit (isDigit_of_mem_toString h))

/-- The rows of a label are aligned if the field is wide enough and the message is on one line. -/
theorem aligned_labelRows {x : Label} {gutter : Nat} (source : List Char)
    (hglyphs : l.glyphs = .ascii ∨ l.glyphs = .unicode)
    (hle : (toString x.span.start.line).length ≤ gutter)
    (hmessage : ∀ m ∈ x.message, '\n' ∉ m.toList) :
    ∀ r ∈ labelRows l (textLines source) gutter x, Aligned l gutter r := by
  obtain ⟨hmarker, hgutter, -⟩ := not_mem_glyphs l hglyphs (c := '\n') rfl
  have hline : '\n' ∉ ((textLines source)[x.span.start.line - 1]?).getD [] := fun h => by
    cases hget : (textLines source)[x.span.start.line - 1]? with
    | none =>
        rw [hget] at h
        cases h
    | some line =>
        rw [hget] at h
        exact (mem_of_mem_textLines (List.mem_of_getElem? hget) h).2 rfl
  have hremark : '\n' ∉ x.message.elim [] fun m => ' ' :: m.toList := by
    cases hm : x.message with
    | none => exact List.not_mem_nil
    | some m => simpa using hmessage m hm
  refine List.forall_mem_cons.mpr ⟨?_, List.forall_mem_singleton.mpr ?_⟩
  · refine aligned_row l hgutter ?_ (not_mem_toString rfl _) (by simpa using hline)
    rw [String.length_toList]
    exact hle
  · refine aligned_row l hgutter (Nat.zero_le _) List.not_mem_nil ?_
    simp [hremark, hmarker]

/-! ### Headline and place -/

theorem written_headline (d : Diagnostic) :
    ∃ text, written false (headline l d) = text ++ ['\n'] := by
  refine ⟨(d.level.name ++ ": " ++ ("\n" ++ blanks (d.level.name.length + 2)).intercalate
    ((wrapText (l.width - (d.level.name.length + 2)) d.text.toList).map String.ofList)).toList, ?_⟩
  simp [written, headline, Ink.write]

/-- The line with what is known of input and place. -/
def placeLine (gutter : Nat) (d : Diagnostic) : List Char :=
  let line (place : String) :=
    List.replicate gutter ' ' ++ l.glyphs.arrow.toList ++ ' ' :: place.toList ++ ['\n']
  match d.input, d.location with
  | none, none => []
  | none, some k => line k.render
  | some n, none => line n
  | some n, some k => line (n ++ ":" ++ k.render)

theorem written_whereabouts (gutter : Nat) (d : Diagnostic) :
    written false (whereabouts l gutter d) = placeLine l gutter d := by
  cases hn : d.input <;> cases hk : d.location <;>
    simp [written, whereabouts, placeLine, Ink.write, toList_blanks, hn, hk]

/-! ### Rows -/

/-- The line can be cut before the span, and after it if the span stops on it. -/
def Cuts (line : List Char) (s : Span) : Prop :=
  ∃ before rest, cutAt? (charOffset line (s.start.column - 1)) line = some (before, rest) ∧
    (s.isSingleLine → (cutAt? (charOffset rest (s.stop.column - s.start.column)) rest).isSome)

theorem cuts (line : List Char) (s : Span) : Cuts line s := by
  refine ⟨_, _, cutAt?_charOffset .., fun _ => ?_⟩
  rw [cutAt?_charOffset]
  rfl

/-- **Rows.**  All cuts of lines that the rows take are before a character or at the end. -/
theorem rows_laid_out (hglyphs : l.glyphs = .ascii ∨ l.glyphs = .unicode) (d : Diagnostic)
    (source : String) (hlabels : d.labels ≠ [])
    (hcarets : ∀ x ∈ d.labels, 1 ≤ x.span.start.line ∧ 1 ≤ x.span.start.column)
    (hmessages : ∀ x ∈ d.labels, ∀ m ∈ x.message, '\n' ∉ m.toList) :
    let lines := textLines source.toList
    ∃ head gutter rows,
      written false (headline l d) = head ++ ['\n'] ∧
      (render l false d (some source)).toList =
        head ++ ['\n'] ++ placeLine l gutter d ++ joinLines rows ∧
      rows = row l gutter [] [] :: d.labels.flatMap (labelRows l lines gutter) ∧
      Widest d.labels gutter ∧ (∀ r ∈ rows, Aligned l gutter r) ∧
      ∀ x ∈ d.labels, Cuts (quotedLine lines x.span) x.span := by
  intro lines
  have hwidest := widest_gutterWidth hlabels
  obtain ⟨head, hhead⟩ := written_headline l d
  refine ⟨head, gutterWidth d, _, hhead, ?_, rfl, hwidest, ?_, fun x _ => cuts _ _⟩
  · have hempty : List.isEmpty d.labels = false := by simpa using hlabels
    have hsnippets := written_snippets l (fun x hx => (hcarets x hx).2) lines (gutterWidth d)
    have hfeed : written false [.text "\n"] = ['\n'] := rfl
    simp only [toList_render, inks, hempty, Bool.false_eq_true, if_false, written_append, hhead,
      written_whereabouts, written_margin, hfeed, hsnippets, lines]
    simp [joinLines]
  · refine List.forall_mem_cons.mpr ⟨?_, fun r hr => ?_⟩
    · exact aligned_row l (not_mem_glyphs l hglyphs rfl).2.1 (Nat.zero_le _) List.not_mem_nil
        List.not_mem_nil
    · obtain ⟨x, hx, hr⟩ := List.mem_flatMap.mp hr
      exact aligned_labelRows l source.toList hglyphs (hwidest.le x hx) (hmessages x hx) r hr

/-- A token is marked on its line, and a span after the last line is pointed at. -/
theorem token_and_end_marked :
    let d : Diagnostic := ⟨.error, "x", none, none, [⟨⟨⟨2, 3⟩, ⟨2, 6⟩, by decide⟩, none⟩,
      ⟨⟨⟨3, 1⟩, ⟨4, 1⟩, by decide⟩, some "here"⟩]⟩
    ∃ head, written false (headline .standard d) = head ++ ['\n'] ∧
      (render .standard false d (some "a\nb foo c")).toList = head ++ '\n' ::
      joinLines (["  |", "2 | b foo c", "  |   ^^^", "3 | ", "  | ^ here"].map (·.toList)) := by
  intro d
  obtain ⟨head, gutter, rows, hhead, hrender, hrows, hwidest, -⟩ :=
    rows_laid_out .standard (.inl rfl) d "a\nb foo c" (by decide) (by decide) (by decide)
  obtain ⟨x, hx, hgutter⟩ := hwidest.exists_eq
  have hone : ∀ x ∈ d.labels, (toString x.span.start.line).length = 1 := by decide
  rw [hone x hx] at hgutter
  subst hgutter
  refine ⟨head, hhead, ?_⟩
  have hlisted :
      rows = ["  |", "2 | b foo c", "  |   ^^^", "3 | ", "  | ^ here"].map (·.toList) := by
    rw [hrows]
    rfl
  rw [hrender, hlisted]
  simp [placeLine, d]

end Terminal

end Packrat
