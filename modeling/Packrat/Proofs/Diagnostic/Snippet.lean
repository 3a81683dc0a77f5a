import Packrat.Diagnostic.Terminal
import Packrat.Proofs.Text.Lines

/-!
# Proofs — Diagnostic — Snippet

Labels on pieces of a line.  If a span starts before a piece of a line and stops after it, the line
is quoted as it is listed, what stands before the label is what stands before the piece, and the
label covers the piece.  Where the piece ends the line, it is covered as far as it is listed.

**Snippet** (`snippet_of_standsOnLine`): the quoted line, and under it the remark after as many
markers as the piece is wide, which start below the piece.
-/

namespace Packrat

/-- The piece, as it is listed in front of `rest` on a line that `below` follows. -/
def pieceAsListed (piece rest below : List Char) : List Char :=
  if rest = [] then asListed below piece else piece

/-- The span starts before a piece that stands after `start`, below so many lines, and stops after
it. -/
structure Span.Marks (s : Span) (above : Nat) (start piece : List Char) : Prop where
  start_eq : s.start = ⟨above + 1, start.length + 1⟩
  stop_eq : s.stop = ⟨above + 1, start.length + 1 + piece.length⟩

variable {source start piece rest below : List Char} {above : List (List Char)} {s : Span}

theorem asListed_append {xs ys : List Char} (h : ys ≠ []) :
    asListed below (xs ++ ys) = xs ++ asListed below ys := by
  simp only [asListed]
  split
  · rfl
  · exact dropReturn_append h

theorem length_asListed_le (below line : List Char) :
    (asListed below line).length ≤ line.length := by
  simp only [asListed]
  split
  · exact Nat.le_refl _
  · exact length_dropReturn_le line

/-- As many characters of the rest of the line as the piece has are the piece. -/
theorem take_asListed :
    (asListed below (piece ++ rest)).take piece.length = pieceAsListed piece rest below := by
  by_cases hrest : rest = []
  · subst hrest
    rw [List.append_nil, pieceAsListed, if_pos rfl,
      List.take_of_length_le (length_asListed_le below piece)]
  · rw [asListed_append hrest, List.take_left, pieceAsListed, if_neg hrest]

namespace Terminal

variable (h : StandsOnLine source above start piece rest below) (hne : piece ≠ [])
  (hs : s.Marks above.length start piece)
include hs

theorem isSingleLine_of_marks : s.isSingleLine = true := by
  simp only [Span.isSingleLine, hs.start_eq, hs.stop_eq, decide_true]

include hne

theorem beforeLabel_of_marks :
    beforeLabel (asListed below (start ++ piece ++ rest)) s = start := by
  rw [List.append_assoc, asListed_append (List.append_ne_nil_of_left_ne_nil hne rest), beforeLabel,
    cutBefore_eq, hs.start_eq, Nat.add_sub_cancel, List.take_left]

theorem covered_of_marks :
    covered (asListed below (start ++ piece ++ rest)) s = pieceAsListed piece rest below := by
  have hcount : start.length + 1 + piece.length - (start.length + 1) = piece.length :=
    Nat.add_sub_cancel_left _ _
  rw [List.append_assoc, asListed_append (List.append_ne_nil_of_left_ne_nil hne rest)]
  simp only [covered, cutBefore_eq, isSingleLine_of_marks hs, if_true, hs.start_eq, hs.stop_eq,
    Nat.add_sub_cancel, List.drop_left, hcount]
  exact take_asListed

include h

theorem quotedLine_of_standsOnLine :
    quotedLine (textLines source) s = asListed below (start ++ piece ++ rest) := by
  simp only [quotedLine, hs.start_eq, Nat.add_sub_cancel, h.getElem?_textLines hne,
    Option.getD_some]

/-- **Snippet.** -/
theorem snippet_of_standsOnLine (l : Layout) (gutter : Nat) (message : Option String) :
    snippet l (textLines source) gutter ⟨s, message⟩ =
      margin l gutter (some (above.length + 1)) ++
        [.text (" " ++ .ofList (asListed below (start ++ piece ++ rest)) ++ "\n")] ++
        margin l gutter none ++
        [.text (" " ++ blanks (textWidth start)), .paint ⟨some .yellow, true, false⟩,
          .text (.ofList (List.replicate (max 1 (textWidth (pieceAsListed piece rest below)))
            l.glyphs.marker)), .reset] ++
        message.elim [] (fun m => [.paint ⟨some .blue, false, false⟩, .text (" " ++ m), .reset]) ++
        [.text "\n"] := by
  simp only [snippet, quotedLine_of_standsOnLine h hne hs, beforeLabel_of_marks hne hs,
    covered_of_marks hne hs, hs.start_eq]
  cases message <;> rfl

end Terminal

end Packrat
