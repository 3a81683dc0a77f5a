import Mathlib.Data.List.TakeWhile
import Packrat.Proofs.Text.Caret
import Packrat.Text.Lines

/-!
# Proofs — Text — Lines

A text as lines: whole ones, each with a line feed after it, and what follows the last line feed.
Every text is of this form (`exists_lines`).

**Lines** (`textLines_lines`): the lines that are listed are the whole ones, without a carriage
return at their end, and what follows them unless it is empty.  **Carets** (`Caret.after_lines`): a
caret moves down as many lines as there are whole ones.  So the line on which a piece of the text
stands is listed under the number that the caret before the piece has (`exists_standsOnLine`,
`StandsOnLine.getElem?_textLines`).
-/

namespace Packrat

/-- The lines, with a line feed after each of them. -/
def joinLines (lines : List (List Char)) : List Char :=
  lines.flatMap (· ++ ['\n'])

/-- The line as it is listed where `below` follows it in the text: a carriage return at its end
belongs to the line feed. -/
def asListed (below line : List Char) : List Char :=
  if below = [] then line else dropReturn line

variable {lines : List (List Char)} {line last xs ys : List Char}

/-- A number is written in digits. -/
theorem isDigit_of_mem_toString {n : Nat} {c : Char} (h : c ∈ (toString n).toList) : c.isDigit :=
  Nat.isDigit_of_mem_toDigits (by decide) (by decide) (Nat.toList_repr ▸ h)

theorem not_mem_digits {c : Char} (hc : c.isDigit = false) (n : Nat) : c ∉ (toString n).toList :=
  fun h => absurd (isDigit_of_mem_toString h) (by simp [hc])

theorem Caret.toList_render (k : Caret) :
    k.render.toList = (toString k.line).toList ++ ':' :: (toString k.column).toList := by
  simp [render]

theorem Caret.not_mem_render {c : Char} (hdigit : c.isDigit = false) (hcolon : c ≠ ':')
    (k : Caret) : c ∉ k.render.toList := by
  rw [toList_render, List.mem_append, List.mem_cons]
  rintro (h | h | h)
  · exact not_mem_digits hdigit _ h
  · exact hcolon h
  · exact not_mem_digits hdigit _ h

/-! ### Carriage returns -/

theorem dropReturn_append (h : ys ≠ []) : dropReturn (xs ++ ys) = xs ++ dropReturn ys := by
  have hlast : (xs ++ ys).getLast? = ys.getLast? := by
    rw [List.getLast?_append, List.getLast?_eq_some_getLast h, Option.some_or]
  simp only [dropReturn, hlast]
  split
  · exact List.dropLast_append_of_ne_nil h
  · rfl

theorem dropReturn_of_not_mem (h : '\r' ∉ line) : dropReturn line = line :=
  if_neg fun he => h (List.mem_of_getLast? he)

theorem length_dropReturn_le (line : List Char) : (dropReturn line).length ≤ line.length := by
  simp only [dropReturn]
  split
  · exact Nat.le_trans (Nat.le_of_eq List.length_dropLast) (Nat.sub_le _ _)
  · exact Nat.le_refl _

/-! ### Splitting -/

theorem splitLineFeeds_of_not_mem (h : '\n' ∉ line) : splitLineFeeds line = [line] := by
  induction line with
  | nil => rfl
  | cons c line ih =>
      obtain ⟨hc, hline⟩ := List.ne_and_not_mem_of_not_mem_cons h
      rw [splitLineFeeds, if_neg (Ne.symm hc), ih hline]

theorem splitLineFeeds_append (h : '\n' ∉ line) :
    splitLineFeeds (line ++ '\n' :: xs) = line :: splitLineFeeds xs := by
  induction line with
  | nil => rfl
  | cons c line ih =>
      obtain ⟨hc, hline⟩ := List.ne_and_not_mem_of_not_mem_cons h
      rw [List.cons_append, splitLineFeeds, if_neg (Ne.symm hc), ih hline]

/-- Splitting takes a text apart into its lines. -/
theorem splitLineFeeds_lines (h : ∀ line ∈ lines, '\n' ∉ line) (hlast : '\n' ∉ last) :
    splitLineFeeds (joinLines lines ++ last) = lines ++ [last] := by
  induction lines with
  | nil => exact splitLineFeeds_of_not_mem hlast
  | cons line lines ih =>
      obtain ⟨hline, hlines⟩ := List.forall_mem_cons.mp h
      have hcons : joinLines (line :: lines) ++ last =
          line ++ '\n' :: (joinLines lines ++ last) := by
        simp [joinLines]
      rw [hcons, splitLineFeeds_append hline, ih hlines, List.cons_append]

/-- So the lines can be told from the text. -/
theorem joinLines_inj {lines' : List (List Char)} (h : ∀ line ∈ lines, '\n' ∉ line)
    (h' : ∀ line ∈ lines', '\n' ∉ line) (heq : joinLines lines = joinLines lines') :
    lines = lines' := by
  have hsplit := congrArg (fun cs => splitLineFeeds (cs ++ [])) heq
  simp only [splitLineFeeds_lines h List.not_mem_nil, splitLineFeeds_lines h' List.not_mem_nil]
    at hsplit
  exact List.append_cancel_right hsplit

theorem exists_lines (cs : List Char) :
    ∃ lines last, cs = joinLines lines ++ last ∧ (∀ line ∈ lines, '\n' ∉ line) ∧ '\n' ∉ last := by
  induction cs with
  | nil => exact ⟨[], [], rfl, List.forall_mem_nil _, List.not_mem_nil⟩
  | cons c cs ih =>
      obtain ⟨lines, last, rfl, hlines, hlast⟩ := ih
      by_cases hc : c = '\n'
      · subst hc
        refine ⟨[] :: lines, last, rfl, List.forall_mem_cons.mpr ⟨List.not_mem_nil, hlines⟩, hlast⟩
      · have hcons : ∀ line, '\n' ∉ line → '\n' ∉ c :: line := fun line hline =>
          List.not_mem_cons_of_ne_of_not_mem (Ne.symm hc) hline
        -- the character is the first of the first line
        cases lines with
        | nil => exact ⟨[], c :: last, rfl, List.forall_mem_nil _, hcons last hlast⟩
        | cons line lines =>
            obtain ⟨hline, hlines⟩ := List.forall_mem_cons.mp hlines
            exact ⟨(c :: line) :: lines, last, rfl,
              List.forall_mem_cons.mpr ⟨hcons line hline, hlines⟩, hlast⟩

/-- **Lines.** -/
theorem textLines_lines (h : ∀ line ∈ lines, '\n' ∉ line) (hlast : '\n' ∉ last) :
    textLines (joinLines lines ++ last) =
      lines.map dropReturn ++ if last = [] then [] else [last] := by
  simp only [textLines, splitLineFeeds_lines h hlast, List.dropLast_concat, List.getLast?_concat]
  cases last with
  | nil => simp
  | cons c last => simp

/-- Pieces are parts of the text, and there are no line feeds in them. -/
theorem mem_of_mem_splitLineFeeds {cs piece : List Char} {c : Char}
    (h : piece ∈ splitLineFeeds cs) (hc : c ∈ piece) : c ∈ cs ∧ c ≠ '\n' := by
  obtain ⟨lines, last, rfl, hlines, hlast⟩ := exists_lines cs
  rw [splitLineFeeds_lines hlines hlast] at h
  rcases List.mem_append.mp h with h | h
  · refine ⟨List.mem_append_left _ (List.mem_flatMap.mpr ⟨piece, h, ?_⟩), ?_⟩
    · exact List.mem_append_left _ hc
    · exact fun heq => hlines piece h (heq ▸ hc)
  · rw [List.mem_singleton.mp h] at hc
    exact ⟨List.mem_append_right _ hc, fun heq => hlast (heq ▸ hc)⟩

theorem dropReturn_subset (line : List Char) : dropReturn line ⊆ line := by
  rw [dropReturn]
  split
  · exact List.dropLast_subset line
  · exact List.Subset.refl line

/-- So it is with lines as they are listed. -/
theorem mem_of_mem_textLines {cs : List Char} {c : Char} (h : line ∈ textLines cs) (hc : c ∈ line) :
    c ∈ cs ∧ c ≠ '\n' := by
  obtain ⟨lines, last, rfl, hlines, hlast⟩ := exists_lines cs
  have hpieces := splitLineFeeds_lines hlines hlast
  rw [textLines_lines hlines hlast, List.mem_append, List.mem_map] at h
  rcases h with ⟨whole, hwhole, rfl⟩ | h
  · refine mem_of_mem_splitLineFeeds ?_ (dropReturn_subset whole hc)
    rw [hpieces]
    exact List.mem_append_left _ hwhole
  · refine mem_of_mem_splitLineFeeds ?_ hc
    rw [hpieces]
    split at h
    · cases h
    · exact List.mem_append_right _ h

/-- **Carets.** -/
theorem Caret.after_lines (n : Nat) (h : ∀ line ∈ lines, '\n' ∉ line) :
    (⟨n, 1⟩ : Caret).after (joinLines lines) = ⟨n + lines.length, 1⟩ := by
  induction lines generalizing n with
  | nil => rfl
  | cons line lines ih =>
      obtain ⟨hline, hlines⟩ := List.forall_mem_cons.mp h
      have hfeed : ∀ k : Caret, k.after ['\n'] = ⟨k.line + 1, 1⟩ := fun k => rfl
      have hcons : joinLines (line :: lines) = line ++ ['\n'] ++ joinLines lines := rfl
      rw [hcons, after_append, after_append, after_of_not_mem hline, hfeed, ih _ hlines,
        List.length_cons, Nat.add_right_comm, Nat.add_assoc]

/-! ### Pieces of lines -/

/-- The piece of the source stands on a line between `start` and `rest`.  Above it are whole lines,
and below it nothing or a line feed and more. -/
structure StandsOnLine (source : List Char) (above : List (List Char))
    (start piece rest below : List Char) : Prop where
  source_eq : source = joinLines above ++ (start ++ piece ++ rest) ++ below
  not_mem_above : ∀ line ∈ above, '\n' ∉ line
  not_mem_line : '\n' ∉ start ++ piece ++ rest
  below_eq : below = [] ∨ below.head? = some '\n'

/-- Every piece without line feeds stands on a line. -/
theorem exists_standsOnLine {piece : List Char} (h : '\n' ∉ piece) (pre post : List Char) :
    ∃ above start rest below,
      StandsOnLine (pre ++ piece ++ post) above start piece rest below ∧
        Caret.origin.after pre = ⟨above.length + 1, start.length + 1⟩ := by
  obtain ⟨above, start, rfl, habove, hstart⟩ := exists_lines pre
  have hrest : '\n' ∉ post.takeWhile (· ≠ '\n') := fun hn => by
    simpa using List.mem_takeWhile_imp hn
  refine ⟨above, start, post.takeWhile (· ≠ '\n'), post.dropWhile (· ≠ '\n'),
    ⟨?_, habove, ?_, ?_⟩, ?_⟩
  · simp only [List.append_assoc, List.takeWhile_append_dropWhile]
  · simp only [List.mem_append, not_or]
    exact ⟨⟨hstart, h⟩, hrest⟩
  · cases hbelow : post.dropWhile (· ≠ '\n') with
    | nil => exact .inl rfl
    | cons c below =>
        have hc := List.head?_dropWhile_not (· ≠ '\n') post
        rw [hbelow] at hc
        exact .inr (congrArg some (by simpa using hc))
  · rw [Caret.after_append, Caret.origin, Caret.after_lines 1 habove,
      Caret.after_of_not_mem hstart, Nat.add_comm 1, Nat.add_comm 1]

/-- The line that it stands on is listed after the lines above. -/
theorem StandsOnLine.getElem?_textLines {source start piece rest below : List Char}
    {above : List (List Char)} (h : StandsOnLine source above start piece rest below)
    (hne : piece ≠ []) :
    (textLines source)[above.length]? = some (asListed below (start ++ piece ++ rest)) := by
  obtain ⟨rfl, habove, hline, hbelow⟩ := h
  have hnil : start ++ piece ++ rest ≠ [] := by simp [hne]
  generalize start ++ piece ++ rest = line at hline hnil ⊢
  cases below with
  | nil =>
      rw [List.append_nil, textLines_lines habove hline, if_neg hnil, asListed, if_pos rfl,
        List.getElem?_append_right (by simp)]
      simp
  | cons c below =>
      obtain rfl : c = '\n' := by simpa using hbelow
      obtain ⟨lines, last, rfl, hlines, hlast⟩ := exists_lines below
      have hsource : joinLines above ++ line ++ '\n' :: (joinLines lines ++ last) =
          joinLines (above ++ line :: lines) ++ last := by
        simp [joinLines]
      rw [hsource, textLines_lines _ hlast, asListed, if_neg (List.cons_ne_nil _ _)]
      · simp
      · exact List.forall_mem_append.mpr ⟨habove, List.forall_mem_cons.mpr ⟨hline, hlines⟩⟩

end Packrat
