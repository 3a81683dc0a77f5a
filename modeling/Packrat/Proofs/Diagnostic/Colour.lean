import Packrat.Proofs.Diagnostic.Rows
import Packrat.Proofs.Text.Wrap

/-!
# Proofs — Diagnostic — Colour

Coloured output as a terminal reads it (`Reader`): escape sequences are not shown, and the last one
says how text is painted.  What is written for a diagnostic is text that is not painted, and painted
text on one line with a reset after it (`Closed`).

**Colour** (`Terminal.colours_erased`): without its escape sequences, coloured output is the output
without colours, and wherever a line ends, and at the end, nothing is painted any more.
-/

namespace Packrat

/-! ### Reading escape sequences -/

/-- What a reader has made of the characters so far. -/
structure Reader where
  shown : List Char
  /-- The last whole escape sequence. -/
  last : Option (List Char)
  /-- The beginning of a sequence that is not whole yet. -/
  begun : List Char

namespace Reader

/-- Nothing has been read. -/
def initial : Reader := ⟨[], none, []⟩

/-- Does the sequence go on after the character?  One that a bracket introduces goes on up to a
character that ends it, and any other has one character after the escape character. -/
def goesOn (begun : List Char) (c : Char) : Bool :=
  if begun = ['\x1b'] then c = '[' else !Wrap.endsEscape c

/-- Reads one more character. -/
def step (r : Reader) (c : Char) : Reader :=
  if r.begun = [] then
    if c = '\x1b' then { r with begun := [c] } else { r with shown := r.shown ++ [c] }
  else if goesOn r.begun c then { r with begun := r.begun ++ [c] }
  else { r with last := some (r.begun ++ [c]), begun := [] }

def read (cs : List Char) (r : Reader) : Reader :=
  cs.foldl step r

/-- No sequence has begun, and the last one was a reset, if there was one. -/
structure Clean (r : Reader) : Prop where
  begun_eq : r.begun = []
  last_eq : ∀ sequence ∈ r.last, sequence = (escapeSequence "0").toList

/-- Nothing is painted wherever a line ends in the characters that are read. -/
def LinesClean (r : Reader) (cs : List Char) : Prop :=
  ∀ pre post, cs = pre ++ '\n' :: post → (r.read pre).Clean

variable {r : Reader} {cs cs' : List Char}

theorem clean_initial : initial.Clean :=
  ⟨rfl, nofun⟩

theorem read_cons (r : Reader) (c : Char) (cs : List Char) :
    r.read (c :: cs) = (r.step c).read cs :=
  rfl

theorem read_append (r : Reader) (cs cs' : List Char) :
    r.read (cs ++ cs') = (r.read cs).read cs' :=
  List.foldl_append

theorem linesClean_append (h : r.LinesClean cs) (h' : (r.read cs).LinesClean cs') :
    r.LinesClean (cs ++ cs') := by
  intro pre post heq
  rcases List.append_eq_append_iff.mp heq with ⟨mid, rfl, hmid⟩ | ⟨mid, hmid, hpost⟩
  · rw [read_append]
    exact h' mid post hmid
  · cases mid with
    | nil =>
        rw [List.append_nil] at hmid
        subst hmid
        exact h' [] post hpost.symm
    | cons c mid =>
        obtain ⟨rfl, -⟩ := List.cons_eq_cons.mp hpost
        exact h pre mid hmid

/-- Without line feeds no line ends. -/
theorem linesClean_of_not_mem (h : '\n' ∉ cs) : r.LinesClean cs := by
  rintro pre post rfl
  exact absurd (List.mem_append_right _ (List.mem_cons_self ..)) h

/-- Characters that begin no sequence are shown. -/
theorem read_text (hr : r.begun = []) (h : '\x1b' ∉ cs) :
    r.read cs = { r with shown := r.shown ++ cs } := by
  induction cs generalizing r with
  | nil => simp [read]
  | cons c cs ih =>
      obtain ⟨hc, hcs⟩ := List.ne_and_not_mem_of_not_mem_cons h
      have hstep : r.step c = { r with shown := r.shown ++ [c] } := by
        rw [step, if_pos hr, if_neg (Ne.symm hc)]
      rw [read_cons, hstep, ih (r := { r with shown := r.shown ++ [c] }) hr hcs, List.append_assoc]
      rfl

theorem clean_read_text (hr : r.Clean) (h : '\x1b' ∉ cs) : (r.read cs).Clean := by
  rw [read_text hr.begun_eq h]
  exact ⟨hr.begun_eq, hr.last_eq⟩

theorem linesClean_text (hr : r.Clean) (h : '\x1b' ∉ cs) : r.LinesClean cs := by
  rintro pre post rfl
  exact clean_read_text hr fun hmem => h (List.mem_append_left _ hmem)

/-- What does not end a sequence belongs to it. -/
theorem read_code {code : List Char} (hne : r.begun ≠ []) (hesc : r.begun ≠ ['\x1b'])
    (h : code.any Wrap.endsEscape = false) :
    r.read code = { r with begun := r.begun ++ code } := by
  induction code generalizing r with
  | nil => simp [read]
  | cons c code ih =>
      obtain ⟨hc, hcode⟩ := Bool.or_eq_false_iff.mp h
      have hgoes : goesOn r.begun c = true := by simp [goesOn, hesc, hc]
      have hstep : r.step c = { r with begun := r.begun ++ [c] } := by
        rw [step, if_neg hne, if_pos hgoes]
      have hlong : r.begun ++ [c] ≠ ['\x1b'] := by simp [List.append_eq_singleton_iff, hne]
      rw [read_cons, hstep, ih (by simp) hlong hcode, List.append_assoc]
      rfl

/-- A whole sequence is not shown. -/
theorem read_escapeSequence {code : String} (hr : r.begun = [])
    (h : code.toList.any Wrap.endsEscape = false) :
    r.read (escapeSequence code).toList =
      { r with last := some (escapeSequence code).toList } := by
  have hchars : (escapeSequence code).toList = ['\x1b', '['] ++ code.toList ++ ['m'] := by
    simp [escapeSequence]
  have hstart : r.read ['\x1b', '['] = { r with begun := ['\x1b', '['] } := by
    simp [read, step, goesOn, hr]
  rw [hchars, read_append, read_append, hstart, read_code (by simp) (by simp) h]
  have hend : Wrap.endsEscape 'm' = true := rfl
  simp [read, step, goesOn, hend, hr]

theorem read_reset (hr : r.begun = []) :
    r.read (escapeSequence "0").toList = { r with last := some (escapeSequence "0").toList } :=
  read_escapeSequence hr rfl

end Reader

/-! ### Output -/

/-- The characters are sequences, on one line. -/
structure Hidden (cs : List Char) : Prop where
  read_eq : ∀ r : Reader, r.begun = [] → ∃ last, r.read cs = { r with last := last }
  not_mem : '\n' ∉ cs

theorem hidden_nil : Hidden [] :=
  ⟨fun r _ => ⟨r.last, rfl⟩, List.not_mem_nil⟩

theorem Hidden.append {cs cs' : List Char} (h : Hidden cs) (h' : Hidden cs') :
    Hidden (cs ++ cs') := by
  refine ⟨fun r hr => ?_, by simp [h.not_mem, h'.not_mem]⟩
  obtain ⟨last, hread⟩ := h.read_eq r hr
  obtain ⟨last', hread'⟩ := h'.read_eq { r with last := last } hr
  exact ⟨last', by rw [Reader.read_append, hread, hread']⟩

theorem hidden_escapeSequence {code : String} (h : code.toList.any Wrap.endsEscape = false)
    (hline : '\n' ∉ code.toList) : Hidden (escapeSequence code).toList :=
  ⟨fun _ hr => ⟨_, Reader.read_escapeSequence hr h⟩, by simpa [escapeSequence] using hline⟩

theorem hidden_reset : Hidden (escapeSequence "0").toList :=
  hidden_escapeSequence rfl (by decide)

theorem Color.hidden_code (c : Color) : Hidden (escapeSequence c.code).toList := by
  cases c <;> exact hidden_escapeSequence rfl (by decide)

/-- What switches a style on is not shown. -/
theorem Style.hidden_sequence (s : Style) : Hidden s.sequence.toList := by
  obtain ⟨color, bold, dimmed⟩ := s
  have hbold : Hidden (if bold then escapeSequence "1" else "").toList := by
    cases bold
    · exact hidden_nil
    · exact hidden_escapeSequence rfl (by decide)
  have hdimmed : Hidden (if dimmed then escapeSequence "2" else "").toList := by
    cases dimmed
    · exact hidden_nil
    · exact hidden_escapeSequence rfl (by decide)
  have hcolor : Hidden ((color.map fun c => escapeSequence c.code).getD "").toList := by
    cases color with
    | none => exact hidden_nil
    | some c => exact c.hidden_code
  simpa only [Style.sequence, String.toList_append] using
    ((hidden_reset.append hbold).append hdimmed).append hcolor

/-- The style is on while the text is read, and off after the reset. -/
theorem Reader.read_painted {r : Reader} {s : String} (hr : r.Clean) (hs : '\x1b' ∉ s.toList)
    (style : Style) :
    r.read (style.sequence.toList ++ s.toList ++ (escapeSequence "0").toList) =
      ⟨r.shown ++ s.toList, some (escapeSequence "0").toList, []⟩ := by
  obtain ⟨last, hpaint⟩ := style.hidden_sequence.read_eq r hr.begun_eq
  obtain ⟨shown, _, begun⟩ := r
  obtain rfl : begun = [] := hr.begun_eq
  rw [read_append, read_append, hpaint, read_text rfl hs, read_reset rfl]

/-- Painted text is on one line, with a reset after it, and there are no escape characters in
text. -/
inductive Closed : List Ink → Prop
  | nil : Closed []
  | text {s : String} {inks : List Ink} : '\x1b' ∉ s.toList → Closed inks → Closed (.text s :: inks)
  | painted {style : Style} {s : String} {inks : List Ink} :
      '\x1b' ∉ s.toList → '\n' ∉ s.toList → Closed inks →
      Closed (.paint style :: .text s :: .reset :: inks)

namespace Closed

variable {is js : List Ink}

theorem append (h : Closed is) (h' : Closed js) : Closed (is ++ js) := by
  induction h with
  | nil => exact h'
  | text hs _ ih => exact .text hs ih
  | painted hs hline _ ih => exact .painted hs hline ih

theorem flatMap {α : Type} {xs : List α} {f : α → List Ink} (h : ∀ x ∈ xs, Closed (f x)) :
    Closed (xs.flatMap f) := by
  induction xs with
  | nil => exact .nil
  | cons x xs ih =>
      obtain ⟨hx, hxs⟩ := List.forall_mem_cons.mp h
      exact hx.append (ih hxs)

/-- What is shown is what is written without colours, and nothing stays painted where a line
ends. -/
theorem read_written (h : Closed is) {r : Reader} (hr : r.Clean) :
    (r.read (Terminal.written true is)).shown = r.shown ++ Terminal.written false is ∧
      (r.read (Terminal.written true is)).Clean ∧ r.LinesClean (Terminal.written true is) := by
  induction h generalizing r with
  | nil => exact ⟨(List.append_nil _).symm, hr, Reader.linesClean_of_not_mem List.not_mem_nil⟩
  | @text s is hs _ ih =>
      have hcons : ∀ colors, Terminal.written colors (.text s :: is) =
          s.toList ++ Terminal.written colors is := fun _ => rfl
      obtain ⟨hshown, hclean, hlines⟩ := ih (Reader.clean_read_text hr hs)
      rw [hcons, hcons, Reader.read_append]
      refine ⟨?_, hclean, Reader.linesClean_append (Reader.linesClean_text hr hs) hlines⟩
      rw [hshown, Reader.read_text hr.begun_eq hs, List.append_assoc]
  | @painted style s is hs hline _ ih =>
      have hcolors : Terminal.written true (.paint style :: .text s :: .reset :: is) =
          style.sequence.toList ++ s.toList ++ (escapeSequence "0").toList ++
            Terminal.written true is := by
        simp [Terminal.written, Ink.write]
      have hplain : Terminal.written false (.paint style :: .text s :: .reset :: is) =
          s.toList ++ Terminal.written false is := by
        simp [Terminal.written, Ink.write]
      have hread := Reader.read_painted hr hs style
      have hblock : '\n' ∉ style.sequence.toList ++ s.toList ++ (escapeSequence "0").toList := by
        simp [style.hidden_sequence.not_mem, hline, hidden_reset.not_mem]
      have hreset : (⟨r.shown ++ s.toList, some (escapeSequence "0").toList, []⟩ : Reader).Clean :=
        ⟨rfl, fun _ h => (Option.some.inj h).symm⟩
      obtain ⟨hshown, hclean, hlines⟩ := ih hreset
      rw [hcolors, hplain, Reader.read_append, hread]
      refine ⟨by rw [hshown, List.append_assoc], hclean, Reader.linesClean_append ?_ ?_⟩
      · exact Reader.linesClean_of_not_mem hblock
      · rw [hread]
        exact hlines

end Closed

namespace Terminal

variable {l : Layout} {d : Diagnostic}

theorem not_mem_intercalate {c : Char} {separator : List Char} {lines : List (List Char)}
    (hseparator : c ∉ separator) (hlines : ∀ line ∈ lines, c ∉ line) :
    c ∉ separator.intercalate lines := by
  induction lines with
  | nil => simp [List.intercalate]
  | cons line lines ih =>
      obtain ⟨hline, hlines⟩ := List.forall_mem_cons.mp hlines
      cases lines with
      | nil => simpa [List.intercalate] using hline
      | cons next lines =>
          rw [List.intercalate_cons_cons, List.mem_append, List.mem_append, not_or, not_or]
          exact ⟨⟨hline, hseparator⟩, ih hlines⟩

theorem escape_not_mem_blanks (n : Nat) : '\x1b' ∉ (blanks n).toList := by
  simp [toList_blanks]

theorem closed_headline (l : Layout) (h : '\x1b' ∉ d.text.toList) : Closed (headline l d) := by
  have hname : '\x1b' ∉ (d.level.name ++ ": ").toList ∧ '\n' ∉ (d.level.name ++ ": ").toList := by
    cases d.level <;> decide
  refine .painted hname.1 hname.2 (.text ?_ .nil)
  rw [String.toList_append, String.toList_intercalate, List.mem_append, not_or]
  refine ⟨not_mem_intercalate ?_ fun line hline hmem => ?_, by decide⟩
  · simp [escape_not_mem_blanks]
  · rw [List.map_map] at hline
    obtain ⟨wrapped, hwrapped, rfl⟩ := List.mem_map.mp hline
    rw [Function.comp_apply, String.toList_ofList] at hmem
    exact h (mem_of_mem_wrapText hwrapped hmem).1

theorem closed_whereabouts (hglyphs : l.glyphs = .ascii ∨ l.glyphs = .unicode) (gutter : Nat)
    (h : ∀ n ∈ d.input, '\x1b' ∉ n.toList) : Closed (whereabouts l gutter d) := by
  obtain ⟨-, -, harrow⟩ := not_mem_glyphs l hglyphs (c := '\x1b') rfl
  have hline : ∀ place : String, '\x1b' ∉ place.toList →
      Closed [.text (blanks gutter ++ l.glyphs.arrow ++ " " ++ place ++ "\n")] := fun place h =>
    .text (by simp [escape_not_mem_blanks, harrow, h]) .nil
  have hrender : ∀ k : Caret, '\x1b' ∉ k.render.toList := Caret.not_mem_render rfl (by decide)
  rw [whereabouts]
  cases hn : d.input with
  | none =>
      cases d.location with
      | none => exact .nil
      | some k => exact hline _ (hrender k)
  | some n =>
      have hn := h n hn
      cases d.location with
      | none => exact hline _ hn
      | some k => exact hline _ (by simp [hn, hrender])

theorem closed_margin (hglyphs : l.glyphs = .ascii ∨ l.glyphs = .unicode) (gutter : Nat)
    (number : Option Nat) : Closed (margin l gutter number) := by
  have hfield : ∀ c : Char, isControl c = true → c ∉ ((number.map toString).getD "").toList := by
    intro c hc
    cases number with
    | none => exact List.not_mem_nil
    | some n => exact not_mem_toString hc n
  have hmargin : ∀ c : Char, isControl c = true → c ∉ (blanks
      (gutter - ((number.map toString).getD "").length) ++ (number.map toString).getD "" ++ " " ++
        l.glyphs.gutter).toList := fun c hc => by
    obtain ⟨-, hgutter, -⟩ := not_mem_glyphs l hglyphs hc
    have hspace : c ≠ ' ' := fun heq => by
      rw [heq] at hc
      cases hc
    simp [toList_blanks, hfield c hc, hgutter, hspace]
  exact .painted (hmargin _ rfl) (hmargin _ rfl) .nil

theorem closed_snippet (hglyphs : l.glyphs = .ascii ∨ l.glyphs = .unicode)
    {lines : List (List Char)} (gutter : Nat) {x : Label} (hlines : ∀ line ∈ lines, '\x1b' ∉ line)
    (hmessage : ∀ m ∈ x.message, '\x1b' ∉ m.toList ∧ '\n' ∉ m.toList) :
    Closed (snippet l lines gutter x) := by
  have hline : '\x1b' ∉ quotedLine lines x.span := by
    rw [quotedLine]
    cases hget : lines[x.span.start.line - 1]? with
    | none => exact List.not_mem_nil
    | some line => exact hlines line (List.mem_of_getElem? hget)
  have hmarks : ∀ (n : Nat) (c : Char), isControl c = true →
      c ∉ (String.ofList (List.replicate n l.glyphs.marker)).toList := fun n c hc => by
    rw [String.toList_ofList, List.mem_replicate]
    exact fun h => (not_mem_glyphs l hglyphs hc).1 h.2
  have hquoted : Closed [.text (" " ++ .ofList (quotedLine lines x.span) ++ "\n")] :=
    .text (by simp [hline]) .nil
  have hmarked : Closed [
      .text (" " ++ blanks (textWidth (beforeLabel (quotedLine lines x.span) x.span))),
      .paint ⟨some .yellow, true, false⟩,
      .text (.ofList (List.replicate (max 1 (textWidth (covered (quotedLine lines x.span) x.span)))
        l.glyphs.marker)), .reset] :=
    .text (by simp [escape_not_mem_blanks]) (.painted (hmarks _ _ rfl) (hmarks _ _ rfl) .nil)
  have hrows := (((closed_margin hglyphs gutter (some x.span.start.line)).append hquoted).append
    (closed_margin hglyphs gutter none)).append hmarked
  have hend : Closed [.text "\n"] := .text (by decide) .nil
  obtain ⟨s, message⟩ := x
  cases message with
  | none => exact (hrows.append .nil).append hend
  | some m =>
      obtain ⟨hescape, hfeed⟩ := hmessage m rfl
      exact (hrows.append (.painted (by simp [hescape]) (by simp [hfeed]) .nil)).append hend

theorem closed_inks (hglyphs : l.glyphs = .ascii ∨ l.glyphs = .unicode) {source : Option String}
    (htext : '\x1b' ∉ d.text.toList) (hinput : ∀ n ∈ d.input, '\x1b' ∉ n.toList)
    (hmessages : ∀ x ∈ d.labels, ∀ m ∈ x.message, '\x1b' ∉ m.toList ∧ '\n' ∉ m.toList)
    (hsource : ∀ text ∈ source, '\x1b' ∉ text.toList) : Closed (inks l d source) := by
  refine ((closed_headline l htext).append (closed_whereabouts hglyphs _ hinput)).append ?_
  cases source with
  | none => exact .nil
  | some text =>
      have hlines : ∀ line ∈ textLines text.toList, '\x1b' ∉ line := fun line hline hmem =>
        hsource text rfl (mem_of_mem_textLines hline hmem).1
      simp only
      split
      · exact .nil
      · refine ((closed_margin hglyphs _ none).append (.text (by decide) .nil)).append ?_
        exact .flatMap fun x hx => closed_snippet hglyphs _ hlines (hmessages x hx)

/-- **Colour.**  The output begins with the sequence for the level, so there is something to take
out. -/
theorem colours_erased (hglyphs : l.glyphs = .ascii ∨ l.glyphs = .unicode) {source : Option String}
    (htext : '\x1b' ∉ d.text.toList) (hinput : ∀ n ∈ d.input, '\x1b' ∉ n.toList)
    (hmessages : ∀ x ∈ d.labels, ∀ m ∈ x.message, '\x1b' ∉ m.toList ∧ '\n' ∉ m.toList)
    (hsource : ∀ text ∈ source, '\x1b' ∉ text.toList) :
    let output := (render l true d source).toList
    (Style.sequence ⟨some d.level.color, true, false⟩).toList <+: output ∧
      (Reader.initial.read output).shown = (render l false d source).toList ∧
      (Reader.initial.read output).Clean ∧ Reader.initial.LinesClean output := by
  intro output
  have hclosed := closed_inks hglyphs htext hinput hmessages hsource
  have hread := hclosed.read_written Reader.clean_initial
  rw [← toList_render, ← toList_render] at hread
  refine ⟨?_, hread⟩
  simp only [output, toList_render, inks, headline, List.append_assoc]
  exact List.prefix_append ..

/-- A note with a place and a remark, in colours. -/
theorem coloured_note_shown :
    let d : Diagnostic := ⟨.note, "unused\nvalue", some "main.calc", some ⟨1, 1⟩,
      [⟨⟨⟨1, 1⟩, ⟨1, 4⟩, by decide⟩, some "never read"⟩]⟩
    let output := (render .standard true d (some "abc = 1\n")).toList
    (Style.sequence ⟨some d.level.color, true, false⟩).toList <+: output ∧
      (Reader.initial.read output).shown = (render .standard false d (some "abc = 1\n")).toList ∧
      (Reader.initial.read output).Clean ∧ Reader.initial.LinesClean output :=
  colours_erased (.inl rfl) (by decide) (by decide) (by decide) (by decide)

end Terminal

end Packrat
