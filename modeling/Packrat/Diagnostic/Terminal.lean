import Packrat.Diagnostic
import Packrat.Text.Cut
import Packrat.Text.Wrap

/-!
# Diagnostic — Terminal

A diagnostic for a terminal: a headline wrapped to the width, the place, and for each label the
source line it starts on with markers under the characters it covers.

```
error: unexpected `+`
 --> main.calc:1:5
  |
1 | 1 + + 2
  |     ^ not expected here
```

The output is a list of `Ink`: text, and changes of how text is painted.  It is written with escape
sequences or without (`Ink.write`).
-/

namespace Packrat

inductive Color where
  | red
  | yellow
  | blue
  | cyan
  deriving DecidableEq

/-- How text is painted. -/
structure Style where
  color : Option Color
  bold : Bool
  dimmed : Bool
  deriving DecidableEq

/-- A piece of output. -/
inductive Ink where
  | text (s : String)
  /-- What follows is painted in this style only. -/
  | paint (style : Style)
  /-- What follows is not painted. -/
  | reset

def Color.code : Color → String
  | red => "31"
  | yellow => "33"
  | blue => "34"
  | cyan => "36"

/-- The escape sequence that switches one property of the output. -/
def escapeSequence (code : String) : String :=
  "\x1b[" ++ code ++ "m"

/-- A style is switched on after everything has been switched off. -/
def Style.sequence (s : Style) : String :=
  escapeSequence "0" ++ (if s.bold then escapeSequence "1" else "") ++
    (if s.dimmed then escapeSequence "2" else "") ++
    (s.color.map fun c => escapeSequence c.code).getD ""

/-- A piece of output as text; without colours, only text remains. -/
def Ink.write (colors : Bool) : Ink → String
  | text s => s
  | paint s => if colors then s.sequence else ""
  | reset => if colors then escapeSequence "0" else ""

/-- The drawing characters. -/
structure Glyphs where
  gutter : String
  marker : Char
  arrow : String

namespace Glyphs

def ascii : Glyphs := ⟨"|", '^', "-->"⟩

def unicode : Glyphs := ⟨"│", '^', "──▶"⟩

end Glyphs

/-- How to lay out diagnostics. -/
structure Layout where
  glyphs : Glyphs
  width : Nat

namespace Layout

def standardWidth : Nat := 80

/-- Narrower than this, wrapping does more harm than good. -/
def leastWidth : Nat := 40

def standard : Layout := ⟨.ascii, standardWidth⟩

/-- The layout with the given width, or the least one. -/
def withWidth (l : Layout) (width : Nat) : Layout :=
  { l with width := max width leastWidth }

def withGlyphs (l : Layout) (g : Glyphs) : Layout :=
  { l with glyphs := g }

end Layout

def Level.color : Level → Color
  | error => .red
  | warning => .yellow
  | note => .cyan

/-- That many spaces. -/
def blanks (n : Nat) : String :=
  .ofList (List.replicate n ' ')

namespace Terminal

variable (l : Layout)

/-- The level and the wrapped text; its further lines stand under the start of the text. -/
def headline (d : Diagnostic) : List Ink :=
  let indent := d.level.name.length + 2
  let lines := (wrapText (l.width - indent) d.text.toList).map String.ofList
  [.paint ⟨some d.level.color, true, false⟩, .text (d.level.name ++ ": "), .reset,
    .text (("\n" ++ blanks indent).intercalate lines ++ "\n")]

/-- Input and place, as far as they are known. -/
def whereabouts (gutter : Nat) (d : Diagnostic) : List Ink :=
  let line (s : String) : List Ink := [.text (blanks gutter ++ l.glyphs.arrow ++ " " ++ s ++ "\n")]
  match d.input, d.location with
  | none, none => []
  | none, some k => line k.render
  | some n, none => line n
  | some n, some k => line (n ++ ":" ++ k.render)

/-- The left margin with the number of a line, or without. -/
def margin (gutter : Nat) (number : Option Nat) : List Ink :=
  let field := (number.map toString).getD ""
  [.paint ⟨none, false, true⟩,
    .text (blanks (gutter - field.length) ++ field ++ " " ++ l.glyphs.gutter), .reset]

/-- The source line on which a label starts; there is an empty one after the last. -/
def quotedLine (lines : List (List Char)) (s : Span) : List Char :=
  (lines[s.start.line - 1]?).getD []

/-- The characters of the line that stand before the label. -/
def beforeLabel (line : List Char) (s : Span) : List Char :=
  (cutBefore line (s.start.column - 1)).1

/-- The characters of the line that the label covers: to the end of the line if it goes on. -/
def covered (line : List Char) (s : Span) : List Char :=
  let rest := (cutBefore line (s.start.column - 1)).2
  if s.isSingleLine then (cutBefore rest (s.stop.column - s.start.column)).1 else rest

/-- The source line of a label, and under it the markers and the remark.  There is one marker at
least. -/
def snippet (lines : List (List Char)) (gutter : Nat) (label : Label) : List Ink :=
  let line := quotedLine lines label.span
  let marks := max 1 (textWidth (covered line label.span))
  margin l gutter (some label.span.start.line) ++ [.text (" " ++ .ofList line ++ "\n")] ++
    margin l gutter none ++
    [.text (" " ++ blanks (textWidth (beforeLabel line label.span))),
      .paint ⟨some .yellow, true, false⟩,
      .text (.ofList (List.replicate marks l.glyphs.marker)), .reset] ++
    (match label.message with
      | some m => [.paint ⟨some .blue, false, false⟩, .text (" " ++ m), .reset]
      | none => []) ++ [.text "\n"]

/-- The width of the field for line numbers: that of the longest one. -/
def gutterWidth (d : Diagnostic) : Nat :=
  if d.labels.isEmpty then 1
  else (d.labels.map fun x => (toString x.span.start.line).length).foldl max 0

/-- The whole diagnostic. -/
def inks (d : Diagnostic) (source : Option String) : List Ink :=
  let gutter := gutterWidth d
  headline l d ++ whereabouts l gutter d ++
    (match source with
      | some text =>
        if d.labels.isEmpty then []
        else
          let lines := textLines text.toList
          margin l gutter none ++ [.text "\n"] ++ d.labels.flatMap (snippet l lines gutter)
      | none => [])

/-- The whole diagnostic as text. -/
def render (colors : Bool) (d : Diagnostic) (source : Option String) : String :=
  .join ((inks l d source).map (·.write colors))

end Terminal

end Packrat
