import Packrat.Text.Caret

/-!
# Text — Span

A span is the text between two carets; its end is exclusive.  Every span starts no later than it
stops, which is part of the type.  `Span.join` is the smallest span that covers two others.
-/

namespace Packrat

/-- The text from `start` up to, and without, `stop`. -/
structure Span where
  start : Caret
  stop : Caret
  ordered : start ≤ stop
  deriving DecidableEq

namespace Span

/-- The span between two carets, given in either order. -/
def between (a b : Caret) : Span :=
  ⟨min a b, max a b, Caret.min_le_max a b⟩

/-- The empty span at a caret. -/
def point (k : Caret) : Span :=
  between k k

/-- The empty span before the first character. -/
def origin : Span :=
  point .origin

/-- The smallest span that covers both, and what lies between them. -/
def join (a b : Span) : Span :=
  between (min a.start b.start) (max a.stop b.stop)

instance : Add Span := ⟨join⟩

def isEmpty (s : Span) : Bool :=
  s.start = s.stop

def isSingleLine (s : Span) : Bool :=
  s.start.line = s.stop.line

/-- A span contains its start but not its stop. -/
def contains (s : Span) (k : Caret) : Bool :=
  s.start ≤ k ∧ k < s.stop

/-- `start-stop`. -/
def render (s : Span) : String :=
  s.start.render ++ "-" ++ s.stop.render

end Span

end Packrat
