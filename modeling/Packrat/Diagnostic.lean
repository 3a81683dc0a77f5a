import Packrat.Text.Span

/-!
# Diagnostic

A message for people about some input.  Only the text is required; the input's name, the place and
labels that point at regions are added by whoever knows them.
-/

namespace Packrat

/-- How serious a diagnostic is, from least to most. -/
inductive Level where
  | note
  | warning
  | error
  deriving DecidableEq

namespace Level

def name : Level → String
  | note => "note"
  | warning => "warning"
  | error => "error"

/-- The place in the order of severity. -/
def severity : Level → Nat
  | note => 0
  | warning => 1
  | error => 2

instance : LE Level := ⟨fun a b => a.severity ≤ b.severity⟩

instance (a b : Level) : Decidable (a ≤ b) :=
  inferInstanceAs (Decidable (a.severity ≤ b.severity))

/-- From least to most severe. -/
def sort (ls : List Level) : List Level :=
  ls.mergeSort (· ≤ ·)

/-- The most severe level of the list. -/
def worst? (ls : List Level) : Option Level :=
  (sort ls).getLast?

end Level

/-- A region worth pointing at, with an optional remark. -/
structure Label where
  span : Span
  message : Option String

/-- A label on one line of its own. -/
def Label.summary (l : Label) : String :=
  "  " ++ l.span.render ++ (l.message.map (": " ++ ·)).getD ""

/-- A message about some input. -/
structure Diagnostic where
  level : Level
  text : String
  input : Option String
  location : Option Caret
  labels : List Label

namespace Diagnostic

/-- An error with nothing but a text. -/
def error (text : String) : Diagnostic :=
  ⟨.error, text, none, none, []⟩

variable (d : Diagnostic)

/-- Names the input the diagnostic is about. -/
def inInput (name : String) : Diagnostic :=
  { d with input := some name }

/-- Says where the problem starts. -/
def located (k : Caret) : Diagnostic :=
  { d with location := some k }

def addLabel (l : Label) : Diagnostic :=
  { d with labels := d.labels ++ [l] }

/-- The diagnostic on one line, without its labels. -/
def summary : String :=
  d.level.name ++
    (match d.input, d.location with
      | none, none => ": "
      | none, some k => " " ++ k.render ++ ": "
      | some n, none => ": " ++ n ++ " - "
      | some n, some k => ": " ++ n ++ ":" ++ k.render ++ " - ") ++ d.text

/-- The diagnostic and each of its labels, each on one line. -/
def plain : String :=
  d.summary ++ "\n" ++ .join (d.labels.map (·.summary ++ "\n"))

end Diagnostic

end Packrat
