/-!
# Text — Caret

A caret is a place between two characters of a text, given as a line and a column.  Carets are
ordered by line and then by column, and a caret moves through a text one character at a time
(`Caret.advance`, `Caret.after`).
-/

namespace Packrat

/-- A line and a column, both counted from one. -/
structure Caret where
  line : Nat
  column : Nat
  deriving DecidableEq, Inhabited

namespace Caret

/-- The caret before the first character of a text. -/
def origin : Caret := ⟨1, 1⟩

/-- A line feed starts a new line; any other character moves one column on. -/
def advance (k : Caret) (c : Char) : Caret :=
  if c = '\n' then ⟨k.line + 1, 1⟩ else ⟨k.line, k.column + 1⟩

/-- The caret after all characters of `cs`. -/
def after (k : Caret) (cs : List Char) : Caret :=
  cs.foldl advance k

/-- `line:column`. -/
def render (k : Caret) : String :=
  toString k.line ++ ":" ++ toString k.column

instance : LT Caret :=
  ⟨fun a b => a.line < b.line ∨ a.line = b.line ∧ a.column < b.column⟩

instance : LE Caret :=
  ⟨fun a b => a.line < b.line ∨ a.line = b.line ∧ a.column ≤ b.column⟩

instance (a b : Caret) : Decidable (a < b) :=
  inferInstanceAs (Decidable (a.line < b.line ∨ a.line = b.line ∧ a.column < b.column))

instance (a b : Caret) : Decidable (a ≤ b) :=
  inferInstanceAs (Decidable (a.line < b.line ∨ a.line = b.line ∧ a.column ≤ b.column))

instance : Ord Caret :=
  ⟨fun a b => (compare a.line b.line).then (compare a.column b.column)⟩

instance : Min Caret := ⟨fun a b => if a ≤ b then a else b⟩

instance : Max Caret := ⟨fun a b => if a ≤ b then b else a⟩

theorem lt_def {a b : Caret} :
    a < b ↔ a.line < b.line ∨ a.line = b.line ∧ a.column < b.column :=
  Iff.rfl

theorem le_def {a b : Caret} :
    a ≤ b ↔ a.line < b.line ∨ a.line = b.line ∧ a.column ≤ b.column :=
  Iff.rfl

theorem min_def (a b : Caret) : min a b = if a ≤ b then a else b :=
  rfl

theorem max_def (a b : Caret) : max a b = if a ≤ b then b else a :=
  rfl

theorem le_refl (a : Caret) : a ≤ a := by
  simp [le_def]

theorem min_le_max (a b : Caret) : min a b ≤ max a b := by
  simp only [min_def, max_def]
  split <;> simp_all only [le_def]
  omega

end Caret

end Packrat
