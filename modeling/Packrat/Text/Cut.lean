/-!
# Text — Cut

Cutting a text before a character.  A text is cut at a byte of its encoding, which must be where a
character begins, or the end (`cutAt?`).  Where the characters begin is known from listing them with
their places (`charOffset`), so that a text can be cut before each of them (`cutBefore`).
-/

namespace Packrat

/-- The bytes that the encoding of a text takes. -/
def byteLength : List Char → Nat
  | [] => 0
  | c :: cs => c.utf8Size + byteLength cs

/-- The characters, each with the byte at which it begins; the first one begins at `start`. -/
def charIndices (start : Nat) : List Char → List (Nat × Char)
  | [] => []
  | c :: cs => (start, c) :: charIndices (start + c.utf8Size) cs

/-- The byte at which the character with the given index begins, or the length of the text if there
is no such character. -/
def charOffset (cs : List Char) (n : Nat) : Nat :=
  ((charIndices 0 cs)[n]?.map (·.1)).getD (byteLength cs)

/-- What stands before a byte, and the rest.  A text is cut neither inside a character nor past its
end. -/
def cutAt? (offset : Nat) : List Char → Option (List Char × List Char)
  | [] => if offset = 0 then some ([], []) else none
  | c :: cs =>
    if offset = 0 then some ([], c :: cs)
    else if c.utf8Size ≤ offset then
      (cutAt? (offset - c.utf8Size) cs).map fun (before, rest) => (c :: before, rest)
    else none

theorem offset_charIndices (start : Nat) (cs : List Char) (n : Nat) :
    ((charIndices start cs)[n]?.map (·.1)).getD (start + byteLength cs) =
      start + byteLength (cs.take n) := by
  induction cs generalizing start n with
  | nil => simp [charIndices, byteLength]
  | cons c cs ih =>
      cases n with
      | zero => simp [charIndices, byteLength]
      | succ n =>
          have := ih (start + c.utf8Size) n
          simpa [charIndices, byteLength, Nat.add_assoc] using this

/-- A character begins after those before it. -/
theorem charOffset_eq (cs : List Char) (n : Nat) : charOffset cs n = byteLength (cs.take n) := by
  simpa [charOffset] using offset_charIndices 0 cs n

theorem cutAt?_byteLength (before rest : List Char) :
    cutAt? (byteLength before) (before ++ rest) = some (before, rest) := by
  induction before with
  | nil => cases rest <;> rfl
  | cons c before ih =>
      have hpos := c.utf8Size_pos
      have hlength : byteLength (c :: before) = c.utf8Size + byteLength before := rfl
      rw [List.cons_append, cutAt?, hlength, if_neg (by omega), if_pos (by omega),
        Nat.add_sub_cancel_left, ih]
      rfl

/-- A text can be cut before each character, and at its end. -/
theorem cutAt?_charOffset (cs : List Char) (n : Nat) :
    cutAt? (charOffset cs n) cs = some (cs.take n, cs.drop n) := by
  rw [charOffset_eq]
  conv => lhs; arg 2; rw [← List.take_append_drop n cs]
  exact cutAt?_byteLength ..

/-- What stands before the character with the given index, and the rest. -/
def cutBefore (cs : List Char) (n : Nat) : List Char × List Char :=
  (cutAt? (charOffset cs n) cs).get (by rw [cutAt?_charOffset]; rfl)

theorem cutBefore_eq (cs : List Char) (n : Nat) : cutBefore cs n = (cs.take n, cs.drop n) := by
  simp only [cutBefore, cutAt?_charOffset, Option.get_some]

end Packrat
