/-!
# Text — Ranges

Sets of characters given as ranges of code points.  The tables of character properties write such a
set as text: code points in hexadecimal, with white space between the entries; an entry is one code
point, or the first and the last one of a range with a hyphen between them (`Ranges.ofTable`).
-/

namespace Packrat

/-- A set of code points, as a list of ranges whose ends belong to them. -/
structure Ranges where
  bounds : Array (Nat × Nat)

namespace Ranges

/-- Does one of the ranges hold the code point? -/
def hasCode (r : Ranges) (n : Nat) : Bool :=
  r.bounds.any fun b => b.1 ≤ n && n ≤ b.2

def contains (r : Ranges) (c : Char) : Bool :=
  r.hasCode c.toNat

/-- The union of two sets. -/
def append (r s : Ranges) : Ranges :=
  ⟨r.bounds ++ s.bounds⟩

instance : Append Ranges := ⟨append⟩

/-- The value of a hexadecimal digit; any other character counts as zero. -/
def digitValue (c : Char) : Nat :=
  if '0' ≤ c ∧ c ≤ '9' then c.toNat - '0'.toNat
  else if 'a' ≤ c ∧ c ≤ 'f' then c.toNat - 'a'.toNat + 10
  else if 'A' ≤ c ∧ c ≤ 'F' then c.toNat - 'A'.toNat + 10
  else 0

/-- What has been read of a table: the finished ranges, the first end of the current entry once its
hyphen has been seen, and the number being read. -/
structure Reading where
  done : Array (Nat × Nat)
  low : Option Nat
  number : Option Nat

/-- Ends the current entry, if there is one. -/
def Reading.close (r : Reading) : Array (Nat × Nat) :=
  match r.number with
  | some n => r.done.push (r.low.getD n, n)
  | none => r.done

/-- Reads one character of a table. -/
def Reading.step (r : Reading) (c : Char) : Reading :=
  if c = '-' then { r with low := r.number, number := none }
  else if c.isWhitespace then ⟨r.close, none, none⟩
  else { r with number := some (r.number.getD 0 * 16 + digitValue c) }

/-- The set that a table writes down. -/
def ofTable (table : String) : Ranges :=
  ⟨(table.foldl Reading.step ⟨#[], none, none⟩).close⟩

end Ranges

end Packrat
