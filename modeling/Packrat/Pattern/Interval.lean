import Packrat.Pattern.CharSet

/-!
# Pattern — Interval

Sets of characters as intervals of numbers: in order, and as few as possible, so that every set has
one list of intervals only (`CharSet.intervals`).  Surrogates are no characters; an interval reaches
across them.
-/

namespace Packrat.Pattern

/-- Intervals in order, of which no two touch.  Both ends belong to an interval. -/
abbrev Intervals := List (Nat × Nat)

namespace Intervals

/-- The greatest number of a character. -/
def lastCode : Nat := 0x10FFFF

/-- The number of the next character. -/
def nextCode (n : Nat) : Nat :=
  if n = 0xD7FF then 0xE000 else n + 1

/-- The number of the character before. -/
def previousCode (n : Nat) : Nat :=
  if n = 0xE000 then 0xD7FF else n - 1

/-- Cuts surrogates off from the ends of an interval, which may leave nothing of it. -/
def trim (b : Nat × Nat) : Option (Nat × Nat) :=
  let low := if 0xD800 ≤ b.1 && b.1 ≤ 0xDFFF then 0xE000 else b.1
  let high := if 0xD800 ≤ b.2 && b.2 ≤ 0xDFFF then 0xD7FF else b.2
  if low ≤ high then some (low, high) else none

/-- Joins what overlaps or touches; the lower ends are in order and not below `low`. -/
def joinFrom (low high : Nat) : List (Nat × Nat) → Intervals
  | [] => [(low, high)]
  | (a, b) :: rest =>
    if a ≤ nextCode high then joinFrom low (max high b) rest
    else (low, high) :: joinFrom a b rest

/-- The intervals that cover the same characters as any list of bounds. -/
def ofBounds (bounds : List (Nat × Nat)) : Intervals :=
  match (bounds.filterMap trim).mergeSort fun a b => a.1 ≤ b.1 with
  | [] => []
  | (a, b) :: rest => joinFrom a b rest

/-- What lies between the intervals, from `low` on. -/
def gapsFrom (low : Nat) : Intervals → Intervals
  | [] => if low ≤ lastCode then [(low, lastCode)] else []
  | (a, b) :: rest =>
    if low < a then (low, previousCode a) :: gapsFrom (nextCode b) rest
    else gapsFrom (nextCode b) rest

def compl (s : Intervals) : Intervals :=
  gapsFrom 0 s

def union (s t : Intervals) : Intervals :=
  ofBounds (s ++ t)

def inter (s t : Intervals) : Intervals :=
  compl (union (compl s) (compl t))

def diff (s t : Intervals) : Intervals :=
  inter s (compl t)

def hasCode (s : Intervals) (n : Nat) : Bool :=
  s.any fun b => b.1 ≤ n && n ≤ b.2

/-- The intervals together with the given characters. -/
def insertCodes (s : Intervals) (codes : List Nat) : Intervals :=
  ofBounds (s ++ codes.map fun n => (n, n))

end Intervals

open Intervals in
/-- The intervals of a set. -/
def CharSet.intervals : CharSet → Intervals
  | none => []
  | range low high => ofBounds [(low, high)]
  | table r => ofBounds r.bounds.toList
  | union a b => a.intervals.union b.intervals
  | inter a b => a.intervals.inter b.intervals
  | diff a b => a.intervals.diff b.intervals
  | symmDiff a b =>
    (a.intervals.union b.intervals).diff (a.intervals.inter b.intervals)
  | compl a => a.intervals.compl
  | anyCase a =>
    let s := a.intervals
    s.insertCodes (caseSets.toList.flatMap fun mates =>
      if mates.any s.hasCode then mates else [])
  | anyAsciiCase a =>
    let s := a.intervals
    s.insertCodes ((List.range 128).filter fun n =>
      (asciiCaseMates (Char.ofNat n)).any fun c => s.hasCode c.toNat)

end Packrat.Pattern
