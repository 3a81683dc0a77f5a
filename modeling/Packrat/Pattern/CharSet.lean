import Packrat.Pattern.Case
import Packrat.Pattern.Category
import Packrat.Pattern.Property

/-!
# Pattern — CharSet

The sets of characters that a pattern can ask for.  A set is an expression over ranges and tables,
and `CharSet.has` says which characters belong to it.
-/

namespace Packrat.Pattern

/-- A set of characters. -/
inductive CharSet where
  | none
  | range (low high : Nat)
  | table (ranges : Ranges)
  | union (a b : CharSet)
  | inter (a b : CharSet)
  | diff (a b : CharSet)
  | symmDiff (a b : CharSet)
  | compl (a : CharSet)
  /-- The characters with a case mate in the set. -/
  | anyCase (a : CharSet)
  /-- The characters with a case mate in the set, where only ASCII letters have case mates. -/
  | anyAsciiCase (a : CharSet)

namespace CharSet

def has : CharSet → Char → Bool
  | none, _ => false
  | range lo hi, c => lo ≤ c.toNat && c.toNat ≤ hi
  | table r, c => r.contains c
  | union a b, c => a.has c || b.has c
  | inter a b, c => a.has c && b.has c
  | diff a b, c => a.has c && !b.has c
  | symmDiff a b, c => a.has c != b.has c
  | compl a, c => !a.has c
  | anyCase a, c => (caseMates c).any a.has
  | anyAsciiCase a, c => (asciiCaseMates c).any a.has

/-- The set of one character. -/
def single (c : Char) : CharSet :=
  range c.toNat c.toNat

/-- Every character. -/
def all : CharSet :=
  range 0 0x10FFFF

/-- The union of a list of sets. -/
def unions : List CharSet → CharSet
  | [] => none
  | [a] => a
  | a :: as => union a (unions as)

/-- The set of several ranges. -/
def ranges (bounds : List (Nat × Nat)) : CharSet :=
  table ⟨bounds.toArray⟩

/-- The set of characters of the given categories. -/
def ofCategories (ks : List Category) : CharSet :=
  unions (ks.map fun k =>
    match k with
    | .unassigned => compl (unions (Category.listed.map fun k' => table k'.ranges))
    | k => table k.ranges)

/-! ### The classes that have a letter of their own -/

def digits : CharSet :=
  table Category.decimalNumber.ranges

def blanks : CharSet :=
  ranges [(9, 13), (0x20, 0x20), (0x85, 0x85), (0xA0, 0xA0), (0x1680, 0x1680), (0x2000, 0x200A),
    (0x2028, 0x2029), (0x202F, 0x202F), (0x205F, 0x205F), (0x3000, 0x3000)]

/-- Letters, marks, decimal digits, connectors and the two joiners. -/
def wordChars : CharSet :=
  unions [table propertyAlphabetic,
    ofCategories [.nonspacingMark, .spacingMark, .enclosingMark, .decimalNumber,
      .connectorPunctuation],
    table propertyJoinControl]

def asciiDigits : CharSet :=
  ranges [(0x30, 0x39)]

def asciiBlanks : CharSet :=
  ranges [(9, 13), (0x20, 0x20)]

def asciiWordChars : CharSet :=
  ranges [(0x30, 0x39), (0x41, 0x5A), (0x5F, 0x5F), (0x61, 0x7A)]

/-! ### The named classes of ASCII -/

/-- The ranges of a class that is written `[:name:]`. -/
def asciiClass? : String → Option CharSet
  | "alnum" => some (ranges [(0x30, 0x39), (0x41, 0x5A), (0x61, 0x7A)])
  | "alpha" => some (ranges [(0x41, 0x5A), (0x61, 0x7A)])
  | "ascii" => some (ranges [(0, 0x7F)])
  | "blank" => some (ranges [(9, 9), (0x20, 0x20)])
  | "cntrl" => some (ranges [(0, 0x1F), (0x7F, 0x7F)])
  | "digit" => some (ranges [(0x30, 0x39)])
  | "graph" => some (ranges [(0x21, 0x7E)])
  | "lower" => some (ranges [(0x61, 0x7A)])
  | "print" => some (ranges [(0x20, 0x7E)])
  | "punct" => some (ranges [(0x21, 0x2F), (0x3A, 0x40), (0x5B, 0x60), (0x7B, 0x7E)])
  | "space" => some (ranges [(9, 13), (0x20, 0x20)])
  | "upper" => some (ranges [(0x41, 0x5A)])
  | "word" => some (ranges [(0x30, 0x39), (0x41, 0x5A), (0x5F, 0x5F), (0x61, 0x7A)])
  | "xdigit" => some (ranges [(0x30, 0x39), (0x41, 0x46), (0x61, 0x66)])
  | _ => Option.none

end CharSet

end Packrat.Pattern
