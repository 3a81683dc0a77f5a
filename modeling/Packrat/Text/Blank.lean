/-!
# Text — Blank

White space: the characters of the property `White_Space`, and what follows from it for texts —
trimming both ends and splitting into words.
-/

namespace Packrat

/-- The characters of the property `White_Space`. -/
def isBlank (c : Char) : Bool :=
  let n := c.toNat
  (9 ≤ n && n ≤ 13) || n = 0x20 || n = 0x85 || n = 0xA0 || n = 0x1680 ||
    (0x2000 ≤ n && n ≤ 0x200A) || n = 0x2028 || n = 0x2029 || n = 0x202F || n = 0x205F ||
    n = 0x3000

/-- The text without the white space at its two ends. -/
def trimBlanks (cs : List Char) : List Char :=
  ((cs.dropWhile isBlank).reverse.dropWhile isBlank).reverse

/-- Splits a text at white space: `word` holds the characters of the current word so far, last one
first.  Words are never empty. -/
def blankWordsFrom (word : List Char) : List Char → List (List Char)
  | [] => if word.isEmpty then [] else [word.reverse]
  | c :: cs =>
    if isBlank c then
      if word.isEmpty then blankWordsFrom [] cs else word.reverse :: blankWordsFrom [] cs
    else blankWordsFrom (c :: word) cs

/-- The words of a text: its longest pieces without white space. -/
def blankWords (cs : List Char) : List (List Char) :=
  blankWordsFrom [] cs

end Packrat
