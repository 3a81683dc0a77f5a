/-!
# Text — Lines

Splitting a text at its line feeds.
-/

namespace Packrat

/-- The pieces of a text between its line feeds.  There is one more of them than line feeds. -/
def splitLineFeeds : List Char → List (List Char)
  | [] => [[]]
  | c :: cs =>
    if c = '\n' then [] :: splitLineFeeds cs
    else
      match splitLineFeeds cs with
      | line :: lines => (c :: line) :: lines
      | [] => [[c]]

/-- A line without a carriage return at its end. -/
def dropReturn (line : List Char) : List Char :=
  if line.getLast? = some '\r' then line.dropLast else line

/-- The lines of a text.  A line feed, or a carriage return and a line feed, ends a line; the last
line need not be ended and is not listed if it is empty. -/
def textLines (cs : List Char) : List (List Char) :=
  let pieces := splitLineFeeds cs
  let ended := pieces.dropLast.map dropReturn
  match pieces.getLast? with
  | some [] | none => ended
  | some last => ended ++ [last]

end Packrat
