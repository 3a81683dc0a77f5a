import Packrat.Text.Letter
import Packrat.Text.LineBreak
import Packrat.Text.Lines
import Packrat.Text.Width

/-!
# Text — Wrap

Wrapping a text to a width.  The text is cut into words where lines may be broken, words are cut
after hyphens between letters and where they are too wide for a line, and then the breaks are chosen
so that all lines together look best: every line costs something, room left over costs its square,
and a line that is too wide costs a lot.  Spaces around a break are dropped.

Escape sequences that control a terminal take no columns and are never cut.
-/

namespace Packrat

namespace Wrap

/-! ### Units -/

/-- One or more characters that are not cut, and the one of them that shows, if one does. -/
structure Unit where
  chars : List Char
  visible : Option Char

/-- The characters that end an escape sequence. -/
def endsEscape (c : Char) : Bool :=
  0x40 ≤ c.toNat && c.toNat ≤ 0x7E

/-- What comes up to the end of an escape sequence, and the rest; `none` if it does not end. -/
def splitEscape? : List Char → Option (List Char × List Char)
  | [] => none
  | c :: cs =>
    if endsEscape c then some ([c], cs)
    else (splitEscape? cs).map fun (a, b) => (c :: a, b)

/-- The units of a text.  An escape sequence does not show; an escape character that starts none
shows together with the character after it, and one whose sequence does not end takes all that is
left.  `fuel` bounds the units. -/
def unitsFrom : (fuel : Nat) → List Char → List Unit
  | 0, _ => []
  | _, [] => []
  | fuel + 1, '\x1b' :: '[' :: cs =>
    match splitEscape? cs with
    | some (inside, rest) => ⟨'\x1b' :: '[' :: inside, none⟩ :: unitsFrom fuel rest
    | none => [⟨'\x1b' :: '[' :: cs, some '\x1b'⟩]
  | fuel + 1, '\x1b' :: c :: cs => ⟨['\x1b', c], some '\x1b'⟩ :: unitsFrom fuel cs
  | fuel + 1, c :: cs => ⟨[c], some c⟩ :: unitsFrom fuel cs

def units (cs : List Char) : List Unit :=
  unitsFrom cs.length cs

def Unit.width (u : Unit) : Nat :=
  (u.visible.map charWidth).getD 0

/-- The columns of a text, character by character. -/
def width (cs : List Char) : Nat :=
  (units cs).foldl (fun n u => n + u.width) 0

/-! ### Words -/

/-- A piece of a line that is not broken, with the number of spaces after it. -/
structure Word where
  chars : List Char
  spaces : Nat

def Word.width (w : Word) : Nat :=
  Wrap.width w.chars

/-- A word with its spaces, from its characters. -/
def Word.ofChars (cs : List Char) : Word :=
  let body := (cs.reverse.dropWhile (· = ' ')).reverse
  ⟨body, cs.length - body.length⟩

def Word.toChars (w : Word) : List Char :=
  w.chars ++ List.replicate w.spaces ' '

/-- Pairs each unit with whether the line may be broken before it.  A break before a character that
shows is moved before the escape sequences in front of it; `held` are those seen last, last one
first. -/
def markUnits (held : List Unit) : List Unit → List Bool → List (Unit × Bool)
  | [], _ => held.reverse.map (·, false)
  | u :: us, marks =>
    match u.visible, marks with
    | none, marks => markUnits (u :: held) us marks
    | some _, m :: marks =>
      match held.reverse with
      | [] => (u, m) :: markUnits [] us marks
      | h :: hs => (h, m) :: (hs.map (·, false) ++ (u, false) :: markUnits [] us marks)
    | some _, [] => held.reverse.map (·, false) ++ (u, false) :: markUnits [] us []

/-- Breaks after a hyphen are left to the cutting of words, and soft hyphens are no place for a
break. -/
def withoutHyphens : List Char → List Bool → List Bool
  | c :: c' :: cs, m :: m' :: marks =>
    m :: withoutHyphens (c' :: cs) ((m' && c ≠ '-' && c ≠ '\xad') :: marks)
  | _, marks => marks

/-- Takes back the last of the marks that are set. -/
def dropLastMark (marks : List Bool) : List Bool :=
  let r := marks.reverse
  (r.takeWhile (!·) ++ (r.dropWhile (!·)).modifyHead fun _ => false).reverse

/-- Where a line may be broken, for its characters that show.  The end of the line counts as the
last place for a break, unless a hyphen stands there; the last place is not used. -/
def breakMarks (cs : List Char) : List Bool :=
  let marks := withoutHyphens cs (LineBreak.marks cs)
  match cs.getLast? with
  | some '-' | some '\xad' => dropLastMark marks
  | _ => marks

/-- Cuts marked units into pieces, each starting at a mark; `piece` is the current one, last
character first. -/
def cutAtMarks (piece : List Char) : List (Unit × Bool) → List (List Char)
  | [] => if piece.isEmpty then [] else [piece.reverse]
  | (u, m) :: us =>
    if m && !piece.isEmpty then piece.reverse :: cutAtMarks u.chars.reverse us
    else cutAtMarks (u.chars.reverse ++ piece) us

/-- The words of a line. -/
def words (line : List Char) : List Word :=
  let us := units line
  let shown := us.filterMap (·.visible)
  (cutAtMarks [] (markUnits [] us (breakMarks shown))).map Word.ofChars

/-- Cuts after hyphens that stand between letters or numbers; `piece` is the current one, last
character first. -/
def cutAtHyphens (piece : List Char) : List Char → List (List Char)
  | [] => [piece.reverse]
  | '-' :: c :: cs =>
    if piece.head?.any isAlphanumeric && isAlphanumeric c then
      ('-' :: piece).reverse :: cutAtHyphens [] (c :: cs)
    else cutAtHyphens ('-' :: piece) (c :: cs)
  | c :: cs => cutAtHyphens (c :: piece) cs

/-- Cuts into pieces that are as wide as the limit allows; `piece` is the current one, last
character first, and `used` its width. -/
def cutAtWidth (limit : Nat) (piece : List Char) (used : Nat) : List Unit → List (List Char)
  | [] => if piece.isEmpty then [] else [piece.reverse]
  | u :: us =>
    if 0 < used && limit < used + u.width then
      piece.reverse :: cutAtWidth limit u.chars.reverse u.width us
    else cutAtWidth limit (u.chars.reverse ++ piece) (used + u.width) us

/-- Words from the pieces of a word, of which the last one has the spaces after it. -/
def wordsOfPieces (spaces : Nat) : List (List Char) → List Word
  | [] => []
  | [p] => [⟨p, spaces⟩]
  | p :: ps => ⟨p, 0⟩ :: wordsOfPieces spaces ps

/-- A word, cut after hyphens. -/
def Word.atHyphens (w : Word) : List Word :=
  wordsOfPieces w.spaces (cutAtHyphens [] w.chars)

/-- A word, cut if it is too wide. -/
def Word.fitted (limit : Nat) (w : Word) : List Word :=
  if limit < w.width then wordsOfPieces w.spaces (cutAtWidth limit [] 0 (units w.chars)) else [w]

/-! ### Choosing the breaks -/

/-- What the parts of a choice of breaks cost. -/
structure Costs where
  /-- Every line. -/
  line : Nat
  /-- Every column of a line beyond the limit. -/
  overflow : Nat
  /-- A last line of a single word, if the limit is more than `shortFraction` times its width. -/
  shortLast : Nat
  shortFraction : Nat

/-- Lines are dear, and lines that are too wide are dearer. -/
def Costs.standard : Costs := ⟨1000, 2500, 25, 4⟩

/-- The cost of a line of the given width, apart from what every line costs.  The last line may be
short, but should not be a single short word. -/
def Costs.ofLine (k : Costs) (limit width : Nat) (isLast isSingle : Bool) : Nat :=
  if limit < width then (width - limit) * k.overflow
  else if !isLast then (limit - width) * (limit - width)
  else if isSingle && k.shortFraction * width < limit then k.shortLast
  else 0

/-- A place where a line may start: before a word or at the end. -/
structure Place where
  /-- The least cost of the lines before it. -/
  cost : Nat
  /-- The width of everything before it, spaces included. -/
  offset : Nat
  /-- The words of the last of these lines, how many places further back it starts. -/
  back : Nat

/-- The best start for a line that ends before a place: of equal ones, the one that makes the line
longest.  `places` are those before it, last one first, `back` the distance of the first of them,
and `stop` the width of everything before the place, without the spaces right before it. -/
def bestStart (k : Costs) (limit stop : Nat) (isLast : Bool) :
    (back : Nat) → (best : Option (Nat × Nat)) → List Place → Option (Nat × Nat)
  | _, best, [] => best
  | back, best, p :: ps =>
    let cost := p.cost + k.line + k.ofLine limit (stop - p.offset) isLast (back = 1)
    let best := match best with
      | some (c, b) => if c < cost then some (c, b) else some (cost, back)
      | none => some (cost, back)
    bestStart k limit stop isLast (back + 1) best ps

/-- Goes through the words and finds the best line start for every place; `places` are those so
far, last one first. -/
def place (k : Costs) (limit : Nat) (places : List Place) : List Word → List Place
  | [] => places
  | w :: ws =>
    let offset := (places.head?.map (·.offset)).getD 0
    let best := (bestStart k limit (offset + w.width) ws.isEmpty 1 none places).getD (0, 1)
    place k limit (⟨best.1, offset + w.width + w.spaces, best.2⟩ :: places) ws

/-- The lengths of the lines, last one first: each place says how far back its line starts.  `fuel`
bounds the lines. -/
def lineLengths : (fuel : Nat) → List Place → List Nat
  | 0, _ => []
  | _, [] | _, [_] => []
  | fuel + 1, p :: ps => p.back :: lineLengths fuel ((p :: ps).drop p.back)

/-- Groups words into lines of the given lengths. -/
def takeLines : List Nat → List Word → List (List Word)
  | [], _ => []
  | n :: ns, ws => ws.take n :: takeLines ns (ws.drop n)

/-- Words grouped into the lines that cost least.  Without words there is one empty line. -/
def arrange (k : Costs) (limit : Nat) (ws : List Word) : List (List Word) :=
  if ws.isEmpty then [[]]
  else
    let places := place k limit [⟨0, 0, 0⟩] ws
    takeLines (lineLengths places.length places).reverse ws

/-- A line without the spaces at its end. -/
def lineOf : List Word → List Char
  | [] => []
  | [w] => w.chars
  | w :: ws => w.toChars ++ lineOf ws

/-- The lines of a text without line feeds. -/
def wrapLine (limit : Nat) (line : List Char) : List (List Char) :=
  let ws := ((words line).flatMap (·.atHyphens)).flatMap (·.fitted limit)
  (arrange .standard limit ws).map lineOf

end Wrap

/-- The lines of a text, each as wide as the limit allows. -/
def wrapText (limit : Nat) (cs : List Char) : List (List Char) :=
  (splitLineFeeds cs).flatMap (Wrap.wrapLine limit)

end Packrat
