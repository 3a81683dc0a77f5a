import Packrat.Pattern.CharSet
import Packrat.Pattern.Written
import Packrat.Text.Blank
import Packrat.Text.Letter

/-!
# Pattern — Read

Reading the written form of a pattern from its characters.  Every reader takes the characters that
are left and gives back what it read with the characters after it, or `none` if the pattern is
malformed.  In extended patterns, white space and comments between the parts are skipped; most
readers are told so by their argument `x`.
-/

namespace Packrat.Pattern

/-! ### Characters without meaning -/

/-- Drops white space and comments from the front; `inside` is true within a comment. -/
def dropIgnored (inside : Bool) : List Char → List Char
  | [] => []
  | c :: cs =>
    if inside then dropIgnored (c ≠ '\n') cs
    else if isBlank c then dropIgnored false cs
    else if c = '#' then dropIgnored true cs
    else c :: cs

/-- Drops what has no meaning, which is nothing unless the pattern is extended. -/
def skip (x : Bool) (cs : List Char) : List Char :=
  if x then dropIgnored false cs else cs

/-! ### Numbers and escapes -/

def isHexDigit (c : Char) : Bool :=
  c.isDigit || ('a' ≤ c && c ≤ 'f') || ('A' ≤ c && c ≤ 'F')

/-- The character with the given number, if there is one. -/
def charOfNumber? (n : Nat) : Option Char :=
  if n.isValidChar then some (Char.ofNat n) else none

/-- Reads exactly `count` hexadecimal digits. -/
def readHexDigits (x : Bool) : (count : Nat) → (value : Nat) → List Char →
    Option (Nat × List Char)
  | 0, value, cs => some (value, cs)
  | count + 1, value, cs =>
    match cs with
    | c :: cs =>
      if isHexDigit c then readHexDigits x count (value * 16 + Ranges.digitValue c) (skip x cs)
      else none
    | [] => none

/-- Reads hexadecimal digits up to a closing brace.  `fuel` bounds the characters looked at. -/
def readHexBraced (x : Bool) : (fuel : Nat) → (value : Option Nat) → List Char →
    Option (Nat × List Char)
  | 0, _, _ => none
  | fuel + 1, value, cs =>
    match cs with
    | '}' :: cs => value.map fun v => (v, skip x cs)
    | c :: cs =>
      if isHexDigit c then
        readHexBraced x fuel (some (value.getD 0 * 16 + Ranges.digitValue c)) (skip x cs)
      else none
    | [] => none

/-- Reads the number of a character after `x`, `u` or `U`, which take two, four and eight digits
when there are no braces. -/
def readHex (x : Bool) (digits : Nat) (cs : List Char) : Option (Literal × List Char) :=
  match skip x cs with
  | '{' :: cs => do
    let (n, cs) ← readHexBraced x (cs.length + 1) none (skip x cs)
    return (⟨← charOfNumber? n, false⟩, cs)
  | cs => do
    let (n, cs) ← readHexDigits x digits 0 cs
    return (⟨← charOfNumber? n, digits = 2⟩, cs)

/-- Reads up to a closing brace.  `fuel` bounds the characters looked at. -/
def readBraced (x : Bool) : (fuel : Nat) → (read : List Char) → List Char →
    Option (List Char × List Char)
  | 0, _, _ => none
  | fuel + 1, read, cs =>
    match cs with
    | '}' :: cs => some (read.reverse, cs)
    | c :: cs => readBraced x fuel (c :: read) (skip x cs)
    | [] => none

/-- Splits at the first place where `sep` stands. -/
def splitAtFirst? (sep : List Char) : List Char → Option (List Char × List Char)
  | [] => none
  | c :: cs =>
    if sep.isPrefixOf (c :: cs) then some ([], (c :: cs).drop sep.length)
    else (splitAtFirst? sep cs).map fun (a, b) => (c :: a, b)

/-- A name between braces: alone, or with a value that the property has or does not have. -/
def queryOfName (negated : Bool) (name : List Char) : PropertyQuery :=
  match splitAtFirst? ['!', '='] name with
  | some (n, v) => ⟨n, some v, !negated⟩
  | none =>
    match (splitAtFirst? [':'] name).orElse fun _ => splitAtFirst? ['='] name with
    | some (n, v) => ⟨n, some v, negated⟩
    | none => ⟨name, none, negated⟩

/-- Reads a property after `p` or `P`. -/
def readProperty (x : Bool) (negated : Bool) (cs : List Char) :
    Option (PropertyQuery × List Char) :=
  match skip x cs with
  | [] => none
  | '{' :: cs => do
    let (name, cs) ← readBraced x (cs.length + 1) [] (skip x cs)
    return (queryOfName negated name, cs)
  | '\\' :: _ => none
  | c :: cs => some (⟨[c], none, negated⟩, skip x cs)

/-- The kinds of word boundary that are written in braces after `b`. -/
def namedBoundary? (name : List Char) : Option Place :=
  match String.ofList name with
  | "start" => some .wordStart
  | "end" => some .wordEnd
  | "start-half" => some .wordStartHalf
  | "end-half" => some .wordEndHalf
  | _ => none

def isBoundaryNameChar (c : Char) : Bool :=
  c.isAlpha || c = '-'

/-- Reads the name of a word boundary up to its brace.  `fuel` bounds the characters looked at. -/
def readBoundaryName (x : Bool) : (fuel : Nat) → (read : List Char) → List Char →
    Option (List Char × List Char)
  | 0, _, _ => none
  | fuel + 1, read, cs =>
    match cs with
    | '}' :: cs => some (read.reverse, cs)
    | c :: cs =>
      if isBoundaryNameChar c then readBoundaryName x fuel (c :: read) (skip x cs) else none
    | [] => none

/-- Reads what follows `\b`: a brace may name the kind of boundary, but braces that hold something
else are a repetition and left alone. -/
def readBoundary (x : Bool) (cs : List Char) : Option (Place × List Char) :=
  match cs with
  | '{' :: rest =>
    match skip x rest with
    | [] => none
    | c :: rest' =>
      if isBoundaryNameChar c then do
        let (name, cs) ← readBoundaryName x (rest'.length + 2) [] (c :: rest')
        return (← namedBoundary? name, cs)
      else some (.wordBoundary, cs)
  | cs => some (.wordBoundary, cs)

/-- What an escape stands for. -/
inductive Escape where
  | literal (l : Literal)
  | place (p : Place)
  | letter (k : LetterClass) (negated : Bool)
  | property (q : PropertyQuery)

/-- Signs stand for themselves after a backslash, except those that are escapes of their own. -/
def isEscapable (c : Char) : Bool :=
  c.toNat < 128 && !c.isAlphanum && c ≠ '<' && c ≠ '>'

/-- Reads an escape after its backslash. -/
def readEscape (x : Bool) : List Char → Option (Escape × List Char)
  | [] => none
  | 'x' :: cs => (readHex x 2 cs).map fun (l, cs) => (.literal l, cs)
  | 'u' :: cs => (readHex x 4 cs).map fun (l, cs) => (.literal l, cs)
  | 'U' :: cs => (readHex x 8 cs).map fun (l, cs) => (.literal l, cs)
  | 'p' :: cs => (readProperty x false cs).map fun (q, cs) => (.property q, cs)
  | 'P' :: cs => (readProperty x true cs).map fun (q, cs) => (.property q, cs)
  | 'd' :: cs => some (.letter .digit false, cs)
  | 'D' :: cs => some (.letter .digit true, cs)
  | 's' :: cs => some (.letter .blank false, cs)
  | 'S' :: cs => some (.letter .blank true, cs)
  | 'w' :: cs => some (.letter .word false, cs)
  | 'W' :: cs => some (.letter .word true, cs)
  | 'a' :: cs => some (.literal ⟨'\x07', false⟩, cs)
  | 'f' :: cs => some (.literal ⟨'\x0c', false⟩, cs)
  | 't' :: cs => some (.literal ⟨'\t', false⟩, cs)
  | 'n' :: cs => some (.literal ⟨'\n', false⟩, cs)
  | 'r' :: cs => some (.literal ⟨'\r', false⟩, cs)
  | 'v' :: cs => some (.literal ⟨'\x0b', false⟩, cs)
  | 'A' :: cs => some (.place .textStart, cs)
  | 'z' :: cs => some (.place .textEnd, cs)
  | 'b' :: cs => (readBoundary x cs).map fun (p, cs) => (.place p, cs)
  | 'B' :: cs => some (.place .noWordBoundary, cs)
  | '<' :: cs => some (.place .wordStart, cs)
  | '>' :: cs => some (.place .wordEnd, cs)
  | c :: cs => if isEscapable c then some (.literal ⟨c, false⟩, cs) else none

/-! ### Classes in brackets -/

/-- Reads one item of a class, which is not yet known to be the start of a range. -/
def readClassItem (x : Bool) : List Char → Option (Escape × List Char)
  | [] => none
  | '\\' :: cs => readEscape x cs
  | c :: cs => some (.literal ⟨c, false⟩, cs)

/-- An item that stands alone; places are no characters. -/
def Escape.toSet? : Escape → Option WrittenSet
  | .literal l => some (.literal l)
  | .letter k n => some (.letter k n)
  | .property q => some (.property q)
  | .place _ => none

/-- An item at an end of a range. -/
def Escape.toLiteral? : Escape → Option Literal
  | .literal l => some l
  | _ => none

/-- The first character that is not white space, past the sign of one comment: what stands in the
comment is looked at too. -/
def peekPastSign (sign : Bool) : List Char → Option Char
  | [] => none
  | c :: cs =>
    if isBlank c then peekPastSign sign cs
    else if sign && c = '#' then peekPastSign false cs
    else some c

/-- The character that decides what the hyphen before it means. -/
def peek (x : Bool) (cs : List Char) : Option Char :=
  if x then peekPastSign true cs else cs.head?

/-- Reads an item or a range.  A hyphen makes a range, unless a closing bracket or another hyphen is
seen after it. -/
def readClassRange (x : Bool) (cs : List Char) : Option (WrittenSet × List Char) := do
  let (a, cs) ← readClassItem x cs
  match skip x cs with
  | [] => none
  | '-' :: rest =>
    if peek x rest = some ']' || peek x rest = some '-' then
      return (← a.toSet?, '-' :: rest)
    else
      let (b, cs) ← readClassItem x (skip x rest)
      let low ← a.toLiteral?
      let high ← b.toLiteral?
      if low.char ≤ high.char then return (.range low high, cs) else none
  | cs => return (← a.toSet?, cs)

/-- Reads a named class of ASCII after its opening bracket.  Other names, and other texts, are no
such class. -/
def readAsciiClass? : List Char → Option (WrittenSet × List Char)
  | ':' :: cs =>
    let (negated, cs) := match cs with
      | '^' :: cs => (true, cs)
      | cs => (false, cs)
    match splitAtFirst? [':'] cs with
    | some (name, ']' :: rest) =>
      if (CharSet.asciiClass? (.ofList name)).isSome then
        some (.ascii (.ofList name) negated, rest)
      else none
    | _ => none
  | _ => none

/-- Takes hyphens from the front: at the start of a class they stand for themselves. -/
def readHyphens (x : Bool) : (fuel : Nat) → List Char → List WrittenSet × List Char
  | fuel + 1, '-' :: cs =>
    let (items, cs) := readHyphens x fuel (skip x cs)
    (.literal ⟨'-', false⟩ :: items, cs)
  | _, cs => ([], cs)

/-- Reads the start of a class after its bracket: a sign of negation, and those characters that
would mean something else later. -/
def readClassStart (x : Bool) (cs : List Char) : Bool × List WrittenSet × List Char :=
  let (negated, cs) := match skip x cs with
    | '^' :: cs => (true, skip x cs)
    | cs => (false, cs)
  let (items, cs) := readHyphens x cs.length cs
  match items, cs with
  | [], ']' :: cs => (negated, [.literal ⟨']', false⟩], skip x cs)
  | items, cs => (negated, items, cs)

/-- Ends the operand of a set operation: `lhs` is what stands before it. -/
def closeOperand (lhs : Option (WrittenSet × SetOp)) (items : List WrittenSet) : WrittenSet :=
  let operand := WrittenSet.ofParts items.reverse
  match lhs with
  | some (a, op) => .op op a operand
  | none => operand

/-- Reads the rest of a class: `items` are those of the current operand, last one first.  `fuel`
bounds the items that are left. -/
def readClassBody (x : Bool) : (fuel : Nat) → (negated : Bool) →
    (lhs : Option (WrittenSet × SetOp)) → (items : List WrittenSet) → List Char →
    Option (WrittenSet × List Char)
  | 0, _, _, _, _ => none
  | fuel + 1, negated, lhs, items, cs =>
    let continueWith (op : SetOp) (cs : List Char) :=
      readClassBody x fuel negated (some (closeOperand lhs items, op)) [] cs
    match skip x cs with
    | [] => none
    | ']' :: cs => some (.bracketed negated (closeOperand lhs items), cs)
    | '&' :: '&' :: cs => continueWith .inter cs
    | '-' :: '-' :: cs => continueWith .diff cs
    | '~' :: '~' :: cs => continueWith .symmDiff cs
    | '[' :: cs =>
      match readAsciiClass? cs with
      | some (item, cs) => readClassBody x fuel negated lhs (item :: items) cs
      | none => do
        let (negated', items', cs) := readClassStart x cs
        let (item, cs) ← readClassBody x fuel negated' none items'.reverse cs
        readClassBody x fuel negated lhs (item :: items) cs
    | cs => do
      let (item, cs) ← readClassRange x cs
      readClassBody x fuel negated lhs (item :: items) cs

/-- Reads a class after its opening bracket. -/
def readClass (x : Bool) (cs : List Char) : Option (WrittenSet × List Char) :=
  let (negated, items, cs) := readClassStart x cs
  readClassBody x (cs.length + 1) negated none items.reverse cs

/-! ### Repetitions -/

/-- Reads decimal digits, of which there must be one at least. -/
def readDigits (x : Bool) : (fuel : Nat) → (value : Option Nat) → List Char →
    Option (Nat × List Char)
  | fuel + 1, value, c :: cs =>
    if c.isDigit then
      readDigits x fuel (some (value.getD 0 * 10 + Ranges.digitValue c)) (skip x cs)
    else value.map (·, c :: cs)
  | _, value, cs => value.map (·, cs)

/-- Repetition counts fit into 32 bits: they are below this number. -/
def countLimit : Nat := 0x100000000

/-- Reads a repetition count, with white space around it. -/
def readCount (x : Bool) (cs : List Char) : Option (Nat × List Char) := do
  let cs := cs.dropWhile isBlank
  let (n, cs) ← readDigits x cs.length none cs
  if n < countLimit then return (n, skip x (cs.dropWhile isBlank)) else none

/-- A question mark after a repetition makes it prefer fewer rounds, which changes nothing about
whether a text matches. -/
def dropPreference : List Char → List Char
  | '?' :: cs => cs
  | cs => cs

/-- Reads the bounds of a repetition after the opening brace. -/
def readBounds (x : Bool) (cs : List Char) : Option (Nat × Option Nat × List Char) := do
  let (low, cs) ← readCount x (skip x cs)
  match cs with
  | ',' :: cs =>
    match skip x cs with
    | '}' :: cs => return (low, none, dropPreference (skip x cs))
    | cs => do
      let (high, cs) ← readCount x cs
      match cs with
      | '}' :: cs =>
        if low ≤ high then return (low, some high, dropPreference (skip x cs)) else none
      | _ => none
  | '}' :: cs => return (low, some low, dropPreference (skip x cs))
  | _ => none

/-- Repeats the last part read, if there is one that can be repeated. -/
def repeatLast (low : Nat) (high : Option Nat) : List Written → Option (List Written)
  | [] | .empty :: _ | .flags _ :: _ => none
  | a :: as => some (.repeat a low high :: as)

/-! ### Groups -/

/-- Characters of a group's name. -/
def isGroupNameChar (first : Bool) (c : Char) : Bool :=
  if first then c = '_' || isAlphabetic c
  else c = '_' || c = '.' || c = '[' || c = ']' || isAlphanumeric c

/-- Reads a group's name up to the closing angle; `read` holds what was read, last one first. -/
def readGroupName (read : List Char) : List Char → Option (List Char × List Char)
  | [] => none
  | c :: cs =>
    if c = '>' then if read.isEmpty then none else some (read.reverse, cs)
    else if isGroupNameChar read.isEmpty c then readGroupName (c :: read) cs
    else none

def flagOfLetter? : Char → Option Flag
  | 'i' => some .ignoreCase
  | 'm' => some .multiLine
  | 's' => some .dotMatchesLineFeed
  | 'U' => some .swapGreed
  | 'u' => some .unicode
  | 'R' => some .carriageReturn
  | 'x' => some .extended
  | _ => none

/-- Where reading flags has got to: nothing negated yet, right after the hyphen, or past it. -/
inductive FlagMood where
  | plain
  | hyphen
  | negated
  deriving DecidableEq

/-- Reads flags up to `)` or `:`, which is left in place.  No flag stands twice, and a hyphen is
followed by a flag. -/
def readFlags (mood : FlagMood) (read : Switches) : List Char → Option (Switches × List Char)
  | [] => none
  | c :: cs =>
    if c = ':' ∨ c = ')' then
      if mood = .hyphen then none else some (read.reverse, c :: cs)
    else if c = '-' then
      if mood = .plain then readFlags .hyphen read cs else none
    else
      match flagOfLetter? c with
      | some f =>
        if read.any (·.1 = f) then none
        else
          let mood := if mood = .plain then .plain else .negated
          readFlags mood ((f, mood = .plain) :: read) cs
      | none => none

/-- The last switch of a flag, if there is one. -/
def Switches.state? (fs : Switches) (f : Flag) : Option Bool :=
  fs.lookup f

/-- The start of a group. -/
inductive GroupStart where
  /-- Flags for the rest of the group that they stand in. -/
  | switch (fs : Switches)
  | group (captured : Bool) (fs : Switches) (name : Option (List Char))

/-- Is this how a look at the text around begins?  Such groups are refused. -/
def isLookAround : List Char → Bool
  | '?' :: '=' :: _ | '?' :: '!' :: _ | '?' :: '<' :: '=' :: _ | '?' :: '<' :: '!' :: _ => true
  | _ => false

/-- Reads the start of a group after its parenthesis. -/
def readGroupStart (x : Bool) (cs : List Char) : Option (GroupStart × List Char) :=
  let cs := skip x cs
  if isLookAround cs then none
  else
    match cs with
    | '?' :: 'P' :: '<' :: cs | '?' :: '<' :: cs => do
      let (name, cs) ← readGroupName [] cs
      return (.group true [] (some name), cs)
    | '?' :: cs => do
      let (fs, cs) ← readFlags .plain [] cs
      match cs with
      | ')' :: cs => if fs.isEmpty then none else return (.switch fs, cs)
      | _ :: cs => return (.group false fs none, cs)
      | [] => none
    | cs => some (.group true [] none, cs)

/-! ### Patterns -/

/-- What reading a pattern carries along: the names of the groups so far. -/
abbrev GroupNames := List (List Char)

/-- An escape as a part of a pattern. -/
def Escape.toWritten : Escape → Written
  | .literal l => .literal l
  | .place p => .place p
  | .letter k n => .letter k n
  | .property q => .property q

/-- Reads a part that is neither a group nor a class nor a repetition. -/
def readSimple (x : Bool) : List Char → Option (Written × List Char)
  | [] => none
  | '\\' :: cs => (readEscape x cs).map fun (e, cs) => (e.toWritten, cs)
  | '.' :: cs => some (.anyChar, cs)
  | '^' :: cs => some (.place .lineStart, cs)
  | '$' :: cs => some (.place .lineEnd, cs)
  | c :: cs => some (.literal ⟨c, false⟩, cs)

/-- Ends a choice: `branches` are the finished ones and `parts` those of the last one, both last
one first. -/
def closeChoice (branches : List Written) (parts : List Written) : Written :=
  .ofChoice (.ofConcat parts.reverse :: branches).reverse

/-- Reads up to the end of the group, whose parenthesis is left in place, or of the pattern.
`fuel` bounds the parts that are left. -/
def readBody : (fuel : Nat) → (x : Bool) → GroupNames → (branches parts : List Written) →
    List Char → Option (Written × GroupNames × List Char)
  | 0, _, _, _, _, _ => none
  | fuel + 1, x, names, branches, parts, cs =>
    match skip x cs with
    | [] => some (closeChoice branches parts, names, [])
    | ')' :: cs => some (closeChoice branches parts, names, ')' :: cs)
    | '|' :: cs => readBody fuel x names (.ofConcat parts.reverse :: branches) [] cs
    | '?' :: cs => do
      readBody fuel x names branches (← repeatLast 0 (some 1) parts) (dropPreference cs)
    | '*' :: cs => do
      readBody fuel x names branches (← repeatLast 0 none parts) (dropPreference cs)
    | '+' :: cs => do
      readBody fuel x names branches (← repeatLast 1 none parts) (dropPreference cs)
    | '{' :: cs => do
      let (low, high, cs) ← readBounds x cs
      readBody fuel x names branches (← repeatLast low high parts) cs
    | '[' :: cs => do
      let (set, cs) ← readClass x cs
      match set with
      | .bracketed n body => readBody fuel x names branches (.bracketed n body :: parts) cs
      | _ => none
    | '(' :: cs => do
      let (start, cs) ← readGroupStart x cs
      match start with
      | .switch fs =>
        readBody fuel ((fs.state? .extended).getD x) names branches (.flags fs :: parts) cs
      | .group captured fs name =>
        let names ← match name with
          | some n => if names.contains n then none else some (n :: names)
          | none => some names
        let (body, names, cs) ← readBody fuel ((fs.state? .extended).getD x) names [] [] cs
        match cs with
        | ')' :: cs => readBody fuel x names branches (.group captured fs body :: parts) cs
        | _ => none
    | cs => do
      let (part, cs) ← readSimple x cs
      readBody fuel x names branches (part :: parts) cs

/-- Reads a whole pattern.  No group may be left open or closed twice, and the pattern may not be
nested too deeply. -/
def readPattern? (cs : List Char) : Option Written := do
  let (w, _, rest) ← readBody (cs.length + 1) false [] [] [] cs
  if rest.isEmpty && w.depth ≤ Written.maxDepth then return w else none

end Packrat.Pattern
