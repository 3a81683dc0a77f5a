import Packrat.Text.LineBreak.Class

/-!
# Text — LineBreak

Where a line of text may be broken.  The rules look at the classes of the two characters around a
place and at what stands before them: spaces, joiners, and the parity of a run of regional
indicators.  The first rule that applies decides.
-/

namespace Packrat.LineBreak

open BreakClass

/-- What stands before a place. -/
structure Before where
  /-- The class of the last character that is no space; characters that combine with it do not
  count.  There is none at the start of the text and after spaces at the start of a line. -/
  last : Option BreakClass
  /-- Do spaces follow it? -/
  spaced : Bool
  /-- Is the character right before the place a joiner? -/
  joined : Bool
  /-- Is the last of an odd number of regional indicators right before the place? -/
  oddRegional : Bool
  /-- Does a Hebrew letter stand before the hyphen that is right before the place? -/
  hebrewHyphen : Bool

def Before.textStart : Before := ⟨none, false, false, false, false⟩

/-- Lines end after these. -/
def endsLine : BreakClass → Bool
  | lineBreak | carriageReturn | lineFeed | nextLine => true
  | _ => false

def isCombining : BreakClass → Bool
  | combining | joiner => true
  | _ => false

def isLetter : BreakClass → Bool
  | alphabetic | hebrewLetter => true
  | _ => false

def isPicture : BreakClass → Bool
  | ideographic | emojiBase | emojiModifier => true
  | _ => false

def isHangul : BreakClass → Bool
  | hangulL | hangulV | hangulT | hangulLV | hangulLVT => true
  | _ => false

/-- Does a character of class `c` combine with what stands before it? -/
def combines (b : Before) (c : BreakClass) : Bool :=
  isCombining c && !b.spaced &&
    match b.last with
    | some a => !endsLine a && a ≠ zeroWidthSpace
    | none => false

/-- Parts of numbers that stay together. -/
def joinsNumber : BreakClass → BreakClass → Bool
  | closePunctuation, c | closeParenthesis, c => c = postfixNumeric || c = prefixNumeric
  | numeric, c => c = postfixNumeric || c = prefixNumeric || c = numeric
  | postfixNumeric, c | prefixNumeric, c => c = openPunctuation || c = numeric
  | hyphen, c | infixSeparator, c | breakAllowing, c => c = numeric
  | _, _ => false

/-- Parts of Hangul syllables that stay together. -/
def joinsSyllable : BreakClass → BreakClass → Bool
  | hangulL, c => c = hangulL || c = hangulV || c = hangulLV || c = hangulLVT
  | hangulV, c | hangulLV, c => c = hangulV || c = hangulT
  | hangulT, c | hangulLVT, c => c = hangulT
  | _, _ => false

/-- Letters, numbers and pictures that stay together. -/
def joinsWord (a c : BreakClass) : Bool :=
  (isLetter a && (isLetter c || c = numeric || c = prefixNumeric || c = postfixNumeric)) ||
    (a = numeric && isLetter c) || (a = infixSeparator && isLetter c) ||
    ((a = prefixNumeric || a = postfixNumeric) && isLetter c) ||
    (a = prefixNumeric && isPicture c) || (isPicture a && c = postfixNumeric) ||
    joinsNumber a c || joinsSyllable a c ||
    (isHangul a && c = postfixNumeric) || (a = prefixNumeric && isHangul c) ||
    ((isLetter a || a = numeric) && c = openPunctuation) ||
    (a = closeParenthesis && (isLetter c || c = numeric)) ||
    (a = emojiBase && c = emojiModifier)

/-- May a line be broken between `a` and `c`, where nothing stands between them? -/
def breaksClose (b : Before) (a c : BreakClass) : Bool :=
  if c = wordJoiner || a = wordJoiner || a = glue then false
  else if c = glue && a ≠ breakAfter && a ≠ hyphen then false
  else if c = closePunctuation || c = closeParenthesis || c = exclamation || c = infixSeparator ||
    c = breakAllowing then false
  else if a = openPunctuation then false
  else if a = quotation && c = openPunctuation then false
  else if (a = closePunctuation || a = closeParenthesis) && c = nonStarter then false
  else if a = breakBothSides && c = breakBothSides then false
  else if c = quotation || a = quotation then false
  else if c = contingent || a = contingent then true
  else if c = breakAfter || c = hyphen || c = nonStarter || a = breakBefore then false
  else if b.hebrewHyphen then false
  else if a = breakAllowing && c = hebrewLetter then false
  else if c = inseparable then false
  else if a = regionalIndicator && c = regionalIndicator then !b.oddRegional
  else !joinsWord a c

/-- May a line be broken between `a` and `c`, where spaces stand between them? -/
def breaksSpaced (a : Option BreakClass) (c : BreakClass) : Bool :=
  if c = wordJoiner || c = closePunctuation || c = closeParenthesis || c = exclamation ||
    c = infixSeparator || c = breakAllowing then false
  else
    match a with
    | some openPunctuation => false
    | some quotation => c ≠ openPunctuation
    | some closePunctuation | some closeParenthesis => c ≠ nonStarter
    | some breakBothSides => c ≠ breakBothSides
    | _ => true

/-- May, or must, a line be broken before a character of class `c`? -/
def breaksBefore (b : Before) (c : BreakClass) : Bool :=
  match b.last with
  | none => b.spaced && !endsLine c && c ≠ space && c ≠ zeroWidthSpace && !b.joined &&
      breaksSpaced none (if isCombining c then alphabetic else c)
  | some a =>
    if endsLine a && !b.spaced then !(a = carriageReturn && c = lineFeed)
    else if endsLine c || c = space || c = zeroWidthSpace then false
    else if b.joined then false
    else if a = zeroWidthSpace then true
    else if combines b c then false
    else
      let c := if isCombining c then alphabetic else c
      if b.spaced then breaksSpaced (some a) c else breaksClose b a c

/-- What stands before the place after a character of class `c`. -/
def Before.after (b : Before) (c : BreakClass) : Before :=
  if c = space then
    match b.last with
    | some a =>
      if endsLine a && !b.spaced then ⟨none, true, false, false, false⟩
      else { b with spaced := true, joined := false, oddRegional := false, hebrewHyphen := false }
    | none => ⟨none, true, false, false, false⟩
  else if combines b c then { b with joined := c = joiner }
  else
    let odd := c = regionalIndicator && !(b.oddRegional && !b.spaced)
    let hebrew := (c = hyphen || c = breakAfter) && !b.spaced && b.last = some hebrewLetter
    ⟨some (if isCombining c then alphabetic else c), false, c = joiner, odd, hebrew⟩

/-- For each character, whether a line may be broken before it. -/
def marksFrom (b : Before) : List Char → List Bool
  | [] => []
  | c :: cs =>
    let k := BreakClass.ofChar c
    breaksBefore b k :: marksFrom (b.after k) cs

/-- For each character of a text, whether a line may be broken before it; never before the
first. -/
def marks (cs : List Char) : List Bool :=
  marksFrom .textStart cs

end Packrat.LineBreak
