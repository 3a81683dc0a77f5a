import Packrat.Pattern.Expr
import Packrat.Pattern.Name

/-!
# Pattern — Meaning

The expression that a written pattern stands for.  Flags hold from where they are switched to the
end of the group they stand in.  A pattern has no meaning if it asks for a property that does not
exist, or if it could match a text that is not made of whole characters: with the flag `unicode`
off, only ASCII characters can be asked for by class, and no class can be negated.
-/

namespace Packrat.Pattern

/-- The flags in force. -/
structure Flags where
  ignoreCase : Bool
  multiLine : Bool
  dotMatchesLineFeed : Bool
  unicode : Bool
  carriageReturn : Bool

namespace Flags

/-- The flags at the start of a pattern. -/
def initial : Flags := ⟨false, false, false, true, false⟩

/-- Switches one flag.  Preferring fewer rounds and skipping white space do not change what a
pattern means. -/
def set (fl : Flags) : Flag × Bool → Flags
  | (.ignoreCase, b) => { fl with ignoreCase := b }
  | (.multiLine, b) => { fl with multiLine := b }
  | (.dotMatchesLineFeed, b) => { fl with dotMatchesLineFeed := b }
  | (.unicode, b) => { fl with unicode := b }
  | (.carriageReturn, b) => { fl with carriageReturn := b }
  | (.swapGreed, _) | (.extended, _) => fl

def switch (fl : Flags) (fs : Switches) : Flags :=
  fs.foldl set fl

def wordKind (fl : Flags) : WordKind :=
  if fl.unicode then .unicode else .ascii

/-- The set with everything that differs from its members in case only, if case is ignored. -/
def caseClosed (fl : Flags) (s : CharSet) : CharSet :=
  if fl.ignoreCase then if fl.unicode then .anyCase s else .anyAsciiCase s else s

/-- The complement of a set, if one was asked for. -/
def negate (fl : Flags) (negated : Bool) (s : CharSet) : Option CharSet :=
  if negated then if fl.unicode then some (.compl s) else none else some s

end Flags

variable (fl : Flags)

/-! ### Classes -/

def letterClass (k : LetterClass) (negated : Bool) : Option CharSet :=
  fl.negate negated <|
    match k with
    | .digit => if fl.unicode then .digits else .asciiDigits
    | .blank => if fl.unicode then .blanks else .asciiBlanks
    | .word => if fl.unicode then .wordChars else .asciiWordChars

def propertySet (q : PropertyQuery) : Option CharSet :=
  if fl.unicode then do
    let s ← match q.value with
      | none => namedSet? q.name
      | some v => valuedSet? q.name v
    fl.negate q.negated (fl.caseClosed s)
  else none

/-- The number of a character in a class. -/
def classLiteral (l : Literal) : Option Nat :=
  if fl.unicode || l.char.toNat < 128 then some l.char.toNat else none

/-- The set for a set operation. -/
def SetOp.apply : SetOp → CharSet → CharSet → CharSet
  | .inter => .inter
  | .diff => .diff
  | .symmDiff => .symmDiff

mutual

/-- The set that a class stands for.  The operands of a set operation and the class as a whole are
closed under case before they are combined and negated. -/
def WrittenSet.meaning : WrittenSet → Option CharSet
  | .literal l => (classLiteral fl l).map fun n => .range n n
  | .range a b => do
    return .range (← classLiteral fl a) (← classLiteral fl b)
  | .ascii name negated => do
    fl.negate negated (fl.caseClosed (← CharSet.asciiClass? name))
  | .letter k negated => letterClass fl k negated
  | .property q => propertySet fl q
  | .bracketed negated a => do
    fl.negate negated (fl.caseClosed (← a.meaning))
  | .union as => (WrittenSet.meanings as).map CharSet.unions
  | .op kind a b => do
    return kind.apply (fl.caseClosed (← a.meaning)) (fl.caseClosed (← b.meaning))

def WrittenSet.meanings : List WrittenSet → Option (List CharSet)
  | [] => some []
  | a :: as => do
    return (← a.meaning) :: (← WrittenSet.meanings as)

end

/-! ### Patterns -/

/-- A character that stands for itself.  Without the flag `unicode`, two hexadecimal digits mean a
byte, which has to be an ASCII character, and only ASCII letters have another case. -/
def literalExpr (l : Literal) : Option Expr :=
  if !fl.unicode && l.isByte && 128 ≤ l.char.toNat then none
  else some (.char (fl.caseClosed (.single l.char)))

def anyCharExpr : Option Expr :=
  if !fl.unicode then none
  else if fl.dotMatchesLineFeed then some (.char .all)
  else if fl.carriageReturn then
    some (.char (.compl (.ranges [(0x0A, 0x0A), (0x0D, 0x0D)])))
  else some (.char (.compl (.range 0x0A 0x0A)))

def placeLook : Place → Look
  | .lineStart =>
    if fl.multiLine then if fl.carriageReturn then .returnLineStart else .lineStart else .textStart
  | .lineEnd =>
    if fl.multiLine then if fl.carriageReturn then .returnLineEnd else .lineEnd else .textEnd
  | .textStart => .textStart
  | .textEnd => .textEnd
  | .wordBoundary => .wordBoundary fl.wordKind
  | .noWordBoundary => .noWordBoundary fl.wordKind
  | .wordStart => .wordStart fl.wordKind
  | .wordEnd => .wordEnd fl.wordKind
  | .wordStartHalf => .wordStartHalf fl.wordKind
  | .wordEndHalf => .wordEndHalf fl.wordKind

mutual

/-- The expression for a pattern under the given flags, with the flags in force after it. -/
def Written.meaning (fl : Flags) : Written → Option (Expr × Flags)
  | .empty => some (.empty, fl)
  | .flags fs => some (.empty, fl.switch fs)
  | .literal l => (literalExpr fl l).map (·, fl)
  | .anyChar => (anyCharExpr fl).map (·, fl)
  | .place p => some (.look (placeLook fl p), fl)
  | .letter k negated => (letterClass fl k negated).map (.char ·, fl)
  | .property q => (propertySet fl q).map (.char ·, fl)
  | .bracketed negated a => do
    let s ← fl.negate negated (fl.caseClosed (← a.meaning fl))
    return (.char s, fl)
  | .repeat a low high => do
    let (e, fl) ← a.meaning fl
    return (.rounds e low high, fl)
  | .group captured fs a => do
    let (e, _) ← a.meaning (fl.switch fs)
    return (.group captured e, fl)
  | .concat as => do
    let (es, fl) ← Written.meanings fl as
    return (.cats es, fl)
  | .choice as => do
    let (es, fl) ← Written.meanings fl as
    return (.alts es, fl)

def Written.meanings (fl : Flags) : List Written → Option (List Expr × Flags)
  | [] => some ([], fl)
  | a :: as => do
    let (e, fl) ← a.meaning fl
    let (es, fl) ← Written.meanings fl as
    return (e :: es, fl)

end

end Packrat.Pattern
