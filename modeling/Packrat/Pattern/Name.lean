import Packrat.Pattern.Age
import Packrat.Pattern.Break
import Packrat.Pattern.CharSet
import Packrat.Pattern.Property
import Packrat.Pattern.Script

/-!
# Pattern — Name

The names by which a pattern asks for a property of characters: a general category, a script or a
two-valued property alone, or the value of a property that has several.  Case, spaces, hyphens,
underscores and a leading `is` do not matter in a name.
-/

namespace Packrat.Pattern

/-- The letters of a name that matter, in lower case; what is not ASCII is dropped. -/
def nameLetters (cs : List Char) : List Char :=
  (cs.filter fun c => c ≠ ' ' ∧ c ≠ '_' ∧ c ≠ '-' ∧ c.toNat < 128).map Char.toLower

/-- A name in the form in which the tables list it.  The name `isc` is no category in disguise. -/
def plainName (cs : List Char) : String :=
  match cs with
  | a :: b :: rest =>
    if a.toLower = 'i' ∧ b.toLower = 's' then
      if nameLetters rest = ['c'] then "isc" else .ofList (nameLetters rest)
    else .ofList (nameLetters cs)
  | _ => .ofList (nameLetters cs)

/-- The general categories, and groups of them, by name.  Surrogates are no characters, so their
category cannot be asked for. -/
def categoryNames : List (List String × List Category) := [
  (["lu", "uppercaseletter"], [.uppercaseLetter]),
  (["ll", "lowercaseletter"], [.lowercaseLetter]),
  (["lt", "titlecaseletter"], [.titlecaseLetter]),
  (["lc", "casedletter"], [.uppercaseLetter, .lowercaseLetter, .titlecaseLetter]),
  (["lm", "modifierletter"], [.modifierLetter]),
  (["lo", "otherletter"], [.otherLetter]),
  (["l", "letter"],
    [.uppercaseLetter, .lowercaseLetter, .titlecaseLetter, .modifierLetter, .otherLetter]),
  (["mn", "nonspacingmark"], [.nonspacingMark]),
  (["mc", "spacingmark"], [.spacingMark]),
  (["me", "enclosingmark"], [.enclosingMark]),
  (["m", "mark", "combiningmark"], [.nonspacingMark, .spacingMark, .enclosingMark]),
  (["nd", "decimalnumber", "digit"], [.decimalNumber]),
  (["nl", "letternumber"], [.letterNumber]),
  (["no", "othernumber"], [.otherNumber]),
  (["n", "number"], [.decimalNumber, .letterNumber, .otherNumber]),
  (["pc", "connectorpunctuation"], [.connectorPunctuation]),
  (["pd", "dashpunctuation"], [.dashPunctuation]),
  (["ps", "openpunctuation"], [.openPunctuation]),
  (["pe", "closepunctuation"], [.closePunctuation]),
  (["pi", "initialpunctuation"], [.initialPunctuation]),
  (["pf", "finalpunctuation"], [.finalPunctuation]),
  (["po", "otherpunctuation"], [.otherPunctuation]),
  (["p", "punctuation", "punct"],
    [.connectorPunctuation, .dashPunctuation, .openPunctuation, .closePunctuation,
      .initialPunctuation, .finalPunctuation, .otherPunctuation]),
  (["sm", "mathsymbol"], [.mathSymbol]),
  (["sc", "currencysymbol"], [.currencySymbol]),
  (["sk", "modifiersymbol"], [.modifierSymbol]),
  (["so", "othersymbol"], [.otherSymbol]),
  (["s", "symbol"], [.mathSymbol, .currencySymbol, .modifierSymbol, .otherSymbol]),
  (["zs", "spaceseparator"], [.spaceSeparator]),
  (["zl", "lineseparator"], [.lineSeparator]),
  (["zp", "paragraphseparator"], [.paragraphSeparator]),
  (["z", "separator"], [.spaceSeparator, .lineSeparator, .paragraphSeparator]),
  (["cc", "control", "cntrl"], [.control]),
  (["cf", "format"], [.format]),
  (["co", "privateuse"], [.privateUse]),
  (["cn", "unassigned"], [.unassigned]),
  (["c", "other"], [.control, .format, .privateUse, .unassigned])]

/-- The set that a category name stands for. -/
def category? (name : String) : Option CharSet :=
  match name with
  | "any" => some .all
  | "assigned" => some (.compl (.ofCategories [.unassigned]))
  | "ascii" => some (.range 0 0x7F)
  | _ => (categoryNames.find? (·.1.contains name)).map fun e => .ofCategories e.2

def script? (name : String) : Option Script :=
  scripts.find? (·.names.contains name)

/-- The characters of the script alone. -/
def Script.ownSet (s : Script) : CharSet :=
  .table s.own

/-- The characters that the script uses: those that certain scripts share belong to these and no
longer to the scripts for characters of no script. -/
def Script.usedSet (s : Script) : CharSet :=
  if s.names.contains "common" || s.names.contains "inherited" then
    .diff (.table s.own) (.table specificTable)
  else .union (.table s.own) (.table s.shared)

/-- The set for a name that stands alone. -/
def namedSet? (cs : List Char) : Option CharSet :=
  let name := plainName cs
  match properties.find? (·.1.contains name) with
  | some e => some (.table e.2)
  | none => (category? name).orElse fun _ => (script? name).map (·.ownSet)

/-- The characters that were there in a version of the character database: those that it or an
earlier version added. -/
def age? (name : String) : Option CharSet :=
  (ages.findIdx? (·.1.contains name)).map fun i =>
    .unions ((ages.take (i + 1)).map fun e => .table e.2)

/-- The characters of a role in a list of roles. -/
def role? (roles : List (List String × Ranges)) (name : String) : Option CharSet :=
  (roles.find? (·.1.contains name)).map fun e => .table e.2

/-- The set of characters whose property `cs` has the given value. -/
def valuedSet? (cs value : List Char) : Option CharSet :=
  let name := plainName value
  match plainName cs with
  | "gc" | "generalcategory" => category? name
  | "sc" | "script" => (script? name).map (·.ownSet)
  | "scx" | "scriptextensions" => (script? name).map (·.usedSet)
  | "age" => age? name
  | "gcb" | "graphemeclusterbreak" => role? graphemeBreaks name
  | "wb" | "wordbreak" => role? wordBreaks name
  | "sb" | "sentencebreak" => role? sentenceBreaks name
  | _ => none

end Packrat.Pattern
