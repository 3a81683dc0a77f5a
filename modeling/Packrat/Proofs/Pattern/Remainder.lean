import Packrat.Pattern

/-!
# Proofs — Pattern — Remainder

A reader takes characters from the front and gives back those that are left.  Some readers are cut
here into parts that are lemmas of their own: what follows the first item of a range, the lower
bound of a repetition, the flags of a group, its body, or a sign between the parts of a pattern.

**Ends** (`ends_readBody`): every reader leaves an end of what it was given.
-/

namespace Packrat.Pattern

/-! ### What is left -/

/-- Values that hold characters that are left, behind what was read. -/
class Remainder (γ : Type) where
  left : γ → List Char
  /-- The same was read, and what is left is related. -/
  alike : (List Char → List Char → Prop) → γ → γ → Prop

instance : Remainder (List Char) :=
  ⟨id, id⟩

instance {α β : Type} [Remainder β] : Remainder (α × β) :=
  ⟨fun a => Remainder.left a.2, fun R a b => a.1 = b.1 ∧ Remainder.alike R a.2 b.2⟩

open Remainder

variable {α γ δ : Type} [Remainder γ] [Remainder δ]
variable {x : Bool} {c : Char} {cs cs' rest : List Char} {n k f : Nat}

/-- What is left is an end of `cs`. -/
def Ends (cs : List Char) (o : Option γ) : Prop :=
  ∀ a, o = some a → left a <:+ cs

namespace Ends

theorem none : Ends cs (none : Option γ) := by
  intro a ha
  cases ha

theorem some {a : γ} (h : left a <:+ cs) : Ends cs (some a) := by
  rintro _ ⟨⟩
  exact h

/-- Nothing more is read. -/
theorem pair {a : α} : Ends cs (Option.some (a, cs)) :=
  .some (List.suffix_refl cs)

theorem mono {o : Option γ} (h : Ends cs o) (hs : cs <:+ cs') : Ends cs' o :=
  fun a ha => (h a ha).trans hs

theorem tail {o : Option γ} (h : Ends cs o) : Ends (c :: cs) o :=
  h.mono (List.suffix_cons c cs)

theorem bind {o : Option γ} {g : γ → Option δ} (h : Ends cs o)
    (hg : ∀ a, Ends (left a) (g a)) : Ends cs (o.bind g) := by
  intro b hb
  obtain ⟨a, ha, hb⟩ := Option.bind_eq_some_iff.mp hb
  exact (hg a b hb).trans (h a ha)

/-- What does not depend on characters leaves all of them. -/
theorem value {o : Option α} {g : α → Option γ} (hg : ∀ a, Ends cs (g a)) : Ends cs (o.bind g) := by
  intro b hb
  obtain ⟨a, -, hb⟩ := Option.bind_eq_some_iff.mp hb
  exact hg a b hb

theorem given {o : Option α} : Ends cs (o.map (·, cs)) := by
  intro b hb
  obtain ⟨a, -, rfl⟩ := Option.map_eq_some_iff.mp hb
  exact List.suffix_refl _

theorem map {o : Option γ} {g : γ → δ} (h : Ends cs o) (hg : ∀ a, left (g a) <:+ left a) :
    Ends cs (o.map g) := by
  intro b hb
  obtain ⟨a, ha, rfl⟩ := Option.map_eq_some_iff.mp hb
  exact (hg a).trans (h a ha)

end Ends

/-! ### White space and comments -/

theorem dropIgnored_suffix (inside : Bool) (cs : List Char) : dropIgnored inside cs <:+ cs := by
  induction cs generalizing inside with
  | nil => exact List.suffix_refl []
  | cons c cs ih =>
      have htail := fun b => (ih b).trans (List.suffix_cons c cs)
      simp only [dropIgnored]
      split
      · exact htail _
      · split
        · exact htail _
        · split
          · exact htail _
          · exact List.suffix_refl _

theorem skip_suffix (x : Bool) (cs : List Char) : skip x cs <:+ cs := by
  cases x
  · exact List.suffix_refl cs
  · exact dropIgnored_suffix false cs

theorem Ends.skipped (x : Bool) {o : Option γ} (h : Ends (skip x cs) o) : Ends cs o :=
  h.mono (skip_suffix x cs)

theorem skip_suffix_cons (x : Bool) (c : Char) (cs : List Char) : skip x cs <:+ c :: cs :=
  (skip_suffix x cs).trans (List.suffix_cons c cs)

theorem length_skip_le (x : Bool) (cs : List Char) : (skip x cs).length ≤ cs.length :=
  (skip_suffix x cs).length_le

/-! ### Escapes -/

theorem ends_readHexDigits {v : Nat} : Ends cs (readHexDigits x k v cs) := by
  induction k generalizing v cs with
  | zero => exact .pair
  | succ k ih =>
      simp only [readHexDigits]
      split
      · split
        · exact (ih.skipped x).tail
        · exact .none
      · exact .none

theorem ends_readHexBraced {v : Option Nat} : Ends cs (readHexBraced x f v cs) := by
  induction f generalizing v cs with
  | zero => exact .none
  | succ f ih =>
      simp only [readHexBraced]
      split
      · exact .tail fun a ha => by
          obtain ⟨_, -, rfl⟩ := Option.map_eq_some_iff.mp ha
          exact skip_suffix x _
      · split
        · exact (ih.skipped x).tail
        · exact .none
      · exact .none

theorem ends_readHex : Ends cs (readHex x k cs) := by
  refine .skipped x ?_
  simp only [readHex]
  split
  · next he =>
    rw [he]
    exact .tail ((ends_readHexBraced.skipped x).bind fun _ => .value fun _ => .pair)
  · exact ends_readHexDigits.bind fun _ => .value fun _ => .pair

theorem ends_readBraced {read : List Char} : Ends cs (readBraced x f read cs) := by
  induction f generalizing read cs with
  | zero => exact .none
  | succ f ih =>
      simp only [readBraced]
      split
      · exact .tail .pair
      · exact (ih.skipped x).tail
      · exact .none

theorem ends_readProperty {negated : Bool} : Ends cs (readProperty x negated cs) := by
  refine .skipped x ?_
  simp only [readProperty]
  split
  · exact .none
  · next he =>
    rw [he]
    exact .tail ((ends_readBraced.skipped x).bind fun _ => .pair)
  · exact .none
  · next he =>
    rw [he]
    exact .tail (.some (skip_suffix x _))

theorem ends_readBoundaryName {read : List Char} : Ends cs (readBoundaryName x f read cs) := by
  induction f generalizing read cs with
  | zero => exact .none
  | succ f ih =>
      simp only [readBoundaryName]
      split
      · exact .tail .pair
      · split
        · exact (ih.skipped x).tail
        · exact .none
      · exact .none

theorem ends_readBoundary : Ends cs (readBoundary x cs) := by
  simp only [readBoundary]
  split
  · split
    · exact .none
    · next he =>
      split
      · refine .tail (.skipped x ?_)
        rw [he]
        exact ends_readBoundaryName.bind fun _ => .value fun _ => .pair
      · exact .pair
  · exact .pair

theorem ends_readEscape : Ends cs (readEscape x cs) := by
  unfold readEscape
  split
  case h_1 => exact .none
  case h_2 | h_3 | h_4 => exact .tail (ends_readHex.map fun _ => List.suffix_refl _)
  case h_5 | h_6 => exact .tail (ends_readProperty.map fun _ => List.suffix_refl _)
  case h_21 => exact .tail (ends_readBoundary.map fun _ => List.suffix_refl _)
  case h_25 =>
    split
    · exact .tail .pair
    · exact .none
  all_goals exact .tail .pair

/-! ### Classes -/

/-- The rest of a range, or of an item that stands alone. -/
def readRangeEnd (x : Bool) (a : Escape) (cs : List Char) : Option (WrittenSet × List Char) :=
  match skip x cs with
  | [] => none
  | '-' :: rest =>
    if peek x rest = some ']' || peek x rest = some '-' then
      return (← a.toSet?, '-' :: rest)
    else do
      let (b, cs) ← readClassItem x (skip x rest)
      let low ← a.toLiteral?
      let high ← b.toLiteral?
      if low.char ≤ high.char then return (.range low high, cs) else none
  | cs => return (← a.toSet?, cs)

theorem readClassRange_eq (x : Bool) (cs : List Char) :
    readClassRange x cs = (readClassItem x cs).bind fun a => readRangeEnd x a.1 a.2 :=
  rfl

theorem ends_readClassItem_cons : Ends cs (readClassItem x (c :: cs)) := by
  by_cases hc : c = '\\'
  · subst hc
    exact ends_readEscape
  · simp only [readClassItem]
    exact .pair

theorem ends_readClassItem : Ends cs (readClassItem x cs) := by
  cases cs with
  | nil => exact .none
  | cons => exact .tail ends_readClassItem_cons

theorem ends_readRangeEnd {a : Escape} : Ends cs (readRangeEnd x a cs) := by
  refine .skipped x ?_
  unfold readRangeEnd
  split
  · exact .none
  · next he =>
    rw [he]
    split
    · exact .value fun _ => .pair
    · refine .tail ((ends_readClassItem.skipped x).bind fun b =>
        .value fun _ => .value fun _ => ?_)
      split
      · exact .pair
      · exact .none
  · exact .value fun _ => .pair

theorem ends_readClassRange_cons : Ends cs (readClassRange x (c :: cs)) :=
  ends_readClassItem_cons.bind fun _ => ends_readRangeEnd

theorem ends_readClassRange : Ends cs (readClassRange x cs) :=
  ends_readClassItem.bind fun _ => ends_readRangeEnd

theorem ends_splitAtFirst? {sep : List Char} : Ends cs (splitAtFirst? sep cs) := by
  induction cs with
  | nil => exact .none
  | cons c cs ih =>
      simp only [splitAtFirst?]
      split
      · exact .some (List.drop_suffix _ _)
      · exact .tail (ih.map fun _ => List.suffix_refl _)

/-- The sign of negation of a named class. -/
def asciiSign : List Char → Bool × List Char
  | '^' :: cs => (true, cs)
  | cs => (false, cs)

/-- A named class after its sign. -/
def readAsciiName? (negated : Bool) (cs : List Char) : Option (WrittenSet × List Char) :=
  match splitAtFirst? [':'] cs with
  | some (name, ']' :: rest) =>
    if (CharSet.asciiClass? (.ofList name)).isSome then
      some (.ascii (.ofList name) negated, rest)
    else none
  | _ => none

theorem readAsciiClass?_colon (cs : List Char) :
    readAsciiClass? (':' :: cs) = readAsciiName? (asciiSign cs).1 (asciiSign cs).2 :=
  rfl

theorem readAsciiClass?_of_ne (hc : cs.head? ≠ some ':') : readAsciiClass? cs = none := by
  unfold readAsciiClass?
  split
  · exact absurd rfl hc
  · rfl

theorem asciiSign_suffix (cs : List Char) : (asciiSign cs).2 <:+ cs := by
  unfold asciiSign
  split
  · exact List.suffix_cons _ _
  · exact List.suffix_refl _

theorem ends_readAsciiName? {negated : Bool} : Ends cs (readAsciiName? negated cs) := by
  unfold readAsciiName?
  split
  · next he =>
    split
    · exact .some ((List.suffix_cons _ _).trans (ends_splitAtFirst? _ he))
    · exact .none
  · exact .none

theorem ends_readAsciiClass? : Ends cs (readAsciiClass? cs) := by
  by_cases hc : ∃ cs', cs = ':' :: cs'
  · obtain ⟨cs, rfl⟩ := hc
    rw [readAsciiClass?_colon]
    exact .tail (ends_readAsciiName?.mono (asciiSign_suffix cs))
  · unfold readAsciiClass?
    split
    · exact absurd ⟨_, rfl⟩ hc
    · exact .none

theorem readHyphens_of_ne (hc : cs.head? ≠ some '-') : readHyphens x f cs = ([], cs) := by
  unfold readHyphens
  split
  · exact absurd rfl hc
  · rfl

theorem readHyphens_suffix (x : Bool) (f : Nat) (cs : List Char) :
    (readHyphens x f cs).2 <:+ cs := by
  induction f generalizing cs with
  | zero => exact List.suffix_refl _
  | succ f ih =>
      cases cs with
      | nil => exact List.suffix_refl _
      | cons c cs =>
          by_cases hc : c = '-'
          · subst hc
            exact (ih _).trans (skip_suffix_cons x _ cs)
          · simp [readHyphens, hc]

/-- The sign of negation of a class. -/
def classSign (x : Bool) (cs : List Char) : Bool × List Char :=
  match skip x cs with
  | '^' :: cs => (true, skip x cs)
  | cs => (false, cs)

/-- The start of a class after its sign. -/
def readClassFirst (x negated : Bool) (cs : List Char) : Bool × List WrittenSet × List Char :=
  match (readHyphens x cs.length cs).1, (readHyphens x cs.length cs).2 with
  | [], ']' :: cs => (negated, [.literal ⟨']', false⟩], skip x cs)
  | items, cs => (negated, items, cs)

theorem readClassStart_eq (x : Bool) (cs : List Char) :
    readClassStart x cs = readClassFirst x (classSign x cs).1 (classSign x cs).2 :=
  rfl

theorem classSign_suffix (x : Bool) (cs : List Char) : (classSign x cs).2 <:+ cs := by
  refine .trans ?_ (skip_suffix x cs)
  unfold classSign
  split
  · next he =>
    rw [he]
    exact skip_suffix_cons x _ _
  · exact List.suffix_refl _

theorem readClassFirst_suffix (x negated : Bool) (cs : List Char) :
    (readClassFirst x negated cs).2.2 <:+ cs := by
  refine .trans ?_ (readHyphens_suffix x cs.length cs)
  unfold readClassFirst
  split
  · next he =>
    rw [he]
    exact skip_suffix_cons x _ _
  · exact List.suffix_refl _

theorem readClassStart_suffix (x : Bool) (cs : List Char) : (readClassStart x cs).2.2 <:+ cs := by
  rw [readClassStart_eq]
  exact (readClassFirst_suffix x _ _).trans (classSign_suffix x cs)

theorem ends_readClassBody {negated : Bool} {lhs : Option (WrittenSet × SetOp)}
    {items : List WrittenSet} : Ends cs (readClassBody x f negated lhs items cs) := by
  induction f generalizing negated lhs items cs with
  | zero => exact .none
  | succ f ih =>
      refine .skipped x ?_
      simp only [readClassBody]
      split
      · exact .none
      · next he => rw [he]; exact .tail .pair
      · next he => rw [he]; exact .tail (.tail ih)
      · next he => rw [he]; exact .tail (.tail ih)
      · next he => rw [he]; exact .tail (.tail ih)
      · next he =>
        rw [he]
        refine .tail ?_
        split
        · next item cs' hr => exact ih.mono (ends_readAsciiClass? _ hr)
        · refine .mono ?_ (readClassStart_suffix x _)
          exact ih.bind fun _ => ih
      · exact ends_readClassRange.bind fun _ => ih

theorem ends_readClass : Ends cs (readClass x cs) :=
  ends_readClassBody.mono (readClassStart_suffix x cs)

/-! ### Repetitions -/

theorem dropPreference_suffix (cs : List Char) : dropPreference cs <:+ cs := by
  unfold dropPreference
  split
  · exact List.suffix_cons _ _
  · exact List.suffix_refl _

theorem ends_readDigits {v : Option Nat} : Ends cs (readDigits x f v cs) := by
  induction f generalizing v cs with
  | zero =>
      unfold readDigits
      exact .given
  | succ f ih =>
      cases cs with
      | nil => exact .given
      | cons c cs =>
          simp only [readDigits]
          split
          · exact (ih.skipped x).tail
          · exact .given

theorem ends_readCount : Ends cs (readCount x cs) := by
  refine .mono ?_ (List.dropWhile_suffix isBlank)
  refine ends_readDigits.bind fun _ => ?_
  dsimp only
  split
  · exact .some ((skip_suffix x _).trans (List.dropWhile_suffix isBlank))
  · exact .none

/-- What follows the upper bound of a repetition. -/
def readAfterHigh (x : Bool) (low high : Nat) (cs : List Char) :
    Option (Nat × Option Nat × List Char) :=
  match cs with
  | '}' :: cs => if low ≤ high then return (low, some high, dropPreference (skip x cs)) else none
  | _ => none

/-- The upper bound of a repetition, and what follows it. -/
def readHighBound (x : Bool) (low : Nat) (cs : List Char) :
    Option (Nat × Option Nat × List Char) :=
  (readCount x cs).bind fun a => readAfterHigh x low a.1 a.2

/-- What follows the comma between two bounds. -/
def readAfterComma (x : Bool) (low : Nat) (cs : List Char) :
    Option (Nat × Option Nat × List Char) :=
  match skip x cs with
  | '}' :: cs => return (low, none, dropPreference (skip x cs))
  | cs => readHighBound x low cs

/-- What follows the lower bound of a repetition. -/
def readAfterLow (x : Bool) (low : Nat) (cs : List Char) : Option (Nat × Option Nat × List Char) :=
  match cs with
  | ',' :: cs => readAfterComma x low cs
  | '}' :: cs => return (low, some low, dropPreference (skip x cs))
  | _ => none

theorem readBounds_eq (x : Bool) (cs : List Char) :
    readBounds x cs = (readCount x (skip x cs)).bind fun a => readAfterLow x a.1 a.2 :=
  rfl

section

variable {low : Nat}

theorem ends_bounds {high : Option Nat} :
    Ends cs (some (low, high, dropPreference (skip x cs))) :=
  .some ((dropPreference_suffix _).trans (skip_suffix x cs))

theorem ends_readAfterHigh {high : Nat} : Ends cs (readAfterHigh x low high cs) := by
  unfold readAfterHigh
  split
  · split
    · exact .tail ends_bounds
    · exact .none
  · exact .none

theorem ends_readHighBound : Ends cs (readHighBound x low cs) :=
  ends_readCount.bind fun _ => ends_readAfterHigh

theorem ends_readAfterComma : Ends cs (readAfterComma x low cs) := by
  refine .skipped x ?_
  unfold readAfterComma
  split
  · next he =>
    rw [he]
    exact .tail ends_bounds
  · exact ends_readHighBound

theorem ends_readAfterLow : Ends cs (readAfterLow x low cs) := by
  unfold readAfterLow
  split
  · exact .tail ends_readAfterComma
  · exact .tail ends_bounds
  · exact .none

end

theorem ends_readBounds : Ends cs (readBounds x cs) :=
  .skipped x (ends_readCount.bind fun _ => ends_readAfterLow)

/-! ### Groups -/

theorem ends_readGroupName {read : List Char} : Ends cs (readGroupName read cs) := by
  induction cs generalizing read with
  | nil => exact .none
  | cons c cs ih =>
      simp only [readGroupName]
      split
      · split
        · exact .none
        · exact .tail .pair
      · split
        · exact .tail ih
        · exact .none

theorem ends_readFlags {mood : FlagMood} {read : Switches} : Ends cs (readFlags mood read cs) := by
  induction cs generalizing mood read with
  | nil => exact .none
  | cons c cs ih =>
      simp only [readFlags]
      split
      · split
        · exact .none
        · exact .pair
      · split
        · split
          · exact .tail ih
          · exact .none
        · split
          · split
            · exact .none
            · exact .tail ih
          · exact .none

/-- What follows the flags of a group. -/
def readAfterFlags (fs : Switches) (cs : List Char) : Option (GroupStart × List Char) :=
  match cs with
  | ')' :: cs => if fs.isEmpty then none else return (.switch fs, cs)
  | _ :: cs => return (.group false fs none, cs)
  | [] => none

/-- The start of a group after its question mark. -/
def readFlagged (cs : List Char) : Option (GroupStart × List Char) :=
  (readFlags .plain [] cs).bind fun a => readAfterFlags a.1 a.2

/-- The start of a group with a name. -/
def readNamed (cs : List Char) : Option (GroupStart × List Char) :=
  (readGroupName [] cs).bind fun a => some (.group true [] (some a.1), a.2)

/-- The start of a group after its parenthesis. -/
def readStart (cs : List Char) : Option (GroupStart × List Char) :=
  match cs with
  | '?' :: 'P' :: '<' :: cs | '?' :: '<' :: cs => readNamed cs
  | '?' :: cs => readFlagged cs
  | cs => some (.group true [] none, cs)

theorem readGroupStart_eq (x : Bool) (cs : List Char) :
    readGroupStart x cs = if isLookAround (skip x cs) then none else readStart (skip x cs) :=
  rfl

theorem ends_readAfterFlags {fs : Switches} : Ends cs (readAfterFlags fs cs) := by
  unfold readAfterFlags
  split
  · split
    · exact .none
    · exact .tail .pair
  · exact .tail .pair
  · exact .none

theorem ends_readNamed : Ends cs (readNamed cs) :=
  ends_readGroupName.bind fun _ => .pair

theorem ends_readFlagged : Ends cs (readFlagged cs) :=
  ends_readFlags.bind fun _ => ends_readAfterFlags

theorem ends_readStart : Ends cs (readStart cs) := by
  unfold readStart
  split
  · exact .tail (.tail (.tail ends_readNamed))
  · exact .tail (.tail ends_readNamed)
  · exact .tail ends_readFlagged
  · exact .pair

theorem ends_readGroupStart : Ends cs (readGroupStart x cs) := by
  refine .skipped x ?_
  rw [readGroupStart_eq]
  split
  · exact .none
  · exact ends_readStart

/-! ### Patterns -/

theorem ends_readSimple_cons : Ends cs (readSimple x (c :: cs)) := by
  unfold readSimple
  split
  · exact .none
  · next he =>
    cases he
    exact ends_readEscape.map fun _ => List.suffix_refl _
  all_goals
    next he =>
      cases he
      exact .pair

theorem ends_readSimple : Ends cs (readSimple x cs) := by
  cases cs with
  | nil => exact .none
  | cons => exact .tail ends_readSimple_cons

section

variable {names : GroupNames} {branches parts : List Written}

/-- The rest of a pattern after the body of a group. -/
def readAfterGroup (f : Nat) (x : Bool) (branches parts : List Written) (captured : Bool)
    (fs : Switches) (a : Written × GroupNames × List Char) :
    Option (Written × GroupNames × List Char) :=
  match a.2.2 with
  | ')' :: cs => readBody f x a.2.1 branches (.group captured fs a.1 :: parts) cs
  | _ => none

/-- The rest of a pattern after the start of a group. -/
def readGroupRest (f : Nat) (x : Bool) (branches parts : List Written) (captured : Bool)
    (fs : Switches) (names : GroupNames) (cs : List Char) :
    Option (Written × GroupNames × List Char) :=
  (readBody f ((fs.state? .extended).getD x) names [] [] cs).bind
    (readAfterGroup f x branches parts captured fs)

/-- The rest of a pattern after a bracketed class. -/
def readAfterClass (f : Nat) (x : Bool) (names : GroupNames) (branches parts : List Written)
    (a : WrittenSet × List Char) : Option (Written × GroupNames × List Char) :=
  match a.1 with
  | .bracketed n body => readBody f x names branches (.bracketed n body :: parts) a.2
  | _ => none

/-- The rest of a pattern after what a parenthesis begins. -/
def readAfterGroupStart (f : Nat) (x : Bool) (names : GroupNames) (branches parts : List Written)
    (a : GroupStart × List Char) : Option (Written × GroupNames × List Char) :=
  match a.1 with
  | .switch fs =>
      readBody f ((fs.state? .extended).getD x) names branches (.flags fs :: parts) a.2
  | .group captured fs none => readGroupRest f x branches parts captured fs names a.2
  | .group captured fs (some n) =>
      if names.contains n then none
      else readGroupRest f x branches parts captured fs (n :: names) a.2

/-- The rest of a pattern after a sign for a repetition. -/
def readRepeated (f : Nat) (x : Bool) (names : GroupNames) (branches parts : List Written)
    (low : Nat) (high : Option Nat) (cs : List Char) :
    Option (Written × GroupNames × List Char) :=
  (repeatLast low high parts).bind fun parts => readBody f x names branches parts cs

theorem readBody_nil (hs : skip x cs = []) : readBody (f + 1) x names branches parts cs =
    some (closeChoice branches parts, names, []) := by
  simp only [readBody, hs]

theorem readBody_closing (hs : skip x cs = ')' :: rest) :
    readBody (f + 1) x names branches parts cs =
      some (closeChoice branches parts, names, ')' :: rest) := by
  simp only [readBody, hs]

theorem readBody_bounds (hs : skip x cs = '{' :: rest) :
    readBody (f + 1) x names branches parts cs = (readBounds x rest).bind fun a =>
      readRepeated f x names branches parts a.1 a.2.1 a.2.2 := by
  simp only [readBody, hs]
  rfl

theorem readBody_class (hs : skip x cs = '[' :: rest) :
    readBody (f + 1) x names branches parts cs =
      (readClass x rest).bind (readAfterClass f x names branches parts) := by
  simp only [readBody, hs]
  rfl

theorem readBody_group (hs : skip x cs = '(' :: rest) :
    readBody (f + 1) x names branches parts cs =
      (readGroupStart x rest).bind (readAfterGroupStart f x names branches parts) := by
  simp only [readBody, hs]
  refine congrArg _ (funext ?_)
  rintro ⟨start, cs⟩
  cases start with
  | switch => rfl
  | group captured fs name =>
      cases name with
      | none => rfl
      | some n =>
          simp only [readAfterGroupStart]
          split <;> rfl

/-- The signs that mean something between the parts of a pattern. -/
def bodySigns : List Char := [')', '|', '?', '*', '+', '{', '[', '(']

theorem readBody_simple (hs : skip x cs = c :: rest) (hc : c ∉ bodySigns) :
    readBody (f + 1) x names branches parts cs =
      (readSimple x (c :: rest)).bind fun p =>
        readBody f x names branches (p.1 :: parts) p.2 := by
  simp only [bodySigns, List.mem_cons, List.not_mem_nil, or_false, not_or] at hc
  obtain ⟨h₁, h₂, h₃, h₄, h₅, h₆, h₇, h₈⟩ := hc
  simp only [readBody, hs]
  split
  case h_10 => rfl
  case h_1 he => cases he
  all_goals
    next he =>
      cases he
      contradiction

/-! ### After a part of a pattern -/

section

-- what follows a part leaves an end of what it was given if a body with this fuel does
variable (hbody : ∀ {x : Bool} {names : GroupNames} {branches parts : List Written}
  {cs : List Char}, Ends cs (readBody f x names branches parts cs))

include hbody

theorem ends_readAfterGroup {captured : Bool} {fs : Switches}
    {a : Written × GroupNames × List Char} :
    Ends (left a) (readAfterGroup f x branches parts captured fs a) := by
  obtain ⟨w, names, cs⟩ := a
  simp only [readAfterGroup]
  split
  · exact .tail hbody
  · exact .none

theorem ends_readGroupRest {captured : Bool} {fs : Switches} :
    Ends cs (readGroupRest f x branches parts captured fs names cs) :=
  Ends.bind hbody fun _ => ends_readAfterGroup hbody

theorem ends_readAfterClass {a : WrittenSet × List Char} :
    Ends (left a) (readAfterClass f x names branches parts a) := by
  obtain ⟨set, cs⟩ := a
  cases set with
  | bracketed => exact hbody
  | _ => exact .none

theorem ends_readAfterGroupStart {a : GroupStart × List Char} :
    Ends (left a) (readAfterGroupStart f x names branches parts a) := by
  obtain ⟨start, cs⟩ := a
  cases start with
  | switch => exact hbody
  | group captured fs name =>
      cases name with
      | none => exact ends_readGroupRest hbody
      | some n =>
          simp only [readAfterGroupStart]
          split
          · exact .none
          · exact ends_readGroupRest hbody

theorem ends_readRepeated {low : Nat} {high : Option Nat} :
    Ends cs (readRepeated f x names branches parts low high cs) :=
  .value fun _ => hbody

end

/-! ### Whole patterns -/

/-- By induction on the fuel, with one case for each sign. -/
theorem ends_readBody : Ends cs (readBody f x names branches parts cs) := by
  induction f generalizing x names branches parts cs with
  | zero => exact .none
  | succ f ih =>
      refine .skipped x ?_
      cases hs : skip x cs with
      | nil =>
          rw [readBody_nil hs]
          exact .some (List.nil_suffix)
      | cons c rest =>
          by_cases hc : c ∈ bodySigns
          · simp only [bodySigns, List.mem_cons, List.not_mem_nil, or_false] at hc
            have hrepeat : ∀ (low : Nat) (high : Option Nat), Ends rest
                (readRepeated f x names branches parts low high (dropPreference rest)) :=
              fun _ _ => (ends_readRepeated ih).mono (dropPreference_suffix rest)
            rcases hc with rfl | rfl | rfl | rfl | rfl | rfl | rfl | rfl
            · rw [readBody_closing hs]
              exact .some (List.suffix_refl _)
            · simp only [readBody, hs]
              exact .tail ih
            · simp only [readBody, hs]
              exact .tail (hrepeat 0 (some 1))
            · simp only [readBody, hs]
              exact .tail (hrepeat 0 none)
            · simp only [readBody, hs]
              exact .tail (hrepeat 1 none)
            · rw [readBody_bounds hs]
              exact .tail (ends_readBounds.bind fun _ => ends_readRepeated ih)
            · rw [readBody_class hs]
              exact .tail (ends_readClass.bind fun _ => ends_readAfterClass ih)
            · rw [readBody_group hs]
              exact .tail (ends_readGroupStart.bind fun _ => ends_readAfterGroupStart ih)
          · rw [readBody_simple hs hc]
            exact ends_readSimple.bind fun _ => ih

end

end Packrat.Pattern
