import Packrat.Proofs.Pattern.Behind

/-!
# Proofs — Pattern — Enclosed

The same comparison for repetitions, groups and whole patterns (`alike_readBody`), and what it says
about a pattern that stands in a group between signs for the start and the end of the text.
-/

namespace Packrat.Pattern

open Remainder

variable {P : Prop} {x : Bool} {c : Char} {cs cs' rest t : List Char} {n k f : Nat}

/-! ### Repetitions -/

theorem dropPreference_of_ne (hc : cs.head? ≠ some '?') : dropPreference cs = cs := by
  unfold dropPreference
  split
  · exact absurd rfl hc
  · rfl

theorem Behind.dropPreference (h : Behind P t cs cs') :
    Behind P t (dropPreference cs) (dropPreference cs') := by
  cases h with
  | closing ht => exact .closing ht
  | dropped hP => exact .dropped hP
  | cons c hp h =>
      by_cases hc : c = '?'
      · subst hc
        exact h
      · rw [dropPreference_of_ne (by simpa using hc), dropPreference_of_ne (by simpa using hc)]
        exact .cons c hp h

theorem Behind.dropBlanks (h : Behind P t cs cs') :
    Behind P t (cs.dropWhile isBlank) (cs'.dropWhile isBlank) := by
  induction h with
  | closing ht => exact .closing ht
  | dropped hP => exact .dropped hP
  | cons c hp h ih =>
      simp only [List.dropWhile_cons]
      split
      · exact ih
      · exact .cons c hp h

theorem alike_readDigits {f' : Nat} {v : Option Nat} (h : Behind P t cs cs')
    (hf : cs.length ≤ f) (hf' : cs'.length ≤ f') :
    Alike P t (readDigits x f v cs) (readDigits x f' v cs') := by
  have hgiven : ∀ {cs cs' : List Char}, Behind P t cs cs' →
      Alike P t (v.map (·, cs)) (v.map (·, cs')) := by
    intro cs cs' h
    cases v with
    | none => exact .nothing
    | some v => exact .pair h
  induction f generalizing f' v cs cs' with
  | zero =>
      obtain rfl := List.length_eq_zero_iff.mp (Nat.le_zero.mp hf)
      cases h with
      | closing ht => cases f' <;> exact hgiven (.closing ht)
      | dropped hP => cases f' <;> exact hgiven (.dropped hP)
  | succ f ih =>
      cases h with
      | closing ht => cases f' <;> exact hgiven (.closing ht)
      | dropped hP => cases f' <;> exact hgiven (.dropped hP)
      | @cons cs cs' c hp h =>
          obtain ⟨f', rfl⟩ := Nat.exists_eq_succ_of_ne_zero (Nat.ne_zero_of_lt hf')
          have hl := length_skip_le x cs
          have hl' := length_skip_le x cs'
          simp only [readDigits]
          split
          · refine ih (h.skip x) (by simp at hf; omega) (by simp at hf'; omega) fun h => ?_
            exact .pair h
          · exact hgiven (.cons c hp h)

theorem alike_readCount (h : Behind P t cs cs') : Alike P t (readCount x cs) (readCount x cs') := by
  refine (alike_readDigits h.dropBlanks (Nat.le_refl _) (Nat.le_refl _)).bind ?_ ?_
  · rintro ⟨n, rest⟩ ⟨_, rest'⟩ ⟨rfl, h⟩
    dsimp only
    split
    · exact .pair ((Behind.dropBlanks h).skip x)
    · exact .nothing
  · rintro ⟨n, rest⟩
    dsimp only
    split
    · exact .some ((skip_suffix x _).trans (List.dropWhile_suffix isBlank))
    · exact .none

section

variable {low : Nat}

theorem readAfterComma_of_ne (hc : (skip x cs).head? ≠ some '}') :
    readAfterComma x low cs = readHighBound x low (skip x cs) := by
  unfold readAfterComma
  split
  · next he => exact absurd (congrArg List.head? he) hc
  · rfl

theorem readAfterLow_of_ne (hc : c ≠ ',') (hd : c ≠ '}') :
    readAfterLow x low (c :: cs) = none := by
  unfold readAfterLow
  split
  · next he => exact absurd (List.cons.inj he).1 hc
  · next he => exact absurd (List.cons.inj he).1 hd
  · rfl

theorem readAfterHigh_of_ne {high : Nat} (hc : c ≠ '}') :
    readAfterHigh x low high (c :: cs) = none := by
  unfold readAfterHigh
  split
  · next he => exact absurd (List.cons.inj he).1 hc
  · rfl

theorem alike_bounds {high : Option Nat} (h : Behind P t cs cs') :
    Alike P t (some (low, high, dropPreference (skip x cs)))
      (some (low, high, dropPreference (skip x cs'))) :=
  .read ⟨rfl, rfl, (h.skip x).dropPreference⟩

theorem alike_readAfterHigh {high : Nat} (h : Behind P t cs cs') :
    Alike P t (readAfterHigh x low high cs) (readAfterHigh x low high cs') := by
  cases h with
  | closing | dropped => exact .nothing
  | cons c hp h =>
      by_cases hc : c = '}'
      · subst hc
        by_cases hle : low ≤ high
        · simp only [readAfterHigh, if_pos hle]
          exact alike_bounds h
        · simp only [readAfterHigh, if_neg hle]
          exact .nothing
      · rw [readAfterHigh_of_ne hc, readAfterHigh_of_ne hc]
        exact .nothing

theorem alike_readHighBound (h : Behind P t cs cs') :
    Alike P t (readHighBound x low cs) (readHighBound x low cs') := by
  refine (alike_readCount h).bind ?_ fun _ => ends_readAfterHigh
  rintro ⟨high, rest⟩ ⟨_, rest'⟩ ⟨rfl, h⟩
  exact alike_readAfterHigh h

theorem alike_readAfterComma (h : Behind P t cs cs') :
    Alike P t (readAfterComma x low cs) (readAfterComma x low cs') := by
  have h := h.skip x
  by_cases hc : (skip x cs).head? = some '}'
  · unfold readAfterComma
    generalize skip x cs = ds at h hc ⊢
    generalize skip x cs' = ds' at h ⊢
    cases h with
    | closing | dropped => cases hc
    | cons c hp h =>
        cases hc
        exact alike_bounds h
  · rw [readAfterComma_of_ne hc, readAfterComma_of_ne (h.head?_ne hc (by decide))]
    exact alike_readHighBound h

theorem alike_readAfterLow (h : Behind P t cs cs') :
    Alike P t (readAfterLow x low cs) (readAfterLow x low cs') := by
  cases h with
  | closing | dropped => exact .nothing
  | cons c hp h =>
      by_cases hc : c = ','
      · subst hc
        exact alike_readAfterComma h
      by_cases hd : c = '}'
      · subst hd
        exact alike_bounds h
      · rw [readAfterLow_of_ne hc hd, readAfterLow_of_ne hc hd]
        exact .nothing

end

theorem alike_readBounds (h : Behind P t cs cs') :
    Alike P t (readBounds x cs) (readBounds x cs') := by
  rw [readBounds_eq, readBounds_eq]
  refine (alike_readCount (h.skip x)).bind ?_ fun _ => ends_readAfterLow
  rintro ⟨low, rest⟩ ⟨_, rest'⟩ ⟨rfl, h⟩
  exact alike_readAfterLow h

/-! ### Groups -/

theorem alike_readGroupName {read : List Char} (h : Behind P t cs cs') :
    Alike P t (readGroupName read cs) (readGroupName read cs') := by
  induction h generalizing read with
  | closing ht =>
      cases read with
      | nil => exact .nothing
      | cons => exact .nothing
  | dropped => exact .nothing
  | cons c hp h ih =>
      simp only [readGroupName]
      split
      · split
        · exact .nothing
        · exact .pair h
      · split
        · exact ih
        · exact .nothing

theorem alike_readNamed (h : Behind P t cs cs') : Alike P t (readNamed cs) (readNamed cs') := by
  refine (alike_readGroupName h).bind ?_ ?_
  · rintro ⟨name, rest⟩ ⟨_, rest'⟩ ⟨rfl, h⟩
    exact .pair h
  · rintro ⟨name, rest⟩
    exact .some (List.suffix_refl _)

/-- A closing parenthesis after flags is read with them. -/
theorem ends_readAfterFlags_closing {fs : Switches} : Ends cs (readAfterFlags fs (')' :: cs)) := by
  simp only [readAfterFlags]
  split
  · exact .none
  · exact .some (List.suffix_refl _)

/-- Flags read with the sign after them. -/
theorem alike_readAfterFlags {mood : FlagMood} {read : Switches} (h : Behind P t cs cs') :
    Alike P t ((readFlags mood read cs).bind fun a => readAfterFlags a.1 a.2)
      ((readFlags mood read cs').bind fun a => readAfterFlags a.1 a.2) := by
  induction h generalizing mood read with
  | closing ht =>
      refine .past ?_ (not_mem_of_end ht)
      show Ends t ((if mood = .hyphen then none else some (read.reverse, ')' :: t)).bind _)
      split
      · exact .none
      · exact ends_readAfterFlags_closing
  | dropped => exact .nothing
  | @cons cs cs' c hp h ih =>
      simp only [readFlags]
      split
      · split
        · exact .nothing
        · next hc _ =>
          simp only [Option.bind_some]
          by_cases hp : c = ')'
          · subst hp
            simp only [readAfterFlags]
            split
            · exact .nothing
            · exact .pair h
          · simp only [readAfterFlags]
            exact .pair h
      · split
        · split
          · exact ih
          · exact .nothing
        · split
          · split
            · exact .nothing
            · exact ih
          · exact .nothing

theorem Behind.isPrefixOf_eq (h : Behind P t cs cs') {p : List Char} (hp : ')' ∉ p) :
    p.isPrefixOf cs = p.isPrefixOf cs' := by
  induction p generalizing cs cs' with
  | nil => cases cs <;> cases cs' <;> rfl
  | cons d p ih =>
      obtain ⟨hd, hp⟩ := not_or.mp (fun h => hp (List.mem_cons.mpr h))
      cases h with
      | closing => simp [List.isPrefixOf, Ne.symm hd]
      | dropped => rfl
      | cons c _ h => simp only [List.isPrefixOf, ih h hp]

theorem Behind.drop {p : List Char} (h : Behind P t cs cs') (hp : p.isPrefixOf cs = true) :
    Behind P t (cs.drop p.length) (cs'.drop p.length) := by
  induction p generalizing cs cs' with
  | nil => exact h
  | cons d p ih =>
      cases h with
      | closing | dropped => cases hp
      | cons c hp h =>
          simp only [List.isPrefixOf, Bool.and_eq_true] at hp
          exact ih h hp.2

theorem isLookAround_eq_any (cs : List Char) : isLookAround cs =
    [['?', '='], ['?', '!'], ['?', '<', '='], ['?', '<', '!']].any (·.isPrefixOf cs) := by
  unfold isLookAround
  split
  · simp
  · simp
  · simp
  · simp
  · next h₁ h₂ h₃ h₄ =>
    symm
    simp only [List.any_eq_false]
    intro p hp hpre
    obtain ⟨rest, rfl⟩ := List.isPrefixOf_iff_prefix.mp hpre
    simp only [List.mem_cons, List.not_mem_nil, or_false] at hp
    rcases hp with rfl | rfl | rfl | rfl
    · exact h₁ rest rfl
    · exact h₂ rest rfl
    · exact h₃ rest rfl
    · exact h₄ rest rfl

theorem Behind.isLookAround_eq (h : Behind P t cs cs') : isLookAround cs = isLookAround cs' := by
  rw [isLookAround_eq_any, isLookAround_eq_any]
  simp only [List.any_cons, List.any_nil, h.isPrefixOf_eq (by decide : ')' ∉ ['?', '=']),
    h.isPrefixOf_eq (by decide : ')' ∉ ['?', '!']),
    h.isPrefixOf_eq (by decide : ')' ∉ ['?', '<', '=']),
    h.isPrefixOf_eq (by decide : ')' ∉ ['?', '<', '!'])]

theorem isPrefixOf_eq_false {p : List Char} (h : ∀ rest, cs ≠ p ++ rest) :
    p.isPrefixOf cs = false :=
  Bool.eq_false_iff.mpr fun hp => by
    obtain ⟨rest, rfl⟩ := List.isPrefixOf_iff_prefix.mp hp
    exact h rest rfl

theorem readStart_eq (cs : List Char) : readStart cs =
    if ['?', 'P', '<'].isPrefixOf cs then readNamed (cs.drop 3)
    else if ['?', '<'].isPrefixOf cs then readNamed (cs.drop 2)
    else if ['?'].isPrefixOf cs then readFlagged (cs.drop 1)
    else some (.group true [] none, cs) := by
  unfold readStart
  split
  · simp
  · simp
  · next cs' h₁ h₂ =>
    have hp : ['P', '<'].isPrefixOf cs' = false := isPrefixOf_eq_false h₁
    have hn : ['<'].isPrefixOf cs' = false := isPrefixOf_eq_false h₂
    simp [hp, hn]
  · next h₁ h₂ h₃ =>
    rw [isPrefixOf_eq_false h₁, isPrefixOf_eq_false h₂, isPrefixOf_eq_false h₃]
    rfl

theorem alike_readStart (h : Behind P t cs cs') : Alike P t (readStart cs) (readStart cs') := by
  rw [readStart_eq, readStart_eq, ← h.isPrefixOf_eq (by decide : ')' ∉ ['?', 'P', '<']),
    ← h.isPrefixOf_eq (by decide : ')' ∉ ['?', '<']), ← h.isPrefixOf_eq (by decide : ')' ∉ ['?'])]
  split
  · next hp => exact alike_readNamed (h.drop hp)
  · split
    · next hp => exact alike_readNamed (h.drop hp)
    · split
      · next hp => exact alike_readAfterFlags (h.drop hp)
      · exact .pair h

theorem alike_readGroupStart (h : Behind P t cs cs') :
    Alike P t (readGroupStart x cs) (readGroupStart x cs') := by
  have h := h.skip x
  rw [readGroupStart_eq, readGroupStart_eq, h.isLookAround_eq]
  split
  · exact .nothing
  · exact alike_readStart h

/-! ### Patterns -/

theorem alike_readSimple (h : Behind P t cs cs') :
    Alike P t (readSimple x (c :: cs)) (readSimple x (c :: cs')) ∨
      Hangs t x (.place .wordBoundary) (readSimple x (c :: cs)) (readSimple x (c :: cs')) := by
  by_cases hb : c = '\\'
  · subst hb
    exact (alike_readEscape h).imp (·.lift Escape.toWritten) (·.map Escape.toWritten)
  refine .inl ?_
  unfold readSimple
  split
  case h_1 he => cases he
  case h_2 he => cases he; exact absurd rfl hb
  case h_6 he =>
    cases he
    simp only
    exact .pair h
  all_goals
    next he =>
      cases he
      exact .pair h

section

variable {names : GroupNames} {branches parts : List Written}

/-- A brace with nothing in it begins no repetition. -/
theorem readBody_brace (hs : skip x rest = ')' :: t) :
    readBody f x names branches parts ('{' :: rest) = none := by
  cases f with
  | zero => rfl
  | succ f =>
      have hskip : skip x ('{' :: rest) = '{' :: rest := by cases x <;> rfl
      have hnone : readBounds x rest = none := by
        rw [readBounds_eq, hs]
        rfl
      simp only [readBody, hskip, hnone]
      rfl

theorem readAfterGroup_of_ne {captured : Bool} {fs : Switches} {w : Written} (hc : c ≠ ')') :
    readAfterGroup f x branches parts captured fs (w, names, c :: cs) = none := by
  unfold readAfterGroup
  split
  · next he => exact absurd (List.cons.inj he).1 hc
  · rfl

/-! ### After a part of a pattern -/

section

-- what follows a part is read alike if bodies are, with one fuel alone and with another behind
variable {f' : Nat} (hbody : ∀ {x : Bool} {names : GroupNames} {branches parts : List Written}
  {cs cs' : List Char}, Behind P t cs cs' → cs.length < f → cs'.length < f' →
    Alike P t (readBody f x names branches parts cs) (readBody f' x names branches parts cs'))

include hbody

theorem alike_readRepeated (h : Behind P t cs cs') (hf : cs.length < f) (hf' : cs'.length < f')
    (low : Nat) (high : Option Nat) :
    Alike P t (readRepeated f x names branches parts low high cs)
      (readRepeated f' x names branches parts low high cs') :=
  .value fun _ => hbody h hf hf'

theorem alike_readGroupRest (h : Behind P t cs cs') (hf : cs.length < f) (hf' : cs'.length < f')
    (captured : Bool) (fs : Switches) :
    Alike P t (readGroupRest f x branches parts captured fs names cs)
      (readGroupRest f' x branches parts captured fs names cs') := by
  refine (hbody h hf hf').bind_le ends_readBody ends_readBody ?_
    fun _ => ends_readAfterGroup ends_readBody
  rintro ⟨w, names', r⟩ ⟨_, _, r'⟩ ⟨rfl, rfl, hr⟩ hle hle'
  cases hr with
  -- the parenthesis behind closes the group
  | closing ht => exact .past ends_readBody (not_mem_of_end ht)
  | dropped => exact .nothing
  | cons c hp hr =>
      by_cases hc : c = ')'
      · subst hc
        exact hbody hr (Nat.lt_trans (Nat.lt_of_succ_le hle) hf)
          (Nat.lt_trans (Nat.lt_of_succ_le hle') hf')
      · rw [readAfterGroup_of_ne hc, readAfterGroup_of_ne hc]
        exact .nothing

theorem alike_readAfterClass {set : WrittenSet} (h : Behind P t cs cs') (hf : cs.length < f)
    (hf' : cs'.length < f') : Alike P t (readAfterClass f x names branches parts (set, cs))
      (readAfterClass f' x names branches parts (set, cs')) := by
  cases set with
  | bracketed => exact hbody h hf hf'
  | _ => exact .nothing

theorem alike_readAfterGroupStart {start : GroupStart} (h : Behind P t cs cs')
    (hf : cs.length < f) (hf' : cs'.length < f') :
    Alike P t (readAfterGroupStart f x names branches parts (start, cs))
      (readAfterGroupStart f' x names branches parts (start, cs')) := by
  cases start with
  | switch => exact hbody h hf hf'
  | group captured fs name =>
      cases name with
      | none => exact alike_readGroupRest hbody h hf hf' captured fs
      | some n =>
          simp only [readAfterGroupStart]
          split
          · exact .nothing
          · exact alike_readGroupRest hbody h hf hf' captured fs

end

/-! ### Whole patterns -/

/-- By induction on the fuel for the pattern alone, with one case for each sign. -/
theorem alike_readBody {f' : Nat} (h : Behind P t cs cs') (hf : cs.length < f)
    (hf' : cs'.length < f') : Alike P t (readBody f x names branches parts cs)
      (readBody f' x names branches parts cs') := by
  induction f generalizing f' x names branches parts cs cs' with
  | zero => omega
  | succ f ih =>
      obtain ⟨f', rfl⟩ := Nat.exists_eq_succ_of_ne_zero (Nat.ne_zero_of_lt hf')
      have hl := length_skip_le x cs
      have hl' := length_skip_le x cs'
      have hskip := h.skip x
      generalize hs : skip x cs = ds at hskip hl
      generalize hs' : skip x cs' = ds' at hskip hl'
      cases hskip with
      | closing ht =>
          rw [readBody_nil hs, readBody_closing hs']
          exact .read ⟨rfl, rfl, .closing ht⟩
      | dropped hP =>
          rw [readBody_nil hs, readBody_nil hs']
          exact .read ⟨rfl, rfl, .dropped hP⟩
      | @cons rest rest' c hp hrest =>
          have hlt : rest.length < f := Nat.lt_of_succ_lt_succ (Nat.lt_of_le_of_lt hl hf)
          have hlt' : rest'.length < f' := Nat.lt_of_succ_lt_succ (Nat.lt_of_le_of_lt hl' hf')
          have hrepeat : ∀ (low : Nat) (high : Option Nat), Alike P t
              (readRepeated f x names branches parts low high (dropPreference rest))
              (readRepeated f' x names branches parts low high (dropPreference rest')) :=
            alike_readRepeated ih hrest.dropPreference
              (Nat.lt_of_le_of_lt (dropPreference_suffix rest).length_le hlt)
              (Nat.lt_of_le_of_lt (dropPreference_suffix rest').length_le hlt')
          by_cases hmem : c ∈ bodySigns
          · simp only [bodySigns, List.mem_cons, List.not_mem_nil, or_false] at hmem
            rcases hmem with rfl | rfl | rfl | rfl | rfl | rfl | rfl | rfl
            · rw [readBody_closing hs, readBody_closing hs']
              exact .read ⟨rfl, rfl, .cons _ hp hrest⟩
            · simp only [readBody, hs, hs']
              exact ih hrest hlt hlt'
            · simp only [readBody, hs, hs']
              exact hrepeat 0 (some 1)
            · simp only [readBody, hs, hs']
              exact hrepeat 0 none
            · simp only [readBody, hs, hs']
              exact hrepeat 1 none
            · rw [readBody_bounds hs, readBody_bounds hs']
              refine (alike_readBounds hrest).bind_le ends_readBounds ends_readBounds ?_
                fun _ => ends_readRepeated ends_readBody
              rintro ⟨low, high, r⟩ ⟨_, _, r'⟩ ⟨rfl, rfl, hr⟩ hle hle'
              exact alike_readRepeated ih hr (Nat.lt_of_le_of_lt hle hlt)
                (Nat.lt_of_le_of_lt hle' hlt') low high
            · rw [readBody_class hs, readBody_class hs']
              refine (alike_readClass hrest).bind_le ends_readClass ends_readClass ?_
                fun _ => ends_readAfterClass ends_readBody
              rintro ⟨set, r⟩ ⟨_, r'⟩ ⟨rfl, hr⟩ hle hle'
              exact alike_readAfterClass ih hr (Nat.lt_of_le_of_lt hle hlt)
                (Nat.lt_of_le_of_lt hle' hlt')
            · rw [readBody_group hs, readBody_group hs']
              refine (alike_readGroupStart hrest).bind_le ends_readGroupStart ends_readGroupStart
                ?_ fun _ => ends_readAfterGroupStart ends_readBody
              rintro ⟨start, r⟩ ⟨_, r'⟩ ⟨rfl, hr⟩ hle hle'
              exact alike_readAfterGroupStart ih hr (Nat.lt_of_le_of_lt hle hlt)
                (Nat.lt_of_le_of_lt hle' hlt')
          · rw [readBody_simple hs hmem, readBody_simple hs' hmem]
            rcases alike_readSimple (x := x) (c := c) hrest with hpart | ⟨hn, r, hr, hbrace⟩
            · refine hpart.bind_le ends_readSimple_cons ends_readSimple_cons ?_
                fun _ => ends_readBody
              rintro ⟨part, r⟩ ⟨_, r'⟩ ⟨rfl, hr⟩ hle hle'
              exact ih hr (Nat.lt_of_le_of_lt hle hlt) (Nat.lt_of_le_of_lt hle' hlt')
            · rw [hn, hr]
              exact .failed fun a ha => by
                rw [Option.bind_some, readBody_brace hbrace] at ha
                cases ha

theorem Behind.refl (cs : List Char) : Behind True t cs cs := by
  induction cs with
  | nil => exact .dropped trivial
  | cons c cs ih => exact .cons c (fun _ _ => trivial) ih

/-- As long as there is enough of it, fuel makes no difference. -/
theorem readBody_fuel {f' : Nat} {w : Written} {names' : GroupNames} (hf : cs.length < f)
    (hf' : cs.length < f') (h : readBody f x names branches parts cs = some (w, names', [])) :
    readBody f' x names branches parts cs = some (w, names', []) := by
  -- more than the reader can leave
  let t := List.replicate cs.length '$'
  have halike : Alike True t _ (readBody f' x names branches parts cs) :=
    alike_readBody (.refl cs) hf hf'
  rw [h] at halike
  generalize ho : readBody f' x names branches parts cs = o' at halike
  cases halike with
  | @read _ a' ha =>
      obtain ⟨_, _, rest'⟩ := a'
      obtain ⟨rfl, rfl, hrest⟩ := ha
      cases hrest with
      | closing =>
          have hle : (')' :: t).length ≤ cs.length := (ends_readBody _ ho).length_le
          have hlt : cs.length < (')' :: t).length := by simp [t]
          exact absurd hle (Nat.not_le_of_lt hlt)
      | dropped => rfl

end

/-! ### Between signs for the start and the end of the text -/

/-- The pattern is read up to a parenthesis that closes nothing. -/
def ClosesUnopened (cs : List Char) : Prop :=
  ∃ w names c rest, readBody (cs.length + 1) false [] [] [] cs = some (w, names, c :: rest)

/-- The pattern ends in a comment: what is put behind it is a part of that comment, and the same
pattern is read. -/
def EndsInComment (cs : List Char) : Prop :=
  ∃ w, readPattern? cs = some w ∧ readPattern? (cs ++ [')', '$']) = some w

theorem readPattern?_eq_some_iff {w : Written} : readPattern? cs = some w ↔
    (∃ names, readBody (cs.length + 1) false [] [] [] cs = some (w, names, [])) ∧
      w.depth ≤ Written.maxDepth := by
  unfold readPattern?
  constructor
  · intro h
    obtain ⟨⟨w', names, rest⟩, hr, h⟩ := Option.bind_eq_some_iff.mp h
    dsimp only at h
    split at h
    · next hc =>
      cases h
      simp only [Bool.and_eq_true, List.isEmpty_iff, decide_eq_true_eq] at hc
      exact ⟨⟨names, hc.1 ▸ hr⟩, hc.2⟩
    · cases h
  · rintro ⟨⟨names, hr⟩, hd⟩
    simp [hr, hd]

theorem behind_end (cs : List Char) : Behind True ['$'] cs (cs ++ [')', '$']) :=
  .append (fun _ hc => List.eq_of_mem_singleton hc) cs fun _ _ _ _ => trivial

/-- A pattern that ends in a comment has the sign for one, and no line feed after it. -/
theorem EndsInComment.exists_sign (h : EndsInComment cs) :
    ∃ a b, cs = a ++ '#' :: b ∧ '\n' ∉ b := by
  obtain ⟨w, hw, hw'⟩ := h
  obtain ⟨⟨names, hr⟩, -⟩ := readPattern?_eq_some_iff.mp hw
  obtain ⟨⟨names', hr'⟩, -⟩ := readPattern?_eq_some_iff.mp hw'
  have hend : ∀ c ∈ ['$'], c = '$' := fun _ hc => List.eq_of_mem_singleton hc
  have hbehind : Behind (∃ a b, cs = a ++ '#' :: b ∧ '\n' ∉ b) ['$'] cs (cs ++ [')', '$']) :=
    .append hend cs fun a b he hb => ⟨a, b, he, hb⟩
  have halike : Alike _ ['$'] (readBody (cs.length + 1) false [] [] [] cs) _ :=
    alike_readBody hbehind (Nat.lt_succ_self _) (Nat.lt_succ_self _)
  rw [hr, hr'] at halike
  cases halike with
  | read ha =>
      obtain ⟨-, -, hrest⟩ := ha
      cases hrest with
      | dropped hP => exact hP

/-- How the pattern and the end behind it are read, if there is no parenthesis that closes nothing:
as the pattern alone and its end, or as the pattern alone, or up to where no parenthesis is left. -/
theorem readBody_end (hc : ¬ ClosesUnopened cs) (hf : cs.length + 2 < f) :
    (∃ w names, readBody (cs.length + 1) false [] [] [] cs = some (w, names, []) ∧
      (readBody f false [] [] [] (cs ++ [')', '$']) = some (w, names, [')', '$']) ∨
        readBody f false [] [] [] (cs ++ [')', '$']) = some (w, names, []))) ∨
    (readBody (cs.length + 1) false [] [] [] cs = none ∧
      ∀ a, readBody f false [] [] [] (cs ++ [')', '$']) = some a → ')' ∉ a.2.2) := by
  have halike : Alike True ['$'] (readBody (cs.length + 1) false [] [] [] cs)
      (readBody f false [] [] [] (cs ++ [')', '$'])) :=
    alike_readBody (behind_end cs) (Nat.lt_succ_self _) (by simpa using hf)
  generalize ho : readBody (cs.length + 1) false [] [] [] cs = o at halike
  generalize readBody f false [] [] [] (cs ++ [')', '$']) = o' at halike
  cases halike with
  | @read a a' ha =>
      obtain ⟨w, names, rest⟩ := a
      obtain ⟨_, _, rest'⟩ := a'
      obtain ⟨rfl, rfl, hrest⟩ := ha
      cases hrest with
      | closing => exact .inl ⟨w, names, rfl, .inl rfl⟩
      | dropped => exact .inl ⟨w, names, rfl, .inr rfl⟩
      | @cons rest _ c => exact absurd ⟨w, names, c, rest, ho⟩ hc
  | failed hfree => exact .inr ⟨rfl, hfree⟩

/-- The pattern in a group between the start and the end of the text. -/
def Written.enclosed (w : Written) : Written :=
  .concat [.place .lineStart, .group false [] w, .place .lineEnd]

theorem Written.depth_enclosed (w : Written) : w.enclosed.depth = w.depth + 2 := by
  simp [Written.enclosed, Written.depth, Written.depthList]

theorem readBody_enclosed (f : Nat) (cs : List Char) :
    readBody (f + 5) false [] [] [] ('^' :: '(' :: '?' :: ':' :: cs) =
      (readBody (f + 3) false [] [] [] cs).bind
        (readAfterGroup (f + 3) false [] [.place .lineStart] false []) :=
  rfl

theorem readAfterGroup_end (f : Nat) (w : Written) (names : GroupNames) :
    readAfterGroup (f + 3) false [] [.place .lineStart] false [] (w, names, [')', '$']) =
      some (w.enclosed, names, []) :=
  rfl

theorem readAfterGroup_of_not_mem {branches parts : List Written} {captured : Bool} {fs : Switches}
    {a : Written × GroupNames × List Char} (ha : ')' ∉ a.2.2) :
    readAfterGroup f x branches parts captured fs a = none := by
  unfold readAfterGroup
  split
  · next he =>
    rw [he] at ha
    exact absurd List.mem_cons_self ha
  · rfl

theorem not_endsInComment {w : Written} {names : GroupNames} (hf : cs.length + 2 < f)
    (h : readBody f false [] [] [] (cs ++ [')', '$']) = some (w, names, [')', '$'])) :
    ¬ EndsInComment cs := by
  rintro ⟨w', -, hw'⟩
  obtain ⟨⟨names', hr⟩, -⟩ := readPattern?_eq_some_iff.mp hw'
  have hr := readBody_fuel (Nat.lt_succ_self _) (by simpa using hf) hr
  cases h.symm.trans hr

theorem endsInComment {w : Written} {names : GroupNames} (hf : cs.length + 2 < f)
    (hw : readPattern? cs = some w)
    (h : readBody f false [] [] [] (cs ++ [')', '$']) = some (w, names, [])) :
    EndsInComment cs := by
  have hr := readBody_fuel (by simpa using hf) (Nat.lt_succ_self _) h
  have hd := (readPattern?_eq_some_iff.mp hw).2
  exact ⟨w, hw, readPattern?_eq_some_iff.mpr ⟨⟨names, hr⟩, hd⟩⟩

/-- **Enclosing.**  Between the start and the end of the text, a pattern is read as it is read
alone, unless it closes what it did not open. -/
theorem readPattern?_enclosed {v : Written} (hc : ¬ ClosesUnopened cs) :
    readPattern? ('^' :: '(' :: '?' :: ':' :: (cs ++ [')', '$'])) = some v ↔
      ∃ w, readPattern? cs = some w ∧ ¬ EndsInComment cs ∧ w.depth + 2 ≤ Written.maxDepth ∧
        v = w.enclosed := by
  have hlength : ('^' :: '(' :: '?' :: ':' :: (cs ++ [')', '$'])).length + 1 =
      cs.length + 2 + 5 := by simp
  rw [readPattern?_eq_some_iff, hlength, readBody_enclosed]
  have hf : cs.length + 2 < cs.length + 2 + 3 := by omega
  rcases readBody_end hc hf with ⟨w, names, halone, hend | hend⟩ | ⟨halone, hfree⟩
  · have hclosed := readAfterGroup_end (cs.length + 2) w names
    simp only [hend, Option.bind_some, hclosed]
    constructor
    · rintro ⟨⟨_, he⟩, hd⟩
      cases he
      rw [Written.depth_enclosed] at hd
      have hw : readPattern? cs = some w :=
        readPattern?_eq_some_iff.mpr ⟨⟨names, halone⟩, Nat.le_of_add_right_le hd⟩
      exact ⟨w, hw, not_endsInComment hf hend, hd, rfl⟩
    · rintro ⟨w', hw', -, hd, rfl⟩
      obtain ⟨⟨names', hr⟩, -⟩ := readPattern?_eq_some_iff.mp hw'
      cases halone.symm.trans hr
      exact ⟨⟨names, rfl⟩, by rwa [Written.depth_enclosed]⟩
  · have hopen : ∀ w names, readAfterGroup (cs.length + 2 + 3) false [] [.place .lineStart] false []
        (w, names, []) = none := fun _ _ => readAfterGroup_of_not_mem List.not_mem_nil
    simp only [hend, Option.bind_some, hopen]
    constructor
    · rintro ⟨⟨_, he⟩, -⟩
      cases he
    · rintro ⟨w', hw', hcomment, -⟩
      obtain ⟨⟨names', hr⟩, -⟩ := readPattern?_eq_some_iff.mp hw'
      cases halone.symm.trans hr
      exact absurd (endsInComment hf hw' hend) hcomment
  · constructor
    · rintro ⟨⟨_, he⟩, -⟩
      obtain ⟨a, ha, he⟩ := Option.bind_eq_some_iff.mp he
      rw [readAfterGroup_of_not_mem (hfree a ha)] at he
      cases he
    · rintro ⟨w', hw', -⟩
      obtain ⟨⟨names', hr⟩, -⟩ := readPattern?_eq_some_iff.mp hw'
      cases halone.symm.trans hr

end Packrat.Pattern
