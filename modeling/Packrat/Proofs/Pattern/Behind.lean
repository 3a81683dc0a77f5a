import Packrat.Proofs.Pattern.Remainder

/-!
# Proofs — Pattern — Behind

Reading the same characters alone and with a closing parenthesis and more signs behind them.  If the
reader takes the characters in the same way, it stops in front of what stands behind, unless that
was dropped within a comment.  If it makes nothing of them alone, it makes something of them and
what stands behind only by taking the parenthesis, too.

The readers up to classes are here.  Two of them look at what stands behind without taking it:
braces after a word boundary (`Hangs`), and the last item of a class that is not closed (`Ajar`).
What is read after these comes to nothing or takes the parenthesis.
-/

namespace Packrat.Pattern

open Remainder

variable {α γ δ : Type} [Remainder γ] [Remainder δ]
variable {P : Prop} {x : Bool} {c : Char} {cs cs' rest t : List Char} {n k f : Nat}

/-! ### Alone, and with something behind -/

/-- The second characters are the first with a closing parenthesis and `t` behind them, unless these
were dropped.  That needs a sign for a comment that no line feed comes after, and so `P`. -/
inductive Behind (P : Prop) (t : List Char) : List Char → List Char → Prop where
  | closing : (∀ c ∈ t, c = '$') → Behind P t [] (')' :: t)
  | dropped : P → Behind P t [] []
  | cons {cs cs' : List Char} (c : Char) : (c = '#' → '\n' ∉ cs → P) → Behind P t cs cs' →
      Behind P t (c :: cs) (c :: cs')

/-- What was read alone is read with something behind, too; and if nothing was, the parenthesis is
taken, or there is nothing still. -/
inductive Alike (P : Prop) (t : List Char) : Option γ → Option γ → Prop where
  | read {a a' : γ} : alike (Behind P t) a a' → Alike P t (some a) (some a')
  | failed {o' : Option γ} : (∀ a', o' = some a' → ')' ∉ left a') → Alike P t none o'

namespace Alike

theorem nothing : Alike P t (none : Option γ) none :=
  .failed fun _ h => by cases h

theorem pair {v : α} (h : Behind P t cs cs') : Alike P t (some (v, cs)) (some (v, cs')) :=
  .read ⟨rfl, h⟩

theorem bind {o o' : Option γ} {g g' : γ → Option δ} (h : Alike P t o o')
    (hg : ∀ a a', alike (Behind P t) a a' → Alike P t (g a) (g' a'))
    (he : ∀ a', Ends (left a') (g' a')) : Alike P t (o.bind g) (o'.bind g') := by
  cases h with
  | read h => exact hg _ _ h
  | failed h =>
      refine .failed fun b hb hmem => ?_
      obtain ⟨a', ha, hb⟩ := Option.bind_eq_some_iff.mp hb
      exact h a' ha ((he a' b hb).subset hmem)

theorem bind_le {o o' : Option γ} {g g' : γ → Option δ} (h : Alike P t o o') (ho : Ends cs o)
    (ho' : Ends cs' o') (hg : ∀ a a', alike (Behind P t) a a' → (left a).length ≤ cs.length →
      (left a').length ≤ cs'.length → Alike P t (g a) (g' a'))
    (he : ∀ a', Ends (left a') (g' a')) : Alike P t (o.bind g) (o'.bind g') := by
  cases h with
  | read h => exact hg _ _ h (ho _ rfl).length_le (ho' _ rfl).length_le
  | failed h =>
      refine .failed fun b hb hmem => ?_
      obtain ⟨a', ha, hb⟩ := Option.bind_eq_some_iff.mp hb
      exact h a' ha ((he a' b hb).subset hmem)

theorem value {o : Option α} {g g' : α → Option γ} (hg : ∀ a, Alike P t (g a) (g' a)) :
    Alike P t (o.bind g) (o.bind g') := by
  cases o with
  | none => exact .nothing
  | some a => exact hg a

theorem map {o o' : Option γ} {g : γ → δ} (h : Alike P t o o')
    (hg : ∀ a a', alike (Behind P t) a a' → alike (Behind P t) (g a) (g a'))
    (he : ∀ a, left (g a) <:+ left a) : Alike P t (o.map g) (o'.map g) := by
  cases h with
  | read h => exact .read (hg _ _ h)
  | failed h =>
      refine .failed fun b hb hmem => ?_
      obtain ⟨a', ha, rfl⟩ := Option.map_eq_some_iff.mp hb
      exact h a' ha ((he a').subset hmem)

theorem lift {β : Type} {o o' : Option (α × List Char)} (h : Alike P t o o') (g : α → β) :
    Alike P t (o.map fun p => (g p.1, p.2)) (o'.map fun p => (g p.1, p.2)) :=
  h.map (fun _ _ h => And.imp_left (congrArg g) h) fun _ => List.suffix_refl _

/-- The parenthesis has been taken. -/
theorem past {o' : Option γ} (he : Ends cs' o') (hcs : ')' ∉ cs') : Alike P t none o' :=
  .failed fun a' ha hmem => hcs ((he a' ha).subset hmem)

end Alike

theorem not_mem_of_end (ht : ∀ c ∈ t, c = '$') : ')' ∉ t := fun h => by cases ht _ h

theorem Behind.append (ht : ∀ c ∈ t, c = '$') (cs : List Char)
    (hP : ∀ a b, cs = a ++ '#' :: b → '\n' ∉ b → P) : Behind P t cs (cs ++ ')' :: t) := by
  induction cs with
  | nil => exact .closing ht
  | cons c cs ih =>
      refine .cons c (fun hc hcs => hP [] cs (by rw [hc]; rfl) hcs) (ih fun a b he hb => ?_)
      exact hP (c :: a) b (by rw [he]; rfl) hb

theorem Behind.head?_ne (h : Behind P t cs cs') (hc : cs.head? ≠ some c) (hp : c ≠ ')') :
    cs'.head? ≠ some c := by
  cases h with
  | closing => simpa using hp.symm
  | dropped => exact hc
  | cons d hp h => exact hc

/-! ### White space and comments -/

theorem dropIgnored_end (ht : ∀ c ∈ t, c = '$') : dropIgnored true t = [] := by
  induction t with
  | nil => rfl
  | cons c t ih =>
      obtain ⟨rfl, ht'⟩ := List.forall_mem_cons.mp ht
      exact ih ht'

theorem Behind.dropIgnored (h : Behind P t cs cs') (inside : Bool)
    (hinside : inside = true → '\n' ∉ cs → P) :
    Behind P t (dropIgnored inside cs) (dropIgnored inside cs') := by
  induction h generalizing inside with
  | closing ht =>
      cases inside with
      | false => exact .closing ht
      | true =>
          show Behind P t [] (Pattern.dropIgnored true t)
          rw [dropIgnored_end ht]
          exact .dropped (hinside rfl List.not_mem_nil)
  | dropped hP => exact .dropped hP
  | cons c hp h ih =>
      simp only [Pattern.dropIgnored]
      split
      · next hin =>
        refine ih _ fun hc hcs => hinside hin ?_
        exact fun hmem => (List.mem_cons.mp hmem).elim (fun he => of_decide_eq_true hc he.symm) hcs
      · split
        · exact ih _ fun hc => by cases hc
        · split
          · next hc => exact ih _ fun _ => hp hc
          · exact .cons c hp h

theorem Behind.skip (h : Behind P t cs cs') (x : Bool) : Behind P t (skip x cs) (skip x cs') := by
  cases x with
  | false => exact h
  | true => exact h.dropIgnored false fun hc => by cases hc

/-! ### Numbers, names and escapes -/

theorem alike_readHexDigits {v : Nat} (h : Behind P t cs cs') :
    Alike P t (readHexDigits x k v cs) (readHexDigits x k v cs') := by
  induction k generalizing v cs cs' with
  | zero => exact .pair h
  | succ k ih =>
      cases h with
      | closing | dropped => exact .nothing
      | cons c hp h =>
          simp only [readHexDigits]
          split
          · exact ih (h.skip x)
          · exact .nothing

theorem alike_readHexBraced {f' : Nat} {v : Option Nat} (h : Behind P t cs cs')
    (hf : cs.length < f) (hf' : cs'.length < f') :
    Alike P t (readHexBraced x f v cs) (readHexBraced x f' v cs') := by
  induction f generalizing f' v cs cs' with
  | zero => omega
  | succ f ih =>
      obtain ⟨f', rfl⟩ := Nat.exists_eq_succ_of_ne_zero (Nat.ne_zero_of_lt hf')
      cases h with
      | closing | dropped => exact .nothing
      | @cons cs cs' c hp h =>
          have hl := length_skip_le x cs
          have hl' := length_skip_le x cs'
          by_cases hc : c = '}'
          · subst hc
            simp only [readHexBraced]
            cases v with
            | none => exact .nothing
            | some v => exact .pair (h.skip x)
          · simp only [readHexBraced]
            split
            · exact ih (h.skip x) (by simp at hf; omega) (by simp at hf'; omega)
            · exact .nothing

theorem alike_readHex (h : Behind P t cs cs') : Alike P t (readHex x k cs) (readHex x k cs') := by
  have hdigits : ∀ {cs cs' : List Char}, Behind P t cs cs' → Alike P t
      ((readHexDigits x k 0 cs).bind fun a =>
        (charOfNumber? a.1).bind fun c => some ((⟨c, k = 2⟩ : Literal), a.2))
      ((readHexDigits x k 0 cs').bind fun a =>
        (charOfNumber? a.1).bind fun c => some ((⟨c, k = 2⟩ : Literal), a.2)) := by
    intro cs cs' h
    refine (alike_readHexDigits h).bind ?_ fun _ => .value fun _ => .some (List.suffix_refl _)
    rintro ⟨n, rest⟩ ⟨_, rest'⟩ ⟨rfl, h⟩
    exact .value fun _ => .pair h
  have h := h.skip x
  simp only [readHex]
  generalize skip x cs = ds at h ⊢
  generalize skip x cs' = ds' at h ⊢
  cases h with
  | closing ht => exact hdigits (.closing ht)
  | dropped hP => exact hdigits (.dropped hP)
  | @cons cs cs' c hp h =>
      by_cases hc : c = '{'
      · subst hc
        have hl := length_skip_le x cs
        have hl' := length_skip_le x cs'
        refine (alike_readHexBraced (h.skip x) (by omega) (by omega)).bind ?_
          fun _ => .value fun _ => .some (List.suffix_refl _)
        rintro ⟨n, rest⟩ ⟨_, rest'⟩ ⟨rfl, h⟩
        exact .value fun _ => .pair h
      · split
        · next he => exact absurd (List.cons.inj he).1 hc
        · split
          · next he => exact absurd (List.cons.inj he).1 hc
          · exact hdigits (.cons c hp h)

theorem alike_readBraced {f' : Nat} {read : List Char} (h : Behind P t cs cs')
    (hf : cs.length < f) (hf' : cs'.length < f') :
    Alike P t (readBraced x f read cs) (readBraced x f' read cs') := by
  induction f generalizing f' read cs cs' with
  | zero => omega
  | succ f ih =>
      obtain ⟨f', rfl⟩ := Nat.exists_eq_succ_of_ne_zero (Nat.ne_zero_of_lt hf')
      cases h with
      | closing ht =>
          exact .past (.skipped x ends_readBraced) (not_mem_of_end ht)
      | dropped => exact .nothing
      | @cons cs cs' c hp h =>
          have hl := length_skip_le x cs
          have hl' := length_skip_le x cs'
          by_cases hc : c = '}'
          · subst hc
            exact .pair h
          · simp only [readBraced]
            exact ih (h.skip x) (by simp at hf; omega) (by simp at hf'; omega)

theorem alike_readProperty {negated : Bool} (h : Behind P t cs cs') :
    Alike P t (readProperty x negated cs) (readProperty x negated cs') := by
  have h := h.skip x
  simp only [readProperty]
  generalize skip x cs = ds at h ⊢
  generalize skip x cs' = ds' at h ⊢
  cases h with
  | closing ht => exact .past (.some (skip_suffix x t)) (not_mem_of_end ht)
  | dropped => exact .nothing
  | @cons cs cs' c hp h =>
      by_cases hc : c = '{'
      · subst hc
        have hl := length_skip_le x cs
        have hl' := length_skip_le x cs'
        refine (alike_readBraced (h.skip x) (by omega) (by omega)).bind ?_
          fun _ => .some (List.suffix_refl _)
        rintro ⟨n, rest⟩ ⟨_, rest'⟩ ⟨rfl, h⟩
        exact .pair h
      · by_cases hb : c = '\\'
        · subst hb
          exact .nothing
        · simp only
          exact .pair (h.skip x)

theorem alike_readBoundaryName {f' : Nat} {read : List Char} (h : Behind P t cs cs')
    (hf : cs.length < f) (hf' : cs'.length < f') :
    Alike P t (readBoundaryName x f read cs) (readBoundaryName x f' read cs') := by
  induction f generalizing f' read cs cs' with
  | zero => omega
  | succ f ih =>
      obtain ⟨f', rfl⟩ := Nat.exists_eq_succ_of_ne_zero (Nat.ne_zero_of_lt hf')
      cases h with
      | closing | dropped => exact .nothing
      | @cons cs cs' c hp h =>
          have hl := length_skip_le x cs
          have hl' := length_skip_le x cs'
          by_cases hc : c = '}'
          · subst hc
            exact .pair h
          · simp only [readBoundaryName]
            split
            · exact ih (h.skip x) (by simp at hf; omega) (by simp at hf'; omega)
            · exact .nothing

theorem readBoundary_of_ne (hc : c ≠ '{') :
    readBoundary x (c :: cs) = some (.wordBoundary, c :: cs) := by
  unfold readBoundary
  split
  · next he => exact absurd (List.cons.inj he).1 hc
  · rfl

/-- A brace after a word boundary, and nothing in it: it is left alone if something stands
behind. -/
def Hangs (t : List Char) (x : Bool) (a : α) (o o' : Option (α × List Char)) : Prop :=
  o = none ∧ ∃ rest, o' = some (a, '{' :: rest) ∧ skip x rest = ')' :: t

theorem Hangs.map {β : Type} {a : α} {o o' : Option (α × List Char)} (h : Hangs t x a o o')
    (g : α → β) :
    Hangs t x (g a) (o.map fun p => (g p.1, p.2)) (o'.map fun p => (g p.1, p.2)) := by
  obtain ⟨rfl, rest, rfl, hr⟩ := h
  exact ⟨rfl, rest, rfl, hr⟩

theorem alike_readBoundary (h : Behind P t cs cs') :
    Alike P t (readBoundary x cs) (readBoundary x cs') ∨
      Hangs t x .wordBoundary (readBoundary x cs) (readBoundary x cs') := by
  cases h with
  | closing ht => exact .inl (.pair (.closing ht))
  | dropped hP => exact .inl (.pair (.dropped hP))
  | @cons cs cs' c hp h =>
      by_cases hc : c = '{'
      · subst hc
        have hskip := h.skip x
        simp only [readBoundary]
        generalize hds : skip x cs = ds at hskip ⊢
        generalize hds' : skip x cs' = ds' at hskip ⊢
        cases hskip with
        | closing ht => exact .inr ⟨rfl, cs', rfl, hds'⟩
        | dropped => exact .inl .nothing
        | @cons ds ds' d hp' hd =>
            refine .inl ?_
            dsimp only
            split
            · refine (alike_readBoundaryName (.cons d hp' hd) (by simp) (by simp)).bind ?_
                fun _ => .value fun _ => .some (List.suffix_refl _)
              rintro ⟨n, rest⟩ ⟨_, rest'⟩ ⟨rfl, h⟩
              exact .value fun _ => .pair h
            · exact .pair (.cons _ hp h)
      · rw [readBoundary_of_ne hc, readBoundary_of_ne hc]
        exact .inl (.pair (.cons c hp h))

theorem alike_readEscape (h : Behind P t cs cs') :
    Alike P t (readEscape x cs) (readEscape x cs') ∨
      Hangs t x (.place .wordBoundary) (readEscape x cs) (readEscape x cs') := by
  cases h with
  | closing ht =>
      have hend : Ends t (some (Escape.literal ⟨')', false⟩, t)) := .some (List.suffix_refl _)
      exact .inl (.past hend (not_mem_of_end ht))
  | dropped => exact .inl .nothing
  | @cons cs cs' c hp h =>
      by_cases hc : c = 'b'
      · subst hc
        exact (alike_readBoundary h).imp (·.lift Escape.place) (·.map Escape.place)
      refine .inl ?_
      unfold readEscape
      split
      case h_1 he => cases he
      case h_2 he | h_3 he | h_4 he => cases he; exact (alike_readHex h).lift Escape.literal
      case h_5 he | h_6 he => cases he; exact (alike_readProperty h).lift Escape.property
      case h_21 he => cases he; exact absurd rfl hc
      case h_25 he =>
        cases he
        simp only
        split
        · exact .pair h
        · exact .nothing
      all_goals
        next he =>
          cases he
          exact .pair h

/-! ### Items of classes -/

theorem alike_readClassItem (h : Behind P t cs cs') :
    Alike P t (readClassItem x cs) (readClassItem x cs') ∨
      Hangs t x (.place .wordBoundary) (readClassItem x cs) (readClassItem x cs') := by
  cases h with
  | closing ht =>
      have hend : Ends t (some (Escape.literal ⟨')', false⟩, t)) := .some (List.suffix_refl _)
      exact .inl (.past hend (not_mem_of_end ht))
  | dropped => exact .inl .nothing
  | cons c hp h =>
      by_cases hc : c = '\\'
      · subst hc
        exact alike_readEscape h
      · simp only [readClassItem]
        exact .inl (.pair h)

theorem peek_eq_or (h : Behind P t cs cs') (x : Bool) :
    peek x cs = peek x cs' ∨ peek x cs = none ∧ peek x cs' = some ')' := by
  have hpast : ∀ sign, peekPastSign sign cs = peekPastSign sign cs' ∨
      peekPastSign sign cs = none ∧ peekPastSign sign cs' = some ')' := by
    induction h with
    | closing => exact fun sign => .inr ⟨rfl, by cases sign <;> rfl⟩
    | dropped => exact fun _ => .inl rfl
    | cons c hp h ih =>
        intro sign
        simp only [peekPastSign]
        split
        · exact ih sign
        · split
          · exact ih false
          · exact .inl rfl
  cases x
  · cases h with
    | closing => exact .inr ⟨rfl, rfl⟩
    | dropped | cons => exact .inl rfl
  · exact hpast true

theorem peek_eq_some_iff (h : Behind P t cs cs') (x : Bool) (hc : c ≠ ')') :
    peek x cs = some c ↔ peek x cs' = some c := by
  rcases peek_eq_or h x with he | ⟨he, he'⟩
  · rw [he]
  · simp [he, he', hc.symm]

theorem readRangeEnd_of_ne {a : Escape} (hs : skip x cs = c :: rest) (hc : c ≠ '-') :
    readRangeEnd x a cs = a.toSet?.bind fun set => some (set, c :: rest) := by
  unfold readRangeEnd
  rw [hs]
  split
  · next he => cases he
  · next he => exact absurd (List.cons.inj he).1 hc
  · rfl

/-- An item at the end of the pattern: alone it is nothing, but what stands behind may go on. -/
def Ajar (t : List Char) (o o' : Option (WrittenSet × List Char)) : Prop :=
  (∀ c ∈ t, c = '$') ∧ o = none ∧ ∃ set, o' = some (set, ')' :: t)

theorem alike_readRangeEnd {a : Escape} (h : Behind P t cs cs') :
    Alike P t (readRangeEnd x a cs) (readRangeEnd x a cs') ∨
      Ajar t (readRangeEnd x a cs) (readRangeEnd x a cs') := by
  have h := h.skip x
  generalize hds : skip x cs = ds at h
  generalize hds' : skip x cs' = ds' at h
  cases h with
  | closing ht =>
      rw [readRangeEnd_of_ne hds' (by decide)]
      unfold readRangeEnd
      rw [hds]
      cases ha : a.toSet? with
      | none => exact .inl .nothing
      | some set => exact .inr ⟨ht, rfl, set, rfl⟩
  | dropped =>
      unfold readRangeEnd
      rw [hds, hds']
      exact .inl .nothing
  | @cons rest rest' c hp h =>
      refine .inl ?_
      by_cases hc : c = '-'
      · subst hc
        unfold readRangeEnd
        rw [hds, hds']
        simp only [peek_eq_some_iff h x (by decide : ']' ≠ ')'),
          peek_eq_some_iff h x (by decide : '-' ≠ ')')]
        split
        · exact .value fun _ => .pair (.cons _ hp h)
        · rcases alike_readClassItem (h.skip x) with hitem | ⟨hnone, rest, hsome, -⟩
          · refine hitem.bind ?_ fun b => .value fun low => .value fun high => ?_
            · rintro ⟨b, rest⟩ ⟨_, rest'⟩ ⟨rfl, h⟩
              refine .value fun low => ?_
              refine .value fun high => ?_
              split
              · exact .pair h
              · exact .nothing
            · split
              · exact .some (List.suffix_refl _)
              · exact .none
          · -- a word boundary is no end of a range
            rw [hnone, hsome]
            cases a.toLiteral? <;> exact .nothing
      · rw [readRangeEnd_of_ne hds hc, readRangeEnd_of_ne hds' hc]
        exact .value fun _ => .pair (.cons c hp h)

theorem alike_readClassRange (h : Behind P t cs cs') :
    Alike P t (readClassRange x cs) (readClassRange x cs') ∨
      Ajar t (readClassRange x cs) (readClassRange x cs') := by
  rw [readClassRange_eq, readClassRange_eq]
  rcases alike_readClassItem h with hitem | ⟨hnone, rest, hsome, -⟩
  · generalize readClassItem x cs = o at hitem ⊢
    generalize readClassItem x cs' = o' at hitem ⊢
    cases hitem with
    | @read a a' h =>
        obtain ⟨a, rest⟩ := a
        obtain ⟨_, rest'⟩ := a'
        obtain ⟨rfl, h⟩ := h
        exact alike_readRangeEnd h
    | failed hfree =>
        refine .inl (.failed fun b hb hmem => ?_)
        obtain ⟨a', ha, hb⟩ := Option.bind_eq_some_iff.mp hb
        exact hfree a' ha ((ends_readRangeEnd b hb).subset hmem)
  · -- a word boundary is no member of a class
    rw [hnone, hsome]
    refine .inl ?_
    simp only [Option.bind_none, Option.bind_some, readRangeEnd]
    cases x <;> exact .nothing

/-! ### Named classes and starts of classes -/

/-- Read in the same way, or not at all. -/
def Same (P : Prop) (t : List Char) (o o' : Option (α × List Char)) : Prop :=
  (o = none ∧ o' = none) ∨ ∃ a rest rest', o = some (a, rest) ∧ o' = some (a, rest') ∧
    Behind P t rest rest'

theorem same_splitAtFirst? (h : Behind P t cs cs') :
    Same P t (splitAtFirst? [':'] cs) (splitAtFirst? [':'] cs') := by
  have hnone : ∀ {cs : List Char}, (∀ c ∈ cs, c ≠ ':') → splitAtFirst? [':'] cs = none := by
    intro cs hcs
    induction cs with
    | nil => rfl
    | cons c cs ih =>
        obtain ⟨hc, hcs⟩ := List.forall_mem_cons.mp hcs
        simp [splitAtFirst?, ih hcs, Ne.symm hc]
  induction h with
  | closing ht =>
      refine .inl ⟨rfl, hnone fun c hc => ?_⟩
      rcases List.mem_cons.mp hc with rfl | hc
      · decide
      · rw [ht c hc]
        decide
  | dropped => exact .inl ⟨rfl, rfl⟩
  | @cons cs cs' c hp h ih =>
      by_cases hc : c = ':'
      · subst hc
        exact .inr ⟨[], cs, cs', by simp [splitAtFirst?], by simp [splitAtFirst?], h⟩
      · simp only [splitAtFirst?, List.isPrefixOf, Bool.and_true, beq_iff_eq, Ne.symm hc, if_false]
        rcases ih with ⟨hn, hn'⟩ | ⟨a, rest, rest', he, he', h⟩
        · exact .inl (by simp [hn, hn'])
        · exact .inr ⟨c :: a, rest, rest', by simp [he], by simp [he'], h⟩

theorem readAsciiName?_of_ne {negated : Bool} {name : List Char}
    (hs : splitAtFirst? [':'] cs = some (name, rest)) (hc : rest.head? ≠ some ']') :
    readAsciiName? negated cs = none := by
  unfold readAsciiName?
  rw [hs]
  split
  · next he =>
    cases he
    exact absurd rfl hc
  · rfl

theorem same_readAsciiName? {negated : Bool} (h : Behind P t cs cs') :
    Same P t (readAsciiName? negated cs) (readAsciiName? negated cs') := by
  rcases same_splitAtFirst? h with ⟨hn, hn'⟩ | ⟨name, rest, rest', he, he', h⟩
  · unfold readAsciiName?
    rw [hn, hn']
    exact .inl ⟨rfl, rfl⟩
  · cases h with
    | closing => exact .inl ⟨readAsciiName?_of_ne he (by simp), readAsciiName?_of_ne he' (by simp)⟩
    | dropped => exact .inl ⟨readAsciiName?_of_ne he (by simp), readAsciiName?_of_ne he' (by simp)⟩
    | @cons rest rest' c hp h =>
        by_cases hc : c = ']'
        · subst hc
          unfold readAsciiName?
          rw [he, he']
          by_cases hname : (CharSet.asciiClass? (.ofList name)).isSome = true
          · exact .inr ⟨_, rest, rest', if_pos hname, if_pos hname, h⟩
          · exact .inl ⟨if_neg hname, if_neg hname⟩
        · exact .inl ⟨readAsciiName?_of_ne he (by simpa using hc),
            readAsciiName?_of_ne he' (by simpa using hc)⟩

theorem asciiSign_of_ne (hc : cs.head? ≠ some '^') : asciiSign cs = (false, cs) := by
  unfold asciiSign
  split
  · exact absurd rfl hc
  · rfl

theorem same_readAsciiClass? (h : Behind P t cs cs') :
    Same P t (readAsciiClass? cs) (readAsciiClass? cs') := by
  cases h with
  | closing | dropped => exact .inl ⟨rfl, rfl⟩
  | @cons cs cs' c hp h =>
      by_cases hc : c = ':'
      · subst hc
        have hsign : (asciiSign cs).1 = (asciiSign cs').1 ∧
            Behind P t (asciiSign cs).2 (asciiSign cs').2 := by
          cases h with
          | closing ht => exact ⟨rfl, .closing ht⟩
          | dropped hP => exact ⟨rfl, .dropped hP⟩
          | @cons cs cs' d hp' h =>
              by_cases hd : d = '^'
              · subst hd
                exact ⟨rfl, h⟩
              · rw [asciiSign_of_ne (by simpa using hd), asciiSign_of_ne (by simpa using hd)]
                exact ⟨rfl, .cons d hp' h⟩
        rw [readAsciiClass?_colon, readAsciiClass?_colon, hsign.1]
        exact same_readAsciiName? hsign.2
      · exact .inl ⟨readAsciiClass?_of_ne (by simpa using hc),
          readAsciiClass?_of_ne (by simpa using hc)⟩

theorem behind_readHyphens {f' : Nat} (h : Behind P t cs cs') (hf : cs.length ≤ f)
    (hf' : cs'.length ≤ f') : (readHyphens x f cs).1 = (readHyphens x f' cs').1 ∧
      Behind P t (readHyphens x f cs).2 (readHyphens x f' cs').2 := by
  induction f generalizing f' cs cs' with
  | zero =>
      obtain rfl := List.length_eq_zero_iff.mp (Nat.le_zero.mp hf)
      cases h with
      | closing ht => cases f' <;> exact ⟨rfl, .closing ht⟩
      | dropped hP => cases f' <;> exact ⟨rfl, .dropped hP⟩
  | succ f ih =>
      cases h with
      | closing ht => cases f' <;> exact ⟨rfl, .closing ht⟩
      | dropped hP => cases f' <;> exact ⟨rfl, .dropped hP⟩
      | @cons cs cs' c hp h =>
          obtain ⟨f', rfl⟩ := Nat.exists_eq_succ_of_ne_zero (Nat.ne_zero_of_lt hf')
          have hl := length_skip_le x cs
          have hl' := length_skip_le x cs'
          by_cases hc : c = '-'
          · subst hc
            obtain ⟨hitems, hrest⟩ := ih (h.skip x) (by simp at hf; omega)
              (by simp at hf'; omega : (skip x cs').length ≤ f')
            simp only [readHyphens]
            exact ⟨by rw [hitems], hrest⟩
          · rw [readHyphens_of_ne (by simpa using hc), readHyphens_of_ne (by simpa using hc)]
            exact ⟨rfl, .cons c hp h⟩

theorem classSign_of_ne (hc : (skip x cs).head? ≠ some '^') :
    classSign x cs = (false, skip x cs) := by
  unfold classSign
  split
  · next he => exact absurd (congrArg List.head? he) hc
  · rfl

theorem behind_classSign (h : Behind P t cs cs') : (classSign x cs).1 = (classSign x cs').1 ∧
    Behind P t (classSign x cs).2 (classSign x cs').2 := by
  have h := h.skip x
  by_cases hc : (skip x cs).head? = some '^'
  · unfold classSign
    generalize skip x cs = ds at h hc ⊢
    generalize skip x cs' = ds' at h ⊢
    cases h with
    | closing | dropped => cases hc
    | cons c hp h =>
        cases hc
        exact ⟨rfl, h.skip x⟩
  · rw [classSign_of_ne hc, classSign_of_ne (h.head?_ne hc (by decide))]
    exact ⟨rfl, h⟩

theorem readClassFirst_of_ne {negated : Bool}
    (hc : (readHyphens x cs.length cs).2.head? ≠ some ']') :
    readClassFirst x negated cs =
      (negated, (readHyphens x cs.length cs).1, (readHyphens x cs.length cs).2) := by
  unfold readClassFirst
  split
  · next he => exact absurd (congrArg List.head? he) hc
  · rfl

theorem behind_readClassFirst {negated : Bool} (h : Behind P t cs cs') :
    (readClassFirst x negated cs).1 = (readClassFirst x negated cs').1 ∧
      (readClassFirst x negated cs).2.1 = (readClassFirst x negated cs').2.1 ∧
      Behind P t (readClassFirst x negated cs).2.2 (readClassFirst x negated cs').2.2 := by
  obtain ⟨hitems, hrest⟩ := behind_readHyphens (x := x) h (Nat.le_refl _) (Nat.le_refl _)
  by_cases hc : (readHyphens x cs.length cs).2.head? = some ']'
  · unfold readClassFirst
    rw [hitems]
    generalize (readHyphens x cs'.length cs').1 = items
    generalize (readHyphens x cs.length cs).2 = rest at hrest hc ⊢
    generalize (readHyphens x cs'.length cs').2 = rest' at hrest ⊢
    cases hrest with
    | closing | dropped => cases hc
    | cons c hp h =>
        cases hc
        cases items with
        | nil => exact ⟨rfl, rfl, h.skip x⟩
        | cons => exact ⟨rfl, rfl, .cons _ hp h⟩
  · rw [readClassFirst_of_ne hc, readClassFirst_of_ne (hrest.head?_ne hc (by decide))]
    exact ⟨rfl, hitems, hrest⟩

theorem behind_readClassStart (h : Behind P t cs cs') :
    (readClassStart x cs).1 = (readClassStart x cs').1 ∧
      (readClassStart x cs).2.1 = (readClassStart x cs').2.1 ∧
      Behind P t (readClassStart x cs).2.2 (readClassStart x cs').2.2 := by
  obtain ⟨hsign, hrest⟩ := behind_classSign (x := x) h
  rw [readClassStart_eq, readClassStart_eq, hsign]
  exact behind_readClassFirst hrest

/-! ### Classes -/

/-- The set operation that is written as the character twice. -/
def operator? : Char → Option SetOp
  | '&' => some .inter
  | '-' => some .diff
  | '~' => some .symmDiff
  | _ => none

/-- The sign of a set operation at the start. -/
def setOperator? : List Char → Option (SetOp × List Char)
  | c :: d :: cs => if c = d then (operator? c).map (·, cs) else none
  | _ => none

theorem exists_of_setOperator? {op : SetOp} (h : setOperator? cs = some (op, rest)) :
    ∃ c, cs = c :: c :: rest ∧ operator? c = some op := by
  unfold setOperator? at h
  split at h
  · split at h
    · next hcd =>
      obtain ⟨_, ho, he⟩ := Option.map_eq_some_iff.mp h
      cases he
      exact ⟨_, by rw [← hcd], ho⟩
    · cases h
  · cases h

theorem same_setOperator? (h : Behind P t cs cs') :
    Same P t (setOperator? cs) (setOperator? cs') := by
  cases h with
  | closing ht =>
      cases t with
      | nil => exact .inl ⟨rfl, rfl⟩
      | cons c t =>
          obtain rfl := ht c List.mem_cons_self
          exact .inl ⟨rfl, rfl⟩
  | dropped => exact .inl ⟨rfl, rfl⟩
  | @cons cs cs' c hp h =>
      cases h with
      | closing ht =>
          refine .inl ⟨rfl, ?_⟩
          simp only [setOperator?]
          split
          · next hc => subst hc; rfl
          · rfl
      | dropped => exact .inl ⟨rfl, rfl⟩
      | @cons cs cs' d hp h =>
          by_cases hcd : c = d
          · simp only [setOperator?, if_pos hcd]
            cases operator? c with
            | none => exact .inl ⟨rfl, rfl⟩
            | some op => exact .inr ⟨op, cs, cs', rfl, rfl, h⟩
          · exact .inl ⟨if_neg hcd, if_neg hcd⟩

section

variable {negated : Bool} {lhs : Option (WrittenSet × SetOp)} {items : List WrittenSet}

theorem readClassBody_nil (hs : skip x cs = []) :
    readClassBody x (f + 1) negated lhs items cs = none := by
  simp only [readClassBody, hs]

theorem readClassBody_operator {op : SetOp} (h : setOperator? (skip x cs) = some (op, rest)) :
    readClassBody x (f + 1) negated lhs items cs =
      readClassBody x f negated (some (closeOperand lhs items, op)) [] rest := by
  obtain ⟨c, he, ho⟩ := exists_of_setOperator? h
  unfold operator? at ho
  split at ho <;> cases ho
  all_goals simp only [readClassBody, he]

theorem readClassBody_item (ho : setOperator? (skip x cs) = none) (hn : skip x cs ≠ [])
    (hc : (skip x cs).head? ≠ some ']') (hb : (skip x cs).head? ≠ some '[') :
    readClassBody x (f + 1) negated lhs items cs =
      (readClassRange x (skip x cs)).bind fun p =>
        readClassBody x f negated lhs (p.1 :: items) p.2 := by
  simp only [readClassBody]
  split
  case h_1 he => exact absurd he hn
  case h_2 he => exact absurd (congrArg List.head? he) hc
  case h_6 he => exact absurd (congrArg List.head? he) hb
  case h_7 => rfl
  all_goals
    next he =>
      rw [he] at ho
      cases ho

theorem readClassBody_closed (hs : skip x cs = ']' :: rest) :
    readClassBody x (f + 1) negated lhs items cs =
      some (.bracketed negated (closeOperand lhs items), rest) := by
  simp only [readClassBody, hs]

/-- The rest of a class after a class that is nested in it. -/
def readAfterNested (f : Nat) (x negated : Bool) (lhs : Option (WrittenSet × SetOp))
    (items : List WrittenSet) (cs : List Char) : Option (WrittenSet × List Char) :=
  (readClassBody x f (readClassStart x cs).1 none (readClassStart x cs).2.1.reverse
    (readClassStart x cs).2.2).bind fun a => readClassBody x f negated lhs (a.1 :: items) a.2

/-- The rest of a class after a bracket in it, which begins a named class or one that is nested. -/
def readAfterBracket (f : Nat) (x negated : Bool) (lhs : Option (WrittenSet × SetOp))
    (items : List WrittenSet) (cs : List Char) : Option (WrittenSet × List Char) :=
  match readAsciiClass? cs with
  | some (item, cs) => readClassBody x f negated lhs (item :: items) cs
  | none => readAfterNested f x negated lhs items cs

theorem readClassBody_bracket (hs : skip x cs = '[' :: rest) :
    readClassBody x (f + 1) negated lhs items cs = readAfterBracket f x negated lhs items rest := by
  simp only [readClassBody, hs]
  rfl

/-- Within a class, a closing parenthesis is a character like others. -/
theorem ends_readClassBody_closing (ht : ∀ c ∈ t, c = '$') (hs : skip x cs = ')' :: t) :
    Ends t (readClassBody x f negated lhs items cs) := by
  cases f with
  | zero => exact .none
  | succ f =>
      have ho : setOperator? (skip x cs) = none := by
        have h : Behind False t [] (')' :: t) := .closing ht
        rcases same_setOperator? h with ⟨-, hn⟩ | ⟨_, _, _, he, -⟩
        · rw [hs, hn]
        · cases he
      rw [readClassBody_item ho (by simp [hs]) (by simp [hs]) (by simp [hs]), hs]
      have hend : Ends t (readRangeEnd x (.literal ⟨')', false⟩) t) := ends_readRangeEnd
      exact hend.bind fun _ => ends_readClassBody

/-! ### After a bracket in a class -/

section

-- what follows a bracket is read alike if classes are, with one fuel alone and with another behind
variable {f' : Nat} (hbody : ∀ {negated : Bool} {lhs : Option (WrittenSet × SetOp)}
  {items : List WrittenSet} {cs cs' : List Char}, Behind P t cs cs' → cs.length < f →
    cs'.length < f' → Alike P t (readClassBody x f negated lhs items cs)
      (readClassBody x f' negated lhs items cs'))

include hbody

theorem alike_readAfterNested (h : Behind P t cs cs') (hf : cs.length < f) (hf' : cs'.length < f') :
    Alike P t (readAfterNested f x negated lhs items cs)
      (readAfterNested f' x negated lhs items cs') := by
  obtain ⟨hnegated, hitems, hr⟩ := behind_readClassStart (x := x) h
  have hlt := Nat.lt_of_le_of_lt (readClassStart_suffix x cs).length_le hf
  have hlt' := Nat.lt_of_le_of_lt (readClassStart_suffix x cs').length_le hf'
  unfold readAfterNested
  rw [hnegated, hitems]
  refine (hbody hr hlt hlt').bind_le ends_readClassBody ends_readClassBody ?_
    fun _ => ends_readClassBody
  rintro ⟨set, r⟩ ⟨_, r'⟩ ⟨rfl, hr⟩ hle hle'
  exact hbody hr (Nat.lt_of_le_of_lt hle hlt) (Nat.lt_of_le_of_lt hle' hlt')

theorem alike_readAfterBracket (h : Behind P t cs cs') (hf : cs.length < f)
    (hf' : cs'.length < f') : Alike P t (readAfterBracket f x negated lhs items cs)
      (readAfterBracket f' x negated lhs items cs') := by
  unfold readAfterBracket
  rcases same_readAsciiClass? h with ⟨hn, hn'⟩ | ⟨set, r, r', he, he', hr⟩
  · rw [hn, hn']
    exact alike_readAfterNested hbody h hf hf'
  · have hle : r.length ≤ cs.length := (ends_readAsciiClass? _ he).length_le
    have hle' : r'.length ≤ cs'.length := (ends_readAsciiClass? _ he').length_le
    rw [he, he']
    exact hbody hr (Nat.lt_of_le_of_lt hle hf) (Nat.lt_of_le_of_lt hle' hf')

end

/-! ### Whole classes -/

/-- By induction on the fuel for the class alone. -/
theorem alike_readClassBody {f' : Nat} (h : Behind P t cs cs') (hf : cs.length < f)
    (hf' : cs'.length < f') : Alike P t (readClassBody x f negated lhs items cs)
      (readClassBody x f' negated lhs items cs') := by
  induction f generalizing f' negated lhs items cs cs' with
  | zero => omega
  | succ f ih =>
      obtain ⟨f', rfl⟩ := Nat.exists_eq_succ_of_ne_zero (Nat.ne_zero_of_lt hf')
      have hl := length_skip_le x cs
      have hl' := length_skip_le x cs'
      have hskip := h.skip x
      rcases same_setOperator? hskip with ⟨ho, ho'⟩ | ⟨op, rest, rest', ho, ho', hrest⟩
      · generalize hs : skip x cs = ds at hskip ho hl
        generalize hs' : skip x cs' = ds' at hskip ho' hl'
        cases hskip with
        | closing ht =>
            rw [readClassBody_nil hs]
            exact .past (ends_readClassBody_closing ht hs') (not_mem_of_end ht)
        | dropped =>
            rw [readClassBody_nil hs, readClassBody_nil hs']
            exact .nothing
        | @cons rest rest' c hp hrest =>
            have hlt : rest.length < f := Nat.lt_of_succ_lt_succ (Nat.lt_of_le_of_lt hl hf)
            have hlt' : rest'.length < f' := Nat.lt_of_succ_lt_succ (Nat.lt_of_le_of_lt hl' hf')
            by_cases hc : c = ']'
            · subst hc
              rw [readClassBody_closed hs, readClassBody_closed hs']
              exact .pair hrest
            by_cases hb : c = '['
            · subst hb
              rw [readClassBody_bracket hs, readClassBody_bracket hs']
              exact alike_readAfterBracket ih hrest hlt hlt'
            rw [readClassBody_item (by rw [hs, ho]) (by simp [hs]) (by simpa [hs] using hc)
              (by simpa [hs] using hb), readClassBody_item (by rw [hs', ho']) (by simp [hs'])
              (by simpa [hs'] using hc) (by simpa [hs'] using hb), hs, hs']
            rcases alike_readClassRange (x := x) (.cons c hp hrest) with hitem | ⟨ht, hn, _, hset⟩
            · refine hitem.bind_le ends_readClassRange_cons ends_readClassRange_cons ?_
                fun _ => ends_readClassBody
              rintro ⟨set, r⟩ ⟨_, r'⟩ ⟨rfl, hr⟩ hle hle'
              exact ih hr (Nat.lt_of_le_of_lt hle hlt) (Nat.lt_of_le_of_lt hle' hlt')
            · rw [hn, hset]
              exact .past (ends_readClassBody_closing ht (by cases x <;> rfl)) (not_mem_of_end ht)
      · rw [readClassBody_operator ho, readClassBody_operator ho']
        obtain ⟨c, he, -⟩ := exists_of_setOperator? ho
        obtain ⟨c', he', -⟩ := exists_of_setOperator? ho'
        rw [he] at hl
        rw [he'] at hl'
        exact ih hrest (by simp at hl; omega) (by simp at hl'; omega)

end

theorem alike_readClass (h : Behind P t cs cs') : Alike P t (readClass x cs) (readClass x cs') := by
  obtain ⟨hnegated, hitems, hrest⟩ := behind_readClassStart (x := x) h
  simp only [readClass]
  rw [hnegated, hitems]
  exact alike_readClassBody hrest (Nat.lt_succ_self _) (Nat.lt_succ_self _)

end Packrat.Pattern
