import Packrat.Text.Blank

/-!
# Proofs — Text — Words

A text as words with white space between them.  `Spaced words cs` says that `cs` is one: words are
not empty and have no white space in them, and there is white space between any two of them, and
maybe before the first and behind the last.

**Words** (`blankWords_eq_iff`): every text is made of words in one way only, and these are the
words it is split into.
-/

namespace Packrat

/-- The text is made of the words, with white space between them. -/
inductive Spaced : List (List Char) → List Char → Prop where
  | nil {bs : List Char} : (∀ c ∈ bs, isBlank c = true) → Spaced [] bs
  | cons {bs word cs : List Char} {words : List (List Char)} : (∀ c ∈ bs, isBlank c = true) →
      word ≠ [] → (∀ c ∈ word, isBlank c = false) → (∀ c, cs.head? = some c → isBlank c = true) →
      Spaced words cs → Spaced (word :: words) (bs ++ (word ++ cs))

variable {bs word word' cs : List Char} {words : List (List Char)} {c : Char}

/-- White space before the first word does not matter. -/
theorem Spaced.blank (h : Spaced words cs) (hc : isBlank c = true) : Spaced words (c :: cs) := by
  cases h with
  | nil hbs => exact .nil (List.forall_mem_cons.mpr ⟨hc, hbs⟩)
  | @cons bs word cs words hbs hne hword hcs h =>
      rw [← List.cons_append]
      exact .cons (List.forall_mem_cons.mpr ⟨hc, hbs⟩) hne hword hcs h

/-! ### Splitting -/

theorem blankWordsFrom_blanks (hbs : ∀ c ∈ bs, isBlank c = true) (cs : List Char) :
    blankWordsFrom [] (bs ++ cs) = blankWordsFrom [] cs := by
  induction bs with
  | nil => rfl
  | cons c bs ih =>
      obtain ⟨hc, hbs⟩ := List.forall_mem_cons.mp hbs
      rw [List.cons_append, blankWordsFrom, if_pos hc, List.isEmpty_nil, if_pos rfl, ih hbs]

/-- The characters of a word go before those that are held already, last one first. -/
theorem blankWordsFrom_word (hword : ∀ c ∈ word, isBlank c = false) (word' cs : List Char) :
    blankWordsFrom word' (word ++ cs) = blankWordsFrom (word.reverse ++ word') cs := by
  induction word generalizing word' with
  | nil => rfl
  | cons c word ih =>
      obtain ⟨hc, hword⟩ := List.forall_mem_cons.mp hword
      rw [List.cons_append, blankWordsFrom, if_neg (Bool.not_eq_true _ ▸ hc), ih hword,
        List.reverse_cons, List.append_assoc, List.singleton_append]

/-- A word ends before white space and at the end of the text. -/
theorem blankWordsFrom_end (hne : word ≠ []) (hcs : ∀ c, cs.head? = some c → isBlank c = true) :
    blankWordsFrom word cs = word.reverse :: blankWordsFrom [] cs := by
  have hempty : ¬ word.isEmpty = true := by simpa using hne
  cases cs with
  | nil => rw [blankWordsFrom, if_neg hempty, blankWordsFrom, List.isEmpty_nil, if_pos rfl]
  | cons c cs =>
      have hc := hcs c rfl
      rw [blankWordsFrom, if_pos hc, if_neg hempty, blankWordsFrom, if_pos hc, List.isEmpty_nil,
        if_pos rfl]

theorem Spaced.blankWords_eq (h : Spaced words cs) : blankWords cs = words := by
  induction h with
  | @nil bs hbs =>
      rw [blankWords, ← List.append_nil bs, blankWordsFrom_blanks hbs]
      rfl
  | cons hbs hne hword hcs _ ih =>
      rw [blankWords, blankWordsFrom_blanks hbs, blankWordsFrom_word hword, List.append_nil,
        blankWordsFrom_end (by simpa using hne) hcs, List.reverse_reverse]
      exact congrArg _ ih

/-- What is held is the start of the first word. -/
theorem spaced_blankWordsFrom (cs : List Char) (hword : ∀ c ∈ word, isBlank c = false) :
    Spaced (blankWordsFrom word cs) (word.reverse ++ cs) := by
  have hreverse : ∀ c ∈ word.reverse, isBlank c = false := fun c hc =>
    hword c (List.mem_reverse.mp hc)
  induction cs generalizing word with
  | nil =>
      rw [blankWordsFrom]
      split
      · next he =>
        rw [List.isEmpty_iff.mp he]
        exact .nil (List.forall_mem_nil _)
      · next he =>
        exact .cons (List.forall_mem_nil _) (by simpa using he) hreverse nofun
          (.nil (List.forall_mem_nil _))
  | cons c cs ih =>
      by_cases hc : isBlank c = true
      · have hrest : Spaced (blankWordsFrom [] cs) (c :: cs) :=
          (ih (List.forall_mem_nil _) (List.forall_mem_nil _)).blank hc
        rw [blankWordsFrom, if_pos hc]
        split
        · next he =>
          rw [List.isEmpty_iff.mp he]
          exact hrest
        · next he =>
          refine .cons (List.forall_mem_nil _) (by simpa using he) hreverse ?_ hrest
          rintro c' ⟨⟩
          exact hc
      · rw [blankWordsFrom, if_neg hc]
        have hheld : ∀ c' ∈ c :: word, isBlank c' = false :=
          List.forall_mem_cons.mpr ⟨by simpa using hc, hword⟩
        have hspaced := ih hheld fun c' hc' => hheld c' (List.mem_reverse.mp hc')
        rwa [List.reverse_cons, List.append_assoc, List.singleton_append] at hspaced

/-- **Words.** -/
theorem blankWords_eq_iff : blankWords cs = words ↔ Spaced words cs := by
  refine ⟨?_, Spaced.blankWords_eq⟩
  rintro rfl
  exact spaced_blankWordsFrom cs (List.forall_mem_nil _)

end Packrat
