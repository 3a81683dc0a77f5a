import Mathlib.Data.List.Nodup
import Packrat.Text.Quoted

/-!
# Proofs — Text — Quoted

A text in quotes can be read in one way only.  A character is written as it is, as a letter behind
a backslash, or as its code point (`Written`), and where such a piece starts, it shows where it ends
and of which character it is (`Written.append_inj`).  None of them starts with a quote.

**Reading** (`encode_append_inj`): whatever follows the second quote, the text between the quotes
is known, and so is what follows.  **Printing** (`isPrintable_of_mem_encode`): a text in quotes has
only characters that print, so there are no line feeds in it.
-/

namespace Packrat

/-- Two texts that go up to the first separator are the same if they are the same behind it, too. -/
theorem append_cons_inj {α : Type} {x : α} {as bs cs ds : List α} (ha : x ∉ as) (hb : x ∉ bs) :
    as ++ x :: cs = bs ++ x :: ds ↔ as = bs ∧ cs = ds := by
  induction as generalizing bs with
  | nil =>
      cases bs with
      | nil => simp
      | cons b bs => simp [(List.ne_and_not_mem_of_not_mem_cons hb).1]
  | cons a as ih =>
      obtain ⟨hxa, ha⟩ := List.ne_and_not_mem_of_not_mem_cons ha
      cases bs with
      | nil => simp [Ne.symm hxa]
      | cons b bs =>
          simp [ih ha (List.ne_and_not_mem_of_not_mem_cons hb).2, and_assoc]

namespace Quoted

variable {c d : Char} {e e' xs ys cs ds : List Char}

/-! ### Code points -/

/-- The number that is written down in hexadecimal. -/
def codeOf (ds : List Char) : Nat :=
  ds.foldl (fun n d => n * 16 + Ranges.digitValue d) 0

theorem digitValue_digitChar : ∀ n < 16, Ranges.digitValue n.digitChar = n := by
  decide

theorem codeOf_toDigits (n : Nat) : codeOf (Nat.toDigits 16 n) = n := by
  induction n using Nat.base_induction 16 (by decide) with
  | single m hm =>
      rw [Nat.toDigits_of_lt_base hm, codeOf, List.foldl_cons, List.foldl_nil,
        digitValue_digitChar m hm, Nat.zero_mul, Nat.zero_add]
  | digit m k hk hm ih =>
      rw [← Nat.toDigits_append_toDigits (by decide) hm hk, Nat.toDigits_of_lt_base hk, codeOf,
        List.foldl_append, ← codeOf, ih, List.foldl_cons, List.foldl_nil,
        digitValue_digitChar k hk, Nat.mul_comm]

theorem exists_digitChar_of_mem_toDigits {n : Nat} (h : c ∈ Nat.toDigits 16 n) :
    ∃ k < 16, c = k.digitChar := by
  induction n using Nat.base_induction 16 (by decide) with
  | single m hm =>
      rw [Nat.toDigits_of_lt_base hm] at h
      exact ⟨m, hm, List.mem_singleton.mp h⟩
  | digit m k hk hm ih =>
      rw [← Nat.toDigits_append_toDigits (by decide) hm hk, Nat.toDigits_of_lt_base hk,
        List.mem_append] at h
      exact h.elim ih fun h => ⟨k, hk, List.mem_singleton.mp h⟩

theorem digitChar_ne_brace : ∀ k < 16, '\x7d' ≠ Nat.digitChar k := by
  decide

theorem isPrintable_digitChar : ∀ k < 16, isPrintable (Nat.digitChar k) = true := by
  decide

theorem brace_not_mem_toDigits (n : Nat) : '\x7d' ∉ Nat.toDigits 16 n := fun h =>
  let ⟨k, hk, he⟩ := exists_digitChar_of_mem_toDigits h
  digitChar_ne_brace k hk he

theorem codeEscape_append_inj (h : codeEscape c ++ xs = codeEscape d ++ ys) : c = d ∧ xs = ys := by
  have hdigits : Nat.toDigits 16 c.toNat ++ '\x7d' :: xs =
      Nat.toDigits 16 d.toNat ++ '\x7d' :: ys := by
    simpa [codeEscape] using h
  obtain ⟨hcode, hxs⟩ := (append_cons_inj (brace_not_mem_toDigits _)
    (brace_not_mem_toDigits _)).mp hdigits
  have hcode := congrArg codeOf hcode
  rw [codeOf_toDigits, codeOf_toDigits] at hcode
  exact ⟨Char.toNat_inj.mp hcode, hxs⟩

/-! ### Characters -/

/-- The letters that stand behind a backslash, each with the character it stands for. -/
def letters : List (Char × Char) :=
  [('0', '\x00'), ('t', '\t'), ('r', '\r'), ('n', '\n'), ('\\', '\\'), ('"', '"')]

theorem letters_nodup : (letters.map Prod.fst).Nodup := by
  decide

/-- A letter stands for one character. -/
theorem eq_of_mem_letters {l : Char} (h : (l, c) ∈ letters) (h' : (l, d) ∈ letters) : c = d :=
  congrArg Prod.snd (List.inj_on_of_nodup_map letters_nodup h h' rfl)

/-- The letter before a code point does not stand for a character. -/
theorem ne_u_of_mem_letters {l : Char} (h : (l, c) ∈ letters) : l ≠ 'u' := by
  have hu : 'u' ∉ letters.map Prod.fst := by decide
  rintro rfl
  exact hu (List.mem_map_of_mem h)

theorem isPrintable_of_mem_letters {p : Char × Char} (h : p ∈ letters) :
    isPrintable p.1 = true := by
  simp only [letters, List.mem_cons, List.not_mem_nil, or_false] at h
  rcases h with rfl | rfl | rfl | rfl | rfl | rfl <;> decide

/-- How a character is written between quotes. -/
inductive Written (c : Char) : List Char → Prop where
  | plain : c ≠ '\\' → c ≠ '"' → isPrintable c = true → Written c [c]
  | letter {l : Char} : (l, c) ∈ letters → Written c ['\\', l]
  | code : Written c (codeEscape c)

theorem written (c : Char) : Written c (encodeChar c) := by
  rw [encodeChar]
  split_ifs with h0 ht hr hn hq hu
  · exact .letter (by simp [letters, h0])
  · exact .letter (by simp [letters, ht])
  · exact .letter (by simp [letters, hr])
  · exact .letter (by simp [letters, hn])
  · exact .letter (by rcases hq with rfl | rfl <;> simp [letters])
  · exact .code
  · simp only [Bool.or_eq_true, Bool.not_eq_true', not_or, Bool.not_eq_false] at hu
    exact .plain (fun h => hq (.inl h)) (fun h => hq (.inr h)) hu.2

/-- A piece shows where it ends and of which character it is. -/
theorem Written.append_inj (h : Written c e) (h' : Written d e') (heq : e ++ xs = e' ++ ys) :
    c = d ∧ xs = ys := by
  cases h with
  | plain hc _ _ =>
      cases h' with
      | plain _ _ _ => exact List.cons_eq_cons.mp heq
      | letter _ => exact absurd (List.cons_eq_cons.mp heq).1 hc
      | code => exact absurd (List.cons_eq_cons.mp heq).1 hc
  | letter hl =>
      cases h' with
      | plain hd _ _ => exact absurd (List.cons_eq_cons.mp heq).1.symm hd
      | letter hl' =>
          obtain ⟨-, hrest⟩ := List.cons_eq_cons.mp heq
          obtain ⟨rfl, hxs⟩ := List.cons_eq_cons.mp hrest
          exact ⟨eq_of_mem_letters hl hl', hxs⟩
      | code =>
          obtain ⟨-, hrest⟩ := List.cons_eq_cons.mp heq
          exact absurd (List.cons_eq_cons.mp hrest).1 (ne_u_of_mem_letters hl)
  | code =>
      cases h' with
      | plain hd _ _ => exact absurd (List.cons_eq_cons.mp heq).1.symm hd
      | letter hl =>
          obtain ⟨-, hrest⟩ := List.cons_eq_cons.mp heq
          exact absurd (List.cons_eq_cons.mp hrest).1.symm (ne_u_of_mem_letters hl)
      | code => exact codeEscape_append_inj heq

theorem Written.append_ne_quote (h : Written c e) : e ++ xs ≠ '"' :: ys := by
  intro heq
  cases h with
  | plain _ hc _ => exact hc (List.cons_eq_cons.mp heq).1
  | letter _ => exact absurd (List.cons_eq_cons.mp heq).1 (by decide)
  | code => exact absurd (List.cons_eq_cons.mp heq).1 (by decide)

theorem Written.isPrintable_of_mem (h : Written c e) (hd : d ∈ e) : isPrintable d = true := by
  cases h with
  | plain _ _ hc => exact List.mem_singleton.mp hd ▸ hc
  | letter hl =>
      rcases List.mem_cons.mp hd with rfl | hd
      · decide
      · exact List.mem_singleton.mp hd ▸ isPrintable_of_mem_letters hl
  | code =>
      simp only [codeEscape, List.mem_cons, List.mem_append, List.not_mem_nil, or_false] at hd
      rcases hd with rfl | rfl | rfl | hd | rfl
      · decide
      · decide
      · decide
      · obtain ⟨k, hk, rfl⟩ := exists_digitChar_of_mem_toDigits hd
        exact isPrintable_digitChar k hk
      · decide

/-! ### Texts -/

theorem flatMap_encodeChar_inj
    (h : cs.flatMap encodeChar ++ '"' :: xs = ds.flatMap encodeChar ++ '"' :: ys) :
    cs = ds ∧ xs = ys := by
  induction cs generalizing ds with
  | nil =>
      cases ds with
      | nil => exact ⟨rfl, (List.cons_eq_cons.mp h).2⟩
      | cons d ds =>
          rw [List.flatMap_cons, List.append_assoc] at h
          exact absurd h.symm (written d).append_ne_quote
  | cons c cs ih =>
      rw [List.flatMap_cons, List.append_assoc] at h
      cases ds with
      | nil => exact absurd h (written c).append_ne_quote
      | cons d ds =>
          rw [List.flatMap_cons, List.append_assoc] at h
          obtain ⟨rfl, hrest⟩ := (written c).append_inj (written d) h
          obtain ⟨rfl, rfl⟩ := ih hrest
          exact ⟨rfl, rfl⟩

/-- **Reading.**  The first quote that is not part of a character ends the text. -/
theorem encode_append_inj : encode cs ++ xs = encode ds ++ ys ↔ cs = ds ∧ xs = ys := by
  refine ⟨fun h => flatMap_encodeChar_inj ?_, ?_⟩
  · simpa [encode] using h
  · rintro ⟨rfl, rfl⟩
    rfl

/-- **Printing.** -/
theorem isPrintable_of_mem_encode (h : c ∈ encode cs) : isPrintable c = true := by
  simp only [encode, List.mem_cons, List.mem_append, List.mem_flatMap, List.not_mem_nil,
    or_false] at h
  rcases h with rfl | ⟨d, -, hc⟩ | rfl
  · decide
  · exact (written d).isPrintable_of_mem hc
  · decide

end Quoted

end Packrat
