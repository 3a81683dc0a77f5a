import Packrat.Pattern

/-!
# Proofs — Pattern — Leads

What an expression matches, said of two positions instead of sets of them: `e.Leads text i j` says
that `e` matches the text from `i` to `j`.

**Soundness** (`Expr.exists_leads`): a position is reached only if the expression leads there from a
position that was given.  A repetition is given no more rounds than there are positions; if it needs
more than that, one of them stays where it is, and that one can be had again and again
(`Times.le_or_stays`).

**Completeness** (`Expr.mem_reach`): every such position is reached.  Rounds that stay where they
are can be left out (`Times.fewer`), so no more rounds are needed than there are positions.
-/

namespace Packrat.Pattern

/-- `n` steps lead from the first position to the second. -/
inductive Times (R : Nat → Nat → Prop) : Nat → Nat → Nat → Prop where
  | zero {i} : Times R 0 i i
  | succ {n i j k} : R i j → Times R n j k → Times R (n + 1) i k

/-- The expression matches the text from the first position to the second. -/
def Expr.Leads (text : Array Char) : Expr → Nat → Nat → Prop
  | empty, i, j => j = i
  | char s, i, j => j = i + 1 ∧ ∃ c, text[i]? = some c ∧ s.has c = true
  | look l, i, j => j = i ∧ l.holdsAt text i = true
  | cat a b, i, j => ∃ k, a.Leads text i k ∧ b.Leads text k j
  | alt a b, i, j => a.Leads text i j ∨ b.Leads text i j
  | group _ a, i, j => a.Leads text i j
  | rounds a low high, i, j =>
    ∃ n, low ≤ n ∧ (∀ h ∈ high, n ≤ max low h) ∧ Times (a.Leads text) n i j

variable {R : Nat → Nat → Prop} {n n' i j k size : Nat} {text : Array Char}

/-! ### Steps -/

namespace Times

theorem append (h : Times R n i j) (h' : Times R n' j k) : Times R (n + n') i k := by
  induction h with
  | zero => rwa [Nat.zero_add]
  | succ hr _ ih =>
      rw [Nat.add_right_comm]
      exact .succ hr (ih h')

/-- Steps that lead onwards do so together, and not out of bounds if none of them does. -/
theorem within (hR : ∀ i j, R i j → i ≤ j ∧ j ≤ max i size) (h : Times R n i j) :
    i ≤ j ∧ j ≤ max i size := by
  induction h with
  | zero => omega
  | succ hr _ ih =>
      have := hR _ _ hr
      omega

/-- Every step leads further, or one of them stays where it is, and may be taken again. -/
theorem le_or_stays (hR : ∀ i j, R i j → i ≤ j ∧ j ≤ max i size) (h : Times R n i j) :
    i + n ≤ j ∨ ∀ d, Times R (n + d) i j := by
  induction h with
  | zero => exact .inl (Nat.le_refl _)
  | @succ n i k j hr h ih =>
      rcases Nat.eq_or_lt_of_le (hR _ _ hr).1 with rfl | hlt
      · refine .inr fun d => ?_
        have hstay : ∀ d, Times R d i i := by
          intro d
          induction d with
          | zero => exact .zero
          | succ d ih => exact .succ hr ih
        rw [Nat.add_comm]
        exact (hstay d).append (.succ hr h)
      · rcases ih with ih | ih
        · exact .inl (by omega)
        · refine .inr fun d => ?_
          rw [Nat.add_right_comm]
          exact .succ hr (ih d)

/-- More steps than there are positions can be made even more. -/
theorem more (hR : ∀ i j, R i j → i ≤ j ∧ j ≤ max i size) (h : Times R (size + 1) i j)
    (hn : size + 1 ≤ n) : Times R n i j := by
  rcases h.le_or_stays hR with hle | hstay
  · have := h.within hR
    omega
  · have := hstay (n - (size + 1))
    rwa [Nat.add_sub_cancel' hn] at this

end Times

/-- An expression leads onwards, and not out of the text. -/
theorem Expr.Leads.within {e : Expr} (h : e.Leads text i j) : i ≤ j ∧ j ≤ max i text.size := by
  induction e generalizing i j with
  | empty =>
      cases h
      omega
  | char s =>
      obtain ⟨rfl, c, hc, -⟩ := h
      have := (Array.getElem?_eq_some_iff.mp hc).1
      omega
  | look l =>
      obtain ⟨rfl, -⟩ := h
      omega
  | cat a b iha ihb =>
      obtain ⟨k, ha, hb⟩ := h
      have := iha ha
      have := ihb hb
      omega
  | alt a b iha ihb => exact h.elim iha ihb
  | group _ a ih => exact ih h
  | rounds a low high ih =>
      obtain ⟨n, -, -, h⟩ := h
      exact h.within fun _ _ => ih

/-! ### Looking around -/

theorem textStart_holdsAt_iff (hi : i ≤ text.size) :
    Look.textStart.holdsAt text i = true ↔ i = 0 := by
  by_cases h : i = 0
  · simp [Look.holdsAt, Look.holds, h]
  · have hlt : i - 1 < text.size := by omega
    simp [Look.holdsAt, Look.holds, h, hlt]

theorem textEnd_holdsAt_iff : Look.textEnd.holdsAt text i = true ↔ text.size ≤ i := by
  simp [Look.holdsAt, Look.holds]

/-! ### Sets of positions -/

theorem mem_addNew {seen new : List Nat} : i ∈ addNew seen new ↔ i ∈ seen ∨ i ∈ new := by
  induction new generalizing seen with
  | nil => simp [addNew]
  | cons a new ih =>
      have hcons : addNew seen (a :: new) =
        addNew (if seen.contains a then seen else a :: seen) new := rfl
      rw [hcons, ih]
      split
      · next ha =>
        have ha : a ∈ seen := by simpa using ha
        grind
      · grind

section

variable {step : List Nat → List Nat} (hstep : ∀ ps, ∀ j ∈ step ps, ∃ i ∈ ps, R i j)

include hstep

/-- What is found in a number of rounds is that many steps away. -/
theorem exists_times_of_mem_iterate {count : Nat} {ps : List Nat} (h : j ∈ iterate step count ps) :
    ∃ i ∈ ps, Times R count i j := by
  induction count generalizing ps with
  | zero => exact ⟨j, h, .zero⟩
  | succ count ih =>
      simp only [iterate] at h
      split at h
      · cases h
      · obtain ⟨k, hk, ht⟩ := ih h
        obtain ⟨i, hi, hr⟩ := hstep ps k hk
        exact ⟨i, hi, .succ hr ht⟩

/-- What is found in further rounds is no more steps away than there are rounds. -/
theorem exists_times_of_mem_closure {fuel : Nat} {seen front : List Nat}
    (h : j ∈ closure step fuel seen front) :
    j ∈ seen ∨ ∃ i ∈ front, ∃ n ≤ fuel, Times R n i j := by
  induction fuel generalizing seen front with
  | zero => exact .inl h
  | succ fuel ih =>
      simp only [closure] at h
      split at h
      · exact .inl h
      · -- what is new is one step away from the front
        have hnew : ∀ k ∈ (step front).filter fun i => !seen.contains i, ∃ i ∈ front, R i k :=
          fun k hk => hstep front k (List.mem_filter.mp hk).1
        rcases ih h with h | ⟨k, hk, n, hn, ht⟩
        · rcases mem_addNew.mp h with h | h
          · exact .inl h
          · obtain ⟨i, hi, hr⟩ := hnew j h
            exact .inr ⟨i, hi, 1, by omega, .succ hr .zero⟩
        · obtain ⟨i, hi, hr⟩ := hnew k hk
          exact .inr ⟨i, hi, n + 1, Nat.succ_le_succ hn, .succ hr ht⟩

end

/-- **Soundness.** -/
theorem Expr.exists_leads {e : Expr} {ps : List Nat} (h : j ∈ e.reach text ps) :
    ∃ i ∈ ps, e.Leads text i j := by
  induction e generalizing ps j with
  | empty => exact ⟨j, h, rfl⟩
  | char s =>
      have h := (mem_addNew.mp h).resolve_left List.not_mem_nil
      obtain ⟨i, hi, rfl⟩ := List.mem_map.mp h
      obtain ⟨hi, hc⟩ := List.mem_filter.mp hi
      exact ⟨i, hi, rfl, (Option.any_eq_true _ _).mp hc⟩
  | look l =>
      obtain ⟨hj, hl⟩ := List.mem_filter.mp h
      exact ⟨j, hj, rfl, hl⟩
  | cat a b iha ihb =>
      obtain ⟨k, hk, hb⟩ := ihb h
      obtain ⟨i, hi, ha⟩ := iha hk
      exact ⟨i, hi, k, ha, hb⟩
  | alt a b iha ihb =>
      rcases mem_addNew.mp h with h | h
      · obtain ⟨i, hi, ha⟩ := iha h
        exact ⟨i, hi, .inl ha⟩
      · obtain ⟨i, hi, hb⟩ := ihb h
        exact ⟨i, hi, .inr hb⟩
  | group _ a ih => exact ih h
  | rounds a low high ih =>
      have hstep : ∀ ps, ∀ j ∈ a.reach text ps, ∃ i ∈ ps, a.Leads text i j := fun _ _ => ih
      -- the rounds that are needed
      have hlow : ∀ k ∈ iterate (a.reach text) (min low (text.size + 1)) ps,
          ∃ i ∈ ps, Times (a.Leads text) low i k := by
        intro k hk
        obtain ⟨i, hi, ht⟩ := exists_times_of_mem_iterate hstep hk
        rcases Nat.le_total low (text.size + 1) with hle | hle
        · exact ⟨i, hi, Nat.min_eq_left hle ▸ ht⟩
        · rw [Nat.min_eq_right hle] at ht
          exact ⟨i, hi, ht.more (fun _ _ => Expr.Leads.within) hle⟩
      rcases exists_times_of_mem_closure hstep h with h | ⟨k, hk, n, hn, ht⟩
      · obtain ⟨i, hi, ht⟩ := hlow j h
        exact ⟨i, hi, low, Nat.le_refl _, fun _ _ => Nat.le_max_left _ _, ht⟩
      · obtain ⟨i, hi, ht'⟩ := hlow k hk
        refine ⟨i, hi, low + n, Nat.le_add_right _ _, fun m hm => ?_, ht'.append ht⟩
        cases hm
        simp only at hn
        omega

/-! ### Completeness -/

namespace Times

/-- Steps that stay where they are can be left out, down to as many as are needed to get on. -/
theorem fewer (hR : ∀ i j, R i j → i ≤ j ∧ j ≤ max i size) (h : Times R n i j) (hj : j ≤ i + n')
    (hn : n' ≤ n) : Times R n' i j := by
  induction h generalizing n' with
  | zero =>
      obtain rfl := Nat.le_zero.mp hn
      exact .zero
  | @succ n i k j hr h ih =>
      have hkj := (h.within hR).1
      rcases Nat.eq_or_lt_of_le (hR _ _ hr).1 with rfl | hlt
      · rcases Nat.lt_or_ge n n' with hlt | hle
        · obtain rfl : n' = n + 1 := by omega
          exact .succ hr h
        · exact ih hj hle
      · obtain ⟨m, rfl⟩ := Nat.exists_eq_succ_of_ne_zero (by omega : n' ≠ 0)
        exact .succ hr (ih (by omega) (by omega))

/-- No more steps are needed than there are positions. -/
theorem min_size (hR : ∀ i j, R i j → i ≤ j ∧ j ≤ max i size) (h : Times R n i j) :
    Times R (min n (size + 1)) i j := by
  have hj := (h.within hR).2
  rcases Nat.le_total n (size + 1) with hle | hle
  · rwa [Nat.min_eq_left hle]
  · rw [Nat.min_eq_right hle]
    exact h.fewer hR (by omega) hle

theorem split (h : Times R (n + n') i j) : ∃ k, Times R n i k ∧ Times R n' k j := by
  induction n generalizing i with
  | zero => exact ⟨i, .zero, by rwa [Nat.zero_add] at h⟩
  | succ n ih =>
      rw [Nat.add_right_comm] at h
      cases h with
      | succ hr h =>
          obtain ⟨k, h₁, h₂⟩ := ih h
          exact ⟨k, .succ hr h₁, h₂⟩

/-- What no step leads out of is not left. -/
theorem stays_in {seen : List Nat} (hseen : ∀ a ∈ seen, ∀ b, R a b → b ∈ seen)
    (h : Times R n i j) (hi : i ∈ seen) : j ∈ seen := by
  induction h with
  | zero => exact hi
  | succ hr _ ih => exact ih (hseen _ hi _ hr)

end Times

section

variable {step : List Nat → List Nat} (hstep : ∀ ps, ∀ i ∈ ps, ∀ j, R i j → j ∈ step ps)
include hstep

theorem mem_iterate_of_times {ps : List Nat} (hi : i ∈ ps) (h : Times R n i j) :
    j ∈ iterate step n ps := by
  induction h generalizing ps with
  | zero => exact hi
  | succ hr _ ih =>
      have hne : ps.isEmpty = false := by simpa using List.ne_nil_of_mem hi
      simp only [iterate, hne]
      exact ih (hstep ps _ hi _ hr)

omit hstep in
theorem mem_closure_of_mem {fuel : Nat} {seen front : List Nat} (h : j ∈ seen) :
    j ∈ closure step fuel seen front := by
  induction fuel generalizing seen front with
  | zero => exact h
  | succ fuel ih =>
      simp only [closure]
      split
      · exact h
      · exact ih (mem_addNew.mpr (.inl h))

/-- What is no more steps away than there are rounds is found, if all that was seen before the front
led to what has been seen. -/
theorem mem_closure_of_times {fuel : Nat} {seen front : List Nat}
    (hseen : ∀ a ∈ seen, a ∈ front ∨ ∀ b, R a b → b ∈ seen) (hi : i ∈ seen) (hn : n ≤ fuel)
    (h : Times R n i j) : j ∈ closure step fuel seen front := by
  induction fuel generalizing seen front n i with
  | zero =>
      obtain rfl := Nat.le_zero.mp hn
      cases h
      exact hi
  | succ fuel ih =>
      -- what a step leads to was seen or is new
      have hnext : ∀ a ∈ seen, ∀ b, R a b →
          b ∈ addNew seen ((step front).filter fun i => !seen.contains i) := by
        intro a ha b hab
        by_cases hb : b ∈ seen
        · exact mem_addNew.mpr (.inl hb)
        · refine mem_addNew.mpr (.inr (List.mem_filter.mpr ⟨?_, by simpa using hb⟩))
          exact hstep front a ((hseen a ha).resolve_right fun h => hb (h b hab)) b hab
      simp only [closure]
      split
      · next hempty =>
        rw [List.isEmpty_iff.mp hempty] at hnext
        exact h.stays_in hnext hi
      · cases h with
        | zero => exact mem_closure_of_mem (mem_addNew.mpr (.inl hi))
        | succ hr h =>
            refine ih (fun a ha => ?_) (hnext _ hi _ hr) (Nat.le_of_succ_le_succ hn) h
            rcases mem_addNew.mp ha with ha | ha
            · exact .inr (hnext a ha)
            · exact .inl ha

end

/-- **Completeness.** -/
theorem Expr.mem_reach {e : Expr} {ps : List Nat} (hi : i ∈ ps) (h : e.Leads text i j) :
    j ∈ e.reach text ps := by
  induction e generalizing ps i j with
  | empty =>
      cases h
      exact hi
  | char s =>
      obtain ⟨rfl, c, hc, hs⟩ := h
      refine mem_addNew.mpr (.inr (List.mem_map.mpr ⟨i, List.mem_filter.mpr ⟨hi, ?_⟩, rfl⟩))
      rw [hc]
      exact hs
  | look l =>
      obtain ⟨rfl, hl⟩ := h
      exact List.mem_filter.mpr ⟨hi, hl⟩
  | cat a b iha ihb =>
      obtain ⟨k, ha, hb⟩ := h
      exact ihb (iha hi ha) hb
  | alt a b iha ihb => exact mem_addNew.mpr (h.imp (iha hi) (ihb hi))
  | group _ a ih => exact ih hi h
  | rounds a low high ih =>
      obtain ⟨n, hlow, hhigh, h⟩ := h
      obtain ⟨m, rfl⟩ := Nat.exists_eq_add_of_le hlow
      obtain ⟨k, hk, hj⟩ := h.split
      have hwithin : ∀ i j, a.Leads text i j → i ≤ j ∧ j ≤ max i text.size :=
        fun _ _ => Expr.Leads.within
      have hstep : ∀ ps, ∀ i ∈ ps, ∀ j, a.Leads text i j → j ∈ a.reach text ps :=
        fun _ _ hi _ => ih hi
      -- no more rounds than there are positions are needed, neither at first nor after that
      have hreached := mem_iterate_of_times hstep hi (hk.min_size hwithin)
      refine mem_closure_of_times hstep (fun a ha => .inl ha) hreached ?_ (hj.min_size hwithin)
      cases high with
      | none => exact Nat.min_le_right _ _
      | some h =>
          have := hhigh h rfl
          simp only
          omega

/-- An expression is found in a text if it leads from one of its positions anywhere. -/
theorem Expr.findsIn_iff {e : Expr} :
    e.findsIn text = true ↔ ∃ i j, i ≤ text.size ∧ e.Leads text i j := by
  simp only [Expr.findsIn, Bool.not_eq_true', List.isEmpty_eq_false_iff_exists_mem]
  constructor
  · rintro ⟨j, hj⟩
    obtain ⟨i, hi, hl⟩ := Expr.exists_leads hj
    exact ⟨i, j, Nat.le_of_lt_succ (List.mem_range.mp hi), hl⟩
  · rintro ⟨i, j, hi, hl⟩
    exact ⟨j, Expr.mem_reach (List.mem_range.mpr (Nat.lt_succ_of_le hi)) hl⟩

/-- A text that is accepted is matched from one of its positions to another. -/
theorem exists_leads_of_accepts {p : Pattern} {s : String} (h : p.accepts s = true) :
    ∃ i j, i ≤ s.toList.toArray.size ∧ p.expr.Leads s.toList.toArray i j :=
  Expr.findsIn_iff.mp h

end Packrat.Pattern
