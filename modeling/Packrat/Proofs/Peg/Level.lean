import Packrat.Proofs.Memo.Closed
import Packrat.Proofs.Peg.Furthest
import Packrat.Proofs.Peg.Lanes

/-!
# Proofs — Peg — Level

Attempts of the same matchers side by side, in two lanes and with two memos.  States are on a
*level* if the same references to rules are remembered for the same places.  What else is
remembered may differ: what is remembered of any other matcher only saves attempts whose references
to rules are remembered as well (`cause?_of_rules_held`).

**Side by side** (`Lanes.goes_attempt`): on even lanes, attempts in states on a level are aborted
for the same cause at the same place or both not, and if not, they leave states on a level.  The
furthest failures may be compared as well, by a `Tally` that every failure keeps.
-/

namespace Packrat

open Attempt

variable {L : Lanes} {F : Matcher → Prop} {cfg : Config} {how : Matcher → Attempt Match}
  {m m' m₁ : Matcher} {i j p p' d depth : Nat} {c c' : Option Abort}
  {s s' t t' : State} {l l' : List (Matcher × Nat)}

namespace Lanes

/-- The causes are the same, with the same place. -/
inductive Twin (L : Lanes) : Option Abort → Option Abort → Prop where
  | unaborted : Twin L none none
  | undefinedRule {name} : Twin L (some (.undefinedRule name)) (some (.undefinedRule name))
  | depthExceeded {i limit} : Twin L (some (.depthExceeded (L.start + i) limit))
      (some (.depthExceeded (L.start' + i) limit))

theorem Twin.none_iff (h : L.Twin c c') : c = none ↔ c' = none := by
  cases h <;> simp

theorem Twin.swap (h : L.Twin c c') : L.swap.Twin c' c := by
  cases h
  · exact .unaborted
  · exact .undefinedRule
  · exact .depthExceeded (L := L.swap)

/-- Between the states only what is remembered of other matchers than references to rules differs,
up to the places. -/
structure Level (L : Lanes) (F : Matcher → Prop) (cfg : Config) (s s' : State) : Prop where
  counted : s.Counted L.rules L.tokens F
  counted' : s'.Counted L.rules L.tokens' F
  closed : cfg.memoize = true → s.Closed L.rules L.tokens F
  closed' : cfg.memoize = true → s'.Closed L.rules L.tokens' F
  tally : L.Tally s.deepest s'.deepest
  holds_iff : cfg.memoize = true → ∀ {m i}, F m → L.Shared m i → m.isRule = true →
    (s.Holds m (L.start + i) ↔ s'.Holds m (L.start' + i))

/-- How attempts end side by side. -/
structure Abreast (L : Lanes) (F : Matcher → Prop) (cfg : Config) (c c' : Option Abort)
    (s s' : State) : Prop where
  twin : L.Twin c c'
  tally : L.Tally s.deepest s'.deepest
  level : c = none → L.Level F cfg s s'

/-- The attempt ends for the same cause, and with failures that tally. -/
def Ends (L : Lanes) (F : Matcher → Prop) (cfg : Config) (x : Attempt Match) (j : Nat) : Prop :=
  ∀ {s s' : State}, L.Level F cfg s s' → s.cursor = L.start + j → s'.cursor = L.start' + j →
    L.Twin (cause? (x s)) (cause? (x s')) ∧ L.Tally (x s).2.deepest (x s').2.deepest

/-- Attempts of the matcher at the place, in states on a level, go side by side. -/
def Goes (L : Lanes) (F : Matcher → Prop) (cfg : Config) (how : Matcher → Attempt Match)
    (m : Matcher) (j : Nat) : Prop :=
  ∀ {s s' : State}, L.Level F cfg s s' → s.cursor = L.start + j → s'.cursor = L.start' + j →
    L.Abreast F cfg (cause? (how m s)) (cause? (how m s')) (how m s).2 (how m s').2

namespace Level

theorem swap (h : L.Level F cfg s s') : L.swap.Level F cfg s' s :=
  ⟨h.counted', h.counted, h.closed', h.closed, h.tally,
    fun hmem {_ _} hm hz hr => (h.holds_iff hmem hm hz hr).symm⟩

theorem of_alike (h : L.Level F cfg s s') (ha : s.Alike t) (ha' : s'.Alike t') :
    L.Level F cfg t t' where
  counted := ha.counted h.counted
  counted' := ha'.counted h.counted'
  closed := fun hmem => ha.closed (h.closed hmem)
  closed' := fun hmem => ha'.closed (h.closed' hmem)
  tally := by rw [ha.deepest_eq, ha'.deepest_eq]; exact h.tally
  holds_iff := fun hmem {_ _} hm hz hr => by
    rw [ha.holds_iff, ha'.holds_iff]
    exact h.holds_iff hmem hm hz hr

/-- Where nothing more is tried, attempts end side by side. -/
theorem abreast (h : L.Level F cfg s s') (hs : s.Still t) (hs' : s'.Still t') :
    L.Abreast F cfg none none t t' :=
  have h := h.of_alike hs.toAlike hs'.toAlike
  ⟨.unaborted, h.tally, fun _ => h⟩

end Level

/-! ### Trails side by side -/

/-- Both rows begin with the same part, each at its place. -/
theorem Agree.heads {m₂ : Matcher} {k k' : Nat} (ha : L.Agree m j)
    (hc : Course L.rules L.tokens m (L.start + j) ((m₁, k) :: l))
    (hc' : Course L.rules L.tokens' m (L.start' + j) ((m₂, k') :: l')) :
    m₂ = m₁ ∧ k = L.start + j ∧ k' = L.start' + j ∧ TriesFirst L.tokens m (L.start + j) m₁ ∧
      TriesFirst L.tokens' m (L.start' + j) m₁ := by
  obtain ⟨hp, hf⟩ := hc.of_cons
  obtain ⟨hp', hf'⟩ := hc'.of_cons
  exact ⟨hf'.unique (ha.triesFirst hf), hp, hp', hf, ha.triesFirst hf⟩

/-- The last part in the one lane is the last one in the other. -/
theorem Even.not_goesOn (h : L.Even)
    (hz' : ∀ m₁, TriesFirst L.tokens' m (L.start' + j) m₁ → L.Shared m₁ j)
    (hn : ∀ m' p', ¬ GoesOn L.rules L.tokens m (L.start + j) m' p') (m' : Matcher) (p' : Nat) :
    ¬ GoesOn L.rules L.tokens' m (L.start' + j) m' p' := by
  intro hg
  obtain ⟨i, rfl⟩ := Nat.exists_eq_add_of_le hg.le
  rw [Nat.add_assoc] at hg
  exact hn _ _ (h.swap.goesOn hz' hg)

/-- The two rows of attempts of the parts of a matcher go side by side: by induction on the first,
with the states on a level before each part. -/
theorem Level.trail (h : L.Even) (ht : Trail how s l c t) (ht' : Trail how s' l' c' t')
    (hl : L.Level F cfg s s') (hc : Course L.rules L.tokens m (L.start + j) l)
    (hc' : Course L.rules L.tokens' m (L.start' + j) l')
    (hall : c = none → ∀ l₁, Course L.rules L.tokens m (L.start + j) l₁ → l₁ <+: l)
    (hall' : c' = none → ∀ l₁, Course L.rules L.tokens' m (L.start' + j) l₁ → l₁ <+: l')
    (ha : L.Agree m j)
    (hz : ∀ m₁ i, Tries L.rules L.tokens m (L.start + j) m₁ (L.start + i) →
      L.Shared m₁ i ∧ L.Goes F cfg how m₁ i)
    (hz' : ∀ m₁ i, Tries L.rules L.tokens' m (L.start' + j) m₁ (L.start' + i) → L.Shared m₁ i) :
    L.Abreast F cfg c c' t t' := by
  have hshared : ∀ m₁, TriesFirst L.tokens m (L.start + j) m₁ → L.Shared m₁ j :=
    fun m₁ hf => (hz m₁ j (.first hf)).1
  have hshared' : ∀ m₁, TriesFirst L.tokens' m (L.start' + j) m₁ → L.Shared m₁ j :=
    fun m₁ hf => hz' m₁ j (.first hf)
  induction ht generalizing m j s' l' with
  | done hs =>
      cases ht' with
      | done hs' => exact hl.abreast hs hs'
      -- nothing is tried in the one lane, so nothing is in the other
      | step | stopped =>
          exact absurd (hall rfl _ (.first (ha.triesFirst' hc'.of_cons.2))) (by simp)
  | @step m₁ s t l c hn hrest ih =>
      cases ht' with
      | done => exact absurd (hall' rfl _ (.first (ha.triesFirst hc.of_cons.2))) (by simp)
      | stopped hn' =>
          obtain ⟨rfl, hp, hp', hf, -⟩ := ha.heads hc hc'
          have hend := (hz _ j (.first hf)).2 hl hp hp'
          cases hn'.symm.trans (hend.twin.none_iff.mp hn)
      | step hn' hrest' =>
          obtain ⟨rfl, hp, hp', hf, hf'⟩ := ha.heads hc hc'
          have hl := ((hz _ j (.first hf)).2 hl hp hp').level hn
          by_cases hg : ∃ m' p', GoesOn L.rules L.tokens m (L.start + j) m' p'
          · obtain ⟨m', p', hg⟩ := hg
            obtain ⟨i, rfl⟩ := Nat.exists_eq_add_of_le hg.le
            rw [Nat.add_assoc] at hg
            have hg' := h.goesOn hshared hg
            refine ih hrest' hl (hc.tail hg) (hc'.tail hg') (fun hc₀ => ?_) (fun hc₀ => ?_)
              (agree_of_goesOn hg _) (fun m₁ i ht => hz _ _ (.onward hg ht))
              (fun m₁ i ht => hz' _ _ (.onward hg' ht))
              (fun m₁ hf => (hz _ _ (.onward hg (.first hf))).1)
              (fun m₁ hf => hz' _ _ (.onward hg' (.first hf)))
            · exact Course.all_tail hf (by rw [hp]) hg (hall hc₀)
            · exact Course.all_tail hf' (by rw [hp']) hg' (hall' hc₀)
          · -- it was the last part in both lanes
            have hnone : ∀ m' p', ¬ GoesOn L.rules L.tokens m (L.start + j) m' p' :=
              fun m' p' hg' => hg ⟨m', p', hg'⟩
            obtain rfl := hc.tail_eq_nil hnone
            obtain rfl := hc'.tail_eq_nil (h.not_goesOn hshared' hnone)
            cases hrest with
            | done hs =>
                cases hrest' with
                | done hs' => exact hl.abreast hs hs'
  | @stopped m₁ s t c hn hs =>
      cases ht' with
      | done => exact absurd (hall' rfl _ (.first (ha.triesFirst hc.of_cons.2))) (by simp)
      | step hn' =>
          obtain ⟨rfl, hp, hp', hf, -⟩ := ha.heads hc hc'
          have hend := (hz _ j (.first hf)).2 hl hp hp'
          cases hn.symm.trans (hend.twin.none_iff.mpr hn')
      | stopped hn' hs' =>
          obtain ⟨rfl, hp, hp', hf, -⟩ := ha.heads hc hc'
          have hend := (hz _ j (.first hf)).2 hl hp hp'
          rw [hn, hn'] at hend
          refine ⟨hend.twin, ?_, nofun⟩
          rw [hs.deepest_eq, hs'.deepest_eq]
          exact hend.tally

end Lanes

/-! ### What is remembered in one lane only -/

theorem family_visits {rules : List (String × Matcher)} {tokens : List Token}
    (hF : Family rules F) (hm : F m) (hv : Visits rules tokens m p d m' p') : F m' := by
  induction hv with
  | here => exact hm
  | part ht _ ih => exact ih (hF.part hm ht.mem_parts)
  | body hb _ ih => exact ih (hF.body hb)

section

variable {rules : List (String × Matcher)} {tokens : List Token}

/-- All references to rules that are visited from there are remembered. -/
def RulesHeld (rules : List (String × Matcher)) (tokens : List Token) (m : Matcher) (s : State) :
    Prop :=
  ∀ ⦃d m' p⦄, Visits rules tokens m s.cursor d m' p → m'.isRule = true → s.Holds m' p

/-- If no attempt of a part is aborted where all references to rules are remembered, neither is
trying what is inside: what was held is held when the part is tried. -/
theorem cause?_attemptShape_of_rules_held (hmem : cfg.memoize = true) (hF : Family rules F)
    (hm : F m) (hr : m.isRule = false) (hs : s.Closed rules tokens F)
    (hheld : RulesHeld rules tokens m s)
    (ih : ∀ m₁ ∈ m.parts, ∀ {s : State}, s.Closed rules tokens F → RulesHeld rules tokens m₁ s →
      cause? (attempt cfg (enterRule cfg rules depth) m₁ s) = none) :
    cause? (attemptShape cfg (enterRule cfg rules depth) m.shape s) = none := by
  obtain ⟨l, hl⟩ :=
    treads_attemptShape hr (tells_parts (fun _ => hF) depth fun _ => hm) hs.toTruthful
  cases hc : cause? (attemptShape cfg (enterRule cfg rules depth) m.shape s) with
  | none => rfl
  | some c =>
      have htrail := hl.trail
      rw [hc] at htrail
      obtain ⟨x, hx, s₀, hp, ⟨hs₀, hkept⟩, hc₀⟩ := htrail.exists_stopped
        (P := fun s' => s'.Closed rules tokens F ∧ ∀ {m q}, s.Holds m q → s'.Holds m q)
        ⟨hs, id⟩ fun x hx {s₁} _ hs₁ => by
          have hst := stores_attempt hmem hF depth (hF.part hm (hl.tries x hx).mem_parts) hs₁.1
          exact ⟨hst.closed, fun hq => hst.keeps (hs₁.2 hq)⟩
      have ht := hl.tries x hx
      have hheld₀ : RulesHeld rules tokens x.1 s₀ := fun _ _ _ hv hr =>
        hkept (hheld (.part ht (hp ▸ hv)) hr)
      cases (ih x.1 ht.mem_parts hs₀ hheld₀).symm.trans hc₀

/-- Where all references to rules that are visited are remembered, no attempt is aborted, and
neither is trying what is inside of a matcher whose outcome may be remembered, too. -/
theorem cause?_of_rules_held (hmem : cfg.memoize = true) (hF : Family rules F) (depth : Nat) :
    ∀ (m : Matcher), F m → ∀ {s : State}, s.Closed rules tokens F → RulesHeld rules tokens m s →
      cause? (attempt cfg (enterRule cfg rules depth) m s) = none ∧ (m.isRule = false →
        cause? (attemptShape cfg (enterRule cfg rules depth) m.shape s) = none) := by
  refine Matcher.induction_parts fun m ih hm => ?_
  have hinside : ∀ {s : State}, s.Closed rules tokens F → RulesHeld rules tokens m s →
      m.isRule = false → cause? (attemptShape cfg (enterRule cfg rules depth) m.shape s) = none :=
    fun hs hheld hr => cause?_attemptShape_of_rules_held hmem hF hm hr hs hheld
      fun m₁ hm₁ _ hs hheld => (ih m₁ hm₁ (hF.part hm hm₁) hs hheld).1
  intro s hs hheld
  refine ⟨?_, hinside hs hheld⟩
  rcases attempt_cases cfg (enterRule cfg rules depth) m s with ⟨_, -, hn, -⟩ | ⟨hnone, he⟩
  · exact hn
  · cases hr : m.isRule with
    | true =>
        simp only [remembered?, hmem, if_true] at hnone
        exact absurd hnone (hheld .here hr)
    | false =>
        have ha := State.Alike.announce s m .entered
        have hheld₀ : RulesHeld rules tokens m (announce m .entered s) := fun _ _ _ hv hr =>
          ha.holds_iff.mpr (hheld (by rwa [cursor_announce] at hv) hr)
        rw [he, cause?_concluded]
        exact hinside (ha.closed hs) hheld₀ hr

/-! ### Looking for one token that has to be adjacent -/

variable {n : Nat} {part : Matcher}

/-- An attempt of a matcher that tries nothing is not aborted. -/
theorem cause?_attempt_of_no_parts (cfg : Config) (depth : Nat) (hF : Family rules F) (hm : F m)
    (hparts : m.parts = []) (hr : m.isRule = false) (hs : s.Truthful rules tokens F) :
    cause? (attempt cfg (enterRule cfg rules depth) m s) = none := by
  cases hc : cause? (attempt cfg (enterRule cfg rules depth) m s) with
  | none => rfl
  | some c =>
      obtain ⟨m₁, _, ht, -⟩ :=
        exists_tries_aborted hr (tells_parts (fun _ => hF) depth fun _ => hm) hs hc
      exact absurd ht.mem_parts (by simp [hparts])

theorem cause?_attempt_adjacent (cfg : Config) (depth : Nat) (hF : Family rules F)
    (hm : F ⟨n, .adjacent part⟩) (hparts : part.parts = []) (hr : part.isRule = false)
    (hs : s.Truthful rules tokens F) :
    cause? (attempt cfg (enterRule cfg rules depth) ⟨n, .adjacent part⟩ s) = none := by
  cases hc : cause? (attempt cfg (enterRule cfg rules depth) ⟨n, .adjacent part⟩ s) with
  | none => rfl
  | some c =>
      obtain ⟨m₁, s₀, ht, h₀, hc₀⟩ :=
        exists_tries_aborted rfl (tells_parts (fun _ => hF) depth fun _ => hm) hs hc
      obtain rfl := List.eq_of_mem_singleton ht.mem_parts
      cases (cause?_attempt_of_no_parts cfg depth hF (hF.part hm ht.mem_parts) hparts hr
        h₀).symm.trans hc₀

/-- What fails there is noted at its place, and nothing else is. -/
theorem eq_of_noted_adjacent {k : Nat} (hparts : part.parts = []) (hr : part.isRule = false)
    (hy : Yields rules tokens ⟨n, .adjacent part⟩ p (.failed p))
    (hk : Noted rules tokens ⟨n, .adjacent part⟩ p k) : k = p := by
  rcases noted_iff.mp hk with hk | hk
  · cases hk.unique hy
    rfl
  · cases hk with
    | part ht hk =>
        cases ht with
        | onward hg => cases hg
        | first hf =>
            cases hf with
            | adjacent ht =>
                rcases noted_iff.mp hk with hk | ⟨ht, -⟩ | hb
                · cases (Yields.adjacent (i := n) ht hk).unique hy
                  rfl
                · exact absurd ht.mem_parts (by simp [hparts])
                · cases hr

/-- Looking for one token that has to be adjacent and is not there notes no other failure. -/
theorem deepest_attempt_adjacent (cfg : Config) (depth : Nat) (hF : Family rules F)
    (hm : F ⟨n, .adjacent part⟩) (hparts : part.parts = []) (hr : part.isRule = false)
    (hs : s.Counted rules tokens F)
    (hy : Yields rules tokens ⟨n, .adjacent part⟩ s.cursor (.failed s.cursor)) :
    cause? (attempt cfg (enterRule cfg rules depth) ⟨n, .adjacent part⟩ s) = none ∧
      (attempt cfg (enterRule cfg rules depth) ⟨n, .adjacent part⟩ s).2.deepest =
        max s.deepest s.cursor := by
  have hF' : cfg.memoize = true → Family rules F := fun _ => hF
  have hc := cause?_attempt_adjacent cfg depth hF hm hparts hr hs.toTruthful
  have hcounts := counts_attempt hF' depth _ (fun _ => hm) hs
  refine ⟨hc, Nat.le_antisymm ?_ ?_⟩
  · rcases hcounts.origin with hd | hk
    · exact hd ▸ Nat.le_max_left _ _
    · exact eq_of_noted_adjacent hparts hr hy hk ▸ Nat.le_max_right _ _
  · exact Nat.max_le.mpr ⟨hcounts.grows, hcounts.covers hc _ hy.noted⟩

end

/-! ### Attempts in both lanes -/

namespace Lanes

/-- After attempts of one matcher at one place that are not aborted, the states are on a level
again. -/
theorem Level.after (h : L.Even) (hF : Family L.rules F) (hm : F m) (hz : L.Shared m j)
    (hl : L.Level F cfg s s') (hp : s.cursor = L.start + j) (hp' : s'.cursor = L.start' + j)
    (hc : cause? (attempt cfg (enterRule cfg L.rules depth) m s) = none)
    (hc' : cause? (attempt cfg (enterRule cfg L.rules depth) m s') = none)
    (htally : L.Tally (attempt cfg (enterRule cfg L.rules depth) m s).2.deepest
      (attempt cfg (enterRule cfg L.rules depth) m s').2.deepest) :
    L.Level F cfg (attempt cfg (enterRule cfg L.rules depth) m s).2
      (attempt cfg (enterRule cfg L.rules depth) m s').2 := by
  have hst := fun hmem => stores_attempt hmem hF depth hm (hl.closed hmem)
  have hst' := fun hmem => stores_attempt hmem hF depth hm (hl.closed' hmem)
  rw [hc, hp] at hst
  rw [hc', hp'] at hst'
  refine ⟨(counts_attempt (fun _ => hF) depth m (fun _ => hm) hl.counted).counted,
    (counts_attempt (fun _ => hF) depth m (fun _ => hm) hl.counted').counted,
    fun hmem => (hst hmem).closed, fun hmem => (hst' hmem).closed, htally,
    fun hmem {m' i} hm' hz' hr => ⟨fun hq => ?_, fun hq => ?_⟩⟩
  · rcases (hst hmem).origin hm' hq with hq | ⟨d, hv⟩
    · exact (hst' hmem).keeps ((hl.holds_iff hmem hm' hz' hr).mp hq)
    · obtain ⟨i', hi, -, hv'⟩ := h.visits_across hz hr hv
      obtain rfl : i = i' := by omega
      exact (hst' hmem).covers rfl ⟨d, hv'⟩
  · rcases (hst' hmem).origin hm' hq with hq | ⟨d, hv⟩
    · exact (hst hmem).keeps ((hl.holds_iff hmem hm' hz' hr).mpr hq)
    · obtain ⟨i', hi, -, hv'⟩ := h.swap.visits_across hz hr hv
      obtain rfl : i = i' := by simpa [Lanes.swap] using hi
      exact (hst hmem).covers rfl ⟨d, hv'⟩

/-- What is remembered in the one lane only is tried in the other without being aborted. -/
theorem Level.ends_of_remembered (h : L.Even) (hF : Family L.rules F) (hm : F m)
    (hz : L.Shared m j) (hl : L.Level F cfg s s') (hp : s.cursor = L.start + j)
    (hp' : s'.cursor = L.start' + j) {o : Outcome} (ho : remembered? cfg m s = some o) :
    L.Twin (cause? (attempt cfg (enterRule cfg L.rules depth) m s))
        (cause? (attempt cfg (enterRule cfg L.rules depth) m s')) ∧
      L.Tally (attempt cfg (enterRule cfg L.rules depth) m s).2.deepest
        (attempt cfg (enterRule cfg L.rules depth) m s').2.deepest := by
  obtain ⟨hmem, hat⟩ := remembered?_eq_some_iff.mp ho
  rw [hp] at hat
  obtain ⟨-, -, hc, hstill⟩ | ⟨hn, -⟩ :=
    attempt_cases cfg (enterRule cfg L.rules depth) m s
  · have hheld : s.Holds m (L.start + j) := by rw [State.Holds, hat]; exact Option.some_ne_none o
    -- the references to rules that are visited from there are remembered in both lanes
    have hc' : cause? (attempt cfg (enterRule cfg L.rules depth) m s') = none := by
      refine (cause?_of_rules_held hmem hF depth m hm (hl.closed' hmem) fun d m' p hv hr => ?_).1
      rw [hp'] at hv
      obtain ⟨i, hi, hz', hv'⟩ := h.swap.visits_across hz hr hv
      rw [hi]
      exact (hl.holds_iff hmem (family_visits hF hm hv') hz' hr).mp
        ((hl.closed hmem).closed hm hheld hv')
    have hF' : cfg.memoize = true → Family L.rules F := fun _ => hF
    have hcounts := counts_attempt hF' depth m (fun _ => hm) hl.counted'
    rw [hc, hc', hstill.deepest_eq]
    refine ⟨.unaborted, ?_⟩
    rcases hcounts.origin with hd | hd
    · rw [hd]
      exact hl.tally
    · rw [hp'] at hd
      have hmax := Nat.max_eq_right hcounts.grows
      rw [← hmax]
      exact h.caught hz hl.tally (fun k hk => hl.counted.counted hm hat hk) hd
  · rw [ho] at hn
    cases hn

/-- What fails in the one lane fails in the other at the same place. -/
theorem Even.failed_across (h : L.Even) (hz : L.Shared m j) {q : Nat} {o : Answer}
    (hy : Yields L.rules L.tokens m (L.start + j) (.failed q))
    (hy' : Yields L.rules L.tokens' m (L.start' + j) o) :
    ∃ i, q = L.start + i ∧ o = .failed (L.start' + i) := by
  obtain ⟨i, rfl⟩ := Nat.exists_eq_add_of_le hy.within.1
  rw [Nat.add_assoc] at hy
  exact ⟨j + i, Nat.add_assoc .., hy'.unique ((h.failed hz).mp hy)⟩

/-- Winding up two attempts notes failures at the same place, or none. -/
theorem Even.tally_concluded (h : L.Even) (hz : L.Shared m j) (hp : s.cursor = L.start + j)
    (hp' : s'.cursor = L.start' + j) {e e' : Ending Match}
    (ht : Told L.rules L.tokens F m s (concluded cfg m s.cursor e))
    (ht' : Told L.rules L.tokens' F m s' (concluded cfg m s'.cursor e'))
    (htwin : L.Twin (cause? e) (cause? e')) (hd : L.Tally e.2.deepest e'.2.deepest) :
    L.Tally (concluded cfg m s.cursor e).2.deepest (concluded cfg m s'.cursor e').2.deepest := by
  rcases e with ⟨(q | a) | r, t⟩ <;> rcases e' with ⟨(q' | a') | r', t'⟩
  · -- both failed, and at the same place
    cases ht with
    | backtrack _ yields _ =>
      cases ht' with
      | backtrack _ yields' _ =>
        obtain ⟨i, rfl, he⟩ := h.failed_across hz (hp ▸ yields) (hp' ▸ yields')
        cases he
        simpa [concluded] using h.noted hd
  · cases htwin
  · cases ht with
    | backtrack _ yields _ =>
      cases ht' with
      | ok _ yields' _ =>
        obtain ⟨_, -, he⟩ := h.failed_across hz (hp ▸ yields) (hp' ▸ yields')
        cases he
  · cases htwin
  · exact hd
  · cases htwin
  · cases ht with
    | ok _ yields _ =>
      cases ht' with
      | backtrack _ yields' _ =>
        obtain ⟨_, -, he⟩ := h.swap.failed_across hz (hp' ▸ yields') (hp ▸ yields)
        cases he
  · cases htwin
  · simpa [concluded] using hd

/-- If trying what is inside ends in the same way, so does an attempt, and it leaves states on a
level. -/
theorem goes_of_ends (h : L.Even) (hF : Family L.rules F) (hm : F m) (hz : L.Shared m j)
    (hx : L.Ends F cfg (attemptShape cfg (enterRule cfg L.rules depth) m.shape) j) :
    L.Goes F cfg (attempt cfg (enterRule cfg L.rules depth)) m j := by
  intro s s' hl hp hp'
  have hends : L.Twin (cause? (attempt cfg (enterRule cfg L.rules depth) m s))
        (cause? (attempt cfg (enterRule cfg L.rules depth) m s')) ∧
      L.Tally (attempt cfg (enterRule cfg L.rules depth) m s).2.deepest
        (attempt cfg (enterRule cfg L.rules depth) m s').2.deepest := by
    cases ho : remembered? cfg m s with
    | some o => exact hl.ends_of_remembered h hF hm hz hp hp' ho
    | none =>
        cases ho' : remembered? cfg m s' with
        | some o =>
            exact (hl.swap.ends_of_remembered h.swap hF hm hz hp' hp ho').imp Twin.swap id
        | none =>
            have hF' : cfg.memoize = true → Family L.rules F := fun _ => hF
            have ht := tells_attempt hF' depth (fun _ => hm) hl.counted.toTruthful
            have ht' := tells_attempt hF' depth (fun _ => hm) hl.counted'.toTruthful
            obtain ⟨htwin, htally⟩ := hx (hl.of_alike (.announce s m .entered)
              (.announce s' m .entered)) (by simpa using hp) (by simpa using hp')
            rw [attempt_of_remembered?_eq_none ho] at ht ⊢
            rw [attempt_of_remembered?_eq_none ho'] at ht' ⊢
            rw [cause?_concluded, cause?_concluded]
            exact ⟨htwin, h.tally_concluded hz hp hp' ht ht' htwin htally⟩
  exact ⟨hends.1, hends.2, fun hc =>
    hl.after h hF hm hz hp hp' hc (hends.1.none_iff.mp hc) hends.2⟩

/-- Where the lanes do not agree on what touches, no part is found in either. -/
theorem goes_adjacent (h : L.Even) (hF : Family L.rules F) {n : Nat} {part : Matcher}
    (hm : F ⟨n, .adjacent part⟩) (hz : L.Shared ⟨n, .adjacent part⟩ j) (hparts : part.parts = [])
    (hr : part.isRule = false)
    (hn : ¬ (Touching L.tokens (L.start + j) ↔ Touching L.tokens' (L.start' + j))) :
    L.Goes F cfg (attempt cfg (enterRule cfg L.rules depth)) ⟨n, .adjacent part⟩ j := by
  intro s s' hl hp hp'
  have hfails : Yields L.rules L.tokens ⟨n, .adjacent part⟩ (L.start + j) (.failed (L.start + j)) ∧
      Yields L.rules L.tokens' ⟨n, .adjacent part⟩ (L.start' + j) (.failed (L.start' + j)) := by
    by_cases ht : Touching L.tokens (L.start + j)
    · have hy : Yields L.rules L.tokens' ⟨n, .adjacent part⟩ (L.start' + j)
          (.failed (L.start' + j)) := .adjacent_fails fun ht' => hn (iff_of_true ht ht')
      exact ⟨(h.failed hz).mpr hy, hy⟩
    · have hy : Yields L.rules L.tokens ⟨n, .adjacent part⟩ (L.start + j)
          (.failed (L.start + j)) := .adjacent_fails ht
      exact ⟨hy, (h.failed hz).mp hy⟩
  obtain ⟨hc, hd⟩ := deepest_attempt_adjacent cfg depth hF hm hparts hr hl.counted (hp ▸ hfails.1)
  obtain ⟨hc', hd'⟩ :=
    deepest_attempt_adjacent cfg depth hF hm hparts hr hl.counted' (hp' ▸ hfails.2)
  have htally := h.noted hl.tally (i := j)
  rw [← hp, ← hp', ← hd, ← hd'] at htally
  refine ⟨?_, htally, fun _ => hl.after h hF hm hz hp hp' hc hc' htally⟩
  rw [hc, hc']
  exact .unaborted

/-- Trying what is inside goes side by side if the attempts of the parts do. -/
theorem abreast_attemptShape (h : L.Even) (hF : Family L.rules F) (hm : F m)
    (hr : m.isRule = false) (hz : L.Shared m j) (ha : L.Agree m j)
    (hparts : ∀ m₁ ∈ m.parts, ∀ i, L.Shared m₁ i →
      L.Goes F cfg (attempt cfg (enterRule cfg L.rules depth)) m₁ i)
    (hl : L.Level F cfg s s') (hp : s.cursor = L.start + j) (hp' : s'.cursor = L.start' + j) :
    L.Abreast F cfg (cause? (attemptShape cfg (enterRule cfg L.rules depth) m.shape s))
      (cause? (attemptShape cfg (enterRule cfg L.rules depth) m.shape s'))
      (attemptShape cfg (enterRule cfg L.rules depth) m.shape s).2
      (attemptShape cfg (enterRule cfg L.rules depth) m.shape s').2 := by
  have hF' : cfg.memoize = true → Family L.rules F := fun _ => hF
  have htold {tokens : List Token} : ∀ m₁ ∈ m.parts, Tells L.rules tokens F m₁
      (attempt cfg (enterRule cfg L.rules depth) m₁) := tells_parts hF' depth fun _ => hm
  obtain ⟨l, ht⟩ := treads_attemptShape hr htold hl.counted.toTruthful
  obtain ⟨l', ht'⟩ := treads_attemptShape hr htold hl.counted'.toTruthful
  exact hl.trail h ht.trail ht'.trail (hp ▸ ht.course) (hp' ▸ ht'.course) (hp ▸ ht.all)
    (hp' ▸ ht'.all) ha
    (fun m₁ i hm₁ => ⟨h.tries hz hm₁, hparts m₁ hm₁.mem_parts i (h.tries hz hm₁)⟩)
    fun m₁ i hm₁ => h.tries' hz hm₁

/-- **Side by side.**  By induction over the rules that may still be entered and over the parts. -/
theorem goes_attempt (h : L.Even) (hF : Family L.rules F) : ∀ (depth : Nat) (m : Matcher), F m →
    ∀ j, L.Shared m j → L.Goes F cfg (attempt cfg (enterRule cfg L.rules depth)) m j := by
  refine induction_entering L.rules ?parts ?stuck ?body
  case parts =>
    intro depth m hr ih hm j hz
    rcases h.agree_or hz with ha | ⟨n, part, rfl, hparts, hpr, hn⟩
    · refine goes_of_ends h hF hm hz fun {s s'} hl hp hp' => ?_
      have hend := abreast_attemptShape h hF hm hr hz ha
        (fun m₁ hm₁ i hz₁ => ih m₁ hm₁ (hF.part hm hm₁) i hz₁) hl hp hp'
      exact ⟨hend.twin, hend.tally⟩
    · exact goes_adjacent h hF hm hz hparts hpr hn
  case stuck =>
    intro depth n name hstuck hm j hz
    refine goes_of_ends h hF hm hz fun {s s'} hl hp hp' => ?_
    show L.Twin (cause? (enterRule cfg L.rules depth name s))
      (cause? (enterRule cfg L.rules depth name s')) ∧
      L.Tally (enterRule cfg L.rules depth name s).2.deepest
        (enterRule cfg L.rules depth name s').2.deepest
    cases depth with
    | zero =>
        simp only [enterRule, hp, hp']
        exact ⟨.depthExceeded, hl.tally⟩
    | succ depth =>
        simp only [enterRule, hstuck.resolve_left (Nat.succ_ne_zero depth)]
        exact ⟨.undefinedRule, hl.tally⟩
  case body =>
    intro depth n name body hb ih hm j hz
    refine goes_of_ends h hF hm hz fun {s s'} hl hp hp' => ?_
    obtain ⟨hc, ha⟩ := enterRule_of_lookup cfg depth s hb
    obtain ⟨hc', ha'⟩ := enterRule_of_lookup cfg depth s' hb
    have hend := ih (hF.body hb) j (h.body hz hb)
      (hl.of_alike (.report s (.rule name) .entered) (.report s' (.rule name) .entered)) hp hp'
    show L.Twin (cause? (enterRule cfg L.rules (depth + 1) name s))
      (cause? (enterRule cfg L.rules (depth + 1) name s')) ∧
      L.Tally (enterRule cfg L.rules (depth + 1) name s).2.deepest
        (enterRule cfg L.rules (depth + 1) name s').2.deepest
    rw [hc, hc', ha.deepest_eq, ha'.deepest_eq]
    exact ⟨hend.twin, hend.tally⟩

end Lanes

end Packrat
