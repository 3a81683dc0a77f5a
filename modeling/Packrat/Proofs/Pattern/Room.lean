import Packrat.Pattern.Machine

/-!
# Proofs — Pattern — Room

The room that a machine takes up does not shrink when the pattern is put between signs for the start
and the end of the text.  A plan that stands alone in a sequence or in a choice has to be as it was
for that, which holds of the plans that are made (`settled_plan`).
-/

namespace Packrat.Pattern

namespace Plan

variable {a b : Plan} {as bs : List Plan} {d : Direction}

/-! ### Settled plans -/

/-- Nothing is gained from laying out the plan once more: sequences have several parts, none of
which is empty or a sequence itself, and choices are what becomes of their branches. -/
inductive Settled : Plan → Prop where
  | empty : Settled .empty
  | literal (s : List Char) : Settled (.literal s)
  | set (s : Intervals) : Settled (.set s)
  | look (l : Look) : Settled (.look l)
  | rounds (a : Plan) (low : Nat) (high : Option Nat) : Settled (.rounds a low high)
  | capture (a : Plan) : Settled (.capture a)
  | sequence {as : List Plan} : 2 ≤ as.length → (∀ a ∈ as, a.parts = [a]) →
      (∀ a ∈ as, a.branches ≠ []) → Settled (.sequence as)
  | choice {as : List Plan} : (∀ a ∈ as, Settled a) → (∀ a ∈ as, a.branches = [a]) →
      ofChoice as = .choice as → Settled (.choice as)

theorem flatMap_eq_self {f : Plan → List Plan} (h : ∀ a ∈ as, f a = [a]) : as.flatMap f = as := by
  induction as with
  | nil => rfl
  | cons a as ih =>
      obtain ⟨ha, has⟩ := List.forall_mem_cons.mp h
      rw [List.flatMap_cons, ha, ih has, List.singleton_append]

theorem settled_ofSet (s : Intervals) : Settled (ofSet s) := by
  unfold ofSet
  split
  · split
    · exact .literal _
    · exact .set _
  · exact .set _

theorem liftStart?_singleton (a : Plan) : liftStart? [a] = none := by
  simp only [liftStart?]
  cases ha : a.sequence? <;> simp [ha]

theorem ofChoice_eq (as : List Plan) : ofChoice as =
    (liftStart? (as.flatMap branches)).getD (joinBranches (as.flatMap branches)) :=
  rfl

/-- A choice of one plan that is no choice is this plan. -/
theorem ofChoice_singleton (h : a.branches = [a]) : ofChoice [a] = a := by
  simp [ofChoice, h, liftStart?_singleton, joinBranches]

theorem branches_ofSet (s : Intervals) : (ofSet s).branches = [ofSet s] := by
  unfold ofSet
  split
  · split <;> rfl
  · rfl

theorem parts_ofSet (s : Intervals) : (ofSet s).parts = [ofSet s] := by
  unfold ofSet
  split
  · split <;> rfl
  · rfl

/-- What several branches are joined to. -/
theorem joinBranches_eq_or (h : as.length ≠ 1) :
    (∃ s, joinBranches as = ofSet s) ∨ as ≠ [] ∧ joinBranches as = .choice as := by
  unfold joinBranches
  split
  · exact absurd rfl h
  · split
    · exact .inl ⟨_, rfl⟩
    · exact .inl ⟨_, rfl⟩
    · next hc _ =>
      refine .inr ⟨?_, rfl⟩
      rintro rfl
      cases hc

namespace Settled

theorem branches_ne_nil (h : Settled a) : a.branches ≠ [] := by
  cases h with
  | @choice as _ _ hc =>
      rintro (rfl : as = [])
      have hset : ofSet (.ofBounds []) = .choice [] := hc
      have := branches_ofSet (.ofBounds [])
      rw [hset] at this
      cases this
  | _ => exact List.cons_ne_nil _ _

/-- A settled plan alone is a choice of itself. -/
theorem ofChoice_alone (h : Settled a) : ofChoice [a] = a := by
  cases h with
  | choice _ hb hc =>
      rw [Plan.ofChoice_eq, flatMap_eq_self hb] at hc
      simpa [Plan.ofChoice_eq, branches] using hc
  | _ => exact ofChoice_singleton rfl

theorem of_mem_branches (h : Settled a) (hb : b ∈ a.branches) :
    Settled b ∧ b.branches = [b] := by
  cases h with
  | choice hs hn _ => exact ⟨hs b hb, hn b hb⟩
  | sequence hl hp hbr =>
      obtain rfl := List.eq_of_mem_singleton hb
      exact ⟨.sequence hl hp hbr, rfl⟩
  | _ =>
      obtain rfl := List.eq_of_mem_singleton hb
      exact ⟨by constructor, rfl⟩

theorem of_mem_parts (h : Settled a) (hb : b ∈ a.parts) : b.parts = [b] ∧ b.branches ≠ [] := by
  cases h with
  | empty => cases hb
  | sequence _ hp hbr => exact ⟨hp b hb, hbr b hb⟩
  | choice hs hn hc =>
      obtain rfl := List.eq_of_mem_singleton hb
      exact ⟨rfl, (Settled.choice hs hn hc).branches_ne_nil⟩
  | _ =>
      obtain rfl := List.eq_of_mem_singleton hb
      exact ⟨rfl, List.cons_ne_nil _ _⟩

/-- A settled plan with a single part is this part. -/
theorem eq_of_parts (h : Settled a) (hb : a.parts = [b]) : a = b := by
  cases h with
  | empty => cases hb
  | sequence hl =>
      simp only [parts] at hb
      simp [hb] at hl
  | _ => exact (List.cons.inj hb).1

end Settled

/-! ### Sequences -/

/-- Joining literals leaves what is no literal. -/
theorem joinLiterals_cons (a : Plan) (as : List Plan) :
    joinLiterals (a :: as) = a :: joinLiterals as ∨
      ∃ s t bs, a = .literal s ∧ joinLiterals as = .literal t :: bs ∧
        joinLiterals (a :: as) = .literal (s ++ t) :: bs := by
  cases a with
  | literal s =>
      simp only [joinLiterals]
      split
      · next t bs he => exact .inr ⟨s, t, bs, rfl, he, rfl⟩
      · exact .inl rfl
  | _ => exact .inl rfl

theorem mem_joinLiterals (h : b ∈ joinLiterals as) : (∃ s, b = .literal s) ∨ b ∈ as := by
  induction as with
  | nil => cases h
  | cons a as ih =>
      rcases joinLiterals_cons a as with he | ⟨s, t, bs, rfl, hj, he⟩
      · rw [he] at h
        rcases List.mem_cons.mp h with rfl | h
        · exact .inr List.mem_cons_self
        · exact (ih h).imp_right (List.mem_cons_of_mem a)
      · rw [he] at h
        rcases List.mem_cons.mp h with rfl | h
        · exact .inl ⟨_, rfl⟩
        · exact (ih (hj ▸ List.mem_cons_of_mem _ h)).imp_right (List.mem_cons_of_mem _)

/-- What is joined to a single plan is a literal, or was single before. -/
theorem eq_of_joinLiterals (h : joinLiterals as = [b]) : (∃ s, b = .literal s) ∨ as = [b] := by
  cases as with
  | nil => cases h
  | cons a as =>
      rcases joinLiterals_cons a as with he | ⟨s, t, bs, rfl, hj, he⟩
      · rw [he] at h
        obtain ⟨rfl, hnil⟩ := List.cons.inj h
        cases as with
        | nil => exact .inr rfl
        | cons c as =>
            rcases joinLiterals_cons c as with hc | ⟨_, _, _, -, -, hc⟩ <;> rw [hc] at hnil <;>
              cases hnil
      · rw [he] at h
        exact .inl ⟨_, (List.cons.inj h).1.symm⟩

/-- Parts of a sequence that are made one. -/
theorem settled_ofSequence (h : ∀ a ∈ as.flatMap parts, a.parts = [a] ∧ a.branches ≠ [])
    (hs : ∀ a, as.flatMap parts = [a] → Settled a) : Settled (ofSequence as) := by
  unfold ofSequence
  generalize hj : joinLiterals (as.flatMap parts) = js
  have hmem : ∀ a ∈ js, a.parts = [a] ∧ a.branches ≠ [] := by
    rintro a ha
    rcases mem_joinLiterals (hj ▸ ha) with ⟨s, rfl⟩ | ha
    · exact ⟨rfl, List.cons_ne_nil _ _⟩
    · exact h a ha
  rcases js with _ | ⟨a, _ | ⟨b, js⟩⟩
  · exact .empty
  · rcases eq_of_joinLiterals hj with ⟨s, rfl⟩ | he
    · exact .literal s
    · exact hs a he
  · exact .sequence (by simp) (fun c hc => (hmem c hc).1) fun c hc => (hmem c hc).2

theorem sublist_flatMap_parts (h : a ∈ as) : a.parts.Sublist (as.flatMap parts) :=
  List.sublist_flatten_of_mem (List.mem_map_of_mem h)

/-- Settled plans one after the other. -/
theorem Settled.ofSequence (h : ∀ a ∈ as, Settled a) : Settled (ofSequence as) := by
  refine settled_ofSequence (fun a ha => ?_) fun a ha => ?_
  · obtain ⟨b, hb, ha⟩ := List.mem_flatMap.mp ha
    exact (h b hb).of_mem_parts ha
  · obtain ⟨b, hb, hab⟩ := List.mem_flatMap.mp (ha ▸ List.mem_singleton_self a)
    have hparts : b.parts = [a] :=
      (ha ▸ sublist_flatMap_parts hb).eq_of_length_le (List.length_pos_of_mem hab)
    exact (h b hb).eq_of_parts hparts ▸ h b hb

/-! ### Choices -/

/-- What the branches start with is taken from the first of them. -/
theorem foldl_commonStart_prefix (first : List Plan) (rest : List (List Plan)) :
    rest.foldl commonStart first <+: first := by
  have hstart : ∀ as bs : List Plan, commonStart as bs <+: as := by
    intro as
    induction as with
    | nil => exact fun bs => List.prefix_refl []
    | cons a as ih =>
        intro bs
        cases bs with
        | nil => exact List.nil_prefix
        | cons b bs =>
            simp only [commonStart]
            split
            · exact List.cons_prefix_cons.mpr ⟨rfl, ih bs⟩
            · exact List.nil_prefix
  induction rest generalizing first with
  | nil => exact List.prefix_refl first
  | cons bs rest ih => exact (ih _).trans (hstart first bs)

theorem eq_map_of_mapM_sequence? {seqs : List (List Plan)} (h : as.mapM sequence? = some seqs) :
    as = seqs.map sequence := by
  induction as generalizing seqs with
  | nil =>
      cases h
      rfl
  | cons a as ih =>
      rw [List.mapM_cons] at h
      obtain ⟨s, hs, h⟩ := Option.bind_eq_some_iff.mp h
      obtain ⟨ss, hss, h⟩ := Option.bind_eq_some_iff.mp h
      cases h
      cases a with
      | sequence bs =>
          cases hs
          rw [List.map_cons, ← ih hss]
      | _ => cases hs

/-- What is left of parts is a sequence again, or one of them, or nothing. -/
theorem branches_ofSequence_ne_nil (h : ∀ a ∈ as, a.parts = [a] ∧ a.branches ≠ []) :
    (ofSequence as).branches ≠ [] := by
  rw [ofSequence, flatMap_eq_self fun a ha => (h a ha).1]
  generalize hj : joinLiterals as = js
  rcases js with _ | ⟨a, _ | ⟨b, js⟩⟩
  · exact List.cons_ne_nil _ _
  · rcases mem_joinLiterals (hj ▸ List.mem_singleton_self a) with ⟨s, rfl⟩ | ha
    · exact List.cons_ne_nil _ _
    · exact (h a ha).2
  · exact List.cons_ne_nil _ _

/-- Branches that are joined are one part. -/
theorem parts_joinBranches (h : as.length ≠ 1) :
    (joinBranches as).parts = [joinBranches as] ∧ (joinBranches as).branches ≠ [] := by
  rcases joinBranches_eq_or h with ⟨s, he⟩ | ⟨hn, he⟩
  · rw [he]
    exact ⟨parts_ofSet s, by rw [branches_ofSet]; exact List.cons_ne_nil _ _⟩
  · rw [he]
    exact ⟨rfl, hn⟩

/-- A start with joined branches behind it makes a sequence. -/
theorem settled_start_joinBranches {start : List Plan} (hne : start ≠ [])
    (hs : ∀ a ∈ start, a.parts = [a] ∧ a.branches ≠ []) (h : as.length ≠ 1) :
    Settled (ofSequence (start ++ [joinBranches as])) := by
  have hall : ∀ a ∈ start ++ [joinBranches as], a.parts = [a] ∧ a.branches ≠ [] :=
    List.forall_mem_append.mpr ⟨hs, List.forall_mem_singleton.mpr (parts_joinBranches h)⟩
  refine settled_ofSequence ?_ ?_ <;> rw [flatMap_eq_self fun a ha => (hall a ha).1]
  · exact hall
  · intro a ha
    have hl := congrArg List.length ha
    simp only [List.length_append, List.length_singleton] at hl
    exact absurd (List.eq_nil_of_length_eq_zero (by omega)) hne

/-- A start that is taken out of branches leaves a sequence. -/
theorem settled_of_liftStart? (h : ∀ a ∈ as, Settled a) (hb : liftStart? as = some b) :
    Settled b := by
  obtain ⟨seqs, hseqs, hlift⟩ := Option.bind_eq_some_iff.mp hb
  rcases seqs with _ | ⟨first, _ | ⟨second, rest⟩⟩
  · cases hlift
  · cases hlift
  obtain rfl := eq_map_of_mapM_sequence? hseqs
  -- the parts of the branches are parts of sequences
  have hpart : ∀ seq ∈ first :: second :: rest, ∀ a ∈ seq, a.parts = [a] ∧ a.branches ≠ [] :=
    fun seq hseq a ha => (h _ (List.mem_map_of_mem hseq)).of_mem_parts ha
  change (if ((second :: rest).foldl commonStart first).isEmpty then none else _) = some b at hlift
  generalize hstart : (second :: rest).foldl commonStart first = start at hlift
  split at hlift
  · cases hlift
  · next hne =>
    cases hlift
    have hbelow : start <+: first := hstart ▸ foldl_commonStart_prefix first _
    have hends : ∀ seq ∈ first :: second :: rest,
        0 < (ofSequence (seq.drop start.length)).branches.length := fun seq hseq =>
      List.length_pos_iff.mpr (branches_ofSequence_ne_nil fun a ha =>
        hpart seq hseq a (List.mem_of_mem_drop ha))
    -- at least two branches are left
    have h₁ := hends first List.mem_cons_self
    have h₂ := hends second (List.mem_cons_of_mem _ List.mem_cons_self)
    refine settled_start_joinBranches (by simpa using hne)
      (fun a ha => hpart first List.mem_cons_self a (hbelow.subset ha)) ?_
    simp only [List.map_cons, List.flatMap_cons, List.length_append]
    omega

/-- Settled plans to choose from. -/
theorem Settled.ofChoice (h : ∀ a ∈ as, Settled a) : Settled (ofChoice as) := by
  have hbranch : ∀ a ∈ as.flatMap branches, Settled a ∧ a.branches = [a] := by
    intro a ha
    obtain ⟨b, hb, ha⟩ := List.mem_flatMap.mp ha
    exact (h b hb).of_mem_branches ha
  rw [ofChoice_eq]
  generalize as.flatMap branches = bs at hbranch
  cases hl : liftStart? bs with
  | some b => exact settled_of_liftStart? (fun a ha => (hbranch a ha).1) hl
  | none =>
      rw [Option.getD_none]
      by_cases hone : bs.length = 1
      · obtain ⟨a, rfl⟩ := List.length_eq_one_iff.mp hone
        exact (hbranch a (List.mem_singleton_self a)).1
      · rcases joinBranches_eq_or hone with ⟨s, he⟩ | ⟨-, he⟩
        · rw [he]
          exact settled_ofSet s
        · rw [he]
          refine .choice (fun a ha => (hbranch a ha).1) (fun a ha => (hbranch a ha).2) ?_
          rw [ofChoice_eq, flatMap_eq_self fun a ha => (hbranch a ha).2, hl, Option.getD_none, he]

theorem settled_ofRounds (h : Settled a) (low : Nat) (high : Option Nat) :
    Settled (ofRounds a low high) := by
  unfold ofRounds
  split
  split
  · exact .empty
  · exact h
  · exact .rounds _ _ _

end Plan

theorem Expr.settled_branchPlans {e : Expr} : ∀ a ∈ e.branchPlans, a.Settled := by
  induction e with
  | empty => simpa [branchPlans] using Plan.Settled.empty
  | char s => simpa [branchPlans] using Plan.settled_ofSet _
  | look l => simpa [branchPlans] using Plan.Settled.look l
  | cat a b iha ihb =>
      simp only [branchPlans, List.forall_mem_singleton]
      refine .ofSequence ?_
      simp only [List.forall_mem_cons]
      exact ⟨.ofChoice iha, .ofChoice ihb, by simp⟩
  | alt a b iha ihb => exact List.forall_mem_cons.mpr ⟨.ofChoice iha, ihb⟩
  | group captured a ih =>
      simp only [branchPlans, List.forall_mem_singleton]
      split
      · exact .capture _
      · exact .ofChoice ih
  | rounds a low high ih =>
      simp only [branchPlans, List.forall_mem_singleton]
      exact Plan.settled_ofRounds (.ofChoice ih) low high

/-- **Layout.**  The plan of an expression is settled. -/
theorem Expr.settled_plan (e : Expr) : e.plan.Settled :=
  .ofChoice settled_branchPlans

/-! ### Room -/

namespace Plan

variable {a b : Plan} {as bs : List Plan} {d : Direction}

theorem length_toList (bytes : ByteArray) : bytes.toList.length = bytes.size := by
  have hloop : ∀ i read, (ByteArray.toList.loop bytes i read).length =
      read.length + (bytes.size - i) := by
    intro i read
    fun_induction ByteArray.toList.loop bytes i read with
    | case1 i read hlt ih =>
        rw [ih, List.length_cons]
        omega
    | case2 i read hge =>
        rw [List.length_reverse]
        omega
  rw [ByteArray.toList, hloop, List.length_nil, Nat.zero_add, Nat.sub_zero]

theorem room_literal (d : Direction) (s : List Char) :
    (literal s).room d = stateRoom * (String.ofList s).toUTF8.size := by
  simp only [room, bytesOf]
  cases d <;> simp [length_toList]

theorem roomAll_append (d : Direction) (as bs : List Plan) :
    roomAll d (as ++ bs) = roomAll d as + roomAll d bs := by
  induction as with
  | nil => simp [roomAll]
  | cons a as ih => rw [List.cons_append, roomAll, roomAll, ih, Nat.add_assoc]

/-- One literal takes up the room of those it was made from. -/
theorem roomAll_joinLiterals (d : Direction) (as : List Plan) :
    roomAll d (joinLiterals as) = roomAll d as := by
  induction as with
  | nil => rfl
  | cons a as ih =>
      rcases joinLiterals_cons a as with he | ⟨s, t, bs, rfl, hj, he⟩
      · rw [he, roomAll, roomAll, ih]
      · rw [hj] at ih
        rw [he, roomAll, roomAll, ← ih, roomAll, room_literal, room_literal, room_literal,
          String.ofList_append]
        simp [Nat.mul_add, Nat.add_assoc]

theorem roomAll_singleton (d : Direction) (a : Plan) : roomAll d [a] = a.room d := by
  rw [roomAll, roomAll, Nat.add_zero]

/-- A plan takes up the room of its parts, and one state if there are none. -/
theorem room_le (d : Direction) (a : Plan) : a.room d ≤ roomAll d a.parts + stateRoom := by
  cases a with
  | empty => simp [room, parts]
  | sequence as => exact Nat.le_add_right _ _
  | _ => exact Nat.le_add_right_of_le (Nat.le_of_eq (roomAll_singleton d _).symm)

theorem roomAll_parts_le (d : Direction) (a : Plan) : roomAll d a.parts ≤ a.room d := by
  cases a with
  | empty => exact Nat.zero_le _
  | sequence as => exact Nat.le_refl _
  | _ => exact Nat.le_of_eq (roomAll_singleton d _)

/-- The parts of a sequence take up the room of the parts that it was made from. -/
theorem roomAll_parts_ofSequence (h : ∀ a ∈ as, Settled a) :
    roomAll d (ofSequence as).parts = roomAll d (as.flatMap parts) := by
  have hmem : ∀ a ∈ joinLiterals (as.flatMap parts), a.parts = [a] := by
    intro a ha
    rcases mem_joinLiterals ha with ⟨s, rfl⟩ | ha
    · rfl
    · obtain ⟨b, hb, ha⟩ := List.mem_flatMap.mp ha
      exact ((h b hb).of_mem_parts ha).1
  rw [← roomAll_joinLiterals d (as.flatMap parts), ofSequence]
  generalize joinLiterals (as.flatMap parts) = js at hmem ⊢
  rcases js with _ | ⟨a, _ | ⟨b, js⟩⟩
  · rfl
  · rw [hmem a (List.mem_singleton_self a)]
  · rfl

end Plan

namespace Expr

/-- The expression between the start and the end of the text. -/
def whole (e : Expr) : Expr :=
  cats [.look .textStart, .group false e, .look .textEnd]

theorem plan_whole (e : Expr) : e.whole.plan =
    .ofSequence [.look .textStart, .ofSequence [e.plan, .look .textEnd]] := by
  have hlook : ∀ l, Plan.Settled (.look l) := .look
  have hend : Plan.Settled (.ofSequence [e.plan, .look .textEnd]) :=
    .ofSequence (by simpa using ⟨e.settled_plan, hlook _⟩)
  have hwhole : Plan.Settled (.ofSequence [.look .textStart,
      .ofSequence [e.plan, .look .textEnd]]) :=
    .ofSequence (by simpa using ⟨hlook _, hend⟩)
  simp only [whole, cats, plan, branchPlans, Bool.false_eq_true, if_false]
  rw [← plan, (hlook _).ofChoice_alone, (hlook _).ofChoice_alone, e.settled_plan.ofChoice_alone,
    hend.ofChoice_alone, hwhole.ofChoice_alone]

/-- The whole takes up no less room. -/
theorem room_plan_le (d : Direction) (e : Expr) : e.plan.room d ≤ e.whole.plan.room d := by
  have hsettled : ∀ a ∈ [e.plan, .look .textEnd], a.Settled := by
    simpa using ⟨e.settled_plan, Plan.Settled.look _⟩
  have hlook : ∀ l, (Plan.look l).room d = stateRoom := fun _ => by simp [Plan.room]
  calc e.plan.room d ≤ Plan.roomAll d e.plan.parts + stateRoom := Plan.room_le d _
    _ = Plan.roomAll d ([e.plan, .look .textEnd].flatMap Plan.parts) := by
      simp [Plan.roomAll_append, Plan.parts, Plan.roomAll_singleton, hlook]
    _ ≤ Plan.roomAll d ([.look .textStart, .ofSequence [e.plan, .look .textEnd]].flatMap
          Plan.parts) := by
      rw [← Plan.roomAll_parts_ofSequence hsettled]
      simp [Plan.roomAll_append]
    _ = Plan.roomAll d e.whole.plan.parts := by
      rw [plan_whole, Plan.roomAll_parts_ofSequence]
      simpa using ⟨Plan.Settled.look _, Plan.Settled.ofSequence hsettled⟩
    _ ≤ e.whole.plan.room d := Plan.roomAll_parts_le d _

/-- **Room.**  An expression fits if it fits between the start and the end of the text. -/
theorem fits_of_whole {e : Expr} (h : e.whole.plan.fits = true) : e.plan.fits = true := by
  have hle : ∀ d, e.plan.machineRoom d ≤ e.whole.plan.machineRoom d := by
    intro d
    have := room_plan_le d e
    simp only [Plan.machineRoom, Plan.room]
    omega
  simp only [Plan.fits, Bool.and_eq_true, decide_eq_true_eq] at h ⊢
  exact ⟨Nat.le_trans (hle _) h.1, Nat.le_trans (hle _) h.2⟩

end Expr

end Packrat.Pattern
