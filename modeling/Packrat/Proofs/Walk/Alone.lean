import Packrat.Proofs.Walk

/-!
# Proofs — Walk — Alone

What one visitor of a walker is called for.  Being subscribed, and the order of visiting and of
leaving, are settled for each visitor by itself: of the calls that a walker makes, those of some of
its visitors are the calls of a walker to which only these were added (`filter_log`).

Nothing keeps two visitors from having the same name, so they are told apart by numbers in the order
of adding (`Deed.numbered`).  The names make no difference to a walker (`rename_log`).

**Alone** (`log_of_each`): every visitor is called for the same, in the same order, as if it were
the only one and no tree before it had been walked.
-/

namespace Packrat

variable {μ ν : Type} {p : ν → Bool}

/-! ### Some of the visitors -/

namespace Deed

/-- The trees that are walked. -/
def trees : List (Deed ν) → List Node
  | [] => []
  | add _ :: ds => trees ds
  | walk root :: ds => root :: trees ds

/-- A walk, or the adding of one of the visitors with these names. -/
def concerns (p : ν → Bool) : Deed ν → Bool
  | add v => p v.name
  | walk _ => true

/-- Of deeds that add none of them, the walks are left. -/
theorem filter_concerns {ds : List (Deed ν)} (h : ∀ v ∈ added ds, p v.name = false) :
    ds.filter (concerns p) = (trees ds).map walk := by
  induction ds with
  | nil => rfl
  | cons d ds ih =>
      cases d with
      | walk root =>
          rw [List.filter_cons_of_pos rfl, ih h]
          rfl
      | add v =>
          obtain ⟨hv, hds⟩ := List.forall_mem_cons.mp h
          rw [List.filter_cons_of_neg (by simp [concerns, hv]), ih hds]
          rfl

end Deed

namespace Walker

/-- Everybody's calls, from now to the end: for some deeds, and for trees that are scanned then. -/
def log (w : Walker ν) (ds : List (Deed ν)) (roots : List Node) : List (ν × Call) :=
  w.calls ds ++ (w.after ds).scan roots

/-- The walker with only the visitors with these names. -/
def only (p : ν → Bool) (w : Walker ν) : Walker ν :=
  ⟨w.visitors.filter (p ·.name)⟩

/-- Calls of visitors in turn. -/
theorem filter_map_call (p : ν → Bool) (vs : List (Visitor ν)) (call : Call) :
    (vs.map fun v => (v.name, call)).filter (p ·.1) =
      (vs.filter (p ·.name)).map fun v => (v.name, call) :=
  List.filter_map

mutual

theorem filter_nodeCalls (p : ν → Bool) (vs : List (Visitor ν)) : ∀ n : Node,
    (nodeCalls vs n).filter (p ·.1) = nodeCalls (vs.filter (p ·.name)) n
  | ⟨k, t, cs⟩ => by
      -- whether to call a visitor does not depend on the others
      have hcomm := List.filter_comm (·.isSubscribed ⟨k, t, cs⟩) (fun v => p v.name) vs
      simp only [nodeCalls, List.filter_append, List.filter_reverse, filter_map_call,
        filter_nodesCalls p vs cs, hcomm]

theorem filter_nodesCalls (p : ν → Bool) (vs : List (Visitor ν)) : ∀ ns : List Node,
    (nodesCalls vs ns).filter (p ·.1) = nodesCalls (vs.filter (p ·.name)) ns
  | [] => rfl
  | n :: r => by
      simp only [nodesCalls, List.filter_append, filter_nodeCalls p vs n, filter_nodesCalls p vs r]

end

theorem filter_walk (p : ν → Bool) (w : Walker ν) (root : Node) :
    (w.walk root).filter (p ·.1) = (w.only p).walk root := by
  simp only [walk, only, List.filter_append, filter_map_call, filter_nodeCalls,
    List.filter_reverse]

theorem filter_scan (p : ν → Bool) (w : Walker ν) (roots : List Node) :
    (w.scan roots).filter (p ·.1) = (w.only p).scan roots := by
  rw [scan, scan, List.filter_append, List.filter_flatMap]
  simp only [filter_walk, finish, only, filter_map_call]

theorem only_add (p : ν → Bool) (w : Walker ν) (v : Visitor ν) :
    (w.add v).only p = if p v.name then (w.only p).add v else w.only p := by
  simp only [only, add, List.filter_append, List.filter_cons, List.filter_nil]
  split <;> simp_all

/-- The calls of some visitors are those of a walker with only these. -/
theorem filter_log (p : ν → Bool) (w : Walker ν) (ds : List (Deed ν)) (roots : List Node) :
    (w.log ds roots).filter (p ·.1) = (w.only p).log (ds.filter (Deed.concerns p)) roots := by
  induction ds generalizing w with
  | nil => exact filter_scan p w roots
  | cons d ds ih =>
      simp only [log, List.filter_append] at ih ⊢
      cases d with
      | walk root =>
          rw [List.filter_cons_of_pos rfl, calls, after, List.filter_append, List.append_assoc, ih,
            filter_walk, calls, after, List.append_assoc]
      | add v =>
          rw [calls, after, List.filter_append, List.append_assoc, ih, only_add]
          cases hv : p v.name
          · simp [Deed.concerns, hv, addCalls]
          · simp [Deed.concerns, hv, addCalls, calls, after]

/-! ### Walks only -/

theorem log_walks (w : Walker ν) (trees roots : List Node) :
    w.log (trees.map .walk) roots = w.scan (trees ++ roots) := by
  induction trees with
  | nil => rfl
  | cons tree trees ih =>
      simp only [log, List.map_cons, calls, after, scan, List.append_assoc, List.cons_append,
        List.flatMap_cons] at ih ⊢
      rw [ih]

mutual

theorem nodeCalls_nil : ∀ n : Node, nodeCalls ([] : List (Visitor ν)) n = []
  | ⟨k, t, cs⟩ => by simp [nodeCalls, nodesCalls_nil cs]

theorem nodesCalls_nil : ∀ ns : List Node, nodesCalls ([] : List (Visitor ν)) ns = []
  | [] => rfl
  | n :: r => by rw [nodesCalls, nodeCalls_nil n, nodesCalls_nil r, List.append_nil]

end

/-- Nobody is called while nobody has been added. -/
theorem log_idle_walks (trees : List Node) (ds : List (Deed ν)) (roots : List Node) :
    (idle : Walker ν).log (trees.map .walk ++ ds) roots = idle.log ds roots := by
  induction trees with
  | nil => rfl
  | cons tree trees ih =>
      have hwalk : (idle : Walker ν).walk tree = [] :=
        (List.append_nil _).trans (nodeCalls_nil tree)
      rw [List.map_cons, List.cons_append, log, calls, hwalk]
      exact ih

/-- If only one visitor has a name of the given sort, its calls do not depend on the others. -/
theorem filter_log_of_one {v : Visitor ν} {before later : List (Deed ν)} (hv : p v.name = true)
    (hbefore : ∀ u ∈ Deed.added before, p u.name = false)
    (hlater : ∀ u ∈ Deed.added later, p u.name = false) (roots : List Node) :
    (idle.log (before ++ .add v :: later) roots).filter (p ·.1) =
      addCalls v ++ (idle.add v).scan (Deed.trees later ++ roots) := by
  rw [filter_log, List.filter_append, List.filter_cons_of_pos (by simp [Deed.concerns, hv]),
    Deed.filter_concerns hbefore, Deed.filter_concerns hlater]
  change (idle : Walker ν).log _ roots = _
  rw [log_idle_walks, ← log_walks]
  simp only [log, calls, after, List.append_assoc]

end Walker

/-! ### Names -/

/-- The visitor by another name. -/
def Visitor.rename (f : μ → ν) (v : Visitor μ) : Visitor ν :=
  ⟨f v.name, v.subscriptions⟩

namespace Deed

def rename (f : μ → ν) : Deed μ → Deed ν
  | add v => add (v.rename f)
  | walk root => walk root

/-- The deeds, where each visitor has its number beside its name. -/
def numbered (k : Nat) : List (Deed ν) → List (Deed (Nat × ν))
  | [] => []
  | add v :: ds => add (v.rename (Prod.mk k)) :: numbered (k + 1) ds
  | walk root :: ds => walk root :: numbered k ds

theorem rename_numbered (k : Nat) (ds : List (Deed ν)) :
    (numbered k ds).map (rename Prod.snd) = ds := by
  induction ds generalizing k with
  | nil => rfl
  | cons d ds ih =>
      cases d with
      | add v => exact congrArg (add v :: ·) (ih (k + 1))
      | walk root => exact congrArg (walk root :: ·) (ih k)

theorem numbered_append (k : Nat) (ds ds' : List (Deed ν)) :
    numbered k (ds ++ ds') = numbered k ds ++ numbered (k + (added ds).length) ds' := by
  induction ds generalizing k with
  | nil => rfl
  | cons d ds ih =>
      cases d with
      | add v =>
          rw [List.cons_append, numbered, ih, numbered, added, List.length_cons, List.cons_append,
            Nat.add_assoc, Nat.add_comm 1]
      | walk root => exact congrArg (walk root :: ·) (ih k)

theorem trees_numbered (k : Nat) (ds : List (Deed ν)) : trees (numbered k ds) = trees ds := by
  induction ds generalizing k with
  | nil => rfl
  | cons d ds ih =>
      cases d with
      | add v => exact ih (k + 1)
      | walk root => exact congrArg (root :: ·) (ih k)

/-- The numbers go up from the first. -/
theorem number_of_mem_added {k : Nat} {ds : List (Deed ν)} {v : Visitor (Nat × ν)}
    (h : v ∈ added (numbered k ds)) : k ≤ v.name.1 ∧ v.name.1 < k + (added ds).length := by
  induction ds generalizing k with
  | nil => cases h
  | cons d ds ih =>
      cases d with
      | add u =>
          rw [added, List.length_cons]
          rcases List.mem_cons.mp h with rfl | h
          · exact ⟨Nat.le_refl k, Nat.lt_add_of_pos_right (Nat.succ_pos _)⟩
          · have := ih h
            omega
      | walk root => exact ih h

end Deed

namespace Walker

/-- The visitors of the walker by other names. -/
def rename (f : μ → ν) (w : Walker μ) : Walker ν :=
  ⟨w.visitors.map (·.rename f)⟩

/-- The calls with other names. -/
def renameCalls (f : μ → ν) (calls : List (μ × Call)) : List (ν × Call) :=
  calls.map fun call => (f call.1, call.2)

theorem renameCalls_append (f : μ → ν) (calls calls' : List (μ × Call)) :
    renameCalls f (calls ++ calls') = renameCalls f calls ++ renameCalls f calls' :=
  List.map_append

theorem renameCalls_reverse (f : μ → ν) (calls : List (μ × Call)) :
    renameCalls f calls.reverse = (renameCalls f calls).reverse :=
  List.map_reverse

theorem renameCalls_map (f : μ → ν) (vs : List (Visitor μ)) (call : Call) :
    renameCalls f (vs.map fun v => (v.name, call)) =
      (vs.map (·.rename f)).map fun v => (v.name, call) := by
  rw [renameCalls, List.map_map, List.map_map]
  rfl

mutual

theorem rename_nodeCalls (f : μ → ν) (vs : List (Visitor μ)) : ∀ n : Node,
    renameCalls f (nodeCalls vs n) = nodeCalls (vs.map (·.rename f)) n
  | ⟨k, t, cs⟩ => by
      -- the subscriptions are the same
      have hfilter : (vs.map (·.rename f)).filter (·.isSubscribed ⟨k, t, cs⟩) =
          (vs.filter (·.isSubscribed ⟨k, t, cs⟩)).map (·.rename f) := List.filter_map
      simp only [nodeCalls, renameCalls_append, renameCalls_map, rename_nodesCalls f vs cs, hfilter,
        List.map_reverse, renameCalls_reverse]

theorem rename_nodesCalls (f : μ → ν) (vs : List (Visitor μ)) : ∀ ns : List Node,
    renameCalls f (nodesCalls vs ns) = nodesCalls (vs.map (·.rename f)) ns
  | [] => rfl
  | n :: r => by
      simp only [nodesCalls, renameCalls_append, rename_nodeCalls f vs n, rename_nodesCalls f vs r]

end

theorem rename_walk (f : μ → ν) (w : Walker μ) (root : Node) :
    renameCalls f (w.walk root) = (w.rename f).walk root := by
  simp only [walk, rename, renameCalls_append, renameCalls_map, rename_nodeCalls, List.map_reverse,
    renameCalls_reverse]

theorem rename_scan (f : μ → ν) (w : Walker μ) (roots : List Node) :
    renameCalls f (w.scan roots) = (w.rename f).scan roots := by
  induction roots with
  | nil => exact renameCalls_map f w.visitors .destroy
  | cons root roots ih =>
      rw [scan, finish] at ih ⊢
      rw [List.flatMap_cons, List.append_assoc, renameCalls_append, rename_walk, ih]
      simp only [scan, List.flatMap_cons, List.append_assoc]

theorem rename_add (f : μ → ν) (w : Walker μ) (v : Visitor μ) :
    (w.add v).rename f = (w.rename f).add (v.rename f) := by
  simp only [rename, add, List.map_append, List.map_cons, List.map_nil]

/-- The names make no difference to what visitors are called for. -/
theorem rename_log (f : μ → ν) (w : Walker μ) (ds : List (Deed μ)) (roots : List Node) :
    renameCalls f (w.log ds roots) = (w.rename f).log (ds.map (·.rename f)) roots := by
  induction ds generalizing w with
  | nil => exact rename_scan f w roots
  | cons d ds ih =>
      simp only [log, renameCalls_append] at ih ⊢
      cases d with
      | walk root =>
          rw [calls, after, renameCalls_append, List.append_assoc, ih, rename_walk,
            ← List.append_assoc]
          rfl
      | add v =>
          rw [calls, after, renameCalls_append, List.append_assoc, ih, rename_add,
            ← List.append_assoc]
          rfl

/-! ### The calls of each visitor -/

/-- **Alone.**  With their numbers the calls are those of `Deed.numbered`.  Scanning no trees is to
finish. -/
theorem log_of_each (ds : List (Deed ν)) (roots : List Node) :
    renameCalls Prod.snd (idle.log (Deed.numbered 0 ds) roots) = idle.log ds roots ∧
      ∀ before v later, ds = before ++ .add v :: later →
        renameCalls Prod.snd ((idle.log (Deed.numbered 0 ds) roots).filter
            (·.1.1 = (Deed.added before).length)) =
          addCalls v ++ (idle.add v).scan (Deed.trees later ++ roots) := by
  constructor
  · rw [rename_log, Deed.rename_numbered]
    rfl
  · rintro before v later rfl
    let p : Nat × ν → Bool := fun name => name.1 = (Deed.added before).length
    have hv : p ((Deed.added before).length, v.name) = true := decide_eq_true rfl
    have hbefore : ∀ u ∈ Deed.added (Deed.numbered 0 before), p u.name = false := fun u hu => by
      have := Deed.number_of_mem_added hu
      simp only [p, decide_eq_false_iff_not]
      omega
    have hlater : ∀ u ∈ Deed.added (Deed.numbered ((Deed.added before).length + 1) later),
        p u.name = false := fun u hu => by
      have := Deed.number_of_mem_added hu
      simp only [p, decide_eq_false_iff_not]
      omega
    have hone := filter_log_of_one (v := v.rename (Prod.mk _)) hv hbefore hlater roots
    rw [Deed.numbered_append, Nat.zero_add, Deed.numbered]
    rw [hone, renameCalls_append, rename_scan, rename_add, Deed.trees_numbered]
    rfl

/-- Two visitors of one name, which both want to see terms. -/
example :
    let term : Node := ⟨some (.rule "term"), none, []⟩
    let tree : Node := ⟨some (.rule "expression"), none, [term, term]⟩
    let first : Visitor String := ⟨"v", [.rule "term"]⟩
    let second : Visitor String := ⟨"v", [.rule "expression", .rule "term"]⟩
    let deeds := Deed.numbered 0 [.add first, .walk term, .add second, .walk tree]
    renameCalls Prod.snd ((idle.log deeds []).filter (·.1.1 = 1)) =
      [.init, .subscriptions, .visitFile tree, .visitNode tree, .visitNode term, .leaveNode term,
        .visitNode term, .leaveNode term, .leaveNode tree, .leaveFile tree, .destroy].map
          fun call => ("v", call) :=
  rfl

end Walker

end Packrat
