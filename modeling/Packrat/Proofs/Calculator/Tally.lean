import Packrat.Calculator.Tally
import Packrat.Proofs.Peg.Nesting
import Packrat.Proofs.Text.Lines

/-!
# Proofs — Calculator — Tally

What a tally has counted when a walker has scanned some trees for it.  A tally sees no tree: it is
called for the nodes of the calculator's rules, once on the way down and once on the way up.  So
what a tree adds to it is told by recursion on the tree: the names of those nodes, each before those
below it, and the most of them on a way down (`Node.most`); the depth is what it was
(`after_nodeCalls`).

**Tallies** (`scan_exact`): the numbers of a tally are those of the trees.
-/

namespace Packrat

/-! ### The most nodes on a way down -/

namespace Node

variable {p : Node → Bool} {n : Node} {path : List Node}

mutual

/-- How many nodes of the given sort one can come by on a way down. -/
def most (p : Node → Bool) : Node → Nat
  | ⟨k, t, cs⟩ => (if p ⟨k, t, cs⟩ then 1 else 0) + mostIn p cs

def mostIn (p : Node → Bool) : List Node → Nat
  | [] => 0
  | n :: r => max (n.most p) (mostIn p r)

end

theorem most_eq (p : Node → Bool) (n : Node) :
    n.most p = (if p n then 1 else 0) + mostIn p n.children := by
  cases n
  rfl

theorem most_le_mostIn {ns : List Node} (h : n ∈ ns) : n.most p ≤ mostIn p ns := by
  induction h with
  | head => exact Nat.le_max_left _ _
  | tail _ _ ih => exact Nat.le_trans ih (Nat.le_max_right _ _)

theorem countP_le_most (h : n.Descent path) : path.countP p ≤ n.most p := by
  induction h with
  | stop =>
      rw [List.countP_singleton, most_eq]
      exact Nat.le_add_right _ _
  | down hc _ ih =>
      have hle := most_le_mostIn (p := p) hc
      rw [List.countP_cons, most_eq]
      omega

mutual

theorem exists_descent_most (p : Node → Bool) :
    ∀ n : Node, ∃ path, n.Descent path ∧ path.countP p = n.most p
  | ⟨k, t, cs⟩ => by
      rcases exists_descent_mostIn p cs with hzero | ⟨c, hc, path, hpath, hcount⟩
      · exact ⟨_, .stop, by rw [List.countP_singleton, most, hzero, Nat.add_zero]⟩
      · refine ⟨_, .down hc hpath, ?_⟩
        rw [List.countP_cons, most, hcount, Nat.add_comm]

theorem exists_descent_mostIn (p : Node → Bool) : ∀ ns : List Node,
    mostIn p ns = 0 ∨ ∃ n ∈ ns, ∃ path, n.Descent path ∧ path.countP p = mostIn p ns
  | [] => .inl rfl
  | n :: r => by
      rcases Nat.le_total (mostIn p r) (n.most p) with hle | hle
      · obtain ⟨path, hpath, hcount⟩ := exists_descent_most p n
        refine .inr ⟨n, List.mem_cons_self, path, hpath, ?_⟩
        rw [hcount, mostIn, Nat.max_eq_left hle]
      · rw [mostIn, Nat.max_eq_right hle]
        refine (exists_descent_mostIn p r).imp_right fun ⟨m, hm, h⟩ => ?_
        exact ⟨m, List.mem_cons_of_mem n hm, h⟩

end

end Node

namespace Calculator

/-- The node is made by one of the rules of the calculator. -/
def ofCalculator (n : Node) : Bool :=
  ruleNames.any n.isRule

/-- How often nodes that the rule made occur in the trees. -/
def occurrences (roots : List Node) (rule : String) : Nat :=
  (Node.preorderList roots).countP (·.isRule rule)

namespace Tally

/-- The tally after some calls. -/
def after (t : Tally) (calls : List (Unit × Call)) : Tally :=
  calls.foldl (fun t call => t.record call.2) t

/-- The calls that a tally gets when it is added to a walker and trees are walked. -/
def walked (roots : List Node) : List (Unit × Call) :=
  Walker.addCalls visitor ++ roots.flatMap (Walker.idle.add visitor).walk

/-- No node is left that the tally is not inside of. -/
def LeavesEntered (t : Tally) (calls : List (Unit × Call)) : Prop :=
  ∀ before n, before ++ [((), .leaveNode n)] <+: calls → 0 < (t.after before).depth

/-- The line of the report for a rule. -/
def ruleLine (rule : String) (count : Nat) : String :=
  padLeft 12 rule ++ ": " ++ toString count

variable {t : Tally} {n : Node} {ns : List Node} {rule : String} {roots : List Node}
  {calls calls' : List (Unit × Call)}

theorem after_singleton (t : Tally) (call : Call) : t.after [((), call)] = t.record call := rfl

theorem after_append (t : Tally) (calls calls' : List (Unit × Call)) :
    t.after (calls ++ calls') = (t.after calls).after calls' :=
  List.foldl_append

/-! ### Calls for nodes -/

theorem isSubscribed_visitor (n : Node) : visitor.isSubscribed n = ofCalculator n := by
  obtain ⟨k, t, cs⟩ := n
  cases k with
  | none => rfl
  | some k =>
      simp only [Visitor.isSubscribed, visitor, ofCalculator, List.contains_map]
      refine congrArg ruleNames.any (funext fun rule => ?_)
      simp [Node.isRule, Node.hasKind, beq_eq_decide]

/-- What a rule made has a kind, and so a name. -/
theorem exists_kind_of_ofCalculator (h : ofCalculator n = true) :
    ∃ rule, n.kind = some (.rule rule) := by
  obtain ⟨rule, -, hrule⟩ := List.any_eq_true.mp h
  exact ⟨rule, of_decide_eq_true hrule⟩

/-- The only visitor of a walker is called on the way down and on the way up, or not at all. -/
theorem nodeCalls_visitor (n : Node) :
    Walker.nodeCalls [visitor] n =
      if ofCalculator n then
        [((), .visitNode n)] ++ Walker.nodesCalls [visitor] n.children ++ [((), .leaveNode n)]
      else Walker.nodesCalls [visitor] n.children := by
  obtain ⟨k, t, cs⟩ := n
  simp only [Walker.nodeCalls, List.filter_cons, List.filter_nil, isSubscribed_visitor]
  split <;> simp [visitor]

/-- The names of the nodes of the calculator's rules. -/
def named (ns : List Node) : List String :=
  (ns.filter ofCalculator).map Node.kindName

/-- The tally with more names, and a way down from where it is with so many nodes. -/
def plus (t : Tally) (names : List String) (most : Nat) : Tally :=
  { t with seen := names.reverse ++ t.seen, maxDepth := max t.maxDepth (t.depth + most) }

theorem plus_plus (t : Tally) (names names' : List String) (m m' : Nat) :
    (t.plus names m).plus names' m' = t.plus (names ++ names') (max m m') := by
  simp [plus, Nat.max_assoc, Nat.add_max_add_left]

/-- The nodes below a node count one more, and its name comes first. -/
theorem leave_plus_visit (t : Tally) (h : ofCalculator n = true) (names : List String) (m : Nat) :
    ((t.record (.visitNode n)).plus names m).record (.leaveNode n) =
      t.plus (n.kindName :: names) (1 + m) := by
  obtain ⟨rule, hkind⟩ := exists_kind_of_ofCalculator h
  simp only [record, plus, hkind, Node.kindName, Option.map_some, Option.toList_some,
    List.reverse_cons, List.append_assoc, Nat.add_sub_cancel, mk.injEq, true_and]
  omega

/-- A tally is never deeper than it has been. -/
theorem depth_record_visitNode_le (t : Tally) (n : Node) :
    (t.record (.visitNode n)).depth ≤ (t.record (.visitNode n)).maxDepth :=
  Nat.le_max_right _ _

mutual

/-- A tree adds its names, and its ways down to the tally's. -/
theorem after_nodeCalls (t : Tally) (h : t.depth ≤ t.maxDepth) : ∀ n : Node,
    t.after (Walker.nodeCalls [visitor] n) = t.plus (named n.preorder) (n.most ofCalculator)
  | ⟨k, u, cs⟩ => by
      rw [nodeCalls_visitor, Node.most, Node.preorder, named, List.filter_cons]
      split
      · next h =>
          rw [after_append, after_append, after_singleton, after_singleton,
            after_nodesCalls _ (depth_record_visitNode_le t _), leave_plus_visit t h]
          rfl
      · rw [after_nodesCalls t h cs, Nat.zero_add]
        rfl

theorem after_nodesCalls (t : Tally) (h : t.depth ≤ t.maxDepth) : ∀ ns : List Node,
    t.after (Walker.nodesCalls [visitor] ns) =
      t.plus (named (Node.preorderList ns)) (Node.mostIn ofCalculator ns)
  | [] => by
      simp [Walker.nodesCalls, Node.preorderList, Node.mostIn, named, plus, after,
        Nat.max_eq_left h]
  | n :: r => by
      rw [Walker.nodesCalls, after_append, after_nodeCalls t h n,
        after_nodesCalls (t.plus _ _) (Nat.le_trans h (Nat.le_max_left _ _)) r, plus_plus,
        Node.preorderList, Node.mostIn, named, named, named, List.filter_append, List.map_append]

end

/-! ### Leaving nodes -/

theorem LeavesEntered.append (h : t.LeavesEntered calls)
    (h' : (t.after calls).LeavesEntered calls') : t.LeavesEntered (calls ++ calls') := by
  intro before n hp
  rcases List.prefix_or_prefix_of_prefix hp (List.prefix_append calls calls') with hp' | hp'
  · exact h before n hp'
  · rcases List.prefix_concat_iff.mp hp' with rfl | ⟨rest, rfl⟩
    · exact h before n List.prefix_rfl
    · rw [after_append]
      refine h' rest n ?_
      rwa [List.append_assoc, List.prefix_append_right_inj] at hp

/-- One call leaves no node, or one that the tally is inside of. -/
theorem leavesEntered_singleton {call : Call} (h : ∀ n, call = .leaveNode n → 0 < t.depth) :
    t.LeavesEntered [((), call)] := by
  intro before n hp
  cases before with
  | nil =>
      have hcall : Call.leaveNode n = call := by simpa using hp
      exact h n hcall.symm
  | cons first before => simp [List.cons_prefix_cons] at hp

mutual

theorem leavesEntered_nodeCalls (t : Tally) (h : t.depth ≤ t.maxDepth) : ∀ n : Node,
    t.LeavesEntered (Walker.nodeCalls [visitor] n)
  | ⟨k, u, cs⟩ => by
      rw [nodeCalls_visitor]
      split
      · have hle := depth_record_visitNode_le t ⟨k, u, cs⟩
        have hvisit : t.LeavesEntered [((), .visitNode ⟨k, u, cs⟩)] :=
          leavesEntered_singleton fun _ he => by cases he
        refine (hvisit.append (leavesEntered_nodesCalls _ hle cs)).append
          (leavesEntered_singleton fun _ _ => ?_)
        -- what is below the node leaves the depth as it was
        rw [after_append, after_singleton, after_nodesCalls _ hle]
        exact Nat.succ_pos _
      · exact leavesEntered_nodesCalls t h cs

theorem leavesEntered_nodesCalls (t : Tally) (h : t.depth ≤ t.maxDepth) : ∀ ns : List Node,
    t.LeavesEntered (Walker.nodesCalls [visitor] ns)
  | [] => fun before n hp => by simp [Walker.nodesCalls] at hp
  | n :: r => by
      have hle := Nat.le_trans h (Nat.le_max_left t.maxDepth (t.depth + n.most ofCalculator))
      refine (leavesEntered_nodeCalls t h n).append ?_
      rw [after_nodeCalls t h n]
      exact leavesEntered_nodesCalls (t.plus _ _) hle r

end

/-! ### Calls for trees -/

/-- The tally with more files. -/
def plusFiles (t : Tally) (m : Nat) : Tally :=
  { t with files := t.files + m }

theorem walk_eq (root : Node) :
    (Walker.idle.add visitor).walk root =
      [((), .visitFile root)] ++ Walker.nodeCalls [visitor] root ++ [((), .leaveFile root)] :=
  rfl

theorem after_walk (h : t.depth ≤ t.maxDepth) (root : Node) :
    t.after ((Walker.idle.add visitor).walk root) =
      (t.plusFiles 1).plus (named root.preorder) (root.most ofCalculator) := by
  rw [walk_eq, after_append, after_append, after_singleton, after_singleton,
    after_nodeCalls _ (show (t.record (.visitFile root)).depth ≤ _ from h)]
  rfl

theorem leavesEntered_walk (h : t.depth ≤ t.maxDepth) (root : Node) :
    t.LeavesEntered ((Walker.idle.add visitor).walk root) := by
  have hvisit : t.LeavesEntered [((), .visitFile root)] :=
    leavesEntered_singleton fun _ he => by cases he
  rw [walk_eq]
  exact (hvisit.append (leavesEntered_nodeCalls (t.record (.visitFile root)) h root)).append
    (leavesEntered_singleton fun _ he => by cases he)

/-- Trees add up. -/
theorem after_walks (h : t.depth ≤ t.maxDepth) (roots : List Node) :
    t.after (roots.flatMap (Walker.idle.add visitor).walk) =
        (t.plusFiles roots.length).plus (named (Node.preorderList roots))
          (Node.mostIn ofCalculator roots) ∧
      t.LeavesEntered (roots.flatMap (Walker.idle.add visitor).walk) := by
  induction roots generalizing t with
  | nil =>
      refine ⟨?_, fun before n hp => by simp at hp⟩
      simp [after, plusFiles, plus, named, Node.preorderList, Node.mostIn, Nat.max_eq_left h]
  | cons root roots ih =>
      have hle := Nat.le_trans h (Nat.le_max_left t.maxDepth (t.depth + root.most ofCalculator))
      obtain ⟨hafter, hleaves⟩ :=
        ih (t := (t.plusFiles 1).plus (named root.preorder) (root.most ofCalculator)) hle
      rw [List.flatMap_cons, after_append, after_walk h]
      constructor
      · rw [hafter]
        simp [plusFiles, plus, named, Node.preorderList, Node.mostIn, Nat.max_assoc,
          Nat.add_max_add_left, Nat.add_assoc, Nat.add_comm 1]
      · refine (leavesEntered_walk h root).append ?_
        rwa [after_walk h]

/-- Adding a tally to a walker starts it over. -/
theorem after_walked (t : Tally) (roots : List Node) :
    t.after (walked roots) =
      ⟨roots.length, (named (Node.preorderList roots)).reverse, 0,
        Node.mostIn ofCalculator roots⟩ := by
  rw [walked, after_append]
  change zero.after _ = _
  rw [(after_walks (Nat.le_refl 0) roots).1]
  simp [plusFiles, plus, zero]

theorem leavesEntered_scan (t : Tally) (roots : List Node) :
    t.LeavesEntered (walked roots ++ (Walker.idle.add visitor).finish) := by
  have hinit : t.LeavesEntered [((), .init)] := leavesEntered_singleton fun _ he => by cases he
  have hread : zero.LeavesEntered [((), .subscriptions)] :=
    leavesEntered_singleton fun _ he => by cases he
  exact (LeavesEntered.append (hinit.append hread) (after_walks (Nat.le_refl 0) roots).2).append
    (leavesEntered_singleton fun _ he => by cases he)

theorem scan_eq (t : Tally) (roots : List Node) :
    t.scan roots =
      ⟨roots.length, (named (Node.preorderList roots)).reverse, 0,
        Node.mostIn ofCalculator roots⟩ := by
  rw [← after_walked t]
  change t.after (Walker.addCalls visitor ++ (roots.flatMap _ ++ [((), .destroy)])) = _
  rw [← List.append_assoc, after_append, after_singleton]
  rfl

/-! ### Counts -/

/-- Among the nodes that are visited, those with the name of a rule were made by it. -/
theorem kindName_and_ofCalculator_iff (h : rule ∈ ruleNames) (n : Node) :
    n.kindName = rule ∧ ofCalculator n = true ↔ n.isRule rule = true := by
  simp only [ofCalculator, List.any_eq_true, Node.isRule, Node.hasKind, decide_eq_true_eq]
  constructor
  · rintro ⟨hname, r, -, hr⟩
    simp only [Node.kindName, hr, NodeKind.name] at hname
    rw [hr, hname]
  · intro hr
    refine ⟨?_, rule, h, hr⟩
    simp only [Node.kindName, hr, NodeKind.name]

theorem count_named (h : rule ∈ ruleNames) (ns : List Node) :
    (named ns).count rule = ns.countP (·.isRule rule) := by
  rw [named, List.count_eq_countP, List.countP_map, List.countP_filter]
  refine List.countP_congr fun n _ => ?_
  simpa using kindName_and_ofCalculator_iff h n

theorem count_scan (t : Tally) (roots : List Node) (h : rule ∈ ruleNames) :
    (t.scan roots).count rule = occurrences roots rule := by
  rw [scan_eq, count, List.count_reverse, count_named h, occurrences]

/-! ### Reports -/

/-- The text has neither line feeds nor carriage returns. -/
def OnOneLine (s : String) : Prop :=
  ∀ c ∈ s.toList, c ≠ '\n' ∧ c ≠ '\r'

instance (s : String) : Decidable (OnOneLine s) :=
  decidable_of_iff (s.toList.all (fun c => decide (c ≠ '\n' ∧ c ≠ '\r')) = true)
    (by simp only [OnOneLine, List.all_eq_true, decide_eq_true_eq])

theorem OnOneLine.append {s s' : String} (h : OnOneLine s) (h' : OnOneLine s') :
    OnOneLine (s ++ s') := by
  rw [OnOneLine, String.toList_append]
  exact List.forall_mem_append.mpr ⟨h, h'⟩

theorem onOneLine_toString (n : Nat) : OnOneLine (toString n) := by
  intro c hc
  have hdigit := isDigit_of_mem_toString hc
  constructor <;> (rintro rfl; cases hdigit)

theorem onOneLine_ruleLine (h : OnOneLine rule) (n : Nat) : OnOneLine (ruleLine rule n) := by
  have hpad : OnOneLine (.ofList (List.replicate (12 - rule.length) ' ')) := by
    intro c hc
    rw [String.toList_ofList] at hc
    rw [List.eq_of_mem_replicate hc]
    decide
  exact ((hpad.append h).append (by decide)).append (onOneLine_toString n)

/-- The lines of a tally's report. -/
def reportLines (t : Tally) : List String :=
  ("files: " ++ toString t.files) :: ("deepest rule nesting: " ++ toString t.maxDepth) ::
    (ruleNames.filter fun r => t.count r ≠ 0).map fun r => ruleLine r (t.count r)

theorem onOneLine_reportLines (t : Tally) : ∀ line ∈ t.reportLines, OnOneLine line := by
  have hnames : ∀ r ∈ ruleNames, OnOneLine r := by decide
  have hfiles : OnOneLine "files: " := by decide
  have hdeepest : OnOneLine "deepest rule nesting: " := by decide
  refine List.forall_mem_cons.mpr ⟨hfiles.append (onOneLine_toString _),
    List.forall_mem_cons.mpr ⟨hdeepest.append (onOneLine_toString _), fun line hline => ?_⟩⟩
  obtain ⟨r, hr, rfl⟩ := List.mem_map.mp hline
  exact onOneLine_ruleLine (hnames r (List.mem_filter.mp hr).1) _

theorem toList_report (t : Tally) :
    t.report.toList = joinLines (t.reportLines.map String.toList) := by
  have hfeed : "\n".toList = ['\n'] := rfl
  simp only [report, reportLines, joinLines, ruleLine, String.toList_append, String.toList_join,
    hfeed, List.map_cons, List.map_map, List.flatMap_cons, List.flatMap_map, Function.comp_def,
    List.append_assoc]

/-- What is reported are these lines. -/
theorem textLines_report (t : Tally) :
    textLines t.report.toList = t.reportLines.map String.toList := by
  have hlines := t.onOneLine_reportLines
  have hfeeds : ∀ line ∈ t.reportLines.map String.toList, '\n' ∉ line := by
    intro line hline hmem
    obtain ⟨s, hs, rfl⟩ := List.mem_map.mp hline
    exact (hlines s hs _ hmem).1 rfl
  have hreturns : (t.reportLines.map String.toList).map dropReturn =
      t.reportLines.map String.toList := by
    rw [List.map_map]
    refine List.map_congr_left fun s hs => dropReturn_of_not_mem fun hmem => ?_
    exact (hlines s hs _ hmem).2 rfl
  have hlast : '\n' ∉ ([] : List Char) := List.not_mem_nil
  have htext := textLines_lines hfeeds hlast
  rw [List.append_nil, hreturns, if_pos rfl, List.append_nil] at htext
  rw [toList_report, htext]

/-- After a scan, the counts in the report are those of the trees. -/
theorem reportLines_scan (t : Tally) (roots : List Node) :
    (t.scan roots).reportLines =
      ("files: " ++ toString roots.length) ::
        ("deepest rule nesting: " ++ toString (t.scan roots).maxDepth) ::
        (ruleNames.filter fun r => occurrences roots r ≠ 0).map fun r =>
          ruleLine r (occurrences roots r) := by
  have hfiles : (t.scan roots).files = roots.length := congrArg files (t.scan_eq roots)
  have hrules : (ruleNames.filter fun r => (t.scan roots).count r ≠ 0) =
      ruleNames.filter fun r => occurrences roots r ≠ 0 :=
    List.filter_congr fun r hr => by rw [t.count_scan roots hr]
  rw [reportLines, hfiles, hrules]
  refine congrArg (_ :: _ :: ·) (List.map_congr_left fun r hr => ?_)
  rw [t.count_scan roots (List.mem_filter.mp hr).1]

end Tally

/-- **Tallies.**  The depth is never counted down from zero, and it is zero after each walk. -/
theorem scan_exact (t : Tally) (roots : List Node) :
    t.LeavesEntered
        (Walker.addCalls Tally.visitor ++ (Walker.idle.add Tally.visitor).scan roots) ∧
    (∀ walked later, roots = walked ++ later → (t.after (Tally.walked walked)).depth = 0) ∧
    (t.scan roots).files = roots.length ∧
    (∀ rule ∈ ruleNames, (t.scan roots).count rule = occurrences roots rule) ∧
    (∀ root ∈ roots, ∀ path, root.Descent path →
      path.countP ofCalculator ≤ (t.scan roots).maxDepth) ∧
    ((t.scan roots).maxDepth = 0 ∨ ∃ root ∈ roots, ∃ path, root.Descent path ∧
      path.countP ofCalculator = (t.scan roots).maxDepth) ∧
    textLines (t.scan roots).report.toList = List.map String.toList
      (("files: " ++ toString roots.length) ::
        ("deepest rule nesting: " ++ toString (t.scan roots).maxDepth) ::
        (ruleNames.filter fun rule => occurrences roots rule ≠ 0).map fun rule =>
          Tally.ruleLine rule (occurrences roots rule)) := by
  have hmost : (t.scan roots).maxDepth = Node.mostIn ofCalculator roots :=
    congrArg Tally.maxDepth (t.scan_eq roots)
  refine ⟨?_, fun walked _ _ => ?_, ?_, fun rule h => t.count_scan roots h,
    fun root hroot path hpath => ?_, ?_, ?_⟩
  · rw [Walker.scan, ← List.append_assoc]
    exact t.leavesEntered_scan roots
  · rw [t.after_walked]
  · rw [t.scan_eq]
  · rw [hmost]
    exact Nat.le_trans (Node.countP_le_most hpath) (Node.most_le_mostIn hroot)
  · rw [hmost]
    exact Node.exists_descent_mostIn ofCalculator roots
  · rw [Tally.textLines_report, t.reportLines_scan]

/-- A token of a kind with the name of a rule, and a rule of another grammar, are not counted. -/
example :
    let word : Node := ⟨some (.token ⟨"name"⟩), none, [⟨some (.rule "name"), none, []⟩]⟩
    let root : Node := ⟨some (.rule "term"), none, [⟨some (.rule "factor"), none, [word]⟩]⟩
    let t := Tally.zero.scan [root]
    t.count "name" = 1 ∧ t.count "factor" = 0 ∧ t.maxDepth = 2 := by
  decide

end Calculator

end Packrat
