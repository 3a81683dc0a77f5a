import Mathlib.Order.Bounds.Basic
import Packrat.Proofs.Text.Position
import Packrat.Text.Span

/-!
# Proofs — Text — Join

Spans added up.  Carets are linearly ordered, and spans are ordered by what they cover: a span is
at most another one if that one starts no later and stops no earlier.  In this order the sum of two
spans is their least upper bound.

**Ends** (`Span.Composition.isLeast_start`, `Span.Composition.isGreatest_stop`): however a span is
built from carets, it starts at the least of them and stops at the greatest.

**Sums** (`Span.Grouping.total_le_iff`): whatever is added first, a sum of spans is the least one
that covers all of them.  There is only one such span, so neither order nor grouping makes a
difference (`Span.add_least_upper_bound`).
-/

namespace Packrat

/-! ### Carets -/

namespace Caret

variable {a b : Caret}

theorem le_antisymm (h : a ≤ b) (h' : b ≤ a) : a = b := by
  obtain ⟨l, c⟩ := a
  obtain ⟨l', c'⟩ := b
  simp only [le_def] at h h'
  simp only [mk.injEq]
  omega

theorem le_total (a b : Caret) : a ≤ b ∨ b ≤ a := by
  simp only [le_def]
  omega

theorem lt_iff_le_not_le : a < b ↔ a ≤ b ∧ ¬ b ≤ a := by
  simp only [lt_def, le_def]
  omega

theorem compare_eq_compareOfLessAndEq (a b : Caret) : compare a b = compareOfLessAndEq a b := by
  unfold compareOfLessAndEq
  split
  case isTrue hlt => exact compare_eq_lt_iff.mpr hlt
  case isFalse hlt =>
    have hle : b ≤ a := by
      by_contra hle
      exact hlt (lt_iff_le_not_le.mpr ⟨(le_total a b).resolve_right hle, hle⟩)
    split
    case isTrue heq => rw [heq, compare_self]
    case isFalse hne =>
      have hgt : b < a := lt_iff_le_not_le.mpr ⟨hle, fun h => hne (le_antisymm h hle)⟩
      exact compare_eq_gt_iff.mpr hgt

instance : LinearOrder Caret where
  le_refl := le_refl
  le_trans _ _ _ := le_trans
  le_antisymm _ _ := le_antisymm
  le_total := le_total
  lt_iff_le_not_ge _ _ := lt_iff_le_not_le
  toDecidableLE := inferInstance
  toDecidableEq := inferInstance
  toDecidableLT := inferInstance
  min_def := min_def
  max_def := max_def
  compare_eq_compareOfLessAndEq := compare_eq_compareOfLessAndEq

end Caret

namespace Span

variable {a b s : Span} {k : Caret}

/-! ### Ends -/

theorem start_between (k k' : Caret) : (between k k').start = min k k' := rfl

theorem stop_between (k k' : Caret) : (between k k').stop = max k k' := rfl

theorem start_point (k : Caret) : (point k).start = k := min_self k

theorem stop_point (k : Caret) : (point k).stop = k := max_self k

theorem min_start_le_max_stop (a b : Span) : min a.start b.start ≤ max a.stop b.stop :=
  calc min a.start b.start
      ≤ a.start := min_le_left _ _
    _ ≤ a.stop := a.ordered
    _ ≤ max a.stop b.stop := le_max_left _ _

/-- A sum starts at the smaller start. -/
theorem start_add (a b : Span) : (a + b).start = min a.start b.start :=
  -- the two ends are given to `between` in order
  min_eq_left (min_start_le_max_stop a b)

/-- A sum stops at the larger stop. -/
theorem stop_add (a b : Span) : (a + b).stop = max a.stop b.stop :=
  max_eq_right (min_start_le_max_stop a b)

theorem eq_of_ends (hstart : a.start = b.start) (hstop : a.stop = b.stop) : a = b := by
  obtain ⟨start, stop, _⟩ := a
  obtain ⟨start', stop', _⟩ := b
  obtain rfl : start = start' := hstart
  obtain rfl : stop = stop' := hstop
  rfl

/-! ### Covering -/

/-- A span is at most another one if that one starts no later and stops no earlier. -/
instance : LE Span :=
  ⟨fun a b => b.start ≤ a.start ∧ a.stop ≤ b.stop⟩

theorem le_def : a ≤ b ↔ b.start ≤ a.start ∧ a.stop ≤ b.stop :=
  Iff.rfl

instance : PartialOrder Span where
  le_refl s := ⟨le_refl s.start, le_refl s.stop⟩
  le_trans _ _ _ h h' := ⟨h'.1.trans h.1, h.2.trans h'.2⟩
  le_antisymm _ _ h h' := eq_of_ends (h'.1.antisymm h.1) (h.2.antisymm h'.2)

instance : SemilatticeSup Span where
  sup := (· + ·)
  le_sup_left a b := by
    rw [le_def, start_add, stop_add]
    exact ⟨min_le_left _ _, le_max_left _ _⟩
  le_sup_right a b := by
    rw [le_def, start_add, stop_add]
    exact ⟨min_le_right _ _, le_max_right _ _⟩
  sup_le a b s ha hb := by
    rw [le_def, start_add, stop_add]
    exact ⟨le_min ha.1 hb.1, max_le ha.2 hb.2⟩

theorem add_eq_sup (a b : Span) : a + b = a ⊔ b := rfl

/-- A span contains the carets of the spans that it covers. -/
theorem contains_of_le (h : a ≤ b) (hk : a.contains k) : b.contains k := by
  simp only [contains, decide_eq_true_eq] at hk ⊢
  exact ⟨h.1.trans hk.1, hk.2.trans_le h.2⟩

/-! ### Spans as they are built -/

/-- A way to build a span from carets. -/
inductive Composition
  | origin
  | point (k : Caret)
  | between (k k' : Caret)
  | add (x y : Composition)

namespace Composition

/-- The span that is built. -/
def span : Composition → Span
  | origin => .origin
  | point k => .point k
  | between k k' => .between k k'
  | add x y => x.span + y.span

/-- The carets that it is built from. -/
def carets : Composition → Set Caret
  | origin => {.origin}
  | point k => {k}
  | between k k' => {k, k'}
  | add x y => x.carets ∪ y.carets

/-- **Ends**: the start is the least of the carets. -/
theorem isLeast_start (x : Composition) : IsLeast x.carets x.span.start := by
  induction x with
  | origin =>
      rw [span, Span.origin, start_point]
      exact isLeast_singleton
  | point k =>
      rw [span, start_point]
      exact isLeast_singleton
  | between k k' =>
      rw [span, start_between]
      exact isLeast_pair
  | add x y ihx ihy =>
      rw [span, start_add]
      exact ihx.union ihy

/-- **Ends**: the stop is the greatest of the carets. -/
theorem isGreatest_stop (x : Composition) : IsGreatest x.carets x.span.stop := by
  induction x with
  | origin =>
      rw [span, Span.origin, stop_point]
      exact isGreatest_singleton
  | point k =>
      rw [span, stop_point]
      exact isGreatest_singleton
  | between k k' =>
      rw [span, stop_between]
      exact isGreatest_pair
  | add x y ihx ihy =>
      rw [span, stop_add]
      exact ihx.union ihy

theorem start_le_stop (x : Composition) : x.span.start ≤ x.span.stop :=
  x.isLeast_start.2 x.isGreatest_stop.1

end Composition

/-! ### Sums of many spans -/

/-- Spans that are to be added, and in which pairs. -/
inductive Grouping
  | single (s : Span)
  | add (x y : Grouping)

namespace Grouping

/-- The spans from left to right. -/
def spans : Grouping → List Span
  | single s => [s]
  | add x y => x.spans ++ y.spans

/-- The sum. -/
def total : Grouping → Span
  | single s => s
  | add x y => x.total + y.total

theorem spans_ne_nil (x : Grouping) : x.spans ≠ [] := by
  induction x with
  | single s => exact List.cons_ne_nil s []
  | add x y ihx _ => exact List.append_ne_nil_of_left_ne_nil ihx _

/-- **Sums.** -/
theorem total_le_iff (x : Grouping) : x.total ≤ s ↔ ∀ a ∈ x.spans, a ≤ s := by
  induction x with
  | single a => rw [total, spans, List.forall_mem_singleton]
  | add x y ihx ihy => rw [total, spans, add_eq_sup, sup_le_iff, ihx, ihy, List.forall_mem_append]

end Grouping

variable {x : Grouping} {ss : List Span}

/-- Adding one span after the other gives the least span that covers them, too. -/
theorem foldl_add_le_iff (a : Span) (ss : List Span) :
    ss.foldl (· + ·) a ≤ s ↔ ∀ b ∈ a :: ss, b ≤ s := by
  induction ss generalizing a with
  | nil => rw [List.foldl_nil, List.forall_mem_singleton]
  | cons b ss ih =>
      rw [List.foldl_cons, ih, add_eq_sup]
      simp only [List.forall_mem_cons, sup_le_iff, and_assoc]

/-- Only which spans are added makes a difference, not when or how often. -/
theorem Grouping.total_eq_foldl (h : ∀ b, b ∈ x.spans ↔ b ∈ a :: ss) :
    x.total = ss.foldl (· + ·) a := by
  -- a span is told by the spans that cover it
  refine eq_of_forall_ge_iff fun s => ?_
  rw [x.total_le_iff, foldl_add_le_iff]
  exact forall_congr' fun b => imp_congr_left (h b)

/-- **Sums of spans.**  A span that is built from carets starts at the least of them and stops at
the greatest, so it starts no later than it stops.  Addition is commutative, associative and
idempotent.  The sum of two spans starts at the smaller start, stops at the larger stop, contains
every caret that one of them contains, and is covered by exactly those spans that cover both.
However the spans of a non-empty list are ordered and grouped, they add up to what adding one after
the other gives. -/
theorem add_least_upper_bound :
    (∀ x : Composition, x.span.start ≤ x.span.stop ∧ IsLeast x.carets x.span.start ∧
      IsGreatest x.carets x.span.stop) ∧
    (∀ a b c : Span, a + b = b + a ∧ a + b + c = a + (b + c) ∧ a + a = a) ∧
    (∀ a b : Span, (a + b).start = min a.start b.start ∧ (a + b).stop = max a.stop b.stop ∧
      (∀ k, a.contains k ∨ b.contains k → (a + b).contains k) ∧
      ∀ s, a + b ≤ s ↔ a ≤ s ∧ b ≤ s) ∧
    ∀ (a : Span) (ss : List Span) (x : Grouping), x.spans.Perm (a :: ss) →
      x.total = ss.foldl (· + ·) a := by
  refine ⟨fun x => ⟨x.start_le_stop, x.isLeast_start, x.isGreatest_stop⟩,
    fun a b c => ⟨sup_comm a b, sup_assoc a b c, sup_idem a⟩,
    fun a b => ⟨start_add a b, stop_add a b, fun k hk => ?_, fun s => sup_le_iff⟩,
    fun a ss x h => Grouping.total_eq_foldl fun b => h.mem_iff⟩
  rcases hk with ha | hb
  · exact contains_of_le le_sup_left ha
  · exact contains_of_le le_sup_right hb

/-- Two words with a gap between them, and a span of two lines that is given from its end: added
from the last to the first, in two groupings. -/
theorem lines_added_backwards :
    (between ⟨1, 10⟩ ⟨1, 11⟩).contains ⟨1, 10⟩ ∧
    (between ⟨1, 1⟩ ⟨1, 4⟩ + between ⟨1, 10⟩ ⟨1, 11⟩).contains ⟨1, 10⟩ ∧
    (Grouping.add (.single (between ⟨3, 2⟩ ⟨2, 5⟩)) (.add (.single (between ⟨1, 10⟩ ⟨1, 11⟩))
      (.single (between ⟨1, 1⟩ ⟨1, 4⟩)))).spans.Perm
        [between ⟨1, 1⟩ ⟨1, 4⟩, between ⟨1, 10⟩ ⟨1, 11⟩, between ⟨3, 2⟩ ⟨2, 5⟩] ∧
    (Grouping.add (.single (between ⟨3, 2⟩ ⟨2, 5⟩)) (.add (.single (between ⟨1, 10⟩ ⟨1, 11⟩))
      (.single (between ⟨1, 1⟩ ⟨1, 4⟩)))).total = between ⟨1, 1⟩ ⟨3, 2⟩ := by
  have hk : (between ⟨1, 10⟩ ⟨1, 11⟩).contains ⟨1, 10⟩ := by decide
  have hperm : (Grouping.add (.single (between ⟨3, 2⟩ ⟨2, 5⟩))
      (.add (.single (between ⟨1, 10⟩ ⟨1, 11⟩)) (.single (between ⟨1, 1⟩ ⟨1, 4⟩)))).spans.Perm
        [between ⟨1, 1⟩ ⟨1, 4⟩, between ⟨1, 10⟩ ⟨1, 11⟩, between ⟨3, 2⟩ ⟨2, 5⟩] :=
    List.reverse_perm [_, _, _]
  obtain ⟨-, -, hpairs, hlists⟩ := add_least_upper_bound
  refine ⟨hk, (hpairs _ _).2.2.1 _ (.inr hk), hperm, ?_⟩
  rw [hlists _ _ _ hperm]
  decide

end Span

end Packrat
