import Mathlib.Data.List.Basic
import Mathlib.Data.List.Nodup
import Packrat.Proofs.Node.Places
import Packrat.Walk

/-!
# Proofs — Walk

What a walker's visitors are called for, from the first one that is added to the end.  A node can
hang in a tree more than once and the calls do not tell where, so every call is read as an `Entry`:
it says which visitor is called, by the number in the order of adding, and at which *place*, the
number of the walk and the path from its root.

Read like this, visits and leaves are brackets (`Nested`), every walk shows each visitor that was
added before it all places of the kinds it has subscribed to, and nothing else (`Complete`), and
each visitor's other calls are in between those for its start and its end (`Retired`):
**`calls_nested`** says so of every series of deeds.
-/

namespace Packrat

variable {ν : Type}

/-! ### Entries -/

/-- A call, with the number of the visitor that is called and the place it is called for, if it is
called during a walk. -/
structure Entry where
  who : Nat
  place : Option (Nat × List Nat)
  call : Call

namespace Call

def visitsFile : Call → Bool
  | visitFile _ => true
  | _ => false

def leavesFile : Call → Bool
  | leaveFile _ => true
  | _ => false

def visits : Call → Bool
  | visitNode _ => true
  | _ => false

def leaves : Call → Bool
  | leaveNode _ => true
  | _ => false

end Call

namespace Entry

/-- Is it one of the walk of the given number? -/
def inWalk (k : Nat) (e : Entry) : Bool :=
  e.place.any (·.1 = k)

/-- The first entry is left with the second one: of the same visitor, at the same place. -/
inductive ClosedBy : Entry → Entry → Prop where
  | file {who place root} :
      ClosedBy ⟨who, place, .visitFile root⟩ ⟨who, place, .leaveFile root⟩
  | node {who place n} : ClosedBy ⟨who, place, .visitNode n⟩ ⟨who, place, .leaveNode n⟩

/-- Called for no place. -/
def Apart (e : Entry) : Prop :=
  e.place = none ∧ (e.call = .init ∨ e.call = .subscriptions ∨ e.call = .destroy)

/-- Visits and leaves pair up, and what is between the two of a pair does so, too. -/
inductive Nested : List Entry → Prop where
  | nil : Nested []
  | apart {e es} : e.Apart → Nested es → Nested (e :: es)
  | pair {e e' es es'} : e.ClosedBy e' → Nested es → Nested es' → Nested (e :: (es ++ e' :: es'))

/-- The entries of a walk of the given number over a tree, with the visitors that have been
added. -/
structure Complete (vs : List (Visitor ν)) (k : Nat) (root : Node) (es : List Entry) : Prop where
  /-- Each visitor visits and leaves the tree once, and in between each place it has subscribed
  to. -/
  each : ∀ i v, vs[i]? = some v → ∃ inside,
    es.filter (·.who = i) =
      ⟨i, some (k, []), .visitFile root⟩ :: (inside ++ [⟨i, some (k, []), .leaveFile root⟩]) ∧
    inside.filter (·.call.visits) =
      ((root.places []).filter (v.isSubscribed ·.2)).map
        (fun o => ⟨i, some (k, o.1), .visitNode o.2⟩) ∧
    inside.filter (·.call.leaves) =
      ((root.placesUp []).filter (v.isSubscribed ·.2)).map
        (fun o => ⟨i, some (k, o.1), .leaveNode o.2⟩) ∧
    ∀ e ∈ inside, e.call.visits ∨ e.call.leaves
  /-- Nobody else is called. -/
  who_lt : ∀ e ∈ es, e.who < vs.length
  /-- Trees are visited in the order of adding. -/
  visitsFile : es.filter (·.call.visitsFile) =
    vs.zipIdx.map fun v => ⟨v.2, some (k, []), .visitFile root⟩
  /-- Trees are left in the reverse order. -/
  leavesFile : es.filter (·.call.leavesFile) =
    vs.zipIdx.reverse.map fun v => ⟨v.2, some (k, []), .leaveFile root⟩
  /-- Each place is visited in the order of adding. -/
  visits : es.filter (·.call.visits) = (root.places []).flatMap fun o =>
    (vs.zipIdx.filter (·.1.isSubscribed o.2)).map fun v => ⟨v.2, some (k, o.1), .visitNode o.2⟩
  /-- Each place is left in the reverse order. -/
  leaves : es.filter (·.call.leaves) = (root.placesUp []).flatMap fun o =>
    (vs.zipIdx.filter (·.1.isSubscribed o.2)).reverse.map fun v =>
      ⟨v.2, some (k, o.1), .leaveNode o.2⟩

/-- What a visitor is called for: it is started once, before anything else, and ended once, after
everything else, and all in between is part of a walk. -/
def Retired (i : Nat) (es : List Entry) : Prop :=
  ∃ during, es.filter (·.who = i) =
      ⟨i, none, .init⟩ :: ⟨i, none, .subscriptions⟩ :: (during ++ [⟨i, none, .destroy⟩]) ∧
    ∀ e ∈ during, e.place.isSome

end Entry

/-! ### Deeds -/

/-- Something that is done with a walker. -/
inductive Deed (ν : Type) where
  | add (v : Visitor ν)
  | walk (root : Node)

namespace Walker

/-- The walker after some deeds. -/
def after (w : Walker ν) : List (Deed ν) → Walker ν
  | [] => w
  | .add v :: r => (w.add v).after r
  | .walk _ :: r => w.after r

/-- The calls that some deeds lead to. -/
def calls (w : Walker ν) : List (Deed ν) → List (ν × Call)
  | [] => []
  | .add v :: r => addCalls v ++ (w.add v).calls r
  | .walk root :: r => w.walk root ++ w.calls r

end Walker

namespace Deed

/-- The visitors that are added. -/
def added : List (Deed ν) → List (Visitor ν)
  | [] => []
  | .add v :: r => v :: added r
  | .walk _ :: r => added r

/-- The trees that are walked, each with the visitors that have been added by then. -/
def walks (vs : List (Visitor ν)) : List (Deed ν) → List (List (Visitor ν) × Node)
  | [] => []
  | .add v :: r => walks (vs ++ [v]) r
  | .walk root :: r => (vs, root) :: walks vs r

end Deed

/-! ### The entries of one walk -/

namespace Entry

mutual

/-- The entries for a node and for all nodes below it, for visitors with their numbers. -/
def ofNode (vs : List (Visitor ν × Nat)) (k : Nat) (p : List Nat) : Node → List Entry
  | ⟨l, t, cs⟩ =>
    let node : Node := ⟨l, t, cs⟩
    let subscribed := vs.filter (·.1.isSubscribed node)
    subscribed.map (fun v => ⟨v.2, some (k, p), .visitNode node⟩) ++ ofNodes vs k p 0 cs ++
      subscribed.reverse.map (fun v => ⟨v.2, some (k, p), .leaveNode node⟩)

def ofNodes (vs : List (Visitor ν × Nat)) (k : Nat) (p : List Nat) (i : Nat) :
    List Node → List Entry
  | [] => []
  | n :: r => ofNode vs k (p ++ [i]) n ++ ofNodes vs k p (i + 1) r

end

/-- The entries of one walk. -/
def ofWalk (vs : List (Visitor ν × Nat)) (k : Nat) (root : Node) : List Entry :=
  vs.map (fun v => ⟨v.2, some (k, []), .visitFile root⟩) ++ ofNode vs k [] root ++
    vs.reverse.map (fun v => ⟨v.2, some (k, []), .leaveFile root⟩)

/-- The entries of the deeds to come and of the end, after visitors have been added and trees
walked. -/
def ofDeeds (vs : List (Visitor ν)) (k : Nat) : List (Deed ν) → List Entry
  | [] => vs.zipIdx.map fun v => ⟨v.2, none, .destroy⟩
  | .add v :: r =>
    ⟨vs.length, none, .init⟩ :: ⟨vs.length, none, .subscriptions⟩ :: ofDeeds (vs ++ [v]) k r
  | .walk root :: r => ofWalk vs.zipIdx k root ++ ofDeeds vs (k + 1) r

variable {vs : List (Visitor ν × Nat)} {v : Visitor ν × Nat} {es es' : List Entry} {i k : Nat}

namespace Nested

theorem append (h : Nested es) (h' : Nested es') : Nested (es ++ es') := by
  induction h with
  | nil => exact h'
  | apart ha _ ih => exact .apart ha ih
  | pair hc hin _ _ ih =>
      rw [List.cons_append, List.append_assoc, List.cons_append]
      exact .pair hc hin ih

/-- What visitors are called for in turn can be around it. -/
theorem around {enter leave : Visitor ν × Nat → Entry} (hc : ∀ v, (enter v).ClosedBy (leave v))
    (vs : List (Visitor ν × Nat)) (h : Nested es) :
    Nested (vs.map enter ++ es ++ vs.reverse.map leave) := by
  induction vs with
  | nil => simpa using h
  | cons v vs ih =>
      have hpair := Nested.pair (hc v) ih .nil
      simpa using hpair

end Nested

mutual

theorem nested_ofNode (vs : List (Visitor ν × Nat)) (k : Nat) (p : List Nat) :
    ∀ n : Node, Nested (ofNode vs k p n)
  | ⟨_, _, cs⟩ => (nested_ofNodes vs k p 0 cs).around (fun _ => .node) _

theorem nested_ofNodes (vs : List (Visitor ν × Nat)) (k : Nat) (p : List Nat) :
    ∀ (i : Nat) (ns : List Node), Nested (ofNodes vs k p i ns)
  | _, [] => .nil
  | i, n :: r => (nested_ofNode vs k (p ++ [i]) n).append (nested_ofNodes vs k p (i + 1) r)

end

theorem nested_ofWalk (vs : List (Visitor ν × Nat)) (k : Nat) (root : Node) :
    Nested (ofWalk vs k root) :=
  (nested_ofNode vs k [] root).around (fun _ => .file) vs

theorem nested_ofDeeds (vs : List (Visitor ν)) (k : Nat) (ds : List (Deed ν)) :
    Nested (ofDeeds vs k ds) := by
  induction ds generalizing vs k with
  | nil =>
      simp only [ofDeeds]
      induction vs.zipIdx with
      | nil => exact .nil
      | cons v vs ih => exact .apart ⟨rfl, .inr (.inr rfl)⟩ ih
  | cons d ds ih =>
      cases d with
      | add v => exact .apart ⟨rfl, .inl rfl⟩ (.apart ⟨rfl, .inr (.inl rfl)⟩ (ih _ _))
      | walk root => exact (nested_ofWalk _ _ _).append (ih _ _)

mutual

theorem visits_ofNode (vs : List (Visitor ν × Nat)) (k : Nat) (p : List Nat) :
    ∀ n : Node, (ofNode vs k p n).filter (·.call.visits) = (n.places p).flatMap fun o =>
      (vs.filter (·.1.isSubscribed o.2)).map fun v => ⟨v.2, some (k, o.1), .visitNode o.2⟩
  | ⟨l, t, cs⟩ => by
      simp only [ofNode, List.filter_append, visits_ofNodes vs k p 0 cs, Node.places,
        List.flatMap_cons]
      simp [List.filter_map, Function.comp_def, Call.visits]

theorem visits_ofNodes (vs : List (Visitor ν × Nat)) (k : Nat) (p : List Nat) :
    ∀ (i : Nat) (ns : List Node),
      (ofNodes vs k p i ns).filter (·.call.visits) = (Node.placesIn p i ns).flatMap fun o =>
        (vs.filter (·.1.isSubscribed o.2)).map fun v => ⟨v.2, some (k, o.1), .visitNode o.2⟩
  | _, [] => rfl
  | i, n :: r => by
      simp only [ofNodes, Node.placesIn, List.filter_append, List.flatMap_append,
        visits_ofNode vs k _ n, visits_ofNodes vs k p (i + 1) r]

end

mutual

theorem leaves_ofNode (vs : List (Visitor ν × Nat)) (k : Nat) (p : List Nat) :
    ∀ n : Node, (ofNode vs k p n).filter (·.call.leaves) = (n.placesUp p).flatMap fun o =>
      (vs.filter (·.1.isSubscribed o.2)).reverse.map fun v =>
        ⟨v.2, some (k, o.1), .leaveNode o.2⟩
  | ⟨l, t, cs⟩ => by
      simp only [ofNode, List.filter_append, leaves_ofNodes vs k p 0 cs, Node.placesUp,
        List.flatMap_append]
      simp [List.filter_map, Function.comp_def, Call.leaves]

theorem leaves_ofNodes (vs : List (Visitor ν × Nat)) (k : Nat) (p : List Nat) :
    ∀ (i : Nat) (ns : List Node),
      (ofNodes vs k p i ns).filter (·.call.leaves) = (Node.placesUpIn p i ns).flatMap fun o =>
        (vs.filter (·.1.isSubscribed o.2)).reverse.map fun v =>
          ⟨v.2, some (k, o.1), .leaveNode o.2⟩
  | _, [] => rfl
  | i, n :: r => by
      simp only [ofNodes, Node.placesUpIn, List.filter_append, List.flatMap_append,
        leaves_ofNode vs k _ n, leaves_ofNodes vs k p (i + 1) r]

end

/-- What an entry for nodes of a walk is. -/
def Inside (vs : List (Visitor ν × Nat)) (k : Nat) (e : Entry) : Prop :=
  (∃ v ∈ vs, e.who = v.2) ∧ e.inWalk k ∧ (e.call.visits ∨ e.call.leaves)

mutual

theorem inside_of_mem_ofNode {e : Entry} {p : List Nat} :
    ∀ {n : Node}, e ∈ ofNode vs k p n → Inside vs k e
  | ⟨l, t, cs⟩, h => by
      simp only [ofNode, List.mem_append, List.mem_map, List.mem_reverse] at h
      rcases h with (⟨v, hv, rfl⟩ | h) | ⟨v, hv, rfl⟩
      · exact ⟨⟨v, List.mem_of_mem_filter hv, rfl⟩, by simp [inWalk], .inl rfl⟩
      · exact inside_of_mem_ofNodes h
      · exact ⟨⟨v, List.mem_of_mem_filter hv, rfl⟩, by simp [inWalk], .inr rfl⟩

theorem inside_of_mem_ofNodes {e : Entry} {p : List Nat} :
    ∀ {i : Nat} {ns : List Node}, e ∈ ofNodes vs k p i ns → Inside vs k e
  | _, _ :: _, h => (List.mem_append.mp h).elim inside_of_mem_ofNode inside_of_mem_ofNodes

end

theorem Inside.not_file {e : Entry} (h : Inside vs k e) :
    e.call.visitsFile = false ∧ e.call.leavesFile = false := by
  obtain ⟨who, place, call⟩ := e
  obtain ⟨-, -, hc⟩ := h
  cases call with
  | visitNode n => exact ⟨rfl, rfl⟩
  | leaveNode n => exact ⟨rfl, rfl⟩
  | _ => simp [Call.visits, Call.leaves] at hc

theorem inWalk_of_mem_ofWalk {root : Node} {e : Entry} (h : e ∈ ofWalk vs k root) : e.inWalk k := by
  simp only [ofWalk, List.mem_append, List.mem_map] at h
  rcases h with (⟨v, -, rfl⟩ | h) | ⟨v, -, rfl⟩
  · simp [inWalk]
  · exact (inside_of_mem_ofNode h).2.1
  · simp [inWalk]

/-- Of the numbered visitors one has the number of a visitor. -/
theorem filter_zipIdx {vs : List (Visitor ν)} {v : Visitor ν} (h : vs[i]? = some v) (m : Nat) :
    (vs.zipIdx m).filter (·.2 = m + i) = [(v, m + i)] := by
  induction vs generalizing i m with
  | nil => cases h
  | cons u vs ih =>
      cases i with
      | zero =>
          cases h
          have hlater : (vs.zipIdx (m + 1)).filter (·.2 = m) = [] := by
            refine List.filter_eq_nil_iff.mpr fun o ho => ?_
            have := List.le_snd_of_mem_zipIdx ho
            simp only [decide_eq_true_eq]
            omega
          simpa [List.zipIdx_cons] using hlater
      | succ i =>
          have hnext := ih (by simpa using h) (m + 1)
          rw [Nat.add_right_comm, Nat.add_assoc] at hnext
          rw [List.zipIdx_cons, List.filter_cons_of_neg (by simp), hnext]

/-- A visitor is in the list once, if it passes. -/
theorem filter_who_map {vs : List (Visitor ν)} {v : Visitor ν} (h : vs[i]? = some v)
    (q : Visitor ν → Bool) {f : Visitor ν × Nat → Entry} (hf : ∀ v, (f v).who = v.2) :
    ((vs.zipIdx.filter (q ·.1)).map f).filter (·.who = i) = if q v then [f (v, i)] else [] := by
  have hone := filter_zipIdx h 0
  rw [Nat.zero_add] at hone
  simp only [List.filter_map, Function.comp_def, hf]
  rw [List.filter_comm, hone]
  cases hq : q v <;> simp [hq]

theorem filter_who_reverse_map {vs : List (Visitor ν)} {v : Visitor ν} (h : vs[i]? = some v)
    (q : Visitor ν → Bool) {f : Visitor ν × Nat → Entry} (hf : ∀ v, (f v).who = v.2) :
    ((vs.zipIdx.filter (q ·.1)).reverse.map f).filter (·.who = i) =
      if q v then [f (v, i)] else [] := by
  rw [List.map_reverse, List.filter_reverse, filter_who_map h q hf]
  split <;> rfl

theorem filter_who_flatMap {os : List (List Nat × Node)} {q : Node → Bool}
    {f : List Nat × Node → List Entry} {g : List Nat × Node → Entry}
    (h : ∀ o, (f o).filter (·.who = i) = if q o.2 then [g o] else []) :
    (os.flatMap f).filter (·.who = i) = (os.filter (q ·.2)).map g := by
  induction os with
  | nil => rfl
  | cons o os ih =>
      rw [List.flatMap_cons, List.filter_append, h, ih]
      cases hq : q o.2 <;> simp [hq]

theorem complete_ofWalk (vs : List (Visitor ν)) (k : Nat) (root : Node) :
    Complete vs k root (ofWalk vs.zipIdx k root) where
  each := by
    intro i v h
    have hfiles := filter_who_map h (fun _ => true)
      (f := fun v => ⟨v.2, some (k, []), .visitFile root⟩) (fun _ => rfl)
    have hleave := filter_who_reverse_map h (fun _ => true)
      (f := fun v => ⟨v.2, some (k, []), .leaveFile root⟩) (fun _ => rfl)
    rw [List.filter_true] at hfiles hleave
    refine ⟨(ofNode vs.zipIdx k [] root).filter (·.who = i), ?_, ?_, ?_, fun e he => ?_⟩
    · rw [ofWalk, List.filter_append, List.filter_append, hfiles, hleave]
      simp
    · rw [List.filter_comm, visits_ofNode]
      exact filter_who_flatMap fun o => filter_who_map h (·.isSubscribed o.2) fun _ => rfl
    · rw [List.filter_comm, leaves_ofNode]
      exact filter_who_flatMap fun o => filter_who_reverse_map h (·.isSubscribed o.2) fun _ => rfl
    · exact (inside_of_mem_ofNode (List.mem_of_mem_filter he)).2.2
  who_lt := by
    have hlt : ∀ v ∈ vs.zipIdx, v.2 < vs.length := fun v hv => by
      simpa using List.snd_lt_add_of_mem_zipIdx hv
    intro e he
    simp only [ofWalk, List.mem_append, List.mem_map, List.mem_reverse] at he
    rcases he with (⟨v, hv, rfl⟩ | he) | ⟨v, hv, rfl⟩
    · exact hlt v hv
    · obtain ⟨⟨v, hv, hwho⟩, -⟩ := inside_of_mem_ofNode he
      exact hwho ▸ hlt v hv
    · exact hlt v hv
  visitsFile := by
    have hinside : (ofNode vs.zipIdx k [] root).filter (·.call.visitsFile) = [] :=
      List.filter_eq_nil_iff.mpr fun e he => by simp [(inside_of_mem_ofNode he).not_file]
    rw [ofWalk, List.filter_append, List.filter_append, hinside]
    simp [List.filter_map, Function.comp_def, Call.visitsFile]
  leavesFile := by
    have hinside : (ofNode vs.zipIdx k [] root).filter (·.call.leavesFile) = [] :=
      List.filter_eq_nil_iff.mpr fun e he => by simp [(inside_of_mem_ofNode he).not_file]
    rw [ofWalk, List.filter_append, List.filter_append, hinside]
    simp [List.filter_map, Function.comp_def, Call.leavesFile]
  visits := by
    rw [ofWalk, List.filter_append, List.filter_append, visits_ofNode]
    simp [List.filter_map, Function.comp_def, Call.visits]
  leaves := by
    rw [ofWalk, List.filter_append, List.filter_append, leaves_ofNode]
    simp [List.filter_map, Function.comp_def, Call.leaves]

/-! ### The entries of all deeds -/

theorem not_inWalk_of_ne {e : Entry} {m : Nat} (h : e.inWalk k) (hm : k ≠ m) :
    e.inWalk m = false := by
  obtain ⟨who, place, call⟩ := e
  cases place with
  | none => rfl
  | some p =>
      have hp : p.1 = k := by simpa [inWalk] using h
      simpa [inWalk, hp] using hm

/-- Walks are numbered in their order. -/
theorem walk_of_mem_ofDeeds {vs : List (Visitor ν)} {ds : List (Deed ν)} {e : Entry}
    (h : e ∈ ofDeeds vs k ds) :
    e.Apart ∨ ∃ j, j < (Deed.walks vs ds).length ∧ e.inWalk (k + j) := by
  induction ds generalizing vs k with
  | nil =>
      obtain ⟨i, -, rfl⟩ := List.mem_map.mp h
      exact .inl ⟨rfl, .inr (.inr rfl)⟩
  | cons d ds ih =>
      cases d with
      | add v =>
          rcases List.mem_cons.mp h with rfl | h
          · exact .inl ⟨rfl, .inl rfl⟩
          rcases List.mem_cons.mp h with rfl | h
          · exact .inl ⟨rfl, .inr (.inl rfl)⟩
          · exact ih h
      | walk root =>
          rcases List.mem_append.mp h with h | h
          · exact .inr ⟨0, Nat.zero_lt_succ _, inWalk_of_mem_ofWalk h⟩
          · refine (ih h).imp_right fun ⟨j, hj, hw⟩ => ⟨j + 1, Nat.succ_lt_succ hj, ?_⟩
            rwa [Nat.add_right_comm, Nat.add_assoc] at hw

theorem filter_inWalk_eq_nil {vs : List (Visitor ν)} {ds : List (Deed ν)} {m : Nat} (hm : m < k) :
    (ofDeeds vs k ds).filter (·.inWalk m) = [] := by
  refine List.filter_eq_nil_iff.mpr fun e he => ?_
  rcases walk_of_mem_ofDeeds he with ⟨hplace, -⟩ | ⟨j, -, hw⟩
  · simp [inWalk, hplace]
  · simp [not_inWalk_of_ne hw (m := m) (by omega)]

/-- The entries of the walk with a number are those of that walk. -/
theorem filter_inWalk {vs us : List (Visitor ν)} {ds : List (Deed ν)} {root : Node} {j : Nat}
    (h : (Deed.walks vs ds)[j]? = some (us, root)) :
    (ofDeeds vs k ds).filter (·.inWalk (k + j)) = ofWalk us.zipIdx (k + j) root := by
  induction ds generalizing vs k j with
  | nil => cases h
  | cons d ds ih =>
      cases d with
      | add v => exact ih h
      | walk tree =>
          simp only [ofDeeds, List.filter_append]
          cases j with
          | zero =>
              cases h
              rw [Nat.add_zero, filter_inWalk_eq_nil (Nat.lt_succ_self k), List.append_nil]
              exact List.filter_eq_self.mpr fun e he => inWalk_of_mem_ofWalk he
          | succ j =>
              have hfirst : (ofWalk vs.zipIdx k tree).filter (·.inWalk (k + (j + 1))) = [] :=
                List.filter_eq_nil_iff.mpr fun e he => by
                  simp [not_inWalk_of_ne (inWalk_of_mem_ofWalk he) (m := k + (j + 1)) (by omega)]
              rw [hfirst, List.nil_append, ← Nat.add_assoc, Nat.add_right_comm]
              exact ih h

/-- A visitor that has been added is ended after all else. -/
theorem ended {vs : List (Visitor ν)} (h : i < vs.length) (k : Nat) (ds : List (Deed ν)) :
    ∃ during, (ofDeeds vs k ds).filter (·.who = i) = during ++ [⟨i, none, .destroy⟩] ∧
      ∀ e ∈ during, e.place.isSome := by
  induction ds generalizing vs k with
  | nil =>
      refine ⟨[], ?_, fun e he => by cases he⟩
      have hone := filter_who_map (List.getElem?_eq_getElem h) (fun _ => true)
        (f := fun v => ⟨v.2, none, .destroy⟩) (fun _ => rfl)
      simpa [ofDeeds] using hone
  | cons d ds ih =>
      cases d with
      | add v =>
          have hmore : i < (vs ++ [v]).length := by rw [List.length_append]; omega
          obtain ⟨during, heq, hd⟩ := ih hmore k
          refine ⟨during, ?_, hd⟩
          rw [ofDeeds, List.filter_cons_of_neg (by simp; omega),
            List.filter_cons_of_neg (by simp; omega), heq]
      | walk root =>
          obtain ⟨during, heq, hd⟩ := ih h (k + 1)
          refine ⟨(ofWalk vs.zipIdx k root).filter (·.who = i) ++ during, ?_, fun e he => ?_⟩
          · rw [ofDeeds, List.filter_append, heq, List.append_assoc]
          · rcases List.mem_append.mp he with he | he
            · have := inWalk_of_mem_ofWalk (List.mem_of_mem_filter he)
              exact Option.isSome_of_any this
            · exact hd e he

/-- A visitor that will be added is started before all else. -/
theorem retired_ofDeeds {vs : List (Visitor ν)} (hi : vs.length ≤ i) (k : Nat) {ds : List (Deed ν)}
    (h : i < vs.length + (Deed.added ds).length) : Retired i (ofDeeds vs k ds) := by
  induction ds generalizing vs k with
  | nil => exact absurd h (Nat.not_lt.mpr hi)
  | cons d ds ih =>
      cases d with
      | add v =>
          rcases Nat.eq_or_lt_of_le hi with rfl | hlt
          · have hlast : vs.length < (vs ++ [v]).length := by simp
            obtain ⟨during, heq, hd⟩ := ended hlast k ds
            refine ⟨during, ?_, hd⟩
            rw [ofDeeds, List.filter_cons_of_pos (by simp), List.filter_cons_of_pos (by simp), heq]
          · have hmore : (vs ++ [v]).length ≤ i := by rw [List.length_append]; exact hlt
            have hrest := ih hmore k
              (by simp only [List.length_append, Deed.added, List.length_cons] at h ⊢; omega)
            have hne : vs.length ≠ i := Nat.ne_of_lt hlt
            rw [Retired, ofDeeds, List.filter_cons_of_neg (by simpa using hne),
              List.filter_cons_of_neg (by simpa using hne)]
            exact hrest
      | walk root =>
          obtain ⟨during, heq, hd⟩ := ih hi (k + 1) h
          refine ⟨during, ?_, hd⟩
          have hnone : (ofWalk vs.zipIdx k root).filter (·.who = i) = [] :=
            List.filter_eq_nil_iff.mpr fun e he => by
              have := (complete_ofWalk vs k root).who_lt e he
              simp; omega
          rw [ofDeeds, List.filter_append, hnone, List.nil_append, heq]

/-! ### Entries and calls -/

/-- The entries are the calls, with the names of the visitors that have the numbers. -/
def Spell (all : List (Visitor ν)) (es : List Entry) (cs : List (ν × Call)) : Prop :=
  es.map (fun e => (all[e.who]?.map (·.name), e.call)) = cs.map fun c => (some c.1, c.2)

variable {all : List (Visitor ν)}

theorem Spell.append {cs cs' : List (ν × Call)} (h : Spell all es cs) (h' : Spell all es' cs') :
    Spell all (es ++ es') (cs ++ cs') := by
  rw [Spell, List.map_append, h, h', List.map_append]

theorem spell_map {f : Visitor ν × Nat → Entry} {c : Call} (hv : ∀ v ∈ vs, all[v.2]? = some v.1)
    (hf : ∀ v, (f v).who = v.2 ∧ (f v).call = c) :
    Spell all (vs.map f) ((vs.map Prod.fst).map fun v => (v.name, c)) := by
  simp only [Spell, List.map_map]
  refine List.map_congr_left fun v hmem => ?_
  simp only [Function.comp_def, (hf v).1, (hf v).2, hv v hmem, Option.map_some]

theorem spell_reverse_map {f : Visitor ν × Nat → Entry} {c : Call}
    (hv : ∀ v ∈ vs, all[v.2]? = some v.1) (hf : ∀ v, (f v).who = v.2 ∧ (f v).call = c) :
    Spell all (vs.reverse.map f) ((vs.map Prod.fst).reverse.map fun v => (v.name, c)) := by
  rw [← List.map_reverse]
  exact spell_map (fun v hmem => hv v (List.mem_reverse.mp hmem)) hf

mutual

theorem spell_ofNode (hv : ∀ v ∈ vs, all[v.2]? = some v.1) (k : Nat) (p : List Nat) :
    ∀ n : Node, Spell all (ofNode vs k p n) (Walker.nodeCalls (vs.map Prod.fst) n)
  | ⟨l, t, cs⟩ => by
      have hsub : ∀ v ∈ vs.filter (·.1.isSubscribed ⟨l, t, cs⟩), all[v.2]? = some v.1 :=
        fun v hmem => hv v (List.mem_of_mem_filter hmem)
      simp only [ofNode, Walker.nodeCalls, List.filter_map, Function.comp_def]
      refine Spell.append (Spell.append ?_ (spell_ofNodes hv k p 0 cs)) ?_
      · exact spell_map hsub fun _ => ⟨rfl, rfl⟩
      · exact spell_reverse_map hsub fun _ => ⟨rfl, rfl⟩

theorem spell_ofNodes (hv : ∀ v ∈ vs, all[v.2]? = some v.1) (k : Nat) (p : List Nat) :
    ∀ (i : Nat) (ns : List Node),
      Spell all (ofNodes vs k p i ns) (Walker.nodesCalls (vs.map Prod.fst) ns)
  | _, [] => rfl
  | i, n :: r => (spell_ofNode hv k (p ++ [i]) n).append (spell_ofNodes hv k p (i + 1) r)

end

theorem spell_ofWalk {w : Walker ν} (h : w.visitors <+: all) (k : Nat) (root : Node) :
    Spell all (ofWalk w.visitors.zipIdx k root) (w.walk root) := by
  have hv : ∀ v ∈ w.visitors.zipIdx, all[v.2]? = some v.1 := fun v hmem => by
    have hat := List.mem_zipIdx_iff_getElem?.mp hmem
    obtain ⟨rest, rfl⟩ := h
    rwa [List.getElem?_append_left (List.getElem?_eq_some_iff.mp hat).1]
  have hfst : w.visitors.zipIdx.map Prod.fst = w.visitors := List.zipIdx_map_fst 0 _
  have hfiles := spell_map (f := fun v => ⟨v.2, some (k, []), .visitFile root⟩) hv
    fun _ => ⟨rfl, rfl⟩
  have hleave := spell_reverse_map (f := fun v => ⟨v.2, some (k, []), .leaveFile root⟩) hv
    fun _ => ⟨rfl, rfl⟩
  have hnodes := spell_ofNode hv k [] root
  rw [hfst] at hfiles hleave hnodes
  exact (hfiles.append hnodes).append hleave

theorem spell_ofDeeds {w : Walker ν} {ds : List (Deed ν)} (h : w.visitors ++ Deed.added ds = all)
    (k : Nat) :
    Spell all (ofDeeds w.visitors k ds) (w.calls ds ++ (w.after ds).finish) := by
  induction ds generalizing w k with
  | nil =>
      have hv : ∀ v ∈ w.visitors.zipIdx, all[v.2]? = some v.1 := fun v hmem => by
        rw [← h, Deed.added, List.append_nil]
        exact List.mem_zipIdx_iff_getElem?.mp hmem
      have hend := spell_map (f := fun v => ⟨v.2, none, .destroy⟩) hv fun _ => ⟨rfl, rfl⟩
      rwa [List.zipIdx_map_fst] at hend
  | cons d ds ih =>
      cases d with
      | add v =>
          have hname : all[w.visitors.length]? = some v := by
            rw [← h, List.getElem?_append_right (Nat.le_refl _), Nat.sub_self]
            rfl
          have hstart : Spell all [⟨w.visitors.length, none, .init⟩,
              ⟨w.visitors.length, none, .subscriptions⟩] (Walker.addCalls v) := by
            simp [Spell, Walker.addCalls, hname]
          rw [Walker.calls, List.append_assoc]
          refine hstart.append (ih (w := w.add v) ?_ k)
          rw [← h, Walker.add, List.append_assoc]
          rfl
      | walk root =>
          rw [Walker.calls, List.append_assoc]
          exact (spell_ofWalk (h ▸ List.prefix_append _ _) k root).append (ih h (k + 1))

end Entry

/-! ### Sessions -/

theorem Deed.added_append_walks (ds : List (Deed ν)) (roots : List Node) :
    added (ds ++ roots.map .walk) = added ds := by
  induction ds with
  | nil =>
      induction roots with
      | nil => rfl
      | cons root roots ih => exact ih
  | cons d ds ih =>
      cases d with
      | add v => exact congrArg (v :: ·) ih
      | walk root => exact ih

namespace Walker

/-- To scan trees is to walk them one after the other and then to finish. -/
theorem calls_scan (w : Walker ν) (ds : List (Deed ν)) (roots : List Node) :
    w.calls (ds ++ roots.map .walk) ++ (w.after (ds ++ roots.map .walk)).finish =
      w.calls ds ++ (w.after ds).scan roots := by
  induction ds generalizing w with
  | nil =>
      induction roots with
      | nil => rfl
      | cons root roots ih =>
          simp only [List.nil_append, List.map_cons, calls, after, scan, List.flatMap_cons,
            List.append_assoc] at ih ⊢
          rw [ih]
  | cons d ds ih =>
      cases d with
      | add v => simp only [List.cons_append, calls, after, List.append_assoc, ih]
      | walk root => simp only [List.cons_append, calls, after, List.append_assoc, ih]

/-- **Sessions.**  Whatever is done with a walker until some trees are scanned, or none
(`Walker.finish`), the calls are those of entries that nest, show all there is to see in each walk,
and come after the start and before the end of the visitor that is called. -/
theorem calls_nested (ds : List (Deed ν)) (roots : List Node) :
    ∃ es : List Entry,
      Entry.Spell (Deed.added ds) es (idle.calls ds ++ (idle.after ds).scan roots) ∧
      Entry.Nested es ∧
      (∀ k vs root, (Deed.walks [] (ds ++ roots.map .walk))[k]? = some (vs, root) →
        Entry.Complete vs k root (es.filter (·.inWalk k))) ∧
      (∀ e ∈ es, e.Apart ∨
        ∃ k, k < (Deed.walks [] (ds ++ roots.map .walk)).length ∧ e.inWalk k) ∧
      ∀ i, i < (Deed.added ds).length → Entry.Retired i es := by
  have hadded := Deed.added_append_walks ds roots
  refine ⟨Entry.ofDeeds [] 0 (ds ++ roots.map .walk), ?_, Entry.nested_ofDeeds _ _ _,
    fun k vs root h => ?_, fun e he => ?_, fun i hi => ?_⟩
  · rw [← calls_scan]
    exact Entry.spell_ofDeeds (w := idle) hadded 0
  · have hwalk := Entry.filter_inWalk (k := 0) h
    rw [Nat.zero_add] at hwalk
    rw [hwalk]
    exact Entry.complete_ofWalk vs k root
  · have hwalk := Entry.walk_of_mem_ofDeeds he
    simpa only [Nat.zero_add] using hwalk
  · exact Entry.retired_ofDeeds (Nat.zero_le i) 0 (by rwa [hadded, List.length_nil, Nat.zero_add])

end Walker

end Packrat
