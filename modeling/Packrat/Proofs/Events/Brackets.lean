import Packrat.Parse.Log

/-!
# Proofs — Events — Brackets

Events as brackets.  What is entered is open until it is left, and what was entered last is left
first, so the open entries are a stack (`Event.openAfter`).  `Nests leads closes st es st'` reads
the events `es` where `st` is open, the innermost first, and has `st'` open in the end: every entry
is one to which all that is open `leads`, and the innermost open entry is the one that an exit
`closes`.

Events that leave nothing open are `Balanced`.  Those that leave something open can be continued to
balanced ones (`exists_balanced_append`).  In the log, a rule is left at the depth at which it was
entered (`logged_alike`).
-/

namespace Packrat

namespace Event

/-- Is it about a rule? -/
def ofRule (e : Event) : Bool :=
  match e.subject with
  | .rule _ => true
  | .matcher _ => false

/-- What the first event entered was left with the second.  After a match the cursor is no less far,
after a failure it is back, and the failure is not before it and has been noted. -/
inductive ClosedBy (e : Event) : Event → Prop where
  | matched {node cursor deepest} : e.cursor ≤ cursor →
      ClosedBy e ⟨e.subject, .matched node, cursor, deepest⟩
  | failed {position deepest} : e.cursor ≤ position → position ≤ deepest →
      ClosedBy e ⟨e.subject, .failed position, e.cursor, deepest⟩

/-- The open entries after one more event. -/
def read (st : List Event) (e : Event) : List Event :=
  match e.phase with
  | .entered => e :: st
  | .matched _ | .failed _ => st.tail

/-- The entries that are open after the events, the innermost first. -/
def openAfter (es : List Event) : List Event :=
  es.foldl read []

/-- Read where the first entries are open, the events leave the second ones open. -/
inductive Nests (leads closes : Event → Event → Prop) :
    List Event → List Event → List Event → Prop where
  | nil {st} : Nests leads closes st [] st
  | enter {st e es st'} : e.phase = .entered → (∀ x ∈ st, leads x e) →
      Nests leads closes (e :: st) es st' → Nests leads closes st (e :: es) st'
  | exit {st e e' es st'} : closes e e' → Nests leads closes st es st' →
      Nests leads closes (e :: st) (e' :: es) st'

/-- Properly nested, with everything closed. -/
def Balanced (es : List Event) : Prop :=
  Nests (fun _ _ => True) ClosedBy [] es []

variable {leads closes leads' closes' : Event → Event → Prop} {e e' x : Event}
  {st st₁ st' es es' : List Event}

theorem read_of_entered (h : e.phase = .entered) (st : List Event) : read st e = e :: st := by
  simp only [read, h]

theorem ClosedBy.phase_ne_entered (h : e.ClosedBy e') : e'.phase ≠ .entered := by
  cases h <;> nofun

theorem ClosedBy.read_eq (h : e.ClosedBy e') (st : List Event) : read st e' = st.tail := by
  cases h <;> rfl

theorem ClosedBy.ofRule_eq (h : e.ClosedBy e') : e'.ofRule = e.ofRule := by
  cases h <;> rfl

/-! ### Reading -/

namespace Nests

theorem append (h : Nests leads closes st es st₁) (h' : Nests leads closes st₁ es' st') :
    Nests leads closes st (es ++ es') st' := by
  induction h with
  | nil => exact h'
  | enter he hl _ ih => exact .enter he hl (ih h')
  | exit hc _ ih => exact .exit hc (ih h')

/-- What is open between the events. -/
theorem exists_between (h : Nests leads closes st (es ++ es') st') :
    ∃ st₁, Nests leads closes st es st₁ ∧ Nests leads closes st₁ es' st' := by
  induction es generalizing st with
  | nil => exact ⟨st, .nil, h⟩
  | cons e es ih =>
      cases h with
      | enter he hl h =>
          obtain ⟨st₁, h₁, h₂⟩ := ih h
          exact ⟨st₁, .enter he hl h₁, h₂⟩
      | exit hc h =>
          obtain ⟨st₁, h₁, h₂⟩ := ih h
          exact ⟨st₁, .exit hc h₁, h₂⟩

theorem mono (h : Nests leads closes st es st') (hl : ∀ x e, leads x e → leads' x e)
    (hc : ∀ e e', closes e e' → closes' e e') : Nests leads' closes' st es st' := by
  induction h with
  | nil => exact .nil
  | enter he hl' _ ih => exact .enter he (fun x hx => hl _ _ (hl' x hx)) ih
  | exit hc' _ ih => exact .exit (hc _ _ hc') ih

/-- The entries that are left open are those that a stack holds in the end, above what it held
before. -/
theorem foldl_read_append (h : Nests leads closes st es st')
    (hc : ∀ e e', closes e e' → e.ClosedBy e') (base : List Event) :
    es.foldl read (st ++ base) = st' ++ base := by
  induction h with
  | nil => rfl
  | enter he _ _ ih => rwa [List.foldl_cons, read_of_entered he]
  | exit hc' _ ih => rwa [List.foldl_cons, (hc _ _ hc').read_eq, List.cons_append, List.tail_cons]

theorem foldl_read_eq (h : Nests leads closes st es st')
    (hc : ∀ e e', closes e e' → e.ClosedBy e') : es.foldl read st = st' := by
  simpa using h.foldl_read_append hc []

/-- What was open stays open or is closed. -/
theorem open_or_closed (h : Nests leads closes st es st') (hx : x ∈ st) :
    x ∈ st' ∨ ∃ e ∈ es, closes x e := by
  induction h with
  | nil => exact .inl hx
  | enter _ _ _ ih =>
      exact (ih (List.mem_cons_of_mem _ hx)).imp_right fun ⟨e, he, hc⟩ =>
        ⟨e, List.mem_cons_of_mem _ he, hc⟩
  | exit hc _ ih =>
      rcases List.mem_cons.mp hx with rfl | hx
      · exact .inr ⟨_, List.mem_cons_self, hc⟩
      · exact (ih hx).imp_right fun ⟨e, he, hc⟩ => ⟨e, List.mem_cons_of_mem _ he, hc⟩

/-- Every exit closes an entry. -/
theorem entered_or_closes (h : Nests leads closes st es st') (he : e ∈ es) :
    e.phase = .entered ∨ ∃ x, closes x e := by
  induction h with
  | nil => cases he
  | enter hp _ _ ih =>
      rcases List.mem_cons.mp he with rfl | he
      · exact .inl hp
      · exact ih he
  | exit hc _ ih =>
      rcases List.mem_cons.mp he with rfl | he
      · exact .inr ⟨_, hc⟩
      · exact ih he

/-- The exit after an entry, with balanced events in between, is the one that closes it. -/
theorem closes_of_balanced {es₁ es₂ es₃ : List Event}
    (h : Nests leads closes st (es₁ ++ e :: (es₂ ++ e' :: es₃)) st')
    (hc : ∀ e e', closes e e' → e.ClosedBy e') (he : e.phase = .entered) (hb : Balanced es₂)
    (he' : e'.phase ≠ .entered) : closes e e' := by
  obtain ⟨st₁, -, hafter⟩ := h.exists_between
  cases hafter with
  | exit hclose => exact absurd he (hc _ _ hclose).phase_ne_entered
  | enter _ _ hinside =>
      obtain ⟨st₂, hes₂, hexit⟩ := hinside.exists_between
      have hst₂ : e :: st₁ = st₂ :=
        (hb.foldl_read_append (fun _ _ => id) (e :: st₁)).symm.trans (hes₂.foldl_read_eq hc)
      rw [← hst₂] at hexit
      cases hexit with
      | enter hentered => exact absurd hentered he'
      | exit hclose => exact hclose

end Nests

/-- Whatever is open may still fail where it was entered. -/
theorem exists_nests_nil (st : List Event) :
    ∃ es, Nests (fun _ _ => True) ClosedBy st es [] := by
  induction st with
  | nil => exact ⟨[], .nil⟩
  | cons e st ih =>
      obtain ⟨es, h⟩ := ih
      exact ⟨_, .exit (.failed (Nat.le_refl e.cursor) (Nat.le_refl e.cursor)) h⟩

/-- Events that nest begin a balanced sequence. -/
theorem exists_balanced_append (h : Nests (fun _ _ => True) ClosedBy [] es st) :
    ∃ more, Balanced (es ++ more) := by
  obtain ⟨more, hmore⟩ := exists_nests_nil st
  exact ⟨more, h.append hmore⟩

/-! ### The depth in the log -/

/-- The depth after the events, if they are logged from a depth on. -/
def depthAfter (depth : Nat) (es : List Event) : Nat :=
  es.foldl (fun d e => (e.entry d).2) depth

/-- The depth that is logged with the event of a number. -/
def loggedDepth? (es : List Event) (i : Nat) : Option LogValue :=
  (entries 0 es)[i]?.bind fun entry => entry.fields.lookup "depth"

/-- The depth of rules does not change with other events. -/
theorem entry_of_not_ofRule (h : e.ofRule = false) (depth : Nat) : (e.entry depth).2 = depth := by
  obtain ⟨subject, phase, cursor, deepest⟩ := e
  cases subject with
  | rule => cases h
  | matcher => cases phase <;> rfl

theorem entry_of_entered (hr : e.ofRule = true) (h : e.phase = .entered) (depth : Nat) :
    (e.entry depth).2 = depth + 1 ∧
      (e.entry depth).1.fields.lookup "depth" = some (.number depth) := by
  obtain ⟨subject, phase, cursor, deepest⟩ := e
  cases h
  cases subject with
  | rule => exact ⟨rfl, rfl⟩
  | matcher => cases hr

theorem ClosedBy.entry_eq (h : e.ClosedBy e') (hr : e.ofRule = true) (depth : Nat) :
    (e'.entry depth).2 = depth - 1 ∧
      (e'.entry depth).1.fields.lookup "depth" = some (.number (depth - 1)) := by
  obtain ⟨subject, phase, cursor, deepest⟩ := e
  cases subject with
  | rule => cases h <;> exact ⟨rfl, rfl⟩
  | matcher => cases hr

/-- The depth counts the rules that are open. -/
theorem Nests.depthAfter_eq (h : Nests leads ClosedBy st es st') (depth : Nat) :
    depthAfter (depth + st.countP ofRule) es = depth + st'.countP ofRule := by
  induction h with
  | nil => rfl
  | @enter st e es st' he _ _ ih =>
      rw [← ih, depthAfter, List.foldl_cons, List.countP_cons]
      cases hr : e.ofRule with
      | true => rw [(entry_of_entered hr he _).1]; rfl
      | false => rw [entry_of_not_ofRule hr]; rfl
  | @exit st e e' es st' hc _ ih =>
      rw [← ih, depthAfter, List.foldl_cons, List.countP_cons]
      cases hr : e.ofRule with
      | true => rw [(hc.entry_eq hr _).1]; rfl
      | false => rw [entry_of_not_ofRule (hc.ofRule_eq.trans hr)]; rfl

theorem entries_append (depth : Nat) (es es' : List Event) :
    entries depth (es ++ es') = entries depth es ++ entries (depthAfter depth es) es' := by
  induction es generalizing depth with
  | nil => rfl
  | cons e es ih => simp only [List.cons_append, entries, ih]; rfl

theorem length_entries (depth : Nat) (es : List Event) : (entries depth es).length = es.length := by
  induction es generalizing depth with
  | nil => rfl
  | cons e es ih => simp only [entries, List.length_cons, ih]

/-- The depth that is logged with an event is the one that the events before it lead to. -/
theorem loggedDepth?_append (es : List Event) (e : Event) (es' : List Event) :
    loggedDepth? (es ++ e :: es') es.length =
      (e.entry (depthAfter 0 es)).1.fields.lookup "depth" := by
  simp only [loggedDepth?, entries_append, entries]
  rw [List.getElem?_append_right (Nat.le_of_eq (length_entries 0 es)), length_entries, Nat.sub_self]
  rfl

/-- **The log.**  A rule is left at the depth at which it was entered. -/
theorem logged_alike {es₁ es₂ es₃ : List Event} (hr : e.ofRule = true) (he : e.phase = .entered)
    (hb : Balanced es₂) (hc : e.ClosedBy e') :
    ∃ depth, loggedDepth? (es₁ ++ e :: (es₂ ++ e' :: es₃)) es₁.length = some (.number depth) ∧
      loggedDepth? (es₁ ++ e :: (es₂ ++ e' :: es₃)) (es₁ ++ e :: es₂).length =
        some (.number depth) := by
  refine ⟨depthAfter 0 es₁, ?_, ?_⟩
  · rw [loggedDepth?_append, (entry_of_entered hr he _).2]
  · have hdepth : depthAfter 0 (es₁ ++ e :: es₂) = depthAfter 0 es₁ + 1 := by
      rw [depthAfter, List.foldl_append, List.foldl_cons, (entry_of_entered hr he _).1]
      exact hb.depthAfter_eq (depthAfter 0 es₁ + 1)
    rw [← List.cons_append, ← List.append_assoc, loggedDepth?_append, (hc.entry_eq hr _).2, hdepth]
    rfl

end Event

end Packrat
