import Packrat.Grammar

/-!
# Proofs — Grammar — Drafts

What becomes of a draft.  Builders are run from the number of the next matcher (`Build.runFrom`),
and work on a draft from the draft, too (`Drafting.runFrom`).  The draft comes out whether the work
succeeds or fails, with all that was done to it.

**Definitions** (`runFrom_define`): the name is checked first, and the body then; only if there is
nothing wrong with either is the draft worked on.

**In step** (`Draft.InStep.define`): the names in the order of a draft are those that have bodies,
each of them once, and definitions keep it so.
-/

namespace Packrat

/-! ### Running builders -/

/-- The result of building where the next matcher gets the given number, and the number after. -/
def Build.runFrom {α : Type} (x : Build α) (n : Nat) : Except GrammarError α × Nat :=
  StateT.run (ExceptT.run x) n

section

variable {α β : Type}

@[simp] theorem runFrom_pure (a : α) (n : Nat) : Build.runFrom (pure a) n = (.ok a, n) := rfl

@[simp] theorem runFrom_throw (e : GrammarError) (n : Nat) :
    Build.runFrom (throw e : Build α) n = (.error e, n) := rfl

@[simp] theorem runFrom_make (shape : Shape Matcher) (n : Nat) :
    Build.runFrom (Matcher.make shape) n = (.ok ⟨n, shape⟩, n + 1) := rfl

theorem runFrom_bind (x : Build α) (f : α → Build β) (n : Nat) :
    Build.runFrom (x >>= f) n =
      match Build.runFrom x n with
      | (.ok a, n') => Build.runFrom (f a) n'
      | (.error e, n') => (.error e, n') := by
  simp only [Build.runFrom]
  rw [ExceptT.run_bind, StateT.run_bind]
  generalize StateT.run (ExceptT.run x) n = e
  rcases e with ⟨_ | _, _⟩ <;> rfl

namespace Drafting

/-- The result of work on a draft, with the draft as the work leaves it, and the number of the next
matcher after it. -/
def runFrom (x : Drafting α) (d : Draft) (n : Nat) : (Except GrammarError α × Draft) × Nat :=
  StateT.run (StateT.run (ExceptT.run x) d) n

theorem runFrom_bind (x : Drafting α) (f : α → Drafting β) (d : Draft) (n : Nat) :
    runFrom (x >>= f) d n =
      match runFrom x d n with
      | ((.ok a, d'), n') => runFrom (f a) d' n'
      | ((.error e, d'), n') => ((.error e, d'), n') := by
  simp only [runFrom]
  rw [ExceptT.run_bind, StateT.run_bind, StateT.run_bind]
  generalize StateT.run (StateT.run (ExceptT.run x) d) n = e
  rcases e with ⟨⟨_ | _, _⟩, _⟩ <;> rfl

/-- Building leaves the draft alone. -/
theorem runFrom_lift (x : Build α) (d : Draft) (n : Nat) :
    runFrom (liftM x) d n = (((x.runFrom n).1, d), (x.runFrom n).2) := rfl

theorem runFrom_get (d : Draft) (n : Nat) : runFrom get d n = ((.ok d, d), n) := rfl

/-- What was done to the draft before an error stays done. -/
example (d d' : Draft) (e : GrammarError) (n : Nat) :
    runFrom (do set d'; throw e : Drafting Matcher) d n = ((.error e, d'), n) := rfl

end Drafting

end

/-! ### Bodies and order -/

theorem mem_of_lookup {α : Type} {rules : List (String × α)} {name : String} {a : α}
    (h : rules.lookup name = some a) : (name, a) ∈ rules := by
  obtain ⟨l, l', hl, -⟩ := List.lookup_eq_some_iff.mp h
  exact hl ▸ List.mem_append_right _ List.mem_cons_self

section

variable {rules : List (String × Matcher)} {name : String} {body : Matcher}

/-- Where no two rules have one name, the rule of a name is found. -/
theorem lookup_eq_some_iff_mem (h : (rules.map Prod.fst).Nodup) :
    rules.lookup name = some body ↔ (name, body) ∈ rules := by
  refine ⟨mem_of_lookup, fun hm => ?_⟩
  obtain ⟨l, l', rfl⟩ := List.append_of_mem hm
  refine List.lookup_eq_some_iff.mpr ⟨l, l', rfl, fun p hp => ?_⟩
  rw [List.map_append, List.map_cons, List.nodup_append] at h
  have hne : p.1 ≠ name := h.2.2 _ (List.mem_map_of_mem hp) _ List.mem_cons_self
  simpa using Ne.symm hne

theorem mem_putRule {r : String × Matcher} (h : r ∈ putRule rules name body) :
    r ∈ rules ∨ r = (name, body) := by
  rcases List.mem_append.mp h with h | h
  · exact .inl (List.mem_filter.mp h).1
  · exact .inr (List.eq_of_mem_singleton h)

theorem lookup_cons_eq (name : String) (r : String × Matcher) (rules : List (String × Matcher)) :
    (r :: rules).lookup name = if name = r.1 then some r.2 else rules.lookup name := by
  rw [List.lookup_cons]
  by_cases h : name = r.1
  · simp [h]
  · simp [h, beq_eq_false_iff_ne.mpr h]

theorem lookup_filter_ne (name name' : String) (rules : List (String × Matcher)) :
    (rules.filter (·.1 ≠ name)).lookup name' =
      if name' = name then none else rules.lookup name' := by
  induction rules with
  | nil => simp
  | cons r rules ih =>
      rw [List.filter_cons, lookup_cons_eq]
      by_cases hr : r.1 = name
      · rw [if_neg (by simpa using hr), ih, hr]
        split <;> rfl
      · rw [if_pos (by simpa using hr), lookup_cons_eq, ih]
        split
        · next h => rw [if_neg (h ▸ hr)]
        · rfl

/-- The name has the new body then, and all others have what they had. -/
theorem lookup_putRule (name' : String) :
    (putRule rules name body).lookup name' =
      if name' = name then some body else rules.lookup name' := by
  rw [putRule, List.lookup_append, lookup_filter_ne, lookup_cons_eq, List.lookup_nil]
  by_cases h : name' = name <;> simp [h]

/-- A name that has no body yet. -/
theorem putRule_of_notMem (h : name ∉ rules.map Prod.fst) :
    putRule rules name body = rules ++ [(name, body)] := by
  refine congrArg (· ++ _) (List.filter_eq_self.mpr fun r hr => decide_eq_true ?_)
  exact fun he => h (he ▸ List.mem_map_of_mem hr)

end

namespace Draft

/-- The names in the order are those that have bodies, each of them once. -/
structure InStep (d : Draft) : Prop where
  names : d.rules.map Prod.fst = d.order
  nodup : d.order.Nodup

variable {d : Draft} {name : String} {body : Matcher}

theorem isDefined_iff : d.isDefined name = true ↔ d.rules.lookup name ≠ none := by
  simp [isDefined, Option.isSome_iff_ne_none]

/-- What is defined is a name that has a body. -/
theorem isDefined_iff_mem_names : d.isDefined name = true ↔ name ∈ d.rules.map Prod.fst := by
  rw [isDefined_iff, ne_eq, List.lookup_eq_none_iff]
  simp

namespace InStep

theorem blank : blank.InStep :=
  ⟨rfl, .nil⟩

theorem isDefined_iff_mem (h : d.InStep) : d.isDefined name = true ↔ name ∈ d.order := by
  rw [isDefined_iff_mem_names, h.names]

theorem lookup_iff (h : d.InStep) : d.rules.lookup name = some body ↔ (name, body) ∈ d.rules :=
  lookup_eq_some_iff_mem (h.names ▸ h.nodup)

/-- The names in the order have bodies. -/
theorem exists_body (h : d.InStep) (hname : name ∈ d.order) :
    ∃ body, d.rules.lookup name = some body :=
  Option.isSome_iff_exists.mp (h.isDefined_iff_mem.mpr hname)

theorem mem_order (h : d.InStep) (hr : (name, body) ∈ d.rules) : name ∈ d.order :=
  h.names ▸ List.mem_map_of_mem hr

/-- A rule whose name is new goes to the end, both of the bodies and of the order. -/
theorem putRule (h : d.InStep) (hname : d.isDefined name = false) (body : Matcher) :
    InStep ⟨Packrat.putRule d.rules name body, d.order ++ [name]⟩ := by
  have hnot : name ∉ d.order := fun hm => Bool.eq_false_iff.mp hname (h.isDefined_iff_mem.mpr hm)
  constructor
  · rw [putRule_of_notMem (h.names ▸ hnot), List.map_append, h.names]
    rfl
  · refine List.nodup_append.mpr ⟨h.nodup, List.pairwise_singleton _ _, fun a ha b hb he => hnot ?_⟩
    rwa [← List.eq_of_mem_singleton hb, ← he]

end InStep

end Draft

/-! ### Defining and building -/

/-- **Definitions.**  A definition looks at the name first and at the body then, and works on the
draft only if there is nothing wrong with either: the name gets its body, and goes to the end of the
order. -/
theorem runFrom_define (name : String) (body : Input) (d : Draft) (n : Nat) :
    (Draft.define name body).runFrom d n =
      if d.isDefined name then ((.error (.ruleRedefined name), d), n)
      else match (Matcher.sequence [body]).runFrom n with
        | (.ok m, n') =>
          ((.ok ⟨n', .rule name⟩, ⟨putRule d.rules name m, d.order ++ [name]⟩), n' + 1)
        | (.error e, n') => ((.error e, d), n') := by
  simp only [Draft.define]
  rw [Drafting.runFrom_bind, Drafting.runFrom_get]
  cases hr : d.isDefined name with
  | true => simp only [hr, if_true]; rfl
  | false =>
      simp only [hr, Bool.false_eq_true, if_false]
      rw [Drafting.runFrom_bind, Drafting.runFrom_lift]
      rcases Build.runFrom (Matcher.sequence [body]) n with ⟨_ | _, _⟩ <;> rfl

/-- **In step.**  Bodies and order stay in step, whether the definition succeeds or fails. -/
theorem Draft.InStep.define {d : Draft} (h : d.InStep) (name : String) (body : Input) (n : Nat) :
    ((Draft.define name body).runFrom d n).1.2.InStep := by
  rw [runFrom_define]
  cases hname : d.isDefined name with
  | true => exact h
  | false =>
      rcases Build.runFrom (Matcher.sequence [body]) n with ⟨e | m, n'⟩
      · exact h
      · exact h.putRule hname m

/-- What building a grammar checks, and what it makes. -/
theorem runFrom_build (d : Draft) (root : String) (n : Nat) :
    Build.runFrom (d.build root) n =
      if d.isDefined root then
        match d.firstDangling? with
        | some (rule, name) => (.error (.undefinedRule rule name), n)
        | none => (.ok ⟨⟨n, .rule root⟩, d.rules, d.order⟩, n + 1)
      else (.error (.undefinedRoot root), n) := by
  simp only [Draft.build]
  cases hr : d.isDefined root with
  | false => simp
  | true =>
      cases hd : d.firstDangling? with
      | none => simp only [Bool.not_true, Bool.false_eq_true, if_false]; rfl
      | some r => simp

end Packrat
