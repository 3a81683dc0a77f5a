import Packrat.Proofs.Peg.Verdict

/-!
# Proofs — Grammar — References

Which references a grammar is checked for.  A *path* leads from a matcher to something inside of it:
it says for each step to which part to go.  A body refers to a rule wherever a path ends at a
reference to it (`Matcher.RefersAt`), and paths are read from left to right, as the names in a
dictionary are.

**Order** (`find?_references_eq_some`): the names that a matcher refers to are listed in the order
of the paths to them.

**Closedness** (`build_checks_references`): a draft is built if and only if its root and everything
that its bodies refer to is defined; if it is not, the error names the first reference that dangles.
No parse with a grammar that was built misses a rule.
-/

namespace Packrat

/-! ### Paths -/

namespace Matcher

/-- What the path leads to, if there are as many parts. -/
def at? : Matcher → List Nat → Option Matcher
  | m, [] => some m
  | m, i :: path => m.parts[i]?.bind fun part => part.at? path

/-- The path leads to a reference to the rule. -/
def RefersAt (m : Matcher) (path : List Nat) (name : String) : Prop :=
  (m.at? path).bind ruleName? = some name

variable {m part : Matcher} {name : String} {i : Nat} {path : List Nat}

theorem refersAt_nil_iff : m.RefersAt [] name ↔ m.ruleName? = some name := Iff.rfl

theorem refersAt_cons_iff :
    m.RefersAt (i :: path) name ↔ ∃ part, m.parts[i]? = some part ∧ part.RefersAt path name := by
  simp only [RefersAt, at?, Option.bind_assoc, Option.bind_eq_some_iff]

/-- A reference has no parts. -/
theorem parts_of_ruleName? (h : m.ruleName? = some name) : m.parts = [] := by
  obtain ⟨i, shape⟩ := m
  cases shape with
  | rule => rfl
  | _ => cases h

theorem referencesList_eq (ms : List Matcher) : referencesList ms = ms.flatMap references := by
  induction ms with
  | nil => rfl
  | cons m ms ih => rw [referencesList, ih, List.flatMap_cons]

/-- The names are those of the matcher itself, and then those of its parts in order. -/
theorem references_eq (m : Matcher) :
    m.references = m.ruleName?.toList ++ m.parts.flatMap references := by
  obtain ⟨i, shape⟩ := m
  cases shape with
  | sequence ms | firstOf ms => exact referencesList_eq ms
  | optional | oneOrMore | zeroOrMore | next | nextNot | token | trivia | adjacent =>
      exact (List.flatMap_singleton _ _).symm
  | literal | pattern | ofKind | endOfInput | nothing | rule => rfl

/-- A name is listed if a path leads to it. -/
theorem mem_references_iff : ∀ m : Matcher, name ∈ m.references ↔ ∃ path, m.RefersAt path name := by
  refine induction_parts fun m ih => ?_
  rw [references_eq, List.mem_append, Option.mem_toList, List.mem_flatMap]
  constructor
  · rintro (hm | ⟨part, hp, hn⟩)
    · exact ⟨[], hm⟩
    · obtain ⟨i, hi⟩ := List.mem_iff_getElem?.mp hp
      obtain ⟨path, hpath⟩ := (ih part hp).mp hn
      exact ⟨i :: path, refersAt_cons_iff.mpr ⟨part, hi, hpath⟩⟩
  · rintro ⟨_ | ⟨i, path⟩, hpath⟩
    · exact .inl hpath
    · obtain ⟨part, hi, hpath⟩ := refersAt_cons_iff.mp hpath
      have hp := List.mem_of_getElem? hi
      exact .inr ⟨part, hp, (ih part hp).mpr ⟨path, hpath⟩⟩

/-- **Order.**  The first name on the list that passes a test is at the end of the first path to a
name that does. -/
theorem find?_references_eq_some {test : String → Bool} : ∀ m : Matcher,
    m.references.find? test = some name →
      ∃ path, m.RefersAt path name ∧ test name = true ∧
        ∀ path' name', m.RefersAt path' name' → test name' = true →
          path' = path ∨ List.Lex (· < ·) path path' := by
  refine induction_parts fun m ih h => ?_
  have htest := List.find?_some h
  rw [references_eq] at h
  cases hm : m.ruleName? with
  | some rule =>
      -- a reference: there is no other path
      have hparts := parts_of_ruleName? hm
      rw [hm, hparts] at h
      obtain rfl := List.eq_of_mem_singleton (List.mem_of_find?_eq_some h)
      refine ⟨[], hm, htest, ?_⟩
      rintro (_ | ⟨i, path'⟩) name' hpath' -
      · exact .inl rfl
      · obtain ⟨part, hi, -⟩ := refersAt_cons_iff.mp hpath'
        rw [hparts] at hi
        cases hi
  | none =>
      -- the first part that has such a name, and in it the first path
      rw [hm, Option.toList_none, List.nil_append, List.find?_flatMap] at h
      obtain ⟨before, part, after, hparts, hpart, hbefore⟩ := List.findSome?_eq_some_iff.mp h
      have hp : part ∈ m.parts := hparts ▸ List.mem_append_right _ List.mem_cons_self
      obtain ⟨path, hpath, -, hfirst⟩ := ih part hp hpart
      have hi : m.parts[before.length]? = some part := by simp [hparts]
      refine ⟨before.length :: path, refersAt_cons_iff.mpr ⟨part, hi, hpath⟩, htest, ?_⟩
      rintro (_ | ⟨j, path'⟩) name' hpath' htest'
      · rw [refersAt_nil_iff, hm] at hpath'
        cases hpath'
      obtain ⟨part', hj, hpath'⟩ := refersAt_cons_iff.mp hpath'
      rcases Nat.lt_trichotomy j before.length with hlt | rfl | hgt
      · -- no name in an earlier part passes
        rw [hparts, List.getElem?_append_left hlt] at hj
        have hnone := List.find?_eq_none.mp (hbefore part' (List.mem_of_getElem? hj))
        exact absurd htest' (hnone name' ((mem_references_iff part').mpr ⟨path', hpath'⟩))
      · cases hi.symm.trans hj
        exact (hfirst path' name' hpath' htest').imp (congrArg _) .cons
      · exact .inr (.rel hgt)

end Matcher

/-! ### What is checked -/

namespace Draft

variable {d : Draft} {name : String} {body : Matcher}

/-- There is a rule of this name. -/
def Defines (d : Draft) (name : String) : Prop :=
  ∃ body, (name, body) ∈ d.rules

/-- In the body, the path leads to a reference to a rule that is not defined. -/
def DanglesAt (d : Draft) (body : Matcher) (path : List Nat) (name : String) : Prop :=
  body.RefersAt path name ∧ ¬ d.Defines name

/-- The first rule with a reference that dangles is `rule`, and the first one in its body is to
`name`. -/
def FirstDangles (d : Draft) (rule name : String) : Prop :=
  ∃ before body after path, d.order = before ++ rule :: after ∧ d.rules.lookup rule = some body ∧
    (∀ rule' ∈ before, ∃ body', d.rules.lookup rule' = some body' ∧
      ∀ path' name', ¬ d.DanglesAt body' path' name') ∧ d.DanglesAt body path name ∧
    ∀ path' name', d.DanglesAt body path' name' → path' = path ∨ List.Lex (· < ·) path path'

theorem defines_iff : d.Defines name ↔ d.isDefined name = true := by
  rw [isDefined_iff]
  constructor
  · rintro ⟨body, hb⟩ hn
    have hne := List.lookup_eq_none_iff.mp hn _ hb
    simp at hne
  · intro h
    obtain ⟨body, hb⟩ := Option.ne_none_iff_exists'.mp h
    exact ⟨body, mem_of_lookup hb⟩

theorem not_defines_iff : ¬ d.Defines name ↔ (!d.isDefined name) = true := by
  rw [defines_iff, Bool.not_eq_true, Bool.not_eq_true']

theorem dangling?_eq_none (h : d.dangling? body = none) (path : List Nat) (name : String) :
    ¬ d.DanglesAt body path name := by
  rintro ⟨hpath, hn⟩
  exact List.find?_eq_none.mp h name ((Matcher.mem_references_iff body).mpr ⟨path, hpath⟩)
    (not_defines_iff.mp hn)

theorem InStep.firstDangles_of_eq_some (h : d.InStep) {rule : String}
    (he : d.firstDangling? = some (rule, name)) : d.FirstDangles rule name := by
  obtain ⟨before, rule', after, horder, hrule, hbefore⟩ := List.findSome?_eq_some_iff.mp he
  obtain ⟨name', hname, hr⟩ := Option.map_eq_some_iff.mp hrule
  cases hr
  -- the names in the order have bodies, and those are what is checked
  have hbody : ∀ rule' ∈ d.order, ∃ body', d.rules.lookup rule' = some body' ∧
      (d.rules.lookup rule').get! = body' := fun rule' hr => by
    obtain ⟨body', hb⟩ := h.exists_body hr
    exact ⟨body', hb, by rw [hb]; rfl⟩
  obtain ⟨body, hb, hget⟩ := hbody rule (horder ▸ List.mem_append_right _ List.mem_cons_self)
  rw [hget] at hname
  obtain ⟨path, hpath, htest, hfirst⟩ := Matcher.find?_references_eq_some body hname
  refine ⟨before, body, after, path, horder, hb, fun rule' hr => ?_,
    ⟨hpath, not_defines_iff.mpr htest⟩, ?_⟩
  · obtain ⟨body', hb', hget'⟩ := hbody rule' (horder ▸ List.mem_append_left _ hr)
    have hnone := Option.map_eq_none_iff.mp (hbefore rule' hr)
    rw [hget'] at hnone
    exact ⟨body', hb', dangling?_eq_none hnone⟩
  · rintro path' name' ⟨hpath', hn⟩
    exact hfirst path' name' hpath' (not_defines_iff.mp hn)

theorem InStep.firstDangling?_eq_none_iff_defines (h : d.InStep) : d.firstDangling? = none ↔
    ∀ rule body path name, (rule, body) ∈ d.rules → body.RefersAt path name → d.Defines name := by
  rw [h.firstDangling?_eq_none_iff]
  constructor
  · intro hall rule body path name hb hpath
    exact defines_iff.mpr (Draft.isDefined_iff.mpr
      (hall rule body hb name ((Matcher.mem_references_iff body).mpr ⟨path, hpath⟩)))
  · intro hall rule body hb name hn
    obtain ⟨path, hpath⟩ := (Matcher.mem_references_iff body).mp hn
    exact Draft.isDefined_iff.mp (defines_iff.mp (hall rule body path name hb hpath))

end Draft

namespace Workshop

variable {w : Workshop}

/-- A grammar that was built is in the workshop. -/
theorem mem_grammars_built {root : String} {g : Grammar} {n : Nat}
    (h : Build.runFrom (w.draft.build root) w.next = (.ok g, n)) :
    g ∈ (w.built root).grammars := by
  simp only [Workshop.built, h]
  exact List.mem_cons_self

/-- No parse misses a rule. -/
theorem Reachable.result_ne_undefinedRule (hw : w.Reachable) {g : Grammar} (hg : g ∈ w.grammars)
    (cfg : Config) (listening : Bool) (tokens : List Token) (name : String) :
    (g.parse cfg listening tokens).result ≠ .error (.aborted (.undefinedRule name)) :=
  fun h => hw.root_not_undefinedRule hg cfg tokens listening name (cause?_of_verdict h)

end Workshop

/-- **Closedness**, for the draft that any definitions have led to. -/
theorem build_checks_references {w : Workshop} (hw : w.Reachable) (root : String) :
    ((∃ g n, Build.runFrom (w.draft.build root) w.next = (.ok g, n)) ↔
      w.draft.Defines root ∧ ∀ rule body path name, (rule, body) ∈ w.draft.rules →
        body.RefersAt path name → w.draft.Defines name) ∧
    (∀ e n, Build.runFrom (w.draft.build root) w.next = (.error e, n) →
      (¬ w.draft.Defines root ∧ e = .undefinedRoot root) ∨
      (w.draft.Defines root ∧ ∃ rule name, e = .undefinedRule rule name ∧
        w.draft.FirstDangles rule name)) ∧
    ∀ g n, Build.runFrom (w.draft.build root) w.next = (.ok g, n) →
      ∀ cfg listening tokens name,
        (g.parse cfg listening tokens).result ≠ .error (.aborted (.undefinedRule name)) := by
  refine ⟨?built, ?failed, fun g n h =>
    (hw.built root).result_ne_undefinedRule (Workshop.mem_grammars_built h)⟩
  case built =>
    rw [runFrom_build, Draft.defines_iff, ← hw.inStep.firstDangling?_eq_none_iff_defines]
    cases w.draft.isDefined root <;> cases w.draft.firstDangling? <;> simp
  case failed =>
    intro e n h
    rw [runFrom_build] at h
    by_cases hr : w.draft.isDefined root = true
    · rw [if_pos hr] at h
      refine .inr ⟨Draft.defines_iff.mpr hr, ?_⟩
      cases hd : w.draft.firstDangling? with
      | none =>
          rw [hd] at h
          cases h
      | some r =>
          rw [hd] at h
          cases h
          exact ⟨r.1, r.2, rfl, hw.inStep.firstDangles_of_eq_some hd⟩
    · rw [if_neg hr] at h
      cases h
      exact .inl ⟨mt Draft.defines_iff.mp hr, rfl⟩

/-- A draft that is built, and what becomes of it with another rule, which has two references that
dangle: the first is in a sequence in an option. -/
theorem reference_in_option_dangles_first :
    let pair : Matcher := ⟨5, .optional ⟨4, .sequence [⟨2, .rule "a"⟩, ⟨3, .rule "b"⟩]⟩⟩
    let w := (Workshop.opened 0).defined "a" (.text "x")
    let w' := (w.called (.optional (.many [.node (.rule "a"), .node (.rule "b")]))).defined "c"
      (.many [.text "y", .matcher pair, .node (.rule "e")])
    w.Reachable ∧ w'.Reachable ∧
      (∃ g n, Build.runFrom (w.draft.build "a") w.next = (.ok g, n) ∧
        ∀ cfg listening tokens name,
          (g.parse cfg listening tokens).result ≠ .error (.aborted (.undefinedRule name))) ∧
      ∃ n, Build.runFrom (w'.draft.build "a") w'.next = (.error (.undefinedRule "c" "b"), n) ∧
        w'.draft.FirstDangles "c" "b" := by
  intro pair w w'
  have hw : w.Reachable := .defined _ _ (.opened 0) nofun
  have hw' : w'.Reachable := by
    refine .defined _ _ (.called _ hw nofun) fun m hm => ?_
    rw [List.eq_of_mem_singleton hm]
    exact .made List.mem_cons_self
  refine ⟨hw, hw', ⟨_, _, rfl, (build_checks_references hw "a").2.2 _ _ rfl⟩, _, rfl, ?_⟩
  obtain ⟨-, he⟩ | ⟨-, rule, name, he, hfirst⟩ := (build_checks_references hw' "a").2.1 _ _ rfl
  · cases he
  · cases he
    exact hfirst

end Packrat
