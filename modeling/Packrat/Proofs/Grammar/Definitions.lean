import Mathlib.Data.List.Forall2
import Mathlib.Data.List.Nodup
import Packrat.Proofs.Grammar.Inputs

/-!
# Proofs — Grammar — Definitions

What is in a draft after any number of definitions, with bodies that may have mistakes in them, and
with names that may be taken.  A definition is *sound* if there is no mistake in its body.  Of each
name the first sound definition succeeds (`Definition.firsts`), and all others fail.

**Failure** (`rules_and_order_of_error`): a definition that fails leaves the bodies as they are, and
the order.

**All or nothing** (`draft_records_definitions`): bodies and order are in step at every point.  The
rules of the draft, and those of a grammar that is built from it, are those of the definitions that
succeeded, in their order and with their bodies.
-/

namespace Packrat

/-- A call that defines a rule. -/
structure Definition where
  name : String
  body : Input
  /-- The number of the next matcher when the call is made. -/
  next : Nat

namespace Definition

/-- The first mistake in the body. -/
def mistake? (c : Definition) : Option GrammarError :=
  c.body.firstMistake? .sequence

/-- The first sound definition of each name. -/
def firsts : List Definition → List Definition
  | [] => []
  | c :: cs =>
    if c.mistake?.isSome then firsts cs else c :: (firsts cs).filter (·.name ≠ c.name)

/-- The rule has the name that the definition gives it, and the body that it was given. -/
def Gives (c : Definition) (rule : String × Matcher) : Prop :=
  rule.1 = c.name ∧ ∃ n, Input.Becomes c.next c.body rule.2 n

end Definition

namespace Draft

/-- The result of a definition, and the draft as it leaves it. -/
def defining (d : Draft) (c : Definition) : Except GrammarError Matcher × Draft :=
  ((Draft.define c.name c.body).runFrom d c.next).1

/-- The draft after the definitions, one after the other. -/
def defineAll : Draft → List Definition → Draft
  | d, [] => d
  | d, c :: cs => (d.defining c).2.defineAll cs

/-- The name is still to be defined. -/
def lacks (d : Draft) (c : Definition) : Bool :=
  !d.isDefined c.name

/-- The definitions that succeed, when one is made after the other. -/
def succeeding : Draft → List Definition → List Definition
  | _, [] => []
  | d, c :: cs =>
    match d.defining c with
    | (.ok _, d') => c :: d'.succeeding cs
    | (.error _, d') => d'.succeeding cs

end Draft

/-! ### One definition -/

/-- A single input is handed on by `sequence`. -/
theorem reports_sequence_singleton (i : Input) (n : Nat) :
    Reports (i.firstMistake? .sequence) (Input.Becomes n i)
      (Build.runFrom (Matcher.sequence [i]) n) := by
  have hsome := Input.reports_resolveSome .sequence [i] n
  rw [List.isEmpty_cons, if_neg Bool.false_ne_true, Option.none_or,
    Input.firstMistakeIn?_handedAll_singleton] at hsome
  rw [← Option.or_none (o := i.firstMistake? _)]
  refine hsome.bind fun ms n' hms => Input.reports_ofParts hms.1 hms.2 (fun i' m he h => ?_)
    fun hlen => absurd hlen (by simp)
  cases he
  exact h

namespace Draft

variable {d : Draft} {c : Definition}

theorem defining_of_isDefined (h : d.isDefined c.name = true) :
    d.defining c = (.error (.ruleRedefined c.name), d) := by
  rw [defining, runFrom_define, if_pos h]

theorem defining_of_mistake (h : d.isDefined c.name = false) {e : GrammarError}
    (he : c.mistake? = some e) : d.defining c = (.error e, d) := by
  have hr := reports_sequence_singleton c.body c.next
  rw [defining, runFrom_define, if_neg (Bool.eq_false_iff.mp h)]
  generalize Build.runFrom (Matcher.sequence [c.body]) c.next = r at hr
  cases hr with
  | mistake he' => rw [Option.some.inj (he.symm.trans he')]
  | fine hnone _ => exact absurd (he.symm.trans hnone) (Option.some_ne_none e)

theorem defining_of_sound (h : d.isDefined c.name = false) (hc : c.mistake? = none) :
    ∃ m n, Input.Becomes c.next c.body m n ∧
      d.defining c =
        (.ok ⟨n, .rule c.name⟩, ⟨putRule d.rules c.name m, d.order ++ [c.name]⟩) := by
  have hr := reports_sequence_singleton c.body c.next
  rw [defining, runFrom_define, if_neg (Bool.eq_false_iff.mp h)]
  generalize Build.runFrom (Matcher.sequence [c.body]) c.next = r at hr
  cases hr with
  | mistake he => exact absurd (he.symm.trans hc) (Option.some_ne_none _)
  | @fine m n _ hm => exact ⟨m, n, hm, rfl⟩

/-- A definition succeeds, and adds its rule, or fails and leaves the draft as it is. -/
theorem defining_cases (d : Draft) (c : Definition) :
    (∃ e, d.defining c = (.error e, d) ∧ (d.lacks c = false ∨ c.mistake?.isSome = true)) ∨
      ∃ reference m, d.defining c =
          (.ok reference, ⟨putRule d.rules c.name m, d.order ++ [c.name]⟩) ∧
        c.Gives (c.name, m) ∧ d.lacks c = true ∧ c.mistake? = none := by
  cases h : d.isDefined c.name with
  | true => exact .inl ⟨_, defining_of_isDefined h, .inl (by rw [lacks, h]; rfl)⟩
  | false =>
      cases hc : c.mistake? with
      | some e => exact .inl ⟨e, defining_of_mistake h hc, .inr rfl⟩
      | none =>
          obtain ⟨m, n, hm, he⟩ := defining_of_sound h hc
          exact .inr ⟨_, m, he, ⟨rfl, n, hm⟩, by rw [lacks, h]; rfl, rfl⟩

/-- **Failure.**  This is so whatever state the draft is in. -/
theorem rules_and_order_of_error {e : GrammarError} {d' : Draft}
    (h : d.defining c = (.error e, d')) : d'.rules = d.rules ∧ d'.order = d.order := by
  obtain ⟨e', he, -⟩ | ⟨reference, m, he, -⟩ := d.defining_cases c
  · cases h.symm.trans he
    exact ⟨rfl, rfl⟩
  · cases h.symm.trans he

theorem succeeding_of_error {e : GrammarError} (h : d.defining c = (.error e, d))
    (cs : List Definition) : d.succeeding (c :: cs) = d.succeeding cs := by
  simp only [succeeding, h]

theorem succeeding_of_ok {m : Matcher} {d' : Draft} (h : d.defining c = (.ok m, d'))
    (cs : List Definition) : d.succeeding (c :: cs) = c :: d'.succeeding cs := by
  simp only [succeeding, h]

theorem lacks_iff : d.lacks c = true ↔ c.name ∉ d.rules.map Prod.fst := by
  rw [lacks, Bool.not_eq_true', Bool.eq_false_iff, ne_eq, isDefined_iff_mem_names]

/-- A name is taken as soon as it has a body. -/
theorem lacks_putRule (name : String) (m : Matcher) (order : List String) :
    lacks ⟨putRule d.rules name m, order⟩ c = (d.lacks c && decide (c.name ≠ name)) := by
  simp only [lacks, isDefined, lookup_putRule]
  by_cases h : c.name = name <;> simp [h]

end Draft

/-! ### Any number of definitions -/

section

open Definition

variable {d : Draft} {c : Definition}

/-- A definition that fails is not among those that succeed. -/
theorem filter_lacks_of_error (cs : List Definition)
    (h : d.lacks c = false ∨ c.mistake?.isSome = true) :
    (firsts (c :: cs)).filter d.lacks = (firsts cs).filter d.lacks := by
  rw [firsts]
  split
  · rfl
  · next hc =>
      have hd := h.resolve_right hc
      rw [List.filter_cons_of_neg (by simp [hd]), List.filter_filter]
      refine List.filter_congr fun c' _ => ?_
      -- a name that is still to be defined is not the one that was taken
      cases hd' : d.lacks c' with
      | false => rfl
      | true =>
          have hne : c'.name ≠ c.name := by
            intro he
            rw [Draft.lacks, he] at hd'
            exact absurd (hd.symm.trans hd') Bool.false_ne_true
          simp [hne]

/-- A definition that succeeds is the first of its name. -/
theorem filter_lacks_of_ok (cs : List Definition) (hd : d.lacks c = true) (hc : c.mistake? = none)
    (m : Matcher) (order : List String) :
    (firsts (c :: cs)).filter d.lacks =
      c :: (firsts cs).filter (Draft.lacks ⟨putRule d.rules c.name m, order⟩) := by
  rw [firsts, if_neg (by simp [hc]), List.filter_cons_of_pos hd, List.filter_filter]
  refine congrArg (c :: ·) (List.filter_congr fun c' _ => ?_)
  rw [Draft.lacks_putRule]

/-- The definitions that succeed are the first sound ones of names still to be defined. -/
theorem succeeding_eq (cs : List Definition) :
    ∀ d : Draft, d.succeeding cs = (firsts cs).filter d.lacks := by
  induction cs with
  | nil => exact fun _ => rfl
  | cons c cs ih =>
      intro d
      obtain ⟨e, he, h⟩ | ⟨reference, m, he, -, hd, hc⟩ := d.defining_cases c
      · rw [Draft.succeeding_of_error he, ih, filter_lacks_of_error cs h]
      · rw [Draft.succeeding_of_ok he, ih, filter_lacks_of_ok cs hd hc]

/-- Bodies and order stay in step. -/
theorem Draft.InStep.defineAll (cs : List Definition) :
    ∀ {d : Draft}, d.InStep → (d.defineAll cs).InStep := by
  induction cs with
  | nil => exact id
  | cons c cs ih => exact fun h => ih (h.define c.name c.body c.next)

/-- The definitions that succeed add their rules. -/
theorem rules_defineAll (cs : List Definition) :
    ∀ d : Draft, ∃ rules, (d.defineAll cs).rules = d.rules ++ rules ∧
      List.Forall₂ Gives (d.succeeding cs) rules := by
  induction cs with
  | nil => exact fun d => ⟨[], (List.append_nil _).symm, .nil⟩
  | cons c cs ih =>
      intro d
      rw [Draft.defineAll]
      obtain ⟨e, he, -⟩ | ⟨reference, m, he, hrule, hd, -⟩ := d.defining_cases c
      · rw [Draft.succeeding_of_error he, he]
        exact ih d
      · rw [Draft.succeeding_of_ok he, he, putRule_of_notMem (Draft.lacks_iff.mp hd)]
        obtain ⟨rules, hrules, h⟩ := ih ⟨d.rules ++ [(c.name, m)], d.order ++ [c.name]⟩
        exact ⟨(c.name, m) :: rules, hrules.trans (List.append_assoc ..), .cons hrule h⟩

theorem mem_names_filter_iff {name taken : String} (h : name ≠ taken) (cs : List Definition) :
    name ∈ (cs.filter (·.name ≠ taken)).map Definition.name ↔ name ∈ cs.map Definition.name := by
  simp only [List.mem_map, List.mem_filter, decide_eq_true_iff]
  exact exists_congr fun c => ⟨fun hc => ⟨hc.1.1, hc.2⟩, fun hc => ⟨⟨hc.1, hc.2 ▸ h⟩, hc.2⟩⟩

/-- A name has a first sound definition if it has any. -/
theorem mem_names_firsts_iff {name : String} (cs : List Definition) :
    name ∈ (firsts cs).map Definition.name ↔ ∃ c ∈ cs, c.name = name ∧ c.mistake? = none := by
  induction cs with
  | nil => simp [firsts]
  | cons c cs ih =>
      simp only [firsts, List.mem_cons, exists_eq_or_imp]
      cases hc : c.mistake? with
      | some e => simp [ih]
      | none =>
          simp only [Option.isSome_none, Bool.false_eq_true, if_false, List.map_cons,
            List.mem_cons, and_true]
          by_cases hn : c.name = name
          · simp [hn]
          · rw [mem_names_filter_iff (Ne.symm hn), ih]
            simp only [hn, Ne.symm hn, false_or]

/-- What a definition gives its name to is determined. -/
theorem Definition.Gives.unique {rule rule' : String × Matcher} (h : c.Gives rule)
    (h' : c.Gives rule') : rule = rule' := by
  obtain ⟨hn, n, hb⟩ := h
  obtain ⟨hn', n', hb'⟩ := h'
  have he := (Input.runFrom_resolve hb .sequence).symm.trans (Input.runFrom_resolve hb' .sequence)
  exact Prod.ext (hn.trans hn'.symm) (Except.ok.inj (Prod.mk.inj he).1)

/-- The names of the rules are those of the definitions that gave them. -/
theorem names_of_gives {cs : List Definition} {rules : List (String × Matcher)}
    (h : List.Forall₂ Gives cs rules) : rules.map Prod.fst = cs.map Definition.name := by
  induction h with
  | nil => rfl
  | cons h _ ih => rw [List.map_cons, List.map_cons, h.1, ih]

theorem mem_of_gives {cs : List Definition} {rules : List (String × Matcher)}
    (h : List.Forall₂ Gives cs rules) {rule : String × Matcher} :
    rule ∈ rules ↔ ∃ c ∈ cs, c.Gives rule := by
  induction h with
  | nil => simp
  | @cons c rule' cs rules hc _ ih =>
      simp only [List.mem_cons, exists_eq_or_imp, ih]
      have hrule : rule = rule' ↔ c.Gives rule := ⟨fun he => he ▸ hc, fun h => h.unique hc⟩
      rw [hrule]

end

/-- What the draft is after the definitions, and what comes of it: of one more definition, and of
building a grammar. -/
structure Draft.Records (d : Draft) (cs : List Definition) : Prop where
  /-- The order has the names of the definitions that succeed, in their order. -/
  order : d.order = (Definition.firsts cs).map Definition.name
  inStep : d.InStep
  isDefined_iff : ∀ name, d.isDefined name = true ↔ name ∈ d.order
  sound_iff : ∀ name, d.isDefined name = true ↔ ∃ c ∈ cs, c.name = name ∧ c.mistake? = none
  /-- The bodies are those that were given to the definitions that succeed. -/
  rules : List.Forall₂ Definition.Gives (Definition.firsts cs) d.rules
  body_iff : ∀ name body, d.rules.lookup name = some body ↔
    ∃ c ∈ Definition.firsts cs, c.Gives (name, body)
  /-- Every name that is looked up in building has a body. -/
  exists_body : ∀ name ∈ d.order, ∃ body, d.rules.lookup name = some body
  failed : ∀ c e d', d.defining c = (.error e, d') → d'.rules = d.rules ∧ d'.order = d.order
  redefined : ∀ c, d.isDefined c.name = true →
    d.defining c = (.error (.ruleRedefined c.name), d)
  mistaken : ∀ c e, d.isDefined c.name = false → c.mistake? = some e →
    d.defining c = (.error e, d)
  sound : ∀ c, d.isDefined c.name = false → c.mistake? = none →
    ∃ m n, Input.Becomes c.next c.body m n ∧
      d.defining c =
        (.ok ⟨n, .rule c.name⟩, ⟨d.rules ++ [(c.name, m)], d.order ++ [c.name]⟩)
  built : ∀ root n g n', (d.build root).runFrom n = (.ok g, n') →
    g.rules = d.rules ∧ g.ruleNames = (Definition.firsts cs).map Definition.name ∧
      ∀ name body, g.rule? name = some body ↔ ∃ c ∈ Definition.firsts cs, c.Gives (name, body)

/-- A grammar has the bodies and the order of the draft it is built from. -/
theorem rules_and_order_of_build {d : Draft} {root : String} {n n' : Nat} {g : Grammar}
    (h : (d.build root).runFrom n = (.ok g, n')) : g.rules = d.rules ∧ g.order = d.order := by
  rw [runFrom_build] at h
  split at h
  · cases hd : d.firstDangling? with
    | some r => rw [hd] at h; cases h
    | none => rw [hd] at h; cases h; exact ⟨rfl, rfl⟩
  · cases h

/-- **All or nothing.**  After any definitions, in whatever order sound ones, mistaken ones and such
of names that are taken come, the draft has the rules of those that succeeded. -/
theorem draft_records_definitions (cs : List Definition) :
    Draft.blank.succeeding cs = Definition.firsts cs ∧
      (Draft.blank.defineAll cs).Records cs := by
  have hall : Draft.blank.succeeding cs = Definition.firsts cs := by
    rw [succeeding_eq]
    exact List.filter_eq_self.mpr fun _ _ => rfl
  have hstep : (Draft.blank.defineAll cs).InStep := Draft.InStep.blank.defineAll cs
  have hrules : List.Forall₂ Definition.Gives (Definition.firsts cs)
      (Draft.blank.defineAll cs).rules := by
    obtain ⟨rules, he, h⟩ := rules_defineAll cs Draft.blank
    rw [he, ← hall]
    exact h
  have horder : (Draft.blank.defineAll cs).order =
      (Definition.firsts cs).map Definition.name :=
    hstep.names.symm.trans (names_of_gives hrules)
  have hbody : ∀ name body, (Draft.blank.defineAll cs).rules.lookup name = some body ↔
      ∃ c ∈ Definition.firsts cs, c.Gives (name, body) := fun name body => by
    rw [hstep.lookup_iff, mem_of_gives hrules]
  refine ⟨hall, horder, hstep, fun _ => hstep.isDefined_iff_mem, fun name => ?sound_iff, hrules,
    hbody, fun _ => hstep.exists_body, fun _ _ _ => Draft.rules_and_order_of_error,
    fun _ => Draft.defining_of_isDefined, fun _ _ hd he => Draft.defining_of_mistake hd he,
    fun c hd hc => ?sound, fun root n g n' hg => ?built⟩
  case sound_iff =>
    rw [hstep.isDefined_iff_mem, horder, mem_names_firsts_iff]
  case sound =>
    obtain ⟨m, n, hm, he⟩ := Draft.defining_of_sound hd hc
    have hnot := mt Draft.isDefined_iff_mem_names.mpr (Bool.eq_false_iff.mp hd)
    exact ⟨m, n, hm, by rw [he, putRule_of_notMem hnot]⟩
  case built =>
    obtain ⟨hr, ho⟩ := rules_and_order_of_build hg
    exact ⟨hr, ho.trans horder, fun name body => by rw [Grammar.rule?, hr, hbody]⟩

/-- A name whose definition failed can be defined later, and then not once more. -/
example : let d := Draft.blank.defineAll [⟨"a", .text "", 0⟩, ⟨"b", .char 'b', 0⟩,
    ⟨"a", .char 'a', 1⟩, ⟨"b", .text "", 2⟩]
    d.rules = [("b", ⟨0, .literal "b"⟩), ("a", ⟨1, .literal "a"⟩)] ∧ d.order = ["b", "a"] :=
  ⟨rfl, rfl⟩

end Packrat
