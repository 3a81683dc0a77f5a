import Packrat.Grammar.Build

/-!
# Grammar

A grammar is a set of named rules with a root rule.  It is put together in a `Draft`, one rule at a
time, and building it checks that every rule referred to is defined, so a grammar is closed.

The bodies of rules are looked up by name.  A list of the names keeps the order in which they were
defined, next to the bodies.
-/

namespace Packrat

/-- The rules defined so far. -/
structure Draft where
  /-- The bodies by name. -/
  rules : List (String × Matcher)
  /-- The names, in the order of their definition. -/
  order : List String

/-- Rules by name, their names in the order of their definition, and a reference to the root
rule. -/
structure Grammar where
  root : Matcher
  rules : List (String × Matcher)
  order : List String

/-- Work on a draft, which is kept where an error ends the work. -/
abbrev Drafting := ExceptT GrammarError (StateT Draft (StateM Nat))

/-- Builders do not work on the draft. -/
instance (priority := low) : MonadLift Build Drafting :=
  ⟨fun x => ExceptT.mk (StateT.lift (ExceptT.run x))⟩

/-- Gives a body to the name, in place of the one it has, if it has one. -/
def putRule (rules : List (String × Matcher)) (name : String) (body : Matcher) :
    List (String × Matcher) :=
  rules.filter (·.1 ≠ name) ++ [(name, body)]

namespace Draft

/-- No rules. -/
def blank : Draft := ⟨[], []⟩

def isDefined (d : Draft) (name : String) : Bool :=
  (d.rules.lookup name).isSome

/-- Defines a rule that is not defined yet, and makes a reference to it. -/
def define (name : String) (body : Input) : Drafting Matcher := do
  if (← get).isDefined name then throw (.ruleRedefined name)
  let m ← Matcher.sequence [body]
  modify fun d => { d with rules := putRule d.rules name m }
  modify fun d => { d with order := d.order ++ [name] }
  Matcher.rule name

/-- The first reference in a rule's body to a rule that is not defined. -/
def dangling? (d : Draft) (body : Matcher) : Option String :=
  body.references.find? fun name => !d.isDefined name

/-- The first rule, in the order of definition, that refers to a rule that is not defined.  There
has to be a body for each name in the order. -/
def firstDangling? (d : Draft) : Option (String × String) :=
  d.order.findSome? fun rule => (d.dangling? (d.rules.lookup rule).get!).map (rule, ·)

/-- The grammar that starts at the rule `root`. -/
def build (d : Draft) (root : String) : Build Grammar := do
  if !d.isDefined root then throw (.undefinedRoot root)
  match d.firstDangling? with
  | some (rule, name) => throw (.undefinedRule rule name)
  | none => return ⟨← Matcher.rule root, d.rules, d.order⟩

end Draft

namespace Grammar

/-- The body of a rule. -/
def rule? (g : Grammar) (name : String) : Option Matcher :=
  g.rules.lookup name

/-- The names of the rules, in the order of their definition. -/
def ruleNames (g : Grammar) : List String :=
  g.order

end Grammar

end Packrat
