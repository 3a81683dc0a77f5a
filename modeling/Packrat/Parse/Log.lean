import Packrat.Parse

/-!
# Parse — Log

What is logged about grammars and parses.  An entry has a weight, a message and named values.  A
parse logs how it starts and how it ends; if it is traced, everything that happens in between is
logged too, rules together with how deeply they are nested.
-/

namespace Packrat

/-- How much detail an entry is about. -/
inductive LogWeight where
  | debug
  | trace
  deriving DecidableEq

def LogWeight.name : LogWeight → String
  | debug => "DEBUG"
  | trace => "TRACE"

/-- A value in an entry. -/
inductive LogValue where
  | number (n : Nat)
  | flag (b : Bool)
  | text (s : String)

structure LogEntry where
  weight : LogWeight
  message : String
  fields : List (String × LogValue)

/-- The entry for a grammar that was built. -/
def Grammar.builtEntry (g : Grammar) : LogEntry :=
  ⟨.debug, "built grammar", [("rules", .number g.order.length), ("root", .text g.root.render)]⟩

namespace Event

/-- The entry for an event at a nesting depth of rules, and the depth after it. -/
def entry (depth : Nat) (e : Event) : LogEntry × Nat :=
  let cursor := ("cursor", LogValue.number e.cursor)
  match e.subject, e.phase with
  | .rule name, .entered =>
    (⟨.debug, "enter rule", [("depth", .number depth), cursor, ("rule", .text name)]⟩, depth + 1)
  | .rule name, .matched _ =>
    (⟨.debug, "matched rule", [("depth", .number (depth - 1)), cursor, ("rule", .text name)]⟩,
      depth - 1)
  | .rule name, .failed p =>
    (⟨.debug, "rule did not match",
      [("depth", .number (depth - 1)), ("position", .number p), ("rule", .text name)]⟩, depth - 1)
  | .matcher m, .entered =>
    (⟨.trace, "enter matcher", [cursor, ("matcher", .text m.render)]⟩, depth)
  | .matcher m, .matched _ =>
    (⟨.trace, "matched", [cursor, ("matcher", .text m.render)]⟩, depth)
  | .matcher m, .failed p =>
    (⟨.trace, "did not match", [("position", .number p), ("matcher", .text m.render)]⟩, depth)

/-- The entries for events, from a nesting depth on. -/
def entries (depth : Nat) : List Event → List LogEntry
  | [] => []
  | e :: es =>
    let (entry, depth) := e.entry depth
    entry :: entries depth es

end Event

/-- The log of a parse; `traced` says whether its events are logged. -/
def Run.log (r : Run) (g : Grammar) (cfg : Config) (traced : Bool) : List LogEntry :=
  let started : LogEntry :=
    ⟨.debug, "parsing",
      [("tokens", .number r.final.tokens.size), ("root", .text g.root.render),
        ("memoize", .flag cfg.memoize)]⟩
  let ended : LogEntry :=
    match r.result with
    | .ok _ => ⟨.debug, "parsed", [("memoized", .number r.final.memo.size)]⟩
    | .error e => ⟨.debug, "parse failed", [("error", .text e.message)]⟩
  started :: (if traced then Event.entries 0 r.events else []) ++ [ended]

end Packrat
