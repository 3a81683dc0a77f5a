/-!
# CommandLine — Arguments

What the words of a command line ask for.  Options come before or after the subcommand; those given
after it win.  Everything after `--` is no option.  The version and the help text are shown as soon
as they are asked for, whatever comes later; of what is wrong before them, only a word that cannot
be understood keeps them from being shown.
-/

namespace Packrat.CommandLine

/-- What is asked for. -/
inductive Request where
  /-- Parse a file; the flag asks for a tally of its rules. -/
  | parse (file : String) (stats : Bool)
  /-- Parse an expression. -/
  | expr (input : String)
  /-- Parse lines as they come, starting at a rule. -/
  | repl (root : String)

/-- How to go about it. -/
structure Settings where
  trace : Bool
  memoize : Bool
  maxDepth : Nat
  plain : Bool
  verbosity : Nat

def Settings.standard : Settings := ⟨false, true, 256, false, 0⟩

/-- What is wrong with a command line. -/
inductive UsageError where
  | unknownOption (word : String)
  | unexpectedValue (option : String)
  | missingValue (option : String)
  | repeated (option : String)
  | invalidNumber (word : String)
  | unknownCommand (word : String)
  | unexpectedWord (word : String)
  | missingWord (name : String)

def UsageError.message : UsageError → String
  | unknownOption w => "unknown option " ++ w
  | unexpectedValue o => "the option " ++ o ++ " takes no value"
  | missingValue o => "the option " ++ o ++ " needs a value"
  | repeated o => "the option " ++ o ++ " was given more than once"
  | invalidNumber w => "not a number: " ++ w
  | unknownCommand w => "unknown command " ++ w
  | unexpectedWord w => "unexpected argument " ++ w
  | missingWord n => "missing argument " ++ n

/-- What a command line comes to. -/
inductive Reading where
  | run (settings : Settings) (request : Request)
  | version
  | help
  | misuse (e : UsageError)

/-! ### Options -/

/-- The options. -/
inductive Opt where
  | trace
  | noMemo
  | maxDepth
  | plain
  | verbose
  | version
  | help
  | stats
  | root
  deriving DecidableEq

def Opt.word : Opt → String
  | trace => "--trace"
  | noMemo => "--no-memo"
  | maxDepth => "--max-depth"
  | plain => "--plain"
  | verbose => "--verbose"
  | version => "--version"
  | help => "--help"
  | stats => "--stats"
  | root => "--root"

def Opt.takesValue : Opt → Bool
  | maxDepth | root => true
  | _ => false

/-- An option with a single letter. -/
def Opt.ofLetter? : Char → Option Opt
  | 'v' => some verbose
  | 'V' => some version
  | 'h' => some help
  | _ => none

/-- The subcommands. -/
inductive Command where
  | parse
  | expr
  | repl
  deriving DecidableEq

def Command.ofWord? : String → Option Command
  | "parse" => some parse
  | "expr" => some expr
  | "repl" => some repl
  | _ => none

/-- The options that can be given without a subcommand, or after one. -/
def optionsOf : Option Command → List Opt
  | none => [.trace, .noMemo, .maxDepth, .plain, .verbose, .version, .help]
  | some .parse => [.trace, .noMemo, .maxDepth, .plain, .verbose, .help, .stats]
  | some .expr => [.trace, .noMemo, .maxDepth, .plain, .verbose, .help]
  | some .repl => [.trace, .noMemo, .maxDepth, .plain, .verbose, .help, .root]

/-! ### Sorting the words -/

/-- An option, and the value that was given with it. -/
abbrev GivenOpt := Opt × Option String

/-- The words of a command line, sorted: options in order, those before the subcommand apart from
those after it, and the other words after the subcommand. -/
structure Sorted where
  before : List GivenOpt
  command : Option Command
  after : List GivenOpt
  words : List String

/-- Why sorting stopped early. -/
inductive Stop where
  | version
  | help
  | misuse (e : UsageError)

namespace Sorted

def add (s : Sorted) (o : Opt) (value : Option String) : Sorted :=
  match s.command with
  | none => { s with before := s.before ++ [(o, value)] }
  | some _ => { s with after := s.after ++ [(o, value)] }

/-- Takes an option without a value into account. -/
def addFlag (s : Sorted) (o : Opt) : Except Stop Sorted :=
  match o with
  | .version => .error .version
  | .help => .error .help
  | o => .ok (s.add o none)

/-- Takes the letters of a word such as `-vv` into account. -/
def addLetters (word : String) (s : Sorted) : List Char → Except Stop Sorted
  | [] => .ok s
  | c :: cs =>
    match Opt.ofLetter? c with
    | some o =>
      if (optionsOf s.command).contains o then do
        addLetters word (← s.addFlag o) cs
      else .error (.misuse (.unknownOption word))
    | none => .error (.misuse (.unknownOption word))

/-- How many words may follow a subcommand. -/
def capacity : Command → Nat
  | .parse | .expr => 1
  | .repl => 0

/-- Takes a word that is no option into account. -/
def addWord (s : Sorted) (word : String) (afterDashes : Bool) : Except Stop Sorted :=
  match s.command with
  | none =>
    if afterDashes then .error (.misuse (.unexpectedWord word))
    else
      match Command.ofWord? word with
      | some c => .ok { s with command := some c }
      | none => .error (.misuse (.unknownCommand word))
  | some c =>
    if s.words.length < capacity c then .ok { s with words := s.words ++ [word] }
    else .error (.misuse (.unexpectedWord word))

end Sorted

/-- The word up to its first equals sign, and what comes after it. -/
def splitEquals (cs : List Char) : String × Option String :=
  match cs.dropWhile (· ≠ '=') with
  | _ :: value => (.ofList (cs.takeWhile (· ≠ '=')), some (.ofList value))
  | [] => (.ofList cs, none)

/-- Does the word look like an option?  A single hyphen does not. -/
def isOptionLike (word : String) : Bool :=
  word.startsWith "-" && word ≠ "-"

/-- What the words after `help` ask for: help about the program, about a subcommand, or about `help`
itself.  None of these has subcommands of its own. -/
def askHelp : List String → Stop
  | [] => .help
  | [w] =>
    if w = "help" || (Command.ofWord? w).isSome then .help else .misuse (.unknownCommand w)
  | _ :: w :: _ => .misuse (.unexpectedWord w)

/-- Sorts words after `--`: none of them is an option. -/
def sortPlain (s : Sorted) : List String → Except Stop Sorted
  | [] => .ok s
  | w :: ws => do sortPlain (← s.addWord w true) ws

/-- Sorts words.  An option that takes a value takes the next word for it, unless that looks like an
option itself; then it is left without one. -/
def sort (s : Sorted) : List String → Except Stop Sorted
  | [] => .ok s
  | "--" :: ws => sortPlain s ws
  | w :: ws =>
    if w.startsWith "--" then
      let (name, value) := splitEquals w.toList
      match (optionsOf s.command).find? (·.word = name) with
      | none => .error (.misuse (.unknownOption w))
      | some o =>
        if o.takesValue then
          match value, ws with
          | some v, ws => sort (s.add o (some v)) ws
          | none, v :: ws =>
            if isOptionLike v then sort (s.add o none) (v :: ws) else sort (s.add o (some v)) ws
          | none, [] => .ok (s.add o none)
        else
          match value with
          | some _ => .error (.misuse (.unexpectedValue name))
          | none => do sort (← s.addFlag o) ws
    else if isOptionLike w then do sort (← s.addLetters w (w.toList.drop 1)) ws
    else if w = "help" && s.command.isNone then .error (askHelp ws)
    else do sort (← s.addWord w false) ws

/-! ### From words to a request -/

/-- A natural number that fits into 64 bits, with an optional plus sign. -/
def number? (word : String) : Option Nat :=
  let digits := match word.toList with
    | '+' :: cs => cs
    | cs => cs
  if digits.isEmpty || !digits.all Char.isDigit then none
  else
    let n := digits.foldl (fun n c => n * 10 + (c.toNat - '0'.toNat)) 0
    if n < 0x10000000000000000 then some n else none

/-- The first option that stands twice among those of one side, which only the one for verbosity
may. -/
def repeated? : List GivenOpt → Option Opt
  | [] => none
  | (o, _) :: os =>
    if o ≠ .verbose && os.any (·.1 = o) then some o else repeated? os

/-- Applies an option. -/
def Settings.apply (s : Settings) : GivenOpt → Except UsageError Settings
  | (.trace, _) => .ok { s with trace := true }
  | (.noMemo, _) => .ok { s with memoize := false }
  | (.plain, _) => .ok { s with plain := true }
  | (.verbose, _) => .ok { s with verbosity := s.verbosity + 1 }
  | (.maxDepth, some v) =>
    match number? v with
    | some n => .ok { s with maxDepth := n }
    | none => .error (.invalidNumber v)
  | (o, none) => if o.takesValue then .error (.missingValue o.word) else .ok s
  | (_, some _) => .ok s

/-- Applies all options of one side.  Verbosity is counted on each side alone. -/
def Settings.applyAll (s : Settings) (os : List GivenOpt) : Except UsageError Settings :=
  match repeated? os with
  | some o => .error (.repeated o.word)
  | none =>
    let s := if os.any (·.1 = .verbose) then { s with verbosity := 0 } else s
    os.foldlM Settings.apply s

/-- What the sorted words ask for. -/
def Sorted.request (s : Sorted) : Except UsageError Request :=
  match s.command, s.words with
  | none, _ => .ok (.repl "program")
  | some .parse, [f] => .ok (.parse f (s.after.any (·.1 = .stats)))
  | some .parse, _ => .error (.missingWord "<FILENAME>")
  | some .expr, [i] => .ok (.expr i)
  | some .expr, _ => .error (.missingWord "<INPUT>")
  | some .repl, _ => .ok (.repl ((s.after.lookup .root).join.getD "program"))

/-- Reads a command line. -/
def Reading.ofWords (words : List String) : Reading :=
  match sort ⟨[], none, [], []⟩ words with
  | .error .version => .version
  | .error .help => .help
  | .error (.misuse e) => .misuse e
  | .ok s =>
    match (do
      let settings ← Settings.standard.applyAll s.before
      let settings ← settings.applyAll s.after
      return Reading.run settings (← s.request)) with
    | .ok r => r
    | .error e => .misuse e

end Packrat.CommandLine
