import Packrat.CommandLine.Recognise
import Packrat.Text.Blank

/-!
# CommandLine — Session

Parsing lines as they are typed.  Lines that start with a colon are commands:

- `:root RULE` parses the lines that follow starting at `RULE`
- `:rules` lists the rules that a session can start at
- `:quit` and `:q` end the session
-/

namespace Packrat.CommandLine

/-- The rule that lines are parsed as, and how many have been parsed. -/
structure Session where
  root : String
  entries : Nat

/-- A command of the session. -/
inductive SessionCommand where
  | root (rule : String)
  | rules
  | quit

/-- Why a command cannot be carried out. -/
inductive SessionError where
  | noSuchRule (rule : String)
  | unknownCommand (text : String)

def SessionError.message : SessionError → String
  | noSuchRule r => "no rule named `" ++ r ++ "`, try `:rules`"
  | unknownCommand t => "unknown command `" ++ t ++ "`"

namespace Session

def start (root : String) : Session := ⟨root, 0⟩

/-- Reads a command after its colon. -/
def command (cs : List Char) : Except SessionError SessionCommand :=
  match (blankWords cs).map String.ofList with
  | ["root", rule] => .ok (.root rule)
  | ["rules"] => .ok .rules
  | ["quit"] | ["q"] => .ok .quit
  | _ => .error (.unknownCommand (.ofList (trimBlanks cs)))

/-- The rules, with a mark at the one in force. -/
def ruleList (s : Session) : String :=
  .join (Calculator.ruleNames.map fun r => (if r = s.root then "* " else "  ") ++ r ++ "\n")

/-- Carries out a command; `none` ends the session. -/
def obey (s : Session) : SessionCommand → Except SessionError (Written × Option Session)
  | .root rule =>
    if Calculator.ruleNames.contains rule then .ok (.nothing, some { s with root := rule })
    else .error (.noSuchRule rule)
  | .rules => .ok (⟨s.ruleList, ""⟩, some s)
  | .quit => .ok (.nothing, none)

/-- The name of the input with the given number. -/
def inputName (n : Nat) : String :=
  "<input " ++ toString n ++ ">"

/-- Parses a line as input. -/
def enter (settings : Settings) (s : Session) (line : List Char) : Written × Session :=
  let s := { s with entries := s.entries + 1 }
  match settings.recognise s.root (inputName s.entries) (.ofList line) with
  | .ok o => (⟨outputText o, ""⟩, s)
  | .error w => (w, s)

/-- Deals with a line: blank lines are skipped, commands carried out, and all other lines parsed.
`none` ends the session; a command that fails does not. -/
def step (settings : Settings) (s : Session) (line : List Char) : Written × Option Session :=
  match trimBlanks line with
  | [] => (.nothing, some s)
  | ':' :: cs =>
    match command cs >>= s.obey with
    | .ok r => r
    | .error e => (⟨"", e.message ++ "\n"⟩, some s)
  | _ =>
    let (w, s) := s.enter settings line
    (w, some s)

/-- Deals with lines until the session ends or there are no more. -/
def run (settings : Settings) (s : Session) : List (List Char) → Written
  | [] => .nothing
  | line :: lines =>
    match s.step settings line with
    | (w, some s) => w ++ s.run settings lines
    | (w, none) => w

end Session

end Packrat.CommandLine
