import Packrat.Calculator.Tally
import Packrat.CommandLine.Folder
import Packrat.CommandLine.Session
import Packrat.Text.Lines

/-!
# CommandLine

Carrying out a command line: parse a file or an expression and print its tree, or hold a session
over lines of input.
-/

namespace Packrat.CommandLine

/-- What a command leaves behind. -/
structure Finished where
  code : Nat
  written : Written

/-- The name and version of the program. -/
def versionText : String := "recognizer 0.1.0\n"

def helpText : String :=
  "Parse calculator programs with a grammar-combinator engine\n\n" ++
    "USAGE:\n    recognizer [OPTIONS] [SUBCOMMAND]\n\n" ++
    "SUBCOMMANDS:\n    expr\n    help\n    parse\n    repl\n"

/-- Parses a file, whose text has been read or not. -/
def parseFile (settings : Settings) (name : String) (stats : Bool) :
    Except ReadError String → Finished
  | .error e =>
    ⟨1, "", ((Diagnostic.error ("cannot read: " ++ e.message)).inInput name).summary ++ "\n"⟩
  | .ok source =>
    match settings.recognise "program" name source with
    | .error w => ⟨1, w⟩
    | .ok o =>
      let report :=
        if stats then (Calculator.Tally.zero.scan [o.root]).report else ""
      ⟨0, outputText o ++ report, ""⟩

/-- Parses an expression. -/
def parseExpression (settings : Settings) (input : String) : Finished :=
  match settings.recognise "expression" "<expr>" input with
  | .error w => ⟨1, w⟩
  | .ok o => ⟨0, outputText o, ""⟩

/-- Holds a session over all lines of an input. -/
def holdSession (settings : Settings) (root input : String) : Finished :=
  ⟨0, (Session.start root).run settings (textLines input.toList)⟩

/-- Carries out a request; `file` is what reading the file asked for gives, and `input` what comes
in. -/
def Request.carryOut (settings : Settings) (file : Except ReadError String) (input : String) :
    Request → Finished
  | .parse name stats => parseFile settings name stats file
  | .expr text => parseExpression settings text
  | .repl root => holdSession settings root input

/-- The file that a command line asks for. -/
def Reading.file? : Reading → Option String
  | .run _ (.parse name _) => some name
  | _ => none

/-- Carries out a command line. -/
def Reading.carryOut (file : Except ReadError String) (input : String) : Reading → Finished
  | .run settings request => request.carryOut settings file input
  | .version => ⟨0, versionText, ""⟩
  | .help => ⟨0, helpText, ""⟩
  | .misuse e => ⟨2, "", "error: " ++ e.message ++ "\n"⟩

end Packrat.CommandLine
