import Packrat.CommandLine

/-!
# Main

The program: reads the file that its command line asks for and the lines that come in, and writes
what the library answers.
-/

open Packrat.CommandLine

/-- Reads a file as text. -/
def readText (path : String) : IO (Except ReadError String) := do
  try
    return textOfBytes (← IO.FS.readBinFile path)
  catch e =>
    match e with
    | .noFileOrDirectory .. => return .error .notFound
    | .inappropriateType _ code _ => return .error (if code = 21 then .isFolder else .notAFolder)
    | .invalidArgument .. => return .error .nameTooLong
    | e => return .error (.other (toString e))

/-- Reads the lines of a session only if there is one. -/
def readInput (reading : Reading) : IO String := do
  match reading with
  | .run _ (.repl _) => do
    let bytes ← (← IO.getStdin).readToEnd
    return bytes
  | _ => return ""

def main (words : List String) : IO UInt32 := do
  let reading := Reading.ofWords words
  let file ← match reading.file? with
    | some path => readText path
    | none => pure (.error .notFound)
  let done := reading.carryOut file (← readInput reading)
  (← IO.getStdout).putStr done.written.out
  (← IO.getStderr).putStr done.written.err
  return done.code.toUInt32
