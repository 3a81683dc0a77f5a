/-!
# CommandLine — Folder

What can go wrong when a file is read, and a folder that is given as data instead of lying on a
disk.
-/

namespace Packrat.CommandLine

/-- Why a file cannot be read as text. -/
inductive ReadError where
  | notFound
  | isFolder
  | notAFolder
  | nameTooLong
  | notText
  | other (reason : String)

def ReadError.message : ReadError → String
  | notFound => "No such file or directory (os error 2)"
  | isFolder => "Is a directory (os error 21)"
  | notAFolder => "Not a directory (os error 20)"
  | nameTooLong => "File name too long (os error 36)"
  | notText => "stream did not contain valid UTF-8"
  | other reason => reason

/-- Bytes as text. -/
def textOfBytes (bytes : ByteArray) : Except ReadError String :=
  match String.fromUTF8? bytes with
  | some s => .ok s
  | none => .error .notText

/-- Files by name. -/
structure Folder where
  files : List (String × ByteArray)

namespace Folder

/-- The most bytes that the name of a file can have. -/
def longestName : Nat := 255

/-- The most bytes that a path can have. -/
def longestPath : Nat := 4095

/-- Follows the parts of a path, from the folder itself if `inside`, else from one of those that it
lies in.  Nothing but dots leads to a folder, and nothing lies below a file.  Of what is outside,
nothing is known by name. -/
def follow (f : Folder) (inside : Bool) : List String → Except ReadError ByteArray
  | [] => .error .isFolder
  | part :: parts =>
    if part = "" ∨ part = "." then f.follow inside parts
    else if part = ".." then f.follow false parts
    else if longestName < part.utf8ByteSize then .error .nameTooLong
    else
      match if inside then f.files.lookup part else none with
      | none => .error .notFound
      | some bytes => if parts.isEmpty then .ok bytes else .error .notAFolder

/-- Reads a file of the folder as text.  A path that starts with a slash starts outside. -/
def read (f : Folder) (path : String) : Except ReadError String := do
  if path.isEmpty then throw .notFound
  if longestPath < path.utf8ByteSize then throw .nameTooLong
  textOfBytes (← f.follow (!path.startsWith "/") (path.splitOn "/"))

end Folder

end Packrat.CommandLine
