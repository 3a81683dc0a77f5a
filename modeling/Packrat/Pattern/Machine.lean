import Packrat.Pattern.Plan

/-!
# Pattern — Machine

How much room a machine for a pattern takes up.  The machine goes from state to state with each byte
of a text, either from the start of the text or backwards from its end, and both machines have to
fit into the room there is.  Repetitions are written out: a body stands there once for each round
that is counted.  A class is a network of byte ranges, one path for each way to write its characters
in UTF-8 (`bytePaths`).
-/

namespace Packrat.Pattern

/-! ### Characters as bytes -/

/-- The numbers that `digits` digits of six bits can write. -/
def sixBitLimit : (digits : Nat) → Nat
  | 0 => 1
  | digits + 1 => 64 * sixBitLimit digits

/-- A range for each byte of a character. -/
abbrev BytePath := List (Nat × Nat)

/-- The paths for the numbers from `low` to `high`, written as a first byte above `lead` and
`digits` bytes of six bits.  Numbers with the same first byte are apart from those for which all
following bytes are possible. -/
def digitPaths (lead : Nat) : (digits : Nat) → (low high : Nat) → List BytePath
  | 0, low, high => [[(lead + low, lead + high)]]
  | digits + 1, low, high =>
    let unit := sixBitLimit (digits + 1)
    let first := low / unit
    let last := high / unit
    let under (byte low high : Nat) : List BytePath :=
      (digitPaths 0x80 digits low high).map ((lead + byte, lead + byte) :: ·)
    if first = last then under first (low % unit) (high % unit)
    else
      let lowCut := low % unit ≠ 0
      let highCut := high % unit ≠ unit - 1
      let first' := if lowCut then first + 1 else first
      let last' := if highCut then last - 1 else last
      (if lowCut then under first (low % unit) (unit - 1) else []) ++
        (if first' ≤ last' then
          [(lead + first', lead + last') :: List.replicate (digits + 1) (0x80, 0xBF)]
        else []) ++
        (if highCut then under last 0 (high % unit) else [])

/-- The numbers that are written with equally many bytes, with the lead of the first byte and how
many follow it. -/
def byteForms : List (Nat × Nat × Nat × Nat) :=
  [(0, 0x7F, 0, 0), (0x80, 0x7FF, 0xC0, 1), (0x800, 0xD7FF, 0xE0, 2), (0xE000, 0xFFFF, 0xE0, 2),
    (0x10000, 0x10FFFF, 0xF0, 3)]

/-- The paths for the characters of a set. -/
def Intervals.bytePaths (s : Intervals) : List BytePath :=
  s.flatMap fun (low, high) =>
    byteForms.flatMap fun (a, b, lead, digits) =>
      if max low a ≤ min high b then digitPaths lead digits (max low a) (min high b) else []

/-! ### Words with a common start -/

section Words

variable {α : Type} [DecidableEq α]

/-- Puts a word before those with the same first sign. -/
def groupWord (x : α) (word : List α) : List (α × List (List α)) → List (α × List (List α))
  | [] => [(x, [word])]
  | (y, words) :: groups =>
    if x = y then (y, word :: words) :: groups else (y, words) :: groupWord x word groups

/-- The words that are not empty, by their first sign and without it. -/
def groupByHead : List (List α) → List (α × List (List α))
  | [] => []
  | [] :: words => groupByHead words
  | (x :: word) :: words => groupWord x word (groupByHead words)

/-- How many different starts there are, of words with at most `length` signs.  The empty one does
not count. -/
def startCount : (length : Nat) → List (List α) → Nat
  | 0, _ => 0
  | length + 1, words =>
    (groupByHead words).foldl (fun n g => n + 1 + startCount length g.2) 0

/-- For each start of a word, what can follow it: unless that is the end only. -/
def continuations : (length : Nat) → List (List α) → List (List (List α))
  | 0, _ => []
  | length + 1, words =>
    match groupByHead words with
    | [] => []
    | groups => words :: groups.flatMap fun g => continuations length g.2

end Words

/-! ### Room -/

/-- The direction in which a machine reads. -/
inductive Direction where
  | forward
  | backward
  deriving DecidableEq

/-- The room for a state, in bytes. -/
def stateRoom : Nat := 32

/-- The room for a state that leads on with any of several ranges of bytes. -/
def rangesRoom (count : Nat) : Nat := stateRoom + 8 * count

/-- The room for a state that leads on to any of several states. -/
def forkRoom (count : Nat) : Nat := stateRoom + 4 * count

/-- The most bytes that a character is written with. -/
def longestChar : Nat := 4

/-- The room for a class.  Characters that are written as one byte take one state.  In forward
direction, all that can follow a start is one state, wherever it is the same; backwards, a state
leads on with one range. -/
def classRoom (d : Direction) (s : Intervals) : Nat :=
  if s.all (·.2 < 0x80) then rangesRoom s.length + stateRoom
  else
    let paths := s.bytePaths
    match d with
    | .forward =>
      (continuations longestChar paths).eraseDups.foldl
        (fun n words => n + rangesRoom (groupByHead words).length) stateRoom
    | .backward =>
      forkRoom paths.length + stateRoom + stateRoom * startCount longestChar paths

/-- Splits words, where one is empty, into those before and after it.  An empty word splits nothing
off if nothing but empty words came before it, except for the first. -/
def splitAtEmpty (current : List (List Nat)) : List (List Nat) → List (List (List Nat))
  | [] => [current.reverse]
  | [] :: words => current.reverse :: splitAtEmpty [] words
  | (x :: word) :: words => splitAtEmpty ((x :: word) :: current) words

/-- The words with at most one empty word in front. -/
def dropEmpty : List (List Nat) → List (List Nat)
  | [] :: [] :: words => dropEmpty ([] :: words)
  | words => words

/-- The room for a choice of words, of at most `length` bytes: words with the same start share its
states, as long as no whole word stands between them. -/
def wordsRoom : (length : Nat) → List (List Nat) → Nat
  | 0, _ => 0
  | length + 1, words =>
    if words.all List.isEmpty then 0
    else
      let chunks := splitAtEmpty [] (dropEmpty words)
      let groups := (chunks.map groupByHead).filter (!·.isEmpty)
      groups.foldl
        (fun n chunk =>
          chunk.foldl (fun n g => n + wordsRoom length g.2)
            (n + if chunk.length = 1 then stateRoom else rangesRoom chunk.length))
        (forkRoom (groups.length + (chunks.length - 1)))

/-- The bytes of a text in the order in which they are read. -/
def bytesOf (d : Direction) (text : List Char) : List Nat :=
  let bytes := (String.ofList text).toUTF8.toList.map UInt8.toNat
  match d with
  | .forward => bytes
  | .backward => bytes.reverse

namespace Plan

def literal? : Plan → Option (List Char)
  | literal text => some text
  | _ => none

mutual

/-- The room for a plan. -/
def room (d : Direction) : Plan → Nat
  | empty | look _ => stateRoom
  | literal text => stateRoom * (bytesOf d text).length
  | set s => classRoom d s
  | capture a => a.room d + if d = .forward then 2 * stateRoom else 0
  | sequence as => roomAll d as
  | choice as =>
    match as.mapM literal? with
    | some texts =>
      let words := texts.map (bytesOf d)
      stateRoom + wordsRoom (words.foldl (fun n w => max n w.length) 0 + 1) words
    | none => forkRoom as.length + stateRoom + roomAll d as
  | rounds a low high =>
    let r := a.room d
    match low, high with
    | 0, some 1 => forkRoom 2 + r + stateRoom
    | 0, none =>
      if a.minLength?.any (0 < ·) then forkRoom 2 + r
      else r + forkRoom 2 + forkRoom 2 + stateRoom
    | low, none => low * r + forkRoom 2
    | low, some high =>
      let counted := if low = 0 then stateRoom else low * r
      if low = high then counted else counted + stateRoom + (high - low) * (forkRoom 2 + r)

def roomAll (d : Direction) : List Plan → Nat
  | [] => 0
  | a :: as => a.room d + roomAll d as

end

/-- The room for the whole machine: the pattern is a group, with a state before and one after it. -/
def machineRoom (d : Direction) (a : Plan) : Nat :=
  stateRoom + (capture a).room d + stateRoom

/-- Machines with more bytes than this are refused. -/
def roomLimit : Nat := 0xA00000

/-- Do the machines for both directions fit? -/
def fits (a : Plan) : Bool :=
  a.machineRoom .forward ≤ roomLimit && a.machineRoom .backward ≤ roomLimit

end Plan

end Packrat.Pattern
