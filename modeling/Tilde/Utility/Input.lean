import Tilde.Utility.Tool

/-!
# The input of a tool

A tool reads the files that it is given, where a dash stands for its standard input, either in
blocks or by lines. What has been read of a block is not there for others any more.
-/

namespace Tilde.Utility

open Unix (Bytes Act Errno Call OpenMode)

/-- A line: its text, and whether its end was there. -/
structure Line where
  text : Bytes
  ended : Bool := true

/-- A line as it was read, under what ends a line. -/
def Line.whole (l : Line) (ending : Char) : Bytes :=
  if l.ended then l.text.push ending else l.text

/-- Input that is read by lines. -/
structure Source where
  fd : Nat
  /-- What ends a line. -/
  ending : Char := '\n'
  /-- The lines that have been read and not used. -/
  ready : List Bytes := []
  /-- The beginning of the next line, the last piece first. -/
  begun : List Bytes := []
  /-- There is nothing more to read. -/
  isOver : Bool := false
  /-- The error that reading ended with. -/
  error : Option Errno := none

namespace Tool

/-- Opens a file to read. -/
def openInput (path : Bytes) : Tool (Except Errno Nat) :=
  if path == "-" then return .ok 0
  else act (Act.number (.open_ path { reads := true } 0))

/-- Closes what was opened to read. -/
def closeInput (fd : Nat) : Tool Unit := do
  if fd == 0 then return
  let _ ← ask (.close fd)

/-- Reads a block; the end is an empty one. -/
def readBlock (fd : Nat) : Tool (Except Errno Bytes) := act (Act.text (.read fd 65536))

/-- Reads all that a descriptor gives. -/
def readAll (fd : Nat) : Tool (Except Errno Bytes) := act (Act.readAll fd)

/-- Adds a block to the input. -/
def addBlock (source : Source) (block : Bytes) : Source :=
  match block.splitOn (String.singleton source.ending) with
  | [] => source
  | [piece] => { source with begun := piece :: source.begun }
  | piece :: more =>
    let first := String.join (piece :: source.begun).reverse
    let last := more.getLastD ""
    { source with
      ready := first :: more.dropLast
      begun := if last.isEmpty then [] else [last] }

/-- The next line; none at the end. -/
def nextLine : (bound : Nat) → Source → Tool (Option Line × Source)
  | 0, source => return (none, source)
  | bound + 1, source => do
    match source.ready with
    | line :: ready => return (some ⟨line, true⟩, { source with ready })
    | [] =>
      if source.isOver then
        if source.begun.isEmpty then return (none, source)
        else return (some ⟨String.join source.begun.reverse, false⟩, { source with begun := [] })
      else match ← readBlock source.fd with
        | .error .interrupted => nextLine bound source
        | .error e => nextLine bound { source with isOver := true, error := some e }
        | .ok "" => nextLine bound { source with isOver := true }
        | .ok block => nextLine bound (addBlock source block)

/-- The next line; none at the end. -/
def line (source : Source) : Tool (Option Line × Source) := nextLine rounds source

/-- Puts the place of a descriptor back to the end of the lines that were used. -/
def giveBack (source : Source) : Tool Unit := do
  let unread := source.ready.foldl (fun n l => n + l.length + 1) 0 +
    source.begun.foldl (fun n l => n + l.length) 0
  if unread == 0 then return
  match ← act (Act.number (.tell source.fd)) with
  | .ok place =>
    let _ ← ask (.seek source.fd (place - unread))
  | .error _ => return

/-- Says what went wrong with a file, and goes on. -/
def warnOf (path : Bytes) (e : Errno) : Tool Unit :=
  warn (Quoting.name path ++ ": " ++ e.text)

/-- The files to read: the input if none are given. -/
def inputs (paths : List Bytes) : List Bytes := if paths.isEmpty then ["-"] else paths

/-- Does something with each line from a state on, until there are no more or there is no state
left. -/
def foldLines {σ : Type} (step : σ → Line → Tool (σ × Bool)) :
    (bound : Nat) → Source → σ → Tool (σ × Bool × Source)
  | 0, source, s => return (s, true, source)
  | bound + 1, source, s => do
    match ← line source with
    | (none, source) => return (s, true, source)
    | (some l, source) =>
      match ← step s l with
      | (s, true) => foldLines step bound source s
      | (s, false) => return (s, false, source)

/-- Does something with each line of each file, as long as it wants more. A file that cannot be read
is reported and left out. -/
def foldFiles {σ : Type} (ending : Char) (step : σ → Line → Tool (σ × Bool)) :
    List Bytes → σ → Tool σ
  | [], s => return s
  | path :: paths, s => do
    match ← openInput path with
    | .error e =>
      warnOf path e
      foldFiles ending step paths s
    | .ok fd =>
      let (s, goesOn, source) ← foldLines step rounds { fd, ending } s
      match source.error with
      | some e => warnOf path e
      | none => pure ()
      closeInput fd
      if goesOn then foldFiles ending step paths s else return s

/-- All lines of some files. -/
def readLines (ending : Char) (paths : List Bytes) : Tool (List Line) := do
  let step (ls : List Line) (l : Line) : Tool (List Line × Bool) := return (l :: ls, true)
  return (← foldFiles ending step paths []).reverse

/-- The text of a file; one that cannot be read is reported. -/
def readFile (path : Bytes) : Tool (Option Bytes) := do
  match ← openInput path with
  | .error e =>
    warnOf path e
    return none
  | .ok fd =>
    let text ← readAll fd
    closeInput fd
    match text with
    | .ok text => return some text
    | .error e =>
      warnOf path e
      return none

end Tool

end Tilde.Utility
