import Tilde.Utility.Input
import Tilde.Utility.Options
import Tilde.Utility.Tool

/-!
# The ends of files

Tools that show the first or the last part of files, counted in lines or in bytes.
-/

namespace Tilde.Utility

open Unix (Bytes Act Errno)

/-- A part at an end of a file. -/
structure Extent where
  count : Nat := 10
  inBytes : Bool := false
  /-- The count is what is left out. -/
  allBut : Bool := false
  /-- When names are shown. -/
  names : Option Bool := none
  ending : Char := '\n'

namespace Extent

/-- The options of both tools. -/
def table : OptionTable where
  letters := OptionTable.ofLetters "qvzfF" "cns"
  words := [("bytes", 'c', .required), ("lines", 'n', .required), ("quiet", 'q', .none),
    ("silent", 'q', .none), ("verbose", 'v', .none), ("zero-terminated", 'z', .none)]

/-- The part with the amount of an option. `sign` marks an amount that is left out. -/
def withAmount (e : Extent) (sign : Char) (g : Given) : Tool Extent := do
  let inBytes := g.letter == 'c'
  let text := g.value.getD ""
  let first := text.toList.head?
  let allBut := first == some sign
  let digits := if first == some '-' || first == some '+' then (text.drop 1).toString else text
  match amountOf? digits with
  | some count => return { e with count, inBytes, allBut }
  | none =>
    let what := if inBytes then "bytes" else "lines"
    Tool.die 1 ("invalid number of " ++ what ++ ": " ++ Quoting.plain text)

/-- The part with an option. -/
def withOption (sign : Char) (e : Extent) (g : Given) : Tool Extent :=
  match g.letter with
  | 'q' => return { e with names := some false }
  | 'v' => return { e with names := some true }
  | 'z' => return { e with ending := '\x00' }
  | 'c' | 'n' => e.withAmount sign g
  | _ => return e

/-- The arguments where the first is a number behind a dash, and letters. -/
def modern (args : List Bytes) : List Bytes :=
  match args with
  | first :: rest =>
    match first.toList with
    | '-' :: c :: cs =>
      if !c.isDigit then args
      else
        let digits := (c :: cs).takeWhile Char.isDigit
        let letters := (c :: cs).drop digits.length
        let n := String.ofList digits
        let size := letters.filter ['b', 'k', 'm'].contains
        let unit := if letters.contains 'c' || !size.isEmpty then "-c" else "-n"
        let others := letters.filter ['q', 'v', 'z'].contains
        [unit, n ++ String.ofList size] ++
          (if others.isEmpty then [] else ["-" ++ String.ofList others]) ++ rest
    | _ => args
  | [] => []

/-- The name of a file in a heading. -/
def shownName (path : Bytes) : Bytes := if path == "-" then "standard input" else path

/-- Shows the parts of files, each under its name if there are several. -/
def showFiles (e : Extent) (show_ : Nat → Tool (Option Errno)) (paths : List Bytes) :
    Tool Unit := do
  let paths := Tool.inputs paths
  let named := e.names.getD (1 < paths.length)
  let _ ← paths.foldlM (fun (isFirst : Bool) path => do
    match ← Tool.openInput path with
    | .error error =>
      let name := Quoting.always path
      Tool.warn ("cannot open " ++ name ++ " for reading: " ++ error.text)
      return isFirst
    | .ok fd =>
      if named then
        Tool.put ((if isFirst then "" else "\n") ++ "==> " ++ shownName path ++ " <==\n")
      match ← show_ fd with
      | some error =>
        let name := Quoting.always (shownName path)
        Tool.warn ("error reading " ++ name ++ ": " ++ error.text)
      | none => pure ()
      Tool.closeInput fd
      return false) true

end Extent

namespace Head

/-- Shows the first lines of what a descriptor gives. -/
def showLines (ending : Char) : (count : Nat) → Source → Tool Source
  | 0, source => return source
  | count + 1, source => do
    match ← Tool.line source with
    | (none, source) => return source
    | (some l, source) =>
      Tool.put (l.whole ending)
      showLines ending count source

/-- Shows all lines but the last ones. `held` are the lines that may be among those, the last
first. -/
def showAllBut (count : Nat) (ending : Char) : (bound : Nat) → Source → (held : Array Line) →
    (first : Nat) → Tool Source
  | 0, source, _, _ => return source
  | bound + 1, source, held, first => do
    match ← Tool.line source with
    | (none, source) => return source
    | (some l, source) =>
      let held := held.push l
      if count < held.size - first then
        match held[first]? with
        | some old => Tool.put (old.whole ending)
        | none => pure ()
        showAllBut count ending bound source held (first + 1)
      else showAllBut count ending bound source held first

/-- Shows the first bytes. -/
def showBytes (fd : Nat) : (bound : Nat) → (count : Nat) → Tool (Option Errno)
  | 0, _ => return none
  | bound + 1, count => do
    if count == 0 then return none
    match ← Tool.act (Act.text (.read fd (min count 8192))) with
    | .error e => return some e
    | .ok "" => return none
    | .ok text =>
      Tool.put text
      showBytes fd bound (count - text.length)

/-- Shows the first part of what a descriptor gives. -/
def showPart (e : Extent) (fd : Nat) : Tool (Option Errno) := do
  if e.inBytes then
    if !e.allBut then showBytes fd Tool.rounds e.count
    else match ← Tool.readAll fd with
      | .error error => return some error
      | .ok text =>
        Tool.put (text.dropEnd e.count).toString
        return none
  else
    let source : Source := { fd, ending := e.ending }
    let source ← if e.allBut then showAllBut e.count e.ending Tool.rounds source #[] 0
      else showLines e.ending e.count source
    Tool.giveBack source
    return source.error

/-- Shows the first part of files. -/
def run (args : List Bytes) : Tool Unit := do
  let (e, paths) ← Tool.options Extent.table (Extent.modern args) {} (Extent.withOption '-')
  e.showFiles (showPart e) paths

end Head

namespace Tail

/-- The last lines of what a descriptor gives. -/
def lastLines (e : Extent) : (bound : Nat) → Source → Array Line → Tool (Array Line × Source)
  | 0, source, kept => return (kept, source)
  | bound + 1, source, kept => do
    match ← Tool.line source with
    | (none, source) => return (kept, source)
    | (some l, source) =>
      let kept := kept.push l
      let kept := if 2 * e.count + 1000 < kept.size then
        kept.extract (kept.size - e.count) kept.size else kept
      lastLines e bound source kept

/-- Shows the lines from one on. -/
def showFrom (e : Extent) : (bound : Nat) → (skipped : Nat) → Source → Tool Source
  | 0, _, source => return source
  | bound + 1, skipped, source => do
    match ← Tool.line source with
    | (none, source) => return source
    | (some l, source) =>
      if e.count ≤ skipped + 1 then Tool.put (l.whole e.ending)
      showFrom e bound (skipped + 1) source

/-- Shows the last part of what a descriptor gives. -/
def showPart (e : Extent) (fd : Nat) : Tool (Option Errno) := do
  if e.inBytes then
    match ← Tool.readAll fd with
    | .error error => return some error
    | .ok text =>
      Tool.put (if e.allBut then (text.drop (e.count - 1)).toString
        else (text.takeEnd e.count).toString)
      return none
  else
    let source : Source := { fd, ending := e.ending }
    if e.allBut then return (← showFrom e Tool.rounds 0 source).error
    let (kept, source) ← lastLines e Tool.rounds source #[]
    (kept.extract (kept.size - e.count) kept.size).forM fun l => Tool.put (l.whole e.ending)
    return source.error

/-- Shows the last part of files. -/
def run (args : List Bytes) : Tool Unit := do
  let (e, paths) ← Tool.options Extent.table (Extent.modern args) {} (Extent.withOption '+')
  e.showFiles (showPart e) paths

end Tail

end Tilde.Utility
