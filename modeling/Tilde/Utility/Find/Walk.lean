import Tilde.Utility.Find.Reader
import Tilde.Utility.Launch
import Tilde.Utility.Listing

/-!
# Going through files

The search goes through the files below each place in turn, a directory before what is in it or
after it, and asks its expression of each of them.
-/

namespace Tilde.Utility.Find

open Unix (Bytes Act Conversion Errno FileInfo)

/-- A file that the search has come to. -/
structure Found where
  path : Bytes
  /-- The place that it is below of. -/
  place : Bytes
  depth : Nat
  info : FileInfo

/-- The last name in the path of a file, perhaps with the slash that stands behind it. -/
def Found.shownName (f : Found) : Bytes :=
  let bare := withoutSlashes f.path
  let name := lastName f.path
  if bare != "/" && bare != f.path then name ++ "/" else name

/-- The directory that a file is in, for commands that are run there. -/
def Found.directory (f : Found) : Bytes :=
  if f.path == "/" then "/" else directoryName f.path

/-- The name of a file for a command that is run in its directory. -/
def Found.localName (f : Found) : Bytes :=
  let name := f.shownName
  if name.startsWith "/" then name else "./" ++ name

/-- Files that have been noted for a command. -/
structure Gathered where
  number : Nat
  command : List Bytes
  directory : Option Bytes
  /-- The files, the last one first. -/
  files : List Bytes := []
  /-- How long their names are together. -/
  size : Nat := 0

/-- What the search keeps while it goes on. -/
structure Progress where
  gathered : List Gathered := []
  /-- The directory that is looked at is not entered. -/
  pruned : Bool := false
  /-- How deep the file before was. -/
  depth : Nat := 0

/-- Acts of a search. -/
abbrev Search := StateT Progress Tool

/-! ### Formats -/

/-- A time with ten places after the point, as formats show seconds. -/
def withFraction (t : Calendar.Moment) (whole : Bytes) : Bytes :=
  whole ++ "." ++ t.show_ "%N" ++ "0"

/-- A time as a letter of a format asks for. -/
def timeText (micros : Nat) (letter : Char) : Bytes :=
  let t := Calendar.Moment.ofMicros micros
  match letter with
  | '@' => withFraction t (t.show_ "%s")
  | '+' => withFraction t (t.show_ "%Y-%m-%d+%H:%M:%S")
  | 'S' => withFraction t (t.show_ "%S")
  | 'T' | 'X' => withFraction t (t.show_ "%H:%M:%S")
  | c => t.show_ ("%" ++ String.singleton c)

/-- Where a link leads; an empty text for other files. -/
def Found.targetText (f : Found) : Tool Bytes := do
  if f.info.kind != .link then return ""
  return (← Tool.act (Act.text (.readLink f.path))).toOption.getD ""

/-- The letter of the kind of what a file leads to. -/
def Found.finalLetter (f : Found) : Tool Char := do
  match ← Tool.info f.path true with
  | .ok i => return kindLetter i
  | .error .tooManyLinks => return 'L'
  | .error .notFound => return 'N'
  | .error _ => return if f.info.kind == .link then '?' else kindLetter f.info

/-- The text of a field of a format. -/
def Found.field (f : Found) (c : Conversion) (letter : Char) : Tool Bytes := do
  let i := f.info
  let t := Calendar.Moment.ofMicros i.modified
  let text (s : Bytes) : Tool Bytes := return c.text s
  let inner := (f.path.drop f.place.length).toString
  match letter with
  | 'p' => text f.path
  | 'f' => text f.shownName
  | 'h' =>
    let names := f.path.splitOn "/"
    text (if names.length == 1 then "." else "/".intercalate names.dropLast)
  | 'H' => text f.place
  | 'P' =>
    text (if f.depth == 0 then "" else if inner.startsWith "/" then (inner.drop 1).toString
      else inner)
  | 'd' => return c.integer 'd' f.depth
  | 'm' => return c.integer 'o' i.mode
  | 'M' => text (String.singleton (Permissions.kindLetter i.kind) ++ Permissions.show_ i.mode)
  | 's' => text (toString i.size)
  | 'k' => text (toString (Ls.spaceOf i / 1024))
  | 'b' => text (toString (Ls.spaceOf i / 512))
  | 'i' => text (toString i.number)
  | 'n' => text (toString i.names)
  | 'l' => text (← f.targetText)
  | 'y' => text (String.singleton (kindLetter i))
  | 'Y' => text (String.singleton (← f.finalLetter))
  | 'u' | 'g' => text "root"
  | 'U' | 'G' => text "0"
  | 'D' => text "42"
  | 'F' => text "overlay"
  | 'S' => text "1"
  | 'Z' => text ""
  | _ => text (withFraction t (t.show_ "%a %b %e %H:%M:%S") ++ t.show_ " %Y")

/-- The text of some pieces of a format. -/
def Found.formatted (f : Found) : List Piece → Tool Bytes
  | [] | .stop :: _ => return ""
  | .text s :: rest => do return s ++ (← f.formatted rest)
  | .field c letter :: rest => do
    let text ← f.field c letter
    return text ++ (← f.formatted rest)
  | .time c letter :: rest => do
    let text := c.text (timeText f.info.modified letter)
    return text ++ (← f.formatted rest)

/-- A line that describes a file. -/
def Found.description (f : Found) (now : Nat) : Tool Bytes := do
  let i := f.info
  let right := Ls.right
  let target ← f.targetText
  return right 9 (toString i.number) ++ " " ++ right 6 (toString (Ls.spaceOf i / 1024)) ++ " " ++
    String.singleton (Permissions.kindLetter i.kind) ++ Permissions.show_ i.mode ++ " " ++
    right 3 (toString i.names) ++ " root     root     " ++ right 8 (toString i.size) ++ " " ++
    ({} : Ls.Style).time now i ++ " " ++ f.path ++
    (if i.kind == .link then " -> " ++ target else "") ++ "\n"

/-- Writes to where an action writes. -/
def write (outlet : Outlet) (text : Bytes) : Tool Unit := do
  match outlet with
  | none => Tool.put text
  | some fd =>
    if fd == 2 then Tool.flush
    let _ ← Tool.act (Act.write fd text)

/-! ### Commands -/

/-- Runs a command. The result says whether it ended well. -/
def runCommand (command : List Bytes) (directory : Option Bytes) (silenced : Bool) : Tool Bool := do
  Tool.flush
  let me := (← get).name
  let before : Act Unit := do
    if let some path := directory then
      let _ ← Act.ask (.chdir path)
    if silenced then
      let _ ← Act.ask (.close 0)
      let _ ← Act.ask (.open_ "/dev/null" { reads := true } 0)
  let pid ← Tool.act (Launch.spawn command (← get).env before fun e =>
    me ++ ": " ++ Quoting.always (command.headD "") ++ ": " ++ e.text ++ "\n")
  let rec await : (bound : Nat) → Tool Bool
    | 0 => return false
    | bound + 1 => do
      match ← Tool.act (Act.wait (some pid) true) with
      | .ok (_, status) => return status == .exited 0
      | .error .interrupted => await bound
      | .error _ => return false
  await 1000000

/-- Runs the command that files have been noted for. -/
def Gathered.run (g : Gathered) : Tool Unit := do
  if g.files.isEmpty then return
  if !(← runCommand (g.command ++ g.files.reverse) g.directory false) then Tool.setStatus 1

/-- Runs those of the commands that have files which are chosen. -/
def runGathered (chosen : Gathered → Bool) : Search Unit := do
  let p ← get
  set { p with gathered := p.gathered.filter (!chosen ·) }
  (p.gathered.filter chosen).forM fun g => g.run

/-- How long the names of the files for one command may be together. -/
def mostGathered : Nat := 120000

/-- Notes a file for a command. -/
def noteFor (number : Nat) (command : List Bytes) (directory : Option Bytes) (file : Bytes) :
    Search Unit := do
  let isMine (g : Gathered) : Bool := g.number == number
  let old := ((← get).gathered.find? isMine).getD { number, command, directory }
  if mostGathered < old.size + file.length || old.directory != directory then runGathered isMine
  let old := ((← get).gathered.find? isMine).getD { number, command, directory }
  let now := { old with files := file :: old.files, size := old.size + file.length + 9 }
  modify fun p =>
    if p.gathered.any isMine then
      { p with gathered := p.gathered.map fun g => if isMine g then now else g }
    else { p with gathered := p.gathered ++ [now] }

/-! ### Asking -/

/-- Whether a test holds of a file. -/
def Test.holds (f : Found) : Test → Tool Bool
  | .always answer => return answer
  | .name form folds => return isOfForm form folds (lastName f.path)
  | .path form folds => return isOfForm form folds f.path
  | .target form folds => do
    if f.info.kind != .link then return false
    return isOfForm form folds (← f.targetText)
  | .regex s => return s.matches f.path.toList.toArray
  | .kind letters false => return letters.contains (kindLetter f.info)
  | .kind letters true => do
    let letter ← f.finalLetter
    return letters.contains letter || (letter == 'N' && letters.contains 'l')
  | .size unit w => return w.fits ((f.info.size + unit - 1) / unit : Nat)
  | .empty => do
    match f.info.kind with
    | .regular => return f.info.size == 0
    | .directory => return ((← Tool.entries f.path).toOption.getD ["."]).isEmpty
    | _ => return false
  | .mode rule file dir =>
    return rule.fits (if f.info.kind == .directory then dir else file) f.info.mode
  | .newer time => return time < f.info.modified
  | .age unit now w =>
    return w.fits ((now - f.info.modified).fdiv (unit * 1000000))
  | .ageUp unit now w =>
    let age := now - f.info.modified
    let limit : Int := w.number * unit * 1000000
    return match w.order with
      | .gt => limit < age
      | .lt => age < limit
      | .eq => age < limit && limit - unit * 1000000 ≤ age
  | .links w => return w.fits f.info.names
  | .number w => return w.fits f.info.number
  | .owner w => return w.fits 0
  | .same which => return f.info.number == which
  | .runs => return f.info.kind == .directory || f.info.mode &&& 0o111 != 0

/-- Removes a file. -/
def Found.delete (f : Found) : Tool Bool := do
  if f.path == "." then return true
  let call := if f.info.kind == .directory then .removeDir f.path else .unlink f.path
  match ← Tool.change call with
  | .ok _ => return true
  | .error e =>
    Tool.warn ("cannot delete " ++ Quoting.always f.path ++ ": " ++ e.text)
    return false

/-- Does something with a file. The result says whether it went well. -/
def Action.perform (f : Found) (now : Nat) : Action → Search Bool
  | .print outlet ending => do
    write outlet (f.path ++ ending)
    return true
  | .format outlet pieces => do
    write outlet (← f.formatted pieces)
    return true
  | .describe outlet => do
    write outlet (← f.description now)
    return true
  | .run command inDirectory asks => do
    if asks then
      let question := "< " ++ command.headD "" ++ " ... " ++ f.path ++ " > ? "
      if !(← Tool.confirm question) then return false
    let file := if inDirectory then f.localName else f.path
    let words := command.map fun w => file.intercalate (w.splitOn Reader.braces)
    runCommand words (if inDirectory then some f.directory else none) asks
  | .gather which command inDirectory => do
    let file := if inDirectory then f.localName else f.path
    noteFor which command (if inDirectory then some f.directory else none) file
    return true
  | .delete => f.delete
  | .prune => do
    modify fun p => { p with pruned := true }
    return true
  | .quit => do
    runGathered fun _ => true
    Tool.flush
    throw (← getThe Running).status

/-- Asks an expression of a file. -/
def Expr.ask (f : Found) (now : Nat) : Expr → Search Bool
  | .test t => t.holds f
  | .act a => a.perform f now
  | .not e => do return !(← e.ask f now)
  | .and a b => do if ← a.ask f now then b.ask f now else return false
  | .or a b => do if ← a.ask f now then return true else b.ask f now
  | .both a b => do
    let _ ← a.ask f now
    b.ask f now

/-! ### The walk -/

/-- Says what went wrong with a file. -/
def warnOf (path : Bytes) (e : Errno) : Tool Unit :=
  Tool.warn (Quoting.always path ++ ": " ++ e.text)

/-- What the system tells about a file, where links are followed if they lead somewhere. -/
def infoOf (path : Bytes) (follows : Bool) : Tool (Except Errno FileInfo) := do
  if !follows then return ← Tool.info path false
  match ← Tool.info path true with
  | .ok i => return .ok i
  | .error e =>
    match ← Tool.info path false with
    | .ok i => return if i.kind == .link && e == .tooManyLinks then .error e else .ok i
    | .error e => return .error e

/-- Asks about a file, and about those below it. The directories above it are given with their
numbers. -/
def Request.visit (r : Request) : (bound : Nat) → (above : List (Nat × Bytes)) →
    (place path : Bytes) → (depth : Nat) → Search Unit
  | 0, _, _, _, _ => return
  | bound + 1, above, place, path, depth => do
    let s := r.settings
    let follows := s.following == .always || (s.following == .atStart && depth == 0)
    match ← infoOf path follows with
    | .error e => warnOf path e
    | .ok info =>
      let isDir := info.kind == .directory
      match if isDir then above.find? (·.1 == info.number) else none with
      | some (_, outer) =>
        Tool.warn ("File system loop detected; " ++ Quoting.always path ++
          " is part of the same file system loop as " ++ Quoting.always outer ++ ".")
      | none =>
        let f : Found := { path, place, depth, info }
        let ask : Search Unit := do
          if depth != (← get).depth then runGathered fun g => g.directory.isSome
          modify fun p => { p with pruned := false, depth }
          if s.least ≤ depth then
            let _ ← r.expr.ask f s.now
        if !s.insideFirst then ask
        let enters := isDir && s.most.all (depth < ·) && (s.insideFirst || !(← get).pruned)
        if enters then
          match ← Tool.entries path with
          | .error e => warnOf path e
          | .ok names =>
            let front := if path.endsWith "/" then path else path ++ "/"
            names.forM fun name =>
              r.visit bound ((info.number, path) :: above) place (front ++ name) (depth + 1)
        if s.insideFirst then ask

/-- Searches for files. -/
def run (args : List Bytes) : Tool Unit := do
  let r ← readRequest args
  let all : Search Unit := do
    r.places.forM fun place => r.visit 200 [] place place 0
    runGathered fun _ => true
  let _ ← all.run {}

end Tilde.Utility.Find
