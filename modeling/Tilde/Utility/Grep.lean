import Tilde.Regex.Search
import Tilde.Sh.Pattern
import Tilde.Utility.Basic
import Tilde.Utility.Input
import Tilde.Utility.Options
import Tilde.Utility.Tool

/-!
# Searching files

The tool that shows the lines which a pattern matches, with the lines around them if these are asked
for.
-/

namespace Tilde.Utility.Grep

open Unix (Bytes Act Errno)

/-- How the patterns are written. -/
inductive Kind where
  | basic
  | extended
  | fixed
  deriving DecidableEq

/-- What is shown of a file. -/
inductive Report where
  | lines
  | count
  | nameIfFound
  | nameIfNone
  | nothing
  deriving DecidableEq

/-- What is done with directories. -/
inductive Directories where
  | read
  | skip
  | enter
  deriving DecidableEq

/-- What the tool does. -/
structure Style where
  kind : Option Kind := none
  patterns : List Bytes := []
  hasPatterns : Bool := false
  ignoresCase : Bool := false
  inverts : Bool := false
  words : Bool := false
  wholeLines : Bool := false
  report : Report := .lines
  parts : Bool := false
  numbers : Bool := false
  offsets : Bool := false
  tabs : Bool := false
  names : Option Bool := none
  silent : Bool := false
  isText : Bool := false
  skipsBinary : Bool := false
  before : Option Nat := none
  after : Option Nat := none
  around : Nat := 0
  most : Option Nat := none
  separator : Option Bytes := some "--"
  label : Bytes := "(standard input)"
  nulNames : Bool := false
  ending : Char := '\n'
  directories : Directories := .read
  includes : List Bytes := []
  excludes : List Bytes := []

/-- The line about the usage. -/
def usage : Bytes := "Usage: grep [OPTION]... PATTERNS [FILE]...\n"

/-- The options of the tool. -/
def table : OptionTable where
  letters := OptionTable.ofLetters "abcEFGHhIiLlnoPqRrsTUuvwxyZz" "ABCDdefm"
  words := [("basic-regexp", 'G', .none), ("extended-regexp", 'E', .none),
    ("fixed-regexp", 'F', .none), ("fixed-strings", 'F', .none), ("perl-regexp", 'P', .none),
    ("after-context", 'A', .required), ("before-context", 'B', .required),
    ("binary-files", '1', .required), ("byte-offset", 'b', .none), ("context", 'C', .required),
    ("color", '2', .optional), ("colour", '2', .optional), ("count", 'c', .none),
    ("devices", 'D', .required), ("directories", 'd', .required), ("exclude", '3', .required),
    ("exclude-dir", '4', .required), ("file", 'f', .required),
    ("files-with-matches", 'l', .none), ("files-without-match", 'L', .none),
    ("group-separator", '5', .required), ("ignore-case", 'i', .none),
    ("no-ignore-case", '6', .none), ("include", '7', .required), ("initial-tab", 'T', .none),
    ("label", '8', .required), ("line-buffered", '2', .none), ("line-number", 'n', .none),
    ("line-regexp", 'x', .none), ("max-count", 'm', .required), ("no-filename", 'h', .none),
    ("no-group-separator", '9', .none), ("no-messages", 's', .none), ("null", 'Z', .none),
    ("null-data", 'z', .none), ("only-matching", 'o', .none), ("quiet", 'q', .none),
    ("recursive", 'r', .none), ("dereference-recursive", 'R', .none), ("regexp", 'e', .required),
    ("invert-match", 'v', .none), ("silent", 'q', .none), ("text", 'a', .none),
    ("binary", 'U', .none), ("with-filename", 'H', .none), ("word-regexp", 'w', .none)]
  status := 2
  usage := usage

/-- A number of context lines. -/
def contextOf (text : Bytes) : Tool Nat := do
  match natOf? text with
  | some n => return n
  | none => Tool.die 2 (text ++ ": invalid context length argument")

/-- The style with patterns added, one in each line of a text. -/
def Style.addPatterns (s : Style) (text : Bytes) : Style :=
  { s with patterns := s.patterns ++ text.splitOn "\n", hasPatterns := true }

/-- The style with a way to write patterns. -/
def Style.withKind (s : Style) (k : Kind) : Tool Style := do
  match s.kind with
  | some old => if old != k then Tool.die 2 "conflicting matchers specified"
  | none => pure ()
  return { s with kind := some k }

/-- The style with an option. -/
def Style.withOption (s : Style) (g : Given) : Tool Style := do
  let text := g.value.getD ""
  match g.letter with
  | 'E' | 'P' => s.withKind .extended
  | 'F' => s.withKind .fixed
  | 'G' => s.withKind .basic
  | 'e' => return s.addPatterns text
  | 'f' =>
    match ← Tool.openInput text with
    | .error e => Tool.die 2 (text ++ ": " ++ e.text)
    | .ok fd =>
      match ← Tool.readAll fd with
      | .error e => Tool.die 2 (text ++ ": " ++ e.text)
      | .ok "" => return { s with hasPatterns := true }
      | .ok all =>
        return s.addPatterns (if all.endsWith "\n" then (all.dropEnd 1).toString else all)
  | 'i' | 'y' => return { s with ignoresCase := true }
  | '6' => return { s with ignoresCase := false }
  | 'v' => return { s with inverts := true }
  | 'w' => return { s with words := true }
  | 'x' => return { s with wholeLines := true }
  | 'c' => return { s with report := if s.report == .lines then .count else s.report }
  | 'l' => return { s with report := if s.report == .nothing then .nothing else .nameIfFound }
  | 'L' => return { s with report := if s.report == .nothing then .nothing else .nameIfNone }
  | 'q' => return { s with report := .nothing }
  | 'o' => return { s with parts := true }
  | 'n' => return { s with numbers := true }
  | 'b' => return { s with offsets := true }
  | 'T' => return { s with tabs := true }
  | 'H' => return { s with names := some true }
  | 'h' => return { s with names := some false }
  | 's' => return { s with silent := true }
  | 'a' => return { s with isText := true }
  | 'I' => return { s with skipsBinary := true }
  | '1' =>
    return { s with isText := text == "text", skipsBinary := text == "without-match" }
  | 'A' => return { s with after := some (← contextOf text) }
  | 'B' => return { s with before := some (← contextOf text) }
  | 'C' => return { s with around := ← contextOf text }
  | 'm' =>
    match intOf? text with
    | some n => return { s with most := if n < 0 then none else some n.toNat }
    | none => Tool.die 2 "invalid max count"
  | '5' => return { s with separator := some text }
  | '9' => return { s with separator := none }
  | '8' => return { s with label := text }
  | 'Z' => return { s with nulNames := true }
  | 'z' => return { s with ending := '\x00' }
  | 'r' | 'R' => return { s with directories := .enter }
  | '3' => return { s with excludes := s.excludes ++ [text] }
  | '7' => return { s with includes := s.includes ++ [text] }
  | 'u' =>
    Tool.say "warning: --unix-byte-offsets (-u) is obsolete"
    return s
  | 'd' =>
    match text with
    | "read" => return { s with directories := .read }
    | "skip" => return { s with directories := .skip }
    | "recurse" => return { s with directories := .enter }
    | _ =>
      Tool.say ("invalid argument " ++ Quoting.plain text ++ " for '--directories'")
      Tool.writeErr ("Valid arguments are:\n  - 'read'\n  - 'recurse'\n  - 'skip'\n" ++ usage)
      Tool.writeErr (← Tool.hint)
      Tool.stop 2
  | _ => return s

/-! ### Patterns -/

/-- The expression of a text that stands for itself. -/
def literal (d : Regex.Dialect) (text : Bytes) : Regex :=
  Regex.ofList (text.toList.map fun c => .byte (d.cased (.one c)))

/-- Makes a pattern ready. -/
def Style.searcher (s : Style) (text : Bytes) : Tool Regex.Searcher := do
  let kind := s.kind.getD .basic
  let d : Regex.Dialect :=
    { extended := kind == .extended, lenient := true, ignoresCase := s.ignoresCase }
  let parsed ←
    if kind == .fixed then pure (Regex.Parsed.mk (literal d text) 0 [])
    else match Regex.parse d text with
      | .ok p => pure p
      | .error e => Tool.die 2 e.message
  parsed.idle.forM fun sign => Tool.say ("warning: " ++ sign ++ " at start of expression")
  let regex :=
    if s.wholeLines then Regex.ofList [.place .textStart, parsed.regex, .place .textEnd]
    else if s.words then Regex.ofList [.place .noWordBefore, parsed.regex, .place .noWordAfter]
    else parsed.regex
  return Regex.Parsed.searcher { parsed with regex } false

/-- The first match of several patterns from a place on; of those that begin there the longest. -/
def firstMatch (ps : List Regex.Searcher) (text : Array Char) (start : Nat) :
    Option (Nat × Nat) :=
  ps.foldl (fun best p =>
    match p.find? text start false, best with
    | none, best => best
    | some m, none => some (m.start, m.stop)
    | some m, some (a, b) =>
      if m.start < a || (m.start == a && b < m.stop) then some (m.start, m.stop) else best) none

/-- The parts of a text that patterns match, without empty ones. -/
def allMatches (ps : List Regex.Searcher) (text : Array Char) : (bound : Nat) → (start : Nat) →
    List (Nat × Nat)
  | 0, _ => []
  | bound + 1, start =>
    if text.size < start then []
    else match firstMatch ps text start with
      | none => []
      | some (a, b) =>
        if a == b then allMatches ps text bound (a + 1)
        else (a, b) :: allMatches ps text bound b

/-! ### Files -/

/-- A line with its number and the place where it begins. -/
structure Numbered where
  text : Bytes
  number : Nat
  offset : Nat

/-- Where a search in a file has come to. -/
structure Progress where
  next : Nat := 1
  offset : Nat := 0
  found : Nat := 0
  /-- The lines that come before a line found, the last first. -/
  held : List Numbered := []
  /-- How many lines are still shown after a line found. -/
  owed : Nat := 0
  /-- The number of the last line shown. -/
  shown : Option Nat := none

/-- What is shown before a line; `mark` stands behind each part. -/
def Style.front (s : Style) (named : Bool) (name : Bytes) (mark : Char) (number offset : Nat) :
    Bytes :=
  let sep := String.singleton mark
  let fill (n : Nat) (t : Bytes) : Bytes :=
    if s.tabs then "".pushn ' ' (n - t.length) ++ t else t
  (if named then name ++ (if s.nulNames then "\x00" else sep) else "") ++
    (if s.numbers then fill 4 (toString number) ++ sep else "") ++
    (if s.offsets then fill 6 (toString offset) ++ sep else "") ++
    (if s.tabs && (named || s.numbers || s.offsets) then "\t" else "")

/-- Shows a line. -/
def Style.show_ (s : Style) (named : Bool) (name : Bytes) (mark : Char) (l : Numbered) :
    Tool Unit :=
  Tool.put (s.front named name mark l.number l.offset ++ l.text.push s.ending)

/-- The number of lines shown before and after a line found. -/
def Style.context (s : Style) : Nat × Nat :=
  (s.before.getD s.around, s.after.getD s.around)

/-- Shows a line found, with the lines before it. -/
def Style.showFound (s : Style) (ps : List Regex.Searcher) (named : Bool) (name : Bytes)
    (anyBefore : Bool) (p : Progress) (l : Numbered) (cs : Array Char) : Tool Progress := do
  let (before, after) := s.context
  let first := match p.held.getLast? with
    | some h => h.number
    | none => l.number
  let isApart := match p.shown with
    | some n => n + 1 < first
    | none => anyBefore
  if 0 < before + after && isApart then
    match s.separator with
    | some sep => Tool.put (sep ++ "\n")
    | none => pure ()
  if s.parts then
    if !s.inverts then
      (allMatches ps cs (2 * cs.size + 2) 0).forM fun (a, b) =>
        Tool.put (s.front named name ':' l.number (l.offset + a) ++
          (String.ofList (cs.extract a b).toList).push s.ending)
  else
    p.held.reverse.forM (s.show_ named name '-')
    s.show_ named name ':' l
  return { p with held := [], owed := after, shown := some l.number }

/-- Looks at a line. The result says whether to go on. -/
def Style.visit (s : Style) (ps : List Regex.Searcher) (named : Bool) (name : Bytes)
    (binary anyBefore : Bool) (p : Progress) (line : Line) : Tool (Progress × Bool) := do
  let l : Numbered := ⟨line.text, p.next, p.offset⟩
  let cs := line.text.toList.toArray
  let p := { p with next := p.next + 1, offset := p.offset + cs.size + 1 }
  let isFull := s.most.any (· ≤ p.found)
  let isFound := !isFull && (ps.any (·.matches cs)) != s.inverts
  if isFound then
    let p := { p with found := p.found + 1 }
    match s.report with
    | .nothing | .nameIfFound | .nameIfNone => return (p, false)
    | .count => return (p, s.most.all (p.found < ·))
    | .lines =>
      if binary then return (p, false)
      let p ← s.showFound ps named name anyBefore p l cs
      return (p, s.most.all (p.found < ·) || 0 < p.owed)
  else if s.report != .lines then return (p, !isFull)
  else if 0 < p.owed && !s.parts then
    s.show_ named name '-' l
    let p := { p with owed := p.owed - 1, shown := some l.number }
    return (p, !isFull || 0 < p.owed)
  else
    return ({ p with held := (l :: p.held).take s.context.1 }, !isFull)

/-- What has come of the files so far. -/
structure Result where
  /-- A line was found. -/
  found : Bool := false
  /-- A file could not be read. -/
  failed : Bool := false
  /-- Lines have been shown. -/
  shown : Bool := false

/-- Searches what a descriptor gives. -/
def Style.searchFd (s : Style) (ps : List Regex.Searcher) (named : Bool) (name : Bytes)
    (r : Result) (fd : Nat) : Tool Result := do
  let start : Source := { fd, ending := s.ending }
  let (first, source) ← Tool.line start
  let peeked := match first with
    | some l => l.text :: source.ready ++ source.begun
    | none => []
  let hasNul := s.ending == '\n' && peeked.any fun t => t.toList.contains '\x00'
  let binary := hasNul && !s.isText
  if binary && s.skipsBinary then return r
  let source := match first with
    | some ⟨text, true⟩ => { source with ready := text :: source.ready }
    | some ⟨text, false⟩ => { source with begun := [text] }
    | none => source
  let step (p : Progress) (l : Line) : Tool (Progress × Bool) :=
    s.visit ps named name binary r.shown p l
  let p : Progress := {}
  let (p, _, source) ← if s.most == some 0 then pure (p, true, source)
    else Tool.foldLines step Tool.rounds source p
  if s.most.isSome || s.report == .nothing then Tool.giveBack source
  match source.error with
  | some e => if !s.silent then Tool.say (name ++ ": " ++ e.text)
  | none => pure ()
  let nameEnd := if s.nulNames then "\x00" else "\n"
  match s.report with
  | .count =>
    Tool.put ((if named then name ++ (if s.nulNames then "\x00" else ":") else "") ++
      toString p.found ++ "\n")
  | .nameIfFound => if 0 < p.found then Tool.put (name ++ nameEnd)
  | .nameIfNone => if p.found == 0 then Tool.put (name ++ nameEnd)
  | .lines =>
    if binary && 0 < p.found then Tool.say (name ++ ": binary file matches")
  | .nothing => pure ()
  return { r with
    found := r.found || 0 < p.found, failed := r.failed || source.error.isSome
    shown := r.shown || p.shown.isSome }

/-- Whether the name of a file is one of those that are searched. -/
def Style.isMeant (s : Style) (name : Bytes) : Bool :=
  let fits (pattern : Bytes) : Bool := (Sh.Pattern.ofText pattern).matchesText name.toList
  !s.excludes.any fits && (s.includes.isEmpty || s.includes.any fits)

/-- Searches a file, or the files of a directory. -/
def Style.searchPath (s : Style) (ps : List Regex.Searcher) (named isGiven : Bool) : (bound : Nat) →
    Result → Bytes → Tool Result
  | 0, r, _ => return r
  | bound + 1, r, path => do
    let complain (e : Errno) : Tool Result := do
      if !s.silent then Tool.say (path ++ ": " ++ e.text)
      return { r with failed := true }
    if path == "-" && isGiven then
      s.searchFd ps named s.label r 0
    else match ← Tool.act (Act.info (.info path isGiven)) with
      | .error e => complain e
      | .ok i =>
        if i.kind == .directory then
          match s.directories with
          | .skip => return r
          | .read => complain .isDirectory
          | .enter =>
            match ← Tool.act (Act.names (.list path)) with
            | .error e => complain e
            | .ok names =>
              let front := if path.endsWith "/" then path else path ++ "/"
              names.foldlM (fun r name => s.searchPath ps named false bound r (front ++ name)) r
        else if !isGiven && i.kind != .regular then return r
        else if !s.isMeant (lastName path) then return r
        else match ← Tool.openInput path with
          | .error e => complain e
          | .ok fd =>
            let r ← s.searchFd ps named path r fd
            Tool.closeInput fd
            return r

/-- Searches the files of the current directory; their names are shown without it. -/
def Style.searchHere (s : Style) (ps : List Regex.Searcher) (named : Bool) : Tool Result := do
  match ← Tool.act (Act.names (.list ".")) with
  | .error _ => return {}
  | .ok names => names.foldlM (fun r name => s.searchPath ps named false 100 r name) {}

/-- The arguments where a number behind a dash stands for lines of context. -/
def modern (arg : Bytes) : Bytes :=
  let digits := (arg.drop 1).toString
  if arg.startsWith "-" && (natOf? digits).isSome then "-C" ++ digits else arg

/-- Says what the usage is, and ends the tool. -/
def misused {α : Type} : Tool α := do
  Tool.writeErr usage
  Tool.writeErr (← Tool.hint)
  Tool.stop 2

/-- Searches files for lines. `kind` is how patterns are written if no option says so. -/
def run (kind : Kind) (args : List Bytes) : Tool Unit := do
  let (s, operands) ← Tool.options table (args.map modern) ({} : Style) Style.withOption
  let (s, paths) ← match s.hasPatterns, operands with
    | true, paths => pure (s, paths)
    | false, pattern :: paths => pure (s.addPatterns pattern, paths)
    | false, [] => misused
  let s := { s with kind := some (s.kind.getD kind) }
  let ps ← s.patterns.mapM s.searcher
  let enters := s.directories == .enter
  let named := s.names.getD (1 < paths.length || enters)
  let r ← if paths.isEmpty && enters then s.searchHere ps named
    else (Tool.inputs paths).foldlM (fun r path =>
      if r.found && s.report == .nothing then return r
      else s.searchPath ps named true 100 r path) {}
  if r.failed && !(r.found && s.report == .nothing) then Tool.setStatus 2
  else if !r.found then Tool.setStatus 1

end Tilde.Utility.Grep
