import Tilde.Utility.Input
import Tilde.Utility.Options
import Tilde.Utility.Tool

/-!
# Parts of lines

The tool that keeps parts of lines, and the one that joins lines side by side.
-/

namespace Tilde.Utility

open Unix (Bytes Act Errno)

namespace Cut

/-- A range of places, which are counted from one. -/
structure Range where
  first : Nat
  last : Option Nat
  deriving DecidableEq, Repr

/-- What is kept. -/
structure Style where
  list : Option Bytes := none
  byFields : Bool := false
  delimiter : Option Bytes := none
  between : Option Bytes := none
  suppresses : Bool := false
  complement : Bool := false
  ending : Char := '\n'

/-- The options of the tool. -/
def table : OptionTable where
  letters := OptionTable.ofLetters "nsz" "bcfd"
  words := [("bytes", 'b', .required), ("characters", 'c', .required),
    ("fields", 'f', .required), ("delimiter", 'd', .required), ("only-delimited", 's', .none),
    ("output-delimiter", 'o', .required), ("complement", 'C', .none),
    ("zero-terminated", 'z', .none)]

/-- The style with an option. -/
def Style.withOption (s : Style) (g : Given) : Tool Style := do
  match g.letter with
  | 'b' | 'c' | 'f' =>
    if s.list.isSome then Tool.misused 1 "only one list may be specified"
    return { s with list := g.value, byFields := g.letter == 'f' }
  | 'd' =>
    if (g.value.any fun d => 1 < d.length) then
      Tool.misused 1 "the delimiter must be a single character"
    return { s with delimiter := g.value.map fun d => if d.isEmpty then "\x00" else d }
  | 'o' => return { s with between := g.value }
  | 's' => return { s with suppresses := true }
  | 'C' => return { s with complement := true }
  | 'z' => return { s with ending := '\x00' }
  | _ => return s

/-- Reads a place of a range. -/
def place (s : Style) (text : List Char) : Tool (Option Nat × List Char) := do
  let digits := text.takeWhile Char.isDigit
  let rest := text.drop digits.length
  if !rest.isEmpty && rest.head? != some '-' then
    let what := if s.byFields then "invalid field value "
      else "invalid byte or character range: "
    if s.byFields then Tool.misused 1 (what ++ Quoting.plain (String.ofList rest))
    else
      Tool.misused 1 ("invalid byte/character position " ++ Quoting.plain (String.ofList rest))
  if digits.isEmpty then return (none, rest)
  let n := digitsValue digits
  if 18446744073709551615 ≤ n then
    let what := if s.byFields then "field number " else "byte/character offset "
    Tool.misused 1 (what ++ Quoting.plain (String.ofList digits) ++ " is too large")
  return (some n, rest)

/-- Reads a range. -/
def range (s : Style) (text : Bytes) : Tool Range := do
  let wrong (m : Bytes) : Tool Range := Tool.misused 1 m
  let fromOne := if s.byFields then "fields are numbered from 1"
    else "byte/character positions are numbered from 1"
  let (first, rest) ← place s text.toList
  match first, rest with
  | none, [] => wrong fromOne
  | some 0, _ => wrong fromOne
  | some n, [] => return ⟨n, some n⟩
  | first, _ :: rest =>
    let (last, more) ← place s rest
    if !more.isEmpty then
      wrong (if s.byFields then "invalid field range" else "invalid byte or character range")
    else match first, last with
      | none, none => wrong "invalid range with no endpoint: -"
      | some n, none => return ⟨n, none⟩
      | first, some m =>
        if m < first.getD 1 then wrong "invalid decreasing range"
        else return ⟨first.getD 1, some m⟩

/-- Joins ranges that overlap; they come in order of their first places. -/
def merged : List Range → List Range
  | a :: b :: rest =>
    if a.last.all (b.first ≤ ·) then
      let last := match a.last, b.last with
        | some m, some n => some (max m n)
        | _, _ => none
      merged (⟨a.first, last⟩ :: rest)
    else a :: merged (b :: rest)
  | ranges => ranges
termination_by ranges => ranges.length

/-- The places that are in no range; the ranges come in order and do not overlap. -/
def complementFrom (place : Nat) : List Range → List Range
  | [] => [⟨place, none⟩]
  | r :: rest =>
    let gap := if place < r.first then [⟨place, some (r.first - 1)⟩] else []
    match r.last with
    | some last => gap ++ complementFrom (last + 1) rest
    | none => gap

/-- The part of a list that a range takes. -/
def Range.part {α : Type} (r : Range) (xs : List α) : List α :=
  let front := match r.last with
    | some n => xs.take n
    | none => xs
  front.drop (r.first - 1)

/-- The parts of a line that are kept. -/
def cutLine (s : Style) (ranges : List Range) (line : Bytes) : Option Bytes :=
  if s.byFields then
    let delimiter := s.delimiter.getD "\t"
    let fields := line.splitOn delimiter
    if fields.length ≤ 1 then if s.suppresses then none else some line
    else
      let kept := ranges.flatMap fun r => r.part fields
      some ((s.between.getD delimiter).intercalate kept)
  else
    let cs := line.toList
    let parts := (ranges.map fun r => String.ofList (r.part cs)).filter (· != "")
    some ((s.between.getD "").intercalate parts)

/-- Shows the kept parts of lines. -/
def run (args : List Bytes) : Tool Unit := do
  let (s, paths) ← Tool.options table args ({} : Style) Style.withOption
  match s.list with
  | none => Tool.misused 1 "you must specify a list of bytes, characters, or fields"
  | some list =>
    if !s.byFields && s.delimiter.isSome then
      Tool.misused 1 "an input delimiter may be specified only when operating on fields"
    if !s.byFields && s.suppresses then
      Tool.misused 1
        "suppressing non-delimited lines makes sense\n\tonly when operating on fields"
    let pieces := (list.splitToList fun c => c == ',' || c == ' ' || c == '\t')
    let ranges ← pieces.mapM (range s)
    let ranges := merged (ranges.mergeSort fun a b => a.first ≤ b.first)
    let ranges := if s.complement then complementFrom 1 ranges else ranges
    Tool.foldFiles s.ending (fun (_ : Unit) l => do
      match cutLine s ranges l.text with
      | some text => Tool.put (text.push s.ending)
      | none => pure ()
      return ((), true)) (Tool.inputs paths) ()

end Cut

namespace Paste

/-- How lines are joined. -/
structure Style where
  delimiters : Bytes := "\t"
  serial : Bool := false
  ending : Char := '\n'

/-- The options of the tool. -/
def table : OptionTable where
  letters := OptionTable.ofLetters "sz" "d"
  words := [("delimiters", 'd', .required), ("serial", 's', .none),
    ("zero-terminated", 'z', .none)]

/-- The delimiters in a text; none if it ends with a backslash. -/
def readDelimiters : List Char → Option (List Bytes)
  | [] => some []
  | ['\\'] => none
  | '\\' :: c :: cs =>
    let d := match c with
      | '0' => ""
      | 'n' => "\n"
      | 't' => "\t"
      | 'b' => "\x08"
      | 'f' => "\x0C"
      | 'r' => "\r"
      | 'v' => "\x0B"
      | c => String.singleton c
    (readDelimiters cs).map (d :: ·)
  | c :: cs => (readDelimiters cs).map (String.singleton c :: ·)

/-- The delimiter behind a column. -/
def delimiter (ds : Array Bytes) (i : Nat) : Bytes :=
  if ds.isEmpty then "" else ds.getD (i % ds.size) ""

/-- Joins all lines of a file. -/
def joinFile (s : Style) (ds : Array Bytes) (fd : Nat) : Tool (Option Errno) := do
  let step (n : Nat) (l : Line) : Tool (Nat × Bool) := do
    if n != 0 then Tool.put (delimiter ds (n - 1))
    Tool.put l.text
    return (n + 1, true)
  let (_, _, source) ← Tool.foldLines step Tool.rounds { fd, ending := s.ending } 0
  Tool.put (String.singleton s.ending)
  return source.error

/-- Takes a line from each of several sources. -/
def takeRow : List Nat → Array Source → Tool (List (Option Bytes) × Array Source)
  | [], sources => return ([], sources)
  | i :: is, sources => do
    match sources[i]? with
    | none => takeRow is sources
    | some source =>
      let (l, source) ← Tool.line source
      let (row, sources) ← takeRow is (sources.set! i source)
      return (l.map (·.text) :: row, sources)

/-- Writes the columns of a row. -/
def putRow (ds : Array Bytes) (ending : Char) : (i : Nat) → List (Option Bytes) → Tool Unit
  | _, [] => return
  | _, [c] => Tool.put ((c.getD "").push ending)
  | i, c :: cs => do
    Tool.put (c.getD "" ++ delimiter ds i)
    putRow ds ending (i + 1) cs

/-- Writes rows as long as a source has a line. -/
def rows (ds : Array Bytes) (ending : Char) (columns : List Nat) : (bound : Nat) →
    Array Source → Tool Unit
  | 0, _ => return
  | bound + 1, sources => do
    let (row, sources) ← takeRow columns sources
    if row.any (·.isSome) then
      putRow ds ending 0 row
      rows ds ending columns bound sources

/-- Opens the sources of the columns; columns of the same input share one. -/
def openColumns (ending : Char) : List Bytes → (columns : List Nat) → (input : Option Nat) →
    Array Source → Tool (List Nat × Array Source)
  | [], columns, _, sources => return (columns.reverse, sources)
  | path :: paths, columns, input, sources => do
    match path, input with
    | "-", some i => openColumns ending paths (i :: columns) input sources
    | _, _ =>
      match ← Tool.openInput path with
      | .error e => Tool.die 1 (Quoting.name path ++ ": " ++ e.text)
      | .ok fd =>
        let i := sources.size
        openColumns ending paths (i :: columns) (if path == "-" then some i else input)
          (sources.push { fd, ending })

/-- Joins lines side by side. -/
def run (args : List Bytes) : Tool Unit := do
  let (s, paths) ← Tool.options table args ({} : Style) fun s g => return match g.letter with
    | 'd' => { s with delimiters := g.value.getD "" }
    | 's' => { s with serial := true }
    | _ => { s with ending := '\x00' }
  let paths := Tool.inputs paths
  match readDelimiters s.delimiters.toList with
  | none =>
    let shown := Quoting.plain s.delimiters
    Tool.die 1 ("delimiter list ends with an unescaped backslash: " ++ shown)
  | some ds =>
    let ds := ds.toArray
    if s.serial then
      paths.forM fun path => do
        match ← Tool.openInput path with
        | .error e => Tool.warnOf path e
        | .ok fd =>
          match ← joinFile s ds fd with
          | some e => Tool.warnOf path e
          | none => pure ()
          Tool.closeInput fd
    else
      let (columns, sources) ← openColumns s.ending paths [] none #[]
      rows ds s.ending columns Tool.rounds sources

end Paste

end Tilde.Utility
