import Tilde.Utility.Input
import Tilde.Utility.Options
import Tilde.Utility.Order

/-!
# Two sorted files

Tools that go through two sorted files at once: one shows which lines they have in common, the other
joins lines whose fields are alike.
-/

namespace Tilde.Utility

open Unix (Bytes Act Errno)

/-- The lines of one of two files. A file that cannot be read ends the tool. -/
def pairedLines (ending : Char) (path : Bytes) : Tool (List Bytes) := do
  match ← Tool.openInput path with
  | .error e => Tool.die 1 (Quoting.name path ++ ": " ++ e.text)
  | .ok fd =>
    let text ← Tool.readAll fd
    Tool.closeInput fd
    match text with
    | .error e => Tool.die 1 (Quoting.name path ++ ": " ++ e.text)
    | .ok "" => return []
    | .ok text =>
      let pieces := text.splitOn (String.singleton ending)
      return if text.endsWith (String.singleton ending) then pieces.dropLast else pieces

/-- The two files that a tool is given. -/
def twoOperands (operands : List Bytes) : Tool (Bytes × Bytes) := do
  match operands with
  | [a, b] => return (a, b)
  | [] => Tool.missingOperand 1
  | [a] => Tool.misused 1 ("missing operand after " ++ Quoting.plain a)
  | _ :: _ :: extra :: _ => Tool.extraOperand 1 extra

namespace Comm

/-- What is shown. -/
structure Style where
  hidden : List Char := []
  delimiter : Bytes := "\t"
  total : Bool := false
  /-- Whether the order is checked; by default it is when lines are not alike. -/
  checks : Option Bool := none
  ending : Char := '\n'

/-- The options of the tool. -/
def table : OptionTable where
  letters := OptionTable.ofLetters "123z" ""
  words := [("check-order", 'c', .none), ("nocheck-order", 'n', .none),
    ("output-delimiter", 'd', .required), ("total", 't', .none), ("zero-terminated", 'z', .none)]

/-- Where the comparison has come to: the counts, and which files are known to be out of order. -/
structure Progress where
  counts : Nat × Nat × Nat := (0, 0, 0)
  first : Bool := false
  second : Bool := false
  /-- A line was in one file only. -/
  unpaired : Bool := false

/-- Writes a line in its column. -/
def Style.write (s : Style) (column : Char) (line : Bytes) : Tool Unit := do
  if s.hidden.contains column then return
  let before := (['1', '2', '3'].takeWhile (· != column)).filter (!s.hidden.contains ·)
  Tool.put (String.join (before.map fun _ => s.delimiter) ++ line.push s.ending)

/-- Says that a file is out of order, if its next line comes before the last one. -/
def Style.checkOrder (s : Style) (p : Progress) (isFirst : Bool) (a : Bytes) (rest : List Bytes) :
    Tool Progress := do
  let done := if isFirst then p.first else p.second
  let isWanted := s.checks.getD p.unpaired
  if done || !isWanted then return p
  match rest with
  | [] => return p
  | b :: _ =>
    if Order.bytes a.toList b.toList == .gt then
      let message := "file " ++ (if isFirst then "1" else "2") ++ " is not in sorted order"
      if s.checks == some true then Tool.die 1 message
      Tool.warn message
      return if isFirst then { p with first := true } else { p with second := true }
    else return p

/-- Goes through both files. -/
def compareLines (s : Style) : (bound : Nat) → Progress → List Bytes → List Bytes →
    Tool Progress
  | 0, p, _, _ => return p
  | bound + 1, p, as, bs => do
    let (x, y, z) := p.counts
    let takeFirst (a : Bytes) (as bs : List Bytes) : Tool Progress := do
      s.write '1' a
      let p := { p with counts := (x + 1, y, z), unpaired := true }
      compareLines s bound (← s.checkOrder p true a as) as bs
    let takeSecond (b : Bytes) (as bs : List Bytes) : Tool Progress := do
      s.write '2' b
      let p := { p with counts := (x, y + 1, z), unpaired := true }
      compareLines s bound (← s.checkOrder p false b bs) as bs
    match as, bs with
    | [], [] => return p
    | a :: as, [] => takeFirst a as []
    | [], b :: bs => takeSecond b [] bs
    | a :: as', b :: bs' =>
      match Order.bytes a.toList b.toList with
      | .lt => takeFirst a as' bs
      | .gt => takeSecond b as bs'
      | .eq =>
        s.write '3' a
        let p := { p with counts := (x, y, z + 1) }
        let p ← s.checkOrder p true a as'
        compareLines s bound (← s.checkOrder p false b bs') as' bs'

/-- Shows which lines two files have in common. -/
def run (args : List Bytes) : Tool Unit := do
  let (s, operands) ← Tool.options table args ({} : Style) fun s g => return match g.letter with
    | 'd' => { s with delimiter := g.value.getD "" }
    | 't' => { s with total := true }
    | 'c' => { s with checks := some true }
    | 'n' => { s with checks := some false }
    | 'z' => { s with ending := '\x00' }
    | c => { s with hidden := c :: s.hidden }
  let (first, second) ← twoOperands operands
  let as ← pairedLines s.ending first
  let bs ← pairedLines s.ending second
  let p ← compareLines s (as.length + bs.length + 1) {} as bs
  if s.total then
    let (x, y, z) := p.counts
    let parts := [toString x, toString y, toString z, "total"]
    Tool.put ((s.delimiter.intercalate parts).push s.ending)
  if p.first || p.second then
    if s.checks != some true then Tool.die 1 "input is not in sorted order"

end Comm

namespace Join

/-- A place in a line of the output: the common field, or a field of a file. -/
inductive Place where
  | common
  | field (file index : Nat)

/-- How lines are joined. -/
structure Style where
  tab : Option Char := none
  firstField : Nat := 0
  secondField : Nat := 0
  unpaired : List Nat := []
  paired : Bool := true
  ignoresCase : Bool := false
  filler : Bytes := ""
  format : Option (List Place) := none
  auto : Bool := false
  header : Bool := false
  checks : Option Bool := none

/-- The options of the tool. -/
def table : OptionTable where
  letters := OptionTable.ofLetters "iz" "12aejotv"
  words := [("ignore-case", 'i', .none), ("check-order", 'c', .none),
    ("nocheck-order", 'n', .none), ("header", 'h', .none)]

/-- The number of a field, counted from zero. -/
def fieldNumber (text : Bytes) : Tool Nat := do
  match natOf? text with
  | some (n + 1) => return n
  | _ => Tool.die 1 ("invalid field number: " ++ Quoting.plain text)

/-- Reads places. -/
def readPlaces (text : Bytes) : Tool (List Place) :=
  (text.splitToList fun c => c == ',' || c == ' ' || c == '\t').mapM fun part => do
    if part == "0" then return .common
    match part.splitOn "." with
    | [file, index] =>
      if file != "1" && file != "2" then
        Tool.die 1 ("invalid file number in field spec: " ++ Quoting.plain part)
      return .field (if file == "1" then 1 else 2) (← fieldNumber index)
    | _ => Tool.die 1 ("invalid field specifier: " ++ Quoting.plain part)

/-- The number of a file. -/
def fileNumber (text : Bytes) : Tool Nat := do
  match text with
  | "1" => return 1
  | "2" => return 2
  | _ => Tool.die 1 ("invalid field number: " ++ Quoting.plain text)

/-- The style with an option. -/
def Style.withOption (s : Style) (g : Given) : Tool Style := do
  let text := g.value.getD ""
  match g.letter with
  | '1' => return { s with firstField := ← fieldNumber text }
  | '2' => return { s with secondField := ← fieldNumber text }
  | 'j' =>
    let n ← fieldNumber text
    return { s with firstField := n, secondField := n }
  | 'a' => return { s with unpaired := (← fileNumber text) :: s.unpaired }
  | 'v' => return { s with unpaired := (← fileNumber text) :: s.unpaired, paired := false }
  | 'e' => return { s with filler := text }
  | 'i' => return { s with ignoresCase := true }
  | 'h' => return { s with header := true }
  | 'c' => return { s with checks := some true }
  | 'n' => return { s with checks := some false }
  | 'o' =>
    if text == "auto" then return { s with auto := true }
    return { s with format := some (s.format.getD [] ++ (← readPlaces text)) }
  | 't' =>
    match text.toList with
    | [] => return { s with tab := some '\n' }
    | [c] => return { s with tab := some c }
    | ['\\', '0'] => return { s with tab := some '\x00' }
    | _ => Tool.die 1 ("multi-character tab " ++ Quoting.plain text)
  | _ => return s

/-- The fields of a line. -/
def Style.fields (s : Style) (line : Bytes) : List Bytes :=
  match s.tab with
  | some t => line.splitOn (String.singleton t)
  | none => (line.splitToList Order.isBlank).filter (· != "")

/-- The text between fields. -/
def Style.separator (s : Style) : Bytes :=
  match s.tab with
  | some t => String.singleton t
  | none => " "

/-- The order of the fields of two lines. -/
def Style.order (s : Style) (a b : Bytes) : Ordering :=
  let text (x : Bytes) : List Char :=
    if s.ignoresCase then x.toList.map Char.toLower else x.toList
  Order.bytes (text a) (text b)

/-- The common field of a line. -/
def Style.key (s : Style) (file : Nat) (fields : List Bytes) : Bytes :=
  fields.getD (if file == 1 then s.firstField else s.secondField) ""

/-- The line that two lines make, of which one may be missing. -/
def Style.joined (s : Style) (a b : Option (List Bytes)) : Bytes :=
  let filled (x : Option Bytes) : Bytes := match x with
    | none | some "" => s.filler
    | some x => x
  let key := match a, b with
    | some fs, _ => fs[s.firstField]?
    | none, some fs => fs[s.secondField]?
    | none, none => none
  let parts := match s.format with
    | some places => places.map fun p => match p with
        | .common => filled key
        | .field 1 i => filled (a.bind (·[i]?))
        | .field _ i => filled (b.bind (·[i]?))
    | none =>
      filled key :: ((a.getD []).eraseIdx s.firstField).map (fun x => filled (some x)) ++
        ((b.getD []).eraseIdx s.secondField).map (fun x => filled (some x))
  s.separator.intercalate parts ++ "\n"

/-- Where the join has come to. -/
structure Progress where
  disordered : List Nat := []
  unpaired : Bool := false

/-- Says that a file is out of order, if its next line comes before the last one. -/
def Style.checkOrder (s : Style) (p : Progress) (file line : Nat) (path : Bytes)
    (before : Option (List Bytes)) (now : List Bytes) : Tool Progress := do
  if p.disordered.contains file || s.checks == some false then return p
  match before with
  | none => return p
  | some b =>
    if s.order (s.key file b) (s.key file now) == .gt && (p.unpaired || s.checks.isSome) then
      let text := s.separator.intercalate now
      let message := Quoting.name path ++ ":" ++ toString line ++ ": is not sorted: " ++ text
      if s.checks == some true then Tool.die 1 message
      Tool.warn message
      return { p with disordered := file :: p.disordered }
    else return p

/-- One of the two files. -/
structure Side where
  file : Nat
  path : Bytes
  lines : List (List Bytes)
  /-- How many lines have been used. -/
  used : Nat := 0
  last : Option (List Bytes) := none

/-- Goes past some lines. -/
def Side.skip (side : Side) (n : Nat) : Side :=
  { side with
    lines := side.lines.drop n, used := side.used + n
    last := (side.lines.take n).getLast?.or side.last }

/-- Checks the order of the line that comes next. -/
def Style.checkNext (s : Style) (p : Progress) (side : Side) : Tool Progress := do
  match side.lines with
  | [] => return p
  | now :: _ => s.checkOrder p side.file (side.used + 1) side.path side.last now

/-- Goes through both files. -/
def joinLines (s : Style) : (bound : Nat) → Progress → Side → Side → Tool Progress
  | 0, p, _, _ => return p
  | bound + 1, p, a, b => do
    let p ← s.checkNext p a
    let p ← s.checkNext p b
    match a.lines, b.lines with
    | [], [] => return p
    | x :: _, [] =>
      if s.unpaired.contains 1 then Tool.put (s.joined (some x) none)
      joinLines s bound { p with unpaired := true } (a.skip 1) b
    | [], y :: _ =>
      if s.unpaired.contains 2 then Tool.put (s.joined none (some y))
      joinLines s bound { p with unpaired := true } a (b.skip 1)
    | x :: _, y :: _ =>
      match s.order (s.key 1 x) (s.key 2 y) with
      | .lt =>
        if s.unpaired.contains 1 then Tool.put (s.joined (some x) none)
        joinLines s bound { p with unpaired := true } (a.skip 1) b
      | .gt =>
        if s.unpaired.contains 2 then Tool.put (s.joined none (some y))
        joinLines s bound { p with unpaired := true } a (b.skip 1)
      | .eq =>
        let xs := a.lines.takeWhile fun z => s.order (s.key 1 z) (s.key 1 x) == .eq
        let ys := b.lines.takeWhile fun z => s.order (s.key 2 z) (s.key 2 y) == .eq
        if s.paired then
          xs.forM fun x => ys.forM fun y => Tool.put (s.joined (some x) (some y))
        joinLines s bound p (a.skip xs.length) (b.skip ys.length)

/-- The places of a line when the first lines say how many there are. -/
def Style.autoFormat (s : Style) (a b : List (List Bytes)) : Style :=
  if !s.auto then s
  else
    let count (ls : List (List Bytes)) : Nat := (ls.headD []).length
    let places (file skip n : Nat) : List Place :=
      ((List.range n).filter (· != skip)).map (.field file ·)
    { s with format := some (.common :: places 1 s.firstField (count a) ++
        places 2 s.secondField (count b)) }

/-- Joins the lines of two files. -/
def run (args : List Bytes) : Tool Unit := do
  let (s, operands) ← Tool.options table args ({} : Style) Style.withOption
  let (first, second) ← twoOperands operands
  let as := (← pairedLines '\n' first).map s.fields
  let bs := (← pairedLines '\n' second).map s.fields
  let s := s.autoFormat as bs
  let a : Side := { file := 1, path := first, lines := as }
  let b : Side := { file := 2, path := second, lines := bs }
  if s.header then
    Tool.put (s.joined as.head? bs.head?)
  let n := if s.header then 1 else 0
  let p ← joinLines s (as.length + bs.length + 1) {} { a.skip n with last := none }
    { b.skip n with last := none }
  if !p.disordered.isEmpty && s.checks != some true then
    Tool.die 1 "input is not in sorted order"

end Join

end Tilde.Utility
