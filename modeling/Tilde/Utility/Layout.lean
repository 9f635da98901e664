import Tilde.Regex.Search
import Tilde.Utility.Input
import Tilde.Utility.Options
import Tilde.Utility.Tool

/-!
# The layout of lines

Tools that number lines, break long ones, and put blanks for tabs or tabs for blanks.
-/

namespace Tilde.Utility

open Unix (Bytes Act Errno)

namespace Nl

/-- Which lines get numbers. -/
inductive Which where
  | all
  | filled
  | none
  | matching (s : Regex.Searcher)

/-- How lines are numbered. -/
structure Style where
  header : Which := .none
  body : Which := .filled
  footer : Which := .none
  step : Int := 1
  /-- How many empty lines count as one. -/
  blanks : Nat := 1
  start : Int := 1
  goesOn : Bool := false
  separator : Bytes := "\t"
  width : Nat := 6
  left : Bool := false
  zeros : Bool := false
  mark : Bytes := "\\:"

/-- The options of the tool. -/
def table : OptionTable where
  letters := OptionTable.ofLetters "p" "bdfhilnsvw"
  words := [("body-numbering", 'b', .required), ("section-delimiter", 'd', .required),
    ("footer-numbering", 'f', .required), ("header-numbering", 'h', .required),
    ("line-increment", 'i', .required), ("join-blank-lines", 'l', .required),
    ("number-format", 'n', .required), ("no-renumber", 'p', .none),
    ("number-separator", 's', .required), ("starting-line-number", 'v', .required),
    ("number-width", 'w', .required)]

/-- The lines that a text asks for. -/
def which (part text : Bytes) : Tool Which := do
  match text.toList with
  | ['a'] => return .all
  | ['t'] => return .filled
  | ['n'] => return .none
  | 'p' :: pattern =>
    match Regex.parse {} (String.ofList pattern) with
    | .ok p => return .matching (p.searcher false)
    | .error e => Tool.die 1 e.message
  | _ => Tool.misused 1 ("invalid " ++ part ++ " numbering style: " ++ Quoting.plain text)

/-- A number of an option. -/
def number (what text : Bytes) (least : Int) : Tool Int := do
  match intOf? text with
  | none => Tool.die 1 ("invalid " ++ what ++ ": " ++ Quoting.plain text)
  | some n =>
    if n < least then
      let shown := Quoting.plain text
      Tool.die 1 ("invalid " ++ what ++ ": " ++ shown ++ ": Numerical result out of range")
    return n

/-- The style with an option. -/
def Style.withOption (s : Style) (g : Given) : Tool Style := do
  let text := g.value.getD ""
  match g.letter with
  | 'b' => return { s with body := ← which "body" text }
  | 'h' => return { s with header := ← which "header" text }
  | 'f' => return { s with footer := ← which "footer" text }
  | 'v' =>
    return { s with start := ← number "starting line number" text (-9223372036854775808) }
  | 'i' =>
    return { s with step := ← number "line number increment" text (-9223372036854775808) }
  | 'l' => return { s with blanks := (← number "line number of blank lines" text 1).toNat }
  | 'w' => return { s with width := (← number "line number field width" text 1).toNat }
  | 's' => return { s with separator := text }
  | 'd' => return { s with mark := if text.length == 1 then text ++ ":" else text }
  | 'p' => return { s with goesOn := true }
  | 'n' =>
    match text with
    | "ln" => return { s with left := true, zeros := false }
    | "rn" => return { s with left := false, zeros := false }
    | "rz" => return { s with left := false, zeros := true }
    | _ => Tool.misused 1 ("invalid line numbering format: " ++ Quoting.plain text)
  | _ => return s

/-- Where the numbering has come to. -/
structure Progress where
  next : Int
  which : Which
  /-- How many empty lines came last. -/
  empty : Nat := 0

/-- A number in its field. -/
def Style.shown (s : Style) (n : Int) : Bytes :=
  let digits := toString n.natAbs
  let sign := if n < 0 then "-" else ""
  let fill := s.width - digits.length - sign.length
  if s.left then sign ++ digits ++ "".pushn ' ' fill
  else if s.zeros then sign ++ "".pushn '0' fill ++ digits
  else "".pushn ' ' fill ++ sign ++ digits

/-- Shows a line. -/
def Style.showLine (s : Style) (p : Progress) (l : Line) : Tool (Progress × Bool) := do
  let section_ (w : Which) : Tool (Progress × Bool) := do
    Tool.put "\n"
    return ({ p with which := w, next := if s.goesOn then p.next else s.start }, true)
  if l.text == s.mark ++ s.mark ++ s.mark then section_ s.header
  else if l.text == s.mark ++ s.mark then section_ s.body
  else if l.text == s.mark then section_ s.footer
  else
    let isEmpty := l.text.isEmpty
    let empty := if isEmpty then p.empty + 1 else p.empty
    let numbered := match p.which with
      | .all => s.blanks ≤ 1 || !isEmpty || empty == s.blanks
      | .filled => !isEmpty
      | .none => false
      | .matching r => r.matches l.text.toList.toArray
    let front := if numbered then s.shown p.next ++ s.separator
      else "".pushn ' ' (s.width + s.separator.length)
    Tool.put (front ++ l.text ++ "\n")
    return ({ p with
      next := if numbered then p.next + s.step else p.next
      empty := if numbered then 0 else empty }, true)

/-- Numbers the lines of files. -/
def run (args : List Bytes) : Tool Unit := do
  let (s, paths) ← Tool.options table args ({} : Style) Style.withOption
  let _ ← Tool.foldFiles '\n' s.showLine (Tool.inputs paths) { next := s.start, which := s.body }

end Nl

/-- The column behind a tab. -/
def afterTab (column : Nat) : Nat := column + (8 - column % 8)

namespace Fold

/-- Where lines are broken. -/
structure Style where
  inBytes : Bool := false
  atBlanks : Bool := false
  width : Nat := 80

/-- The options of the tool. -/
def table : OptionTable where
  letters := OptionTable.ofLetters "bs" "w"
  words := [("bytes", 'b', .none), ("spaces", 's', .none), ("width", 'w', .required)]

/-- The column after a character. -/
def Style.column (s : Style) (column : Nat) (c : Char) : Nat :=
  if s.inBytes then column + 1
  else match c with
    | '\x08' => column - 1
    | '\r' => 0
    | '\t' => afterTab column
    | _ => column + 1

/-- A line that is being broken: what has been read of its last part, the last character first, and
the column behind it. -/
structure Part where
  text : List Char := []
  column : Nat := 0
  /-- The parts before, the last one first. -/
  done : List Bytes := []

/-- Adds a character. -/
def Style.add (s : Style) : (bound : Nat) → Part → Char → Part
  | 0, p, c => { p with text := c :: p.text }
  | bound + 1, p, c =>
    let column := s.column p.column c
    if column ≤ s.width then { p with text := c :: p.text, column }
    else
      let isBlank (c : Char) : Bool := c == ' ' || c == '\t'
      let tail := p.text.takeWhile (!isBlank ·)
      let front := p.text.drop tail.length
      if s.atBlanks && !front.isEmpty then
        let column := tail.reverse.foldl s.column 0
        s.add bound ⟨tail, column, String.ofList front.reverse :: p.done⟩ c
      else if p.text.isEmpty then { p with text := [c], column }
      else s.add bound ⟨[], 0, String.ofList p.text.reverse :: p.done⟩ c

/-- Breaks the lines of files. -/
def run (args : List Bytes) : Tool Unit := do
  let args := args.map fun a => match a.toList with
    | '-' :: c :: _ => if c.isDigit then "-w" ++ (a.drop 1).toString else a
    | _ => a
  let (s, paths) ← Tool.options table args ({} : Style) fun s g => do
    match g.letter with
    | 'b' => return { s with inBytes := true }
    | 's' => return { s with atBlanks := true }
    | _ =>
      let text := g.value.getD ""
      match natOf? text with
      | some 0 =>
        let shown := Quoting.plain text
        Tool.die 1 ("invalid number of columns: " ++ shown ++ ": Numerical result out of range")
      | some width => return { s with width }
      | none => Tool.die 1 ("invalid number of columns: " ++ Quoting.plain text)
  Tool.foldFiles '\n' (fun (_ : Unit) l => do
    let cs := l.text.toList
    let p := cs.foldl (s.add (cs.length + 2)) {}
    p.done.reverse.forM fun part => Tool.put (part ++ "\n")
    Tool.put (({ l with text := String.ofList p.text.reverse }).whole '\n')
    return ((), true)) (Tool.inputs paths) ()

end Fold

/-- Where tabs lead to: a distance, or a list of columns. -/
structure TabStops where
  size : Nat := 8
  columns : List Nat := []

/-- The column that a tab leads to; none if there is none. -/
def TabStops.next? (t : TabStops) (column : Nat) : Option Nat :=
  if t.columns.isEmpty then some (column + (t.size - column % t.size))
  else t.columns.find? (column < ·)

/-- Reads tab stops. -/
def readTabStops (text : Bytes) : Tool TabStops := do
  let pieces := (text.splitToList fun c => c == ',' || c == ' ').filter (· != "")
  let wrong := pieces.find? fun p => (natOf? p).isNone
  match wrong with
  | some p => Tool.die 1 ("tab size contains invalid character(s): " ++ Quoting.plain p)
  | none =>
    match pieces.filterMap natOf? with
    | [] => return {}
    | [0] => Tool.die 1 "tab size cannot be 0"
    | [size] => return { size }
    | columns =>
      if columns.contains 0 then Tool.die 1 "tab size cannot be 0"
      if (columns.zip columns.tail).any fun (a, b) => b ≤ a then
        Tool.die 1 "tab sizes must be ascending"
      return { columns }

namespace Expand

/-- The options of the tool. -/
def table : OptionTable where
  letters := OptionTable.ofLetters "i" "t"
  words := [("initial", 'i', .none), ("tabs", 't', .required)]

/-- A line with blanks for tabs. -/
def expanded (stops : TabStops) (initial : Bool) : (column : Nat) → List Char → List Char
  | _, [] => []
  | column, c :: cs =>
    if c == '\t' then
      let next := (stops.next? column).getD (column + 1)
      List.replicate (next - column) ' ' ++ expanded stops initial next cs
    else if initial && c != ' ' then c :: cs
    else if c == '\x08' then c :: expanded stops initial (column - 1) cs
    else c :: expanded stops initial (column + 1) cs

/-- Puts blanks for tabs. -/
def run (args : List Bytes) : Tool Unit := do
  let ((initial, stops), paths) ← Tool.options table args (false, ({} : TabStops)) fun s g => do
    match g.letter with
    | 'i' => return (true, s.2)
    | _ => return (s.1, ← readTabStops (g.value.getD ""))
  Tool.foldFiles '\n' (fun (_ : Unit) l => do
    let text := String.ofList (expanded stops initial 0 l.text.toList)
    Tool.put (({ l with text }).whole '\n')
    return ((), true)) (Tool.inputs paths) ()

end Expand

namespace Unexpand

/-- The options of the tool. -/
def table : OptionTable where
  letters := OptionTable.ofLetters "a" "t"
  words := [("all", 'a', .none), ("first-only", 'f', .none), ("tabs", 't', .required)]

/-- Where a line has come to. -/
structure Progress where
  column : Nat := 0
  converts : Bool := true
  /-- The blanks that may become a tab, the last first. -/
  pending : List Char := []
  /-- A single blank stands just before a tab stop. -/
  oneBefore : Bool := false
  afterBlank : Bool := true
  /-- The characters written, the last first. -/
  done : List Char := []

/-- The pending blanks as they are written, the last first. -/
def Progress.blanks (p : Progress) : List Char :=
  if 1 < p.pending.length && p.oneBefore then p.pending.dropLast ++ ['\t'] else p.pending

/-- Writes a character after the pending blanks. -/
def Progress.write (p : Progress) (all isBlank : Bool) (c : Char) : Progress :=
  { p with
    done := c :: (p.blanks ++ p.done), pending := [], oneBefore := false, afterBlank := isBlank
    converts := p.converts && (all || isBlank) }

/-- Adds a character. -/
def Progress.add (stops : TabStops) (all : Bool) (p : Progress) (c : Char) : Progress :=
  if !p.converts then { p with done := c :: p.done }
  else if c == ' ' || c == '\t' then
    match stops.next? p.column with
    | none => { p with converts := false }.write all true c
    | some next =>
      if c == '\t' then
        let kept := if p.oneBefore then ['\t'] else []
        { p with column := next, pending := kept, oneBefore := p.oneBefore }.write all true '\t'
      else
        let column := p.column + 1
        if p.afterBlank && column == next then
          let kept := if p.oneBefore then ['\t'] else []
          { p with column, pending := kept }.write all true '\t'
        else
          { p with
            column, pending := c :: p.pending, afterBlank := true
            oneBefore := p.oneBefore || column == next }
  else if c == '\x08' then { p with column := p.column - 1 }.write all false c
  else { p with column := p.column + 1 }.write all false c

/-- Puts tabs for blanks. -/
def run (args : List Bytes) : Tool Unit := do
  let ((all, stops), paths) ← Tool.options table args (false, ({} : TabStops)) fun s g => do
    match g.letter with
    | 'a' => return (true, s.2)
    | 'f' => return (false, s.2)
    | _ => return (true, ← readTabStops (g.value.getD ""))
  Tool.foldFiles '\n' (fun (_ : Unit) l => do
    let p := l.text.toList.foldl (Progress.add stops all) {}
    let text := String.ofList (p.blanks ++ p.done).reverse
    Tool.put (({ l with text }).whole '\n')
    return ((), true)) (Tool.inputs paths) ()

end Unexpand

end Tilde.Utility
