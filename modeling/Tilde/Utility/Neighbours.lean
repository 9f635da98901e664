import Tilde.Utility.Input
import Tilde.Utility.Options
import Tilde.Utility.Order

/-!
# Neighbouring lines

The tool that finds lines which are like the one before them.
-/

namespace Tilde.Utility.Uniq

open Unix (Bytes Act Errno)

/-- Where empty lines stand around groups. -/
inductive Gaps where
  | none
  | prepended
  | appended
  | separating
  | both
  deriving DecidableEq

/-- What is compared and what is shown. -/
structure Style where
  counts : Bool := false
  /-- Groups of several lines are shown. -/
  repeated : Bool := true
  /-- Groups of one line are shown. -/
  single : Bool := true
  /-- All lines of a group are shown. -/
  all : Bool := false
  grouped : Bool := false
  gaps : Gaps := .none
  ignoresCase : Bool := false
  fields : Nat := 0
  skipped : Nat := 0
  width : Option Nat := none
  ending : Char := '\n'

/-- The options of the tool. -/
def table : OptionTable where
  letters := OptionTable.ofLetters "cdDiuz" "fsw"
  words := [("count", 'c', .none), ("repeated", 'd', .none), ("all-repeated", 'D', .optional),
    ("skip-fields", 'f', .required), ("group", 'g', .optional), ("ignore-case", 'i', .none),
    ("skip-chars", 's', .required), ("unique", 'u', .none), ("zero-terminated", 'z', .none),
    ("check-chars", 'w', .required)]

/-- Where gaps stand as a word asks for them. -/
def gapsOf (option : Bytes) (choices : List (Bytes × Gaps)) (word : Bytes) : Tool Gaps := do
  match choices.filter (·.1.startsWith word) with
  | [(_, gaps)] => return gaps
  | _ =>
    Tool.say ("invalid argument " ++ Quoting.plain word ++ " for '" ++ option ++ "'")
    Tool.writeErr ("Valid arguments are:\n" ++
      String.join (choices.map fun c => "  - '" ++ c.1 ++ "'\n"))
    Tool.writeErr (← Tool.hint)
    Tool.stop 1

/-- The number of an option. -/
def number (text what : Bytes) : Tool Nat := do
  match natOf? text with
  | some n => return n
  | none => Tool.die 1 (text ++ ": invalid number of " ++ what)

/-- The style with an option. -/
def Style.withOption (s : Style) (g : Given) : Tool Style := do
  let text := g.value.getD ""
  match g.letter with
  | 'c' => return { s with counts := true }
  | 'd' => return { s with single := false }
  | 'u' => return { s with repeated := false }
  | 'i' => return { s with ignoresCase := true }
  | 'z' => return { s with ending := '\x00' }
  | 'f' => return { s with fields := ← number text "fields to skip" }
  | 's' => return { s with skipped := ← number text "bytes to skip" }
  | 'w' => return { s with width := some (← number text "bytes to compare") }
  | 'D' =>
    let choices : List (Bytes × Gaps) :=
      [("none", .none), ("prepend", .prepended), ("separate", .separating)]
    let gaps ← match g.value with
      | none => pure .none
      | some word => gapsOf "--all-repeated" choices word
    return { s with all := true, single := false, gaps }
  | _ =>
    let choices : List (Bytes × Gaps) :=
      [("prepend", .prepended), ("append", .appended), ("separate", .separating), ("both", .both)]
    let gaps ← match g.value with
      | none => pure .separating
      | some word => gapsOf "--group" choices word
    return { s with grouped := true, gaps }

/-- Skips fields. -/
def skipFields : Nat → List Char → List Char
  | 0, cs => cs
  | n + 1, cs => skipFields n ((cs.dropWhile Order.isBlank).dropWhile (!Order.isBlank ·))

/-- The part of a line that is compared. -/
def Style.part (s : Style) (line : Bytes) : List Char :=
  let cs := (skipFields s.fields line.toList).drop s.skipped
  let cs := match s.width with
    | some n => cs.take n
    | none => cs
  if s.ignoresCase then cs.map Char.toLower else cs

/-- A group of lines that are alike: the lines, the last first. -/
structure Group where
  part : List Char
  first : Bytes
  count : Nat := 1
  others : List Bytes := []

/-- Shows a group. The result says whether something was shown before. -/
def Style.showGroup (s : Style) (out : Bytes → Tool Unit) (shownBefore : Bool) (g : Group) :
    Tool Bool := do
  let line (text : Bytes) : Bytes := text.push s.ending
  let isWanted := if s.all then 1 < g.count
    else if g.count == 1 then s.single else s.repeated
  if s.grouped || s.all then
    if !s.grouped && !isWanted then return shownBefore
    let gap := String.singleton s.ending
    if s.gaps == .prepended || s.gaps == .both || (s.gaps == .separating && shownBefore) then
      if !(s.gaps == .both && shownBefore) then out gap
    (g.first :: g.others.reverse).forM fun l => out (line l)
    if s.gaps == .appended || s.gaps == .both then out gap
    return true
  else
    if isWanted then
      let digits := toString g.count
      out ((if s.counts then "".pushn ' ' (7 - digits.length) ++ digits ++ " " else "") ++
        line g.first)
    return shownBefore || isWanted

/-- Adds a line, and shows the group that it ends. -/
def Style.addLine (s : Style) (out : Bytes → Tool Unit) (state : Option Group × Bool)
    (l : Line) : Tool ((Option Group × Bool) × Bool) := do
  let part := s.part l.text
  match state with
  | (none, shown) => return ((some { part, first := l.text }, shown), true)
  | (some g, shown) =>
    if g.part == part then
      let others := if s.all || s.grouped then l.text :: g.others else []
      return ((some { g with count := g.count + 1, others }, shown), true)
    else
      let shown ← s.showGroup out shown g
      return ((some { part, first := l.text }, shown), true)

/-- The arguments where numbers behind a sign stand for fields or characters to skip. -/
def modern (arg : Bytes) : Bytes :=
  match arg.toList with
  | '-' :: c :: _ => if c.isDigit then "-f" ++ (arg.drop 1).toString else arg
  | '+' :: c :: _ => if c.isDigit then "-s" ++ (arg.drop 1).toString else arg
  | _ => arg

/-- Where the output goes. -/
def outputTo (path : Option Bytes) : Tool (Bytes → Tool Unit) := do
  match path with
  | none | some "-" => return Tool.put
  | some path =>
    let how : Unix.OpenMode := { writes := true, creates := true, truncates := true }
    match ← Tool.act (Act.number (.open_ path how 0o666)) with
    | .error e => Tool.die 1 (Quoting.name path ++ ": " ++ e.text)
    | .ok fd => return fun text => do
      let _ ← Tool.act (Act.write fd text)

/-- Finds lines that are like the one before them. -/
def run (args : List Bytes) : Tool Unit := do
  let (s, paths) ← Tool.options table (args.map modern) ({} : Style) Style.withOption
  match paths.drop 2 with
  | extra :: _ => Tool.extraOperand 1 extra
  | [] => pure ()
  if s.all && s.counts then
    Tool.misused 1 "printing all duplicated lines and repeat counts is meaningless"
  if s.grouped && (s.counts || !s.single || !s.repeated) then
    Tool.misused 1 "--group is mutually exclusive with -c/-d/-D/-u"
  let path := paths.headD "-"
  match ← Tool.openInput path with
  | .error e => Tool.die 1 (Quoting.name path ++ ": " ++ e.text)
  | .ok fd =>
    let out ← outputTo paths.tail.head?
    let ((last, shown), _, source) ←
      Tool.foldLines (s.addLine out) Tool.rounds { fd, ending := s.ending } (none, false)
    match source.error with
    | some e => Tool.die 1 ("error reading " ++ Quoting.always path ++ ": " ++ e.text)
    | none => pure ()
    match last with
    | some g =>
      let _ ← s.showGroup out shown g
    | none => pure ()

end Tilde.Utility.Uniq
