import Tilde.Regex.Search
import Tilde.Utility.Calendar
import Tilde.Utility.Difference.Script
import Tilde.Utility.Input

/-!
# How differences are shown

The changes between two texts are shown one by one, or with the unchanged lines around them, or as
commands that turn the first text into the second, or both texts side by side.
-/

namespace Tilde.Utility.Diff

open Unix (Bytes)

/-- The forms in which changes are shown. -/
inductive Layout where
  | normal
  | unified
  | context
  | commands
  | forwardCommands
  | counted
  | columns
  deriving DecidableEq, Repr

/-- How much space counts, the least change first. -/
inductive Blanks where
  | all
  | untabbed
  | notAtEnd
  | untabbedNotAtEnd
  | asOne
  | none
  deriving DecidableEq, Repr

/-- The place of a rule about space among the others. -/
def Blanks.rank : Blanks → Nat
  | .all => 0
  | .untabbed => 1
  | .notAtEnd => 2
  | .untabbedNotAtEnd => 3
  | .asOne => 4
  | .none => 5

/-- What is compared and how it is shown. -/
structure Style where
  layout : Option Layout := none
  context : Option Nat := none
  brief : Bool := false
  reportsSame : Bool := false
  recursive : Bool := false
  /-- A missing file counts as an empty one. -/
  missingIsEmpty : Bool := false
  /-- A missing file counts as an empty one if it is the first. -/
  missingFirstIsEmpty : Bool := false
  asText : Bool := false
  minimal : Bool := false
  ignoresCase : Bool := false
  blanks : Blanks := .all
  ignoresBlankLines : Bool := false
  /-- Changes of lines that all match one of these do not count. -/
  ignored : List Regex.Searcher := []
  stripsReturn : Bool := false
  expandsTabs : Bool := false
  tabFirst : Bool := false
  /-- Lines that name what comes after them. -/
  headings : Option Regex.Searcher := none
  /-- The headings are those of functions. -/
  showsFunctions : Bool := false
  labels : List Bytes := []
  excluded : List Bytes := []
  startsAt : Option Bytes := none
  width : Nat := 130
  leftOnly : Bool := false
  changedOnly : Bool := false

/-- A text that is compared. -/
structure Text where
  name : Bytes
  label : Option Bytes
  modified : Nat
  lines : Array Line

namespace Style

/-- The form in which changes are shown. -/
def form (s : Style) : Layout := s.layout.getD (if s.showsFunctions then .context else .normal)

/-- How many unchanged lines are shown around changes. -/
def margin (s : Style) : Nat :=
  match s.form with
  | .unified | .context => s.context.getD 3
  | _ => 0

/-! ### What is compared of a line -/

/-- Whether a character is space. -/
def isBlank (c : Char) : Bool := c == ' ' || ('\t' ≤ c && c ≤ '\r')

/-- A line with spaces in place of tabs, from a column on. -/
def untabbed : (column : Nat) → List Char → List Char
  | _, [] => []
  | column, '\t' :: cs =>
    let room := 8 - column % 8
    List.replicate room ' ' ++ untabbed (column + room) cs
  | column, c :: cs => c :: untabbed (column + 1) cs

/-- A line without space at its end. -/
def trimmed (cs : List Char) : List Char := (cs.reverse.dropWhile isBlank).reverse

/-- A line with one space for each run of space. -/
def withSingleBlanks : (inBlank : Bool) → List Char → List Char
  | _, [] => []
  | inBlank, c :: cs =>
    if isBlank c then if inBlank then withSingleBlanks true cs else ' ' :: withSingleBlanks true cs
    else c :: withSingleBlanks false cs

/-- What is compared of a line. -/
def key (s : Style) (l : Line) : Bytes :=
  let cs := l.text.toList
  let cs := match s.blanks with
    | .all => cs
    | .untabbed => untabbed 0 cs
    | .notAtEnd => trimmed cs
    | .untabbedNotAtEnd => trimmed (untabbed 0 cs)
    | .asOne => withSingleBlanks false (trimmed cs)
    | .none => cs.filter (!isBlank ·)
  let text := String.ofList cs
  let text := if s.ignoresCase then text.toLower else text
  if l.ended && s.blanks.rank < 2 then text.push '\n' else text

/-- The changes between two texts. -/
def changes (s : Style) (a b : Text) : List Change :=
  let raw (t : Text) : Array Bytes := t.lines.map (·.whole '\n')
  let keys (t : Text) : Array Bytes := t.lines.map s.key
  Diff.changes s.minimal s.margin (raw a) (raw b) (keys a) (keys b)

/-- The lines of a text from a place on. -/
def linesOf (t : Text) (first count : Nat) : List Line :=
  (t.lines.extract first (first + count)).toList

/-- Whether a change does not count. -/
def ignores (s : Style) (a b : Text) (c : Change) : Bool :=
  let isNothing (l : Line) : Bool :=
    let cs := l.text.toList
    (s.ignoresBlankLines && (if 4 ≤ s.blanks.rank then cs.all isBlank else cs.isEmpty)) ||
      s.ignored.any (·.matches cs.toArray)
  (s.ignoresBlankLines || !s.ignored.isEmpty) &&
    (linesOf a c.first c.lost ++ linesOf b c.second c.gained).all isNothing

/-! ### Lines -/

/-- A line as it is shown. -/
def lineText (s : Style) (l : Line) : Bytes :=
  (if s.expandsTabs then String.ofList (untabbed 0 l.text.toList) else l.text) ++
    (if l.ended then "\n" else "\n\\ No newline at end of file\n")

/-- Lines with a sign in front of each. -/
def signed (s : Style) (sign : Bytes) (ls : List Line) : Bytes :=
  String.join (ls.map fun l => sign ++ (if s.tabFirst then "\t" else " ") ++ s.lineText l)

/-- The numbers of the first and the last of some lines. A last one before the first stands for the
place between them. -/
def range (mark : Bytes) (first count : Nat) : Bytes :=
  if count ≤ 1 then toString (first + count)
  else toString (first + 1) ++ mark ++ toString (first + count)

/-- The letter of a change. -/
def letter (c : Change) : Bytes := if c.lost == 0 then "a" else if c.gained == 0 then "d" else "c"

/-! ### One change after the other -/

/-- A change by itself. -/
def normalText (s : Style) (a b : Text) (c : Change) : Bytes :=
  range "," c.first c.lost ++ letter c ++ range "," c.second c.gained ++ "\n" ++
    s.signed "<" (linesOf a c.first c.lost) ++
    (if c.lost != 0 && c.gained != 0 then "---\n" else "") ++
    s.signed ">" (linesOf b c.second c.gained)

/-- Lines that commands put in. -/
def insertedText (ls : List Line) : Bytes := String.join (ls.map fun l => l.text ++ "\n")

/-- The command for a change, where later changes have been made before. -/
def commandText (b : Text) (c : Change) : Bytes :=
  range "," c.first c.lost ++ letter c ++ "\n" ++
    (if c.gained == 0 then "" else insertedText (linesOf b c.second c.gained) ++ ".\n")

/-- The command for a change with its letter in front. -/
def forwardText (b : Text) (c : Change) : Bytes :=
  letter c ++ range " " c.first c.lost ++ "\n" ++
    (if c.gained == 0 then "" else insertedText (linesOf b c.second c.gained) ++ ".\n")

/-- The commands for a change with numbers of lines. -/
def countedText (b : Text) (c : Change) : Bytes :=
  let command (letter : Bytes) (line count : Nat) : Bytes :=
    letter ++ toString line ++ " " ++ toString count ++ "\n"
  (if c.lost == 0 then "" else command "d" (c.first + 1) c.lost) ++
    (if c.gained == 0 then ""
      else command "a" (c.first + c.lost) c.gained ++
        String.join ((linesOf b c.second c.gained).map (·.whole '\n')))

/-! ### With the lines around -/

/-- Changes that are so near to each other that they are shown together. -/
def hunks (s : Style) (ignored : Change → Bool) : List Change → List (List Change)
  | [] => []
  | c :: rest =>
    match hunks s ignored rest with
    | (d :: ds) :: more =>
      let limit := if ignored c || ignored d then s.margin else 2 * s.margin + 1
      if d.first - (c.first + c.lost) < limit then (c :: d :: ds) :: more
      else [c] :: (d :: ds) :: more
    | more => [c] :: more

/-- The heading of what starts at a line. -/
def heading (s : Style) (a : Text) (first : Nat) : Bytes :=
  match s.headings with
  | none => ""
  | some h =>
    let isHeading (l : Line) : Bool := h.matches l.text.toList.toArray
    match (a.lines.extract 0 first).toList.reverse.find? isHeading with
    | none => ""
    | some l =>
      let cs := (l.text.toList.dropWhile isBlank).take 40
      " " ++ String.ofList (trimmed cs)

/-- The first and the last line that are shown with some changes, in both texts. -/
def spread (s : Style) (a b : Text) (cs : List Change) : Nat × Nat × Nat × Nat :=
  let head := cs.headD ⟨0, 0, 0, 0⟩
  let last := cs.getLastD head
  (head.first - s.margin, min a.lines.size (last.first + last.lost + s.margin),
    head.second - s.margin, min b.lines.size (last.second + last.gained + s.margin))

/-- Numbers of lines as they stand above joint changes. -/
def unifiedRange (first count : Nat) : Bytes :=
  if count == 0 then toString first ++ ",0"
  else if count == 1 then toString (first + 1)
  else toString (first + 1) ++ "," ++ toString count

/-- Changes in joint form. -/
def unifiedText (s : Style) (a b : Text) (cs : List Change) : Bytes :=
  let (from_, upto, from2, upto2) := s.spread a b cs
  let plain (l : Line) : Bytes := (if s.tabFirst then "\t" else " ") ++ s.lineText l
  let sign (c : Bytes) (l : Line) : Bytes := c ++ (if s.tabFirst then "\t" else "") ++ s.lineText l
  let (body, next) := cs.foldl (fun (text, next) c =>
    (text ++ String.join ((linesOf a next (c.first - next)).map plain) ++
      String.join ((linesOf a c.first c.lost).map (sign "-")) ++
      String.join ((linesOf b c.second c.gained).map (sign "+")), c.first + c.lost)) ("", from_)
  "@@ -" ++ unifiedRange from_ (upto - from_) ++ " +" ++ unifiedRange from2 (upto2 - from2) ++
    " @@" ++ s.heading a from_ ++ "\n" ++ body ++
    String.join ((linesOf a next (upto - next)).map plain)

/-- The lines of one text with signs at those that have changed. -/
def contextSide (s : Style) (t : Text) (from_ upto : Nat) (sign : Bytes)
    (parts : List (Nat × Nat × Bool)) : Bytes :=
  let (body, next) := parts.foldl (fun (text, next) (first, count, both) =>
    (text ++ s.signed " " (linesOf t next (first - next)) ++
      s.signed (if both then "!" else sign) (linesOf t first count), first + count)) ("", from_)
  body ++ s.signed " " (linesOf t next (upto - next))

/-- Changes in the form that shows one text after the other. -/
def contextText (s : Style) (a b : Text) (cs : List Change) : Bytes :=
  let (from_, upto, from2, upto2) := s.spread a b cs
  let both (c : Change) : Bool := c.lost != 0 && c.gained != 0
  let first := if cs.all (·.lost == 0) then ""
    else s.contextSide a from_ upto "-" (cs.map fun c => (c.first, c.lost, both c))
  let second := if cs.all (·.gained == 0) then ""
    else s.contextSide b from2 upto2 "+" (cs.map fun c => (c.second, c.gained, both c))
  "***************" ++ s.heading a from_ ++ "\n" ++
    "*** " ++ range "," from_ (upto - from_) ++ " ****\n" ++ first ++
    "--- " ++ range "," from2 (upto2 - from2) ++ " ----\n" ++ second

/-- A name in quotes if it has characters that would not be clear otherwise. -/
def quotedName (name : Bytes) : Bytes :=
  let isPlain (c : Char) : Bool := ' ' < c && c ≤ '~' && c != '"' && c != '\\'
  if name.toList.all isPlain then name
  else
    let show_ (c : Char) : String :=
      if c == '"' then "\\\"" else if c == '\\' then "\\\\"
      else if isShown c then String.singleton c else escape c
    "\"" ++ String.join (name.toList.map show_) ++ "\""

/-- The line that names a text. -/
def title (mark : Bytes) (t : Text) : Bytes :=
  match t.label with
  | some label => mark ++ " " ++ label ++ "\n"
  | none =>
    mark ++ " " ++ quotedName t.name ++ "\t" ++
      (Calendar.Moment.ofMicros t.modified).show_ "%Y-%m-%d %H:%M:%S.%N %z" ++ "\n"

/-! ### Side by side -/

/-- The width of a half line, and the column at which the second one begins. -/
def columns (s : Style) : Nat × Nat :=
  let tab := if s.expandsTabs then 1 else 8
  let both := tab + 3
  let middle := s.width / 2 + both / 2 + (s.width % 2) * (both % 2)
  let second := middle - middle % tab
  let half := if second ≤ 3 || s.width ≤ second then 0 else min (second - 3) (s.width - second)
  (half, if half == 0 then s.width else second)

/-- What leads from one column to another. -/
def gap (s : Style) : (bound : Nat) → (here there : Nat) → Bytes
  | 0, _, _ => ""
  | bound + 1, here, there =>
    let next := here + 8 - here % 8
    if !s.expandsTabs && next ≤ there then "\t" ++ s.gap bound next there
    else "".pushn ' ' (there - here)

/-- As much of a line as there is room for, and the column where it ends. `at_` is where the
characters are, and `shown` where the output is. -/
def halfLine (s : Style) (room : Nat) : (at_ shown : Nat) → List Char → Bytes × Nat
  | _, shown, [] => ("", shown)
  | at_, shown, '\t' :: cs =>
    let next := at_ + 8 - at_ % 8
    if at_ == shown && s.expandsTabs then
      let stop := min room next
      let (text, column) := halfLine s room next stop cs
      ("".pushn ' ' (stop - shown) ++ text, column)
    else if at_ == shown && next < room then
      let (text, column) := halfLine s room next next cs
      ("\t" ++ text, column)
    else halfLine s room next shown cs
  | at_, shown, c :: cs =>
    if c < ' ' || '~' < c then
      let (text, column) := halfLine s room at_ shown cs
      (String.singleton c ++ text, column)
    else if at_ < room then
      let (text, column) := halfLine s room (at_ + 1) (at_ + 1) cs
      (String.singleton c ++ text, column)
    else halfLine s room (at_ + 1) shown cs

/-- A line of each text beside each other, with a sign between them. -/
def sideBySide (s : Style) (left : Option Line) (sign : Char) (right : Option Line) : Bytes :=
  let (half, second) := s.columns
  let (text, column) := match left with
    | some l => s.halfLine half 0 0 l.text.toList
    | none => ("", 0)
  let ends := left.any (·.ended)
  let (text, column) :=
    if sign == ' ' then (text, column)
    else
      let target := (half + second - 1) / 2
      let differs := right.any fun r => r.ended != ends
      let sign := if sign == '|' && differs then (if ends then '/' else '\\') else sign
      (text ++ s.gap s.width column target ++ String.singleton sign, target + 1)
  let text := match right with
    | some r =>
      if r.text.isEmpty && r.ended then text
      else text ++ s.gap s.width column second ++ (s.halfLine half 0 0 r.text.toList).1
    | none => text
  if ends || right.any (·.ended) then text ++ "\n" else text

/-- Unchanged lines in both columns. -/
def commonLines (s : Style) (a b : Text) (first second count : Nat) : Bytes :=
  if s.changedOnly then ""
  else String.join (((linesOf a first count).zip (linesOf b second count)).map fun (l, r) =>
    if s.leftOnly then s.sideBySide (some l) '(' none else s.sideBySide (some l) ' ' (some r))

/-- Both texts side by side. -/
def columnsText (s : Style) (a b : Text) (cs : List Change) : Bytes :=
  let change (c : Change) : Bytes :=
    let lost := linesOf a c.first c.lost
    let gained := linesOf b c.second c.gained
    let pairs := lost.zip gained
    String.join (pairs.map fun (l, r) => s.sideBySide (some l) '|' (some r)) ++
      String.join ((lost.drop pairs.length).map fun l => s.sideBySide (some l) '<' none) ++
      String.join ((gained.drop pairs.length).map fun r => s.sideBySide none '>' (some r))
  let (text, first, second) := cs.foldl (fun (text, first, second) c =>
    (text ++ s.commonLines a b first second (c.first - first) ++ change c,
      c.first + c.lost, c.second + c.gained)) ("", 0, 0)
  text ++ s.commonLines a b first second (a.lines.size - first)

/-! ### All changes -/

/-- The changes between two texts as they are shown; an empty text if none of them counts. -/
def text (s : Style) (a b : Text) (cs : List Change) : Bytes :=
  let ignored := s.ignores a b
  let counting := cs.filter (!ignored ·)
  let groups := (s.hunks ignored cs).filter fun h => !h.all ignored
  match s.form with
  | .columns => s.columnsText a b cs
  | .normal => String.join (counting.map (s.normalText a b))
  | .commands => String.join (counting.reverse.map (commandText b))
  | .forwardCommands => String.join (counting.map (forwardText b))
  | .counted => String.join (counting.map (countedText b))
  | .unified =>
    if groups.isEmpty then ""
    else title "---" a ++ title "+++" b ++ String.join (groups.map (s.unifiedText a b))
  | .context =>
    if groups.isEmpty then ""
    else title "***" a ++ title "---" b ++ String.join (groups.map (s.contextText a b))

end Style

end Tilde.Utility.Diff
