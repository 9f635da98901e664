import Tilde.Sh.Pattern
import Tilde.Utility.Calendar
import Tilde.Utility.Input
import Tilde.Utility.Order
import Tilde.Utility.Permissions
import Tilde.Utility.Relocate

/-!
# Lists of files

The tool that lists the files of directories: their names one below the other, in columns, or with
what the system notes about them.
-/

namespace Tilde.Utility.Ls

open Unix (Bytes Act Errno FileInfo)

/-- The order of a list. -/
inductive SortKey where
  | name
  | none
  | size
  | time
  | version
  | extension
  | width
  deriving DecidableEq, Repr

/-- How a list is laid out. -/
inductive Layout where
  | lines
  | long
  | columns
  | rows
  | commas
  deriving DecidableEq, Repr

/-- How names are shown. -/
inductive NameStyle where
  | asIs
  | shell
  | shellAlways
  | quoted
  | escaped
  deriving DecidableEq, Repr

/-- What stands behind names to tell what files are. -/
inductive Marks where
  | none
  | slash
  | kind
  | all
  deriving DecidableEq, Repr

/-- What is listed, and how. -/
structure Style where
  hidden : Bool := false
  /-- The directory itself and the one above it are listed. -/
  dots : Bool := false
  ignored : List Bytes := []
  itself : Bool := false
  enters : Bool := false
  sortKey : SortKey := .name
  reversed : Bool := false
  dirsFirst : Bool := false
  layout : Layout := .lines
  names : NameStyle := .asIs
  maskControls : Bool := false
  marks : Marks := .none
  context : Bool := false
  numbers : Bool := false
  blocks : Bool := false
  owner : Bool := true
  group : Bool := true
  numericOwner : Bool := false
  /-- Sizes are shown with a letter, as multiples of a power of this. -/
  unit : Option Nat := none
  follows : Bool := false
  followsFirst : Bool := false
  width : Nat := 80
  tabs : Nat := 8
  timeFormat : Option Bytes := none
  ending : Bytes := "\n"

/-- The options of the tool. -/
def table : OptionTable where
  letters := OptionTable.ofLetters "aAbBcCdDfFgGhHiklLmnNopqQrRsStuUvxXZ1" "ITw"
  words := [("all", 'a', .none), ("almost-all", 'A', .none), ("author", 'k', .none),
    ("block-size", 'z', .required), ("classify", 'F', .optional), ("color", 'e', .optional),
    ("context", 'Z', .none), ("dereference", 'L', .none), ("dereference-command-line", 'H', .none),
    ("directory", 'd', .none), ("escape", 'b', .none), ("file-type", 'y', .none),
    ("format", 'M', .required), ("full-time", 'E', .none), ("group-directories-first", '5', .none),
    ("hide", 'I', .required), ("hide-control-chars", 'q', .none), ("human-readable", 'h', .none),
    ("hyperlink", 'e', .optional), ("ignore", 'I', .required), ("ignore-backups", 'B', .none),
    ("indicator-style", 'j', .required), ("inode", 'i', .none), ("kibibytes", 'k', .none),
    ("literal", 'N', .none), ("no-group", 'G', .none), ("numeric-uid-gid", 'n', .none),
    ("quote-name", 'Q', .none), ("quoting-style", 'J', .required), ("recursive", 'R', .none),
    ("reverse", 'r', .none), ("show-control-chars", '2', .none), ("si", '3', .none),
    ("size", 's', .none), ("sort", 'O', .required), ("tabsize", 'T', .required),
    ("time", 'K', .required), ("time-style", 'Y', .required), ("width", 'w', .required),
    ("zero", '0', .none)]
  status := 2

/-- The styles of names by their words. -/
def nameStyles : List (List Bytes) := [["literal"], ["shell"], ["shell-always"], ["shell-escape"],
  ["shell-escape-always"], ["c"], ["c-maybe"], ["escape"], ["locale"], ["clocale"]]

/-- The style of names that a word stands for. -/
def nameStyleOf : Bytes → NameStyle
  | "shell" | "shell-escape" => .shell
  | "shell-always" | "shell-escape-always" => .shellAlways
  | "c" | "locale" | "clocale" => .quoted
  | "escape" => .escaped
  | _ => .asIs

/-- Changes the list by an option with a value. -/
def Style.withValue (s : Style) (letter : Char) (value : Bytes) : Tool Style := do
  match letter with
  | 'M' =>
    let choices := [["verbose", "long"], ["commas"], ["horizontal", "across"], ["vertical"],
      ["single-column"]]
    return { s with layout := match ← Tool.choose 2 "--format" value choices with
      | "verbose" => .long
      | "commas" => .commas
      | "horizontal" => .rows
      | "vertical" => .columns
      | _ => .lines }
  | 'O' =>
    let choices := [["none"], ["time"], ["size"], ["extension"], ["version"], ["width"]]
    return { s with sortKey := match ← Tool.choose 2 "--sort" value choices with
      | "none" => .none
      | "time" => .time
      | "size" => .size
      | "extension" => .extension
      | "version" => .version
      | _ => .width }
  | 'J' =>
    return { s with names := nameStyleOf (← Tool.choose 2 "--quoting-style" value nameStyles) }
  | 'j' =>
    let choices := [["none"], ["slash"], ["file-type"], ["classify"]]
    return { s with marks := match ← Tool.choose 2 "--indicator-style" value choices with
      | "slash" => .slash
      | "file-type" => .kind
      | "classify" => .all
      | _ => .none }
  | 'K' =>
    let choices := [["atime", "access", "use"], ["ctime", "status"], ["mtime", "modification"],
      ["birth", "creation"]]
    let _ ← Tool.choose 2 "--time" value choices
    return { s with sortKey := if s.layout == .long then s.sortKey else .time }
  | 'Y' =>
    let format := match value with
      | "full-iso" => some "%Y-%m-%d %H:%M:%S.%N %z"
      | "long-iso" => some "%Y-%m-%d %H:%M"
      | "iso" => some "%m-%d %H:%M"
      | "locale" => none
      | value => some (if value.startsWith "+" then (value.drop 1).toString else value)
    return { s with timeFormat := format }
  | 'w' =>
    match natOf? value with
    | some n => return { s with width := n }
    | none => Tool.die 2 ("invalid line width: " ++ Quoting.plain value)
  | 'T' =>
    match natOf? value with
    | some n => return { s with tabs := n }
    | none => Tool.die 2 ("invalid tab size: " ++ Quoting.plain value)
  | 'I' => return { s with ignored := value :: s.ignored }
  | _ => return s

/-- Changes the list by an option. -/
def Style.withOption (s : Style) (g : Given) : Tool Style :=
  match g.letter with
  | 'a' => return { s with hidden := true, dots := true }
  | 'A' => return { s with hidden := true, dots := false }
  | 'b' => return { s with names := .escaped }
  | 'B' => return { s with ignored := "*~" :: ".*~" :: s.ignored }
  | 'C' => return { s with layout := .columns }
  | 'd' => return { s with itself := true }
  | 'E' => return { s with layout := .long, timeFormat := some "%Y-%m-%d %H:%M:%S.%N %z" }
  | 'f' => return { s with
      hidden := true, dots := true, sortKey := .none, layout := if s.layout == .long then .lines
        else s.layout }
  | 'F' => return { s with marks := .all }
  | 'g' => return { s with layout := .long, owner := false }
  | 'G' => return { s with group := false }
  | 'h' => return { s with unit := some 1024 }
  | '3' => return { s with unit := some 1000 }
  | 'H' => return { s with followsFirst := true }
  | 'i' => return { s with numbers := true }
  | 'l' => return { s with layout := .long }
  | 'L' => return { s with follows := true }
  | 'm' => return { s with layout := .commas }
  | 'n' => return { s with layout := .long, numericOwner := true }
  | 'N' => return { s with names := .asIs }
  | 'o' => return { s with layout := .long, group := false }
  | 'p' => return { s with marks := .slash }
  | 'y' => return { s with marks := .kind }
  | 'q' => return { s with maskControls := true }
  | '2' => return { s with maskControls := false }
  | 'Q' => return { s with names := .quoted }
  | 'r' => return { s with reversed := true }
  | 'R' => return { s with enters := true }
  | 's' => return { s with blocks := true }
  | 'S' => return { s with sortKey := .size }
  | 't' => return { s with sortKey := .time }
  | 'c' | 'u' => return { s with
      sortKey := if s.layout == .long || s.sortKey != .name then s.sortKey else .time }
  | 'U' => return { s with sortKey := .none }
  | 'v' => return { s with sortKey := .version }
  | 'x' => return { s with layout := .rows }
  | 'X' => return { s with sortKey := .extension }
  | 'Z' => return { s with context := true }
  | '0' => return { s with layout := .lines, ending := "\x00" }
  | '1' => return { s with layout := if s.layout == .long then .long else .lines }
  | '5' => return { s with dirsFirst := true }
  | letter => s.withValue letter (g.value.getD "")

/-- A file of a list. -/
structure Entry where
  name : Bytes
  info : FileInfo
  /-- Where a symbolic link leads, and what is there. -/
  target : Option Bytes := none
  targetInfo : Option FileInfo := none

/-- Whether a file is a directory, perhaps behind a symbolic link. -/
def Entry.leadsToDir (e : Entry) : Bool :=
  e.info.kind == .directory || e.targetInfo.any (·.kind == .directory)

/-! ### Names -/

/-- The escape of a character in a name, where `specials` have one too. -/
def escapeIn (specials : List Char) (c : Char) : String :=
  if specials.contains c then "\\" ++ String.singleton c
  else if isShown c then String.singleton c
  else escape c

/-- A name as it is shown. -/
def Style.show_ (s : Style) (name : Bytes) : Bytes :=
  match s.names with
  | .asIs => if s.maskControls then name.map fun c => if isShown c then c else '?' else name
  | .shell => Quoting.name name
  | .shellAlways => Quoting.always name
  | .quoted => "\"" ++ String.join (name.toList.map (escapeIn ['"', '\\'])) ++ "\""
  | .escaped => String.join (name.toList.map (escapeIn [' ', '\\']))

/-- What stands behind the name of a file. -/
def Style.mark (s : Style) (i : FileInfo) : Bytes :=
  match s.marks, i.kind with
  | .none, _ => ""
  | _, .directory => "/"
  | .slash, _ => ""
  | _, .link => "@"
  | _, .pipe => "|"
  | .all, .regular => if i.mode &&& 0o111 != 0 then "*" else ""
  | _, _ => ""

/-! ### Sizes -/

/-- The letters for powers of a unit. -/
def unitLetters : List Char := ['K', 'M', 'G', 'T', 'P', 'E']

/-- A number of bytes with the greatest unit that is not too great for it, rounded up. -/
def humanSize (unit n : Nat) : (letters : List Char) → (size : Nat) → Bytes
  | [], _ => toString n
  | c :: rest, size =>
    let tenths := (n * 10 + size - 1) / size
    let whole := (n + size - 1) / size
    let letter := String.singleton (if unit == 1000 && c == 'K' then 'k' else c)
    if tenths < 100 then toString (tenths / 10) ++ "." ++ toString (tenths % 10) ++ letter
    else if whole < unit || rest.isEmpty then toString whole ++ letter
    else humanSize unit n rest (size * unit)

/-- A size as it is shown. -/
def Style.size (s : Style) (n : Nat) : Bytes :=
  match s.unit with
  | none => toString n
  | some unit => if n < unit then toString n else humanSize unit n unitLetters unit

/-- How many bytes a file takes up. -/
def spaceOf (i : FileInfo) : Nat :=
  match i.kind with
  | .regular | .directory => (i.size + 4095) / 4096 * 4096
  | _ => 0

/-- The space that files take up, as it is shown. -/
def Style.space (s : Style) (n : Nat) : Bytes :=
  match s.unit with
  | none => toString (n / 1024)
  | some _ => s.size n

/-! ### Order -/

/-- What stands behind the last point of a name. -/
def extension (name : Bytes) : List Char :=
  let back := name.toList.reverse.takeWhile (· != '.')
  if back.length == name.length then [] else '.' :: back.reverse

/-- The order of two files. -/
def Style.compare (s : Style) (a b : Entry) : Ordering :=
  let names := Order.bytes a.name.toList b.name.toList
  let order := match s.sortKey with
    | .name => names
    | .none => .eq
    | .size => (Ord.compare b.info.size a.info.size).then names
    | .time => (Ord.compare b.info.modified a.info.modified).then names
    | .version => (Order.versions a.name.toList b.name.toList).then names
    | .extension => (Order.bytes (extension a.name) (extension b.name)).then names
    | .width => (Ord.compare a.name.length b.name.length).then names
  let order := if s.reversed then order.swap else order
  if s.dirsFirst && a.leadsToDir != b.leadsToDir then (if a.leadsToDir then .lt else .gt)
  else order

/-- Files in order. -/
def Style.sorted (s : Style) (entries : List Entry) : List Entry :=
  if s.sortKey == .none && !s.dirsFirst then entries
  else entries.mergeSort fun a b => s.compare a b != .gt

/-! ### Lines -/

/-- A text with blanks before it. -/
def right (width : Nat) (text : Bytes) : Bytes := "".pushn ' ' (width - text.length) ++ text

/-- A text with blanks after it. -/
def left (width : Nat) (text : Bytes) : Bytes := text.pushn ' ' (width - text.length)

/-- The greatest length of texts. -/
def widest (texts : List Bytes) : Nat := texts.foldl (fun n t => max n t.length) 0

/-- What stands before the name of a file in every layout. -/
def Style.front (s : Style) (all : List Entry) (e : Entry) : Bytes :=
  let pads := s.layout != .commas
  let field (show_ : Entry → Bytes) : Bytes :=
    right (if pads then widest (all.map show_) else 0) (show_ e) ++ " "
  (if s.numbers then field fun e => toString e.info.number else "") ++
    (if s.blocks then field fun e => s.space (spaceOf e.info) else "") ++
    (if s.context && s.layout != .long then "? " else "")

/-- The time of the last change of a file. -/
def Style.time (s : Style) (now : Nat) (i : FileInfo) : Bytes :=
  let isRecent := i.modified ≤ now && now < i.modified + 15778476000000
  let format := s.timeFormat.getD (if isRecent then "%b %e %H:%M" else "%b %e  %Y")
  (Calendar.Moment.ofMicros i.modified).show_ format

/-- The size of a file, or the numbers of a device. -/
def Style.sizeField (s : Style) (i : FileInfo) : Bytes :=
  if i.kind == .characterDevice then "1, 3" else s.size i.size

/-- A line of a long list. -/
def Style.longLine (s : Style) (now : Nat) (all : List Entry) (e : Entry) : Bytes :=
  let field (show_ : FileInfo → Bytes) : Bytes :=
    right (widest (all.map fun e => show_ e.info)) (show_ e.info) ++ " "
  let user := if s.numericOwner then "0 " else "root "
  let mode := String.singleton (Permissions.kindLetter e.info.kind) ++
    Permissions.show_ e.info.mode ++ " "
  let target := match e.target with
    | some t => " -> " ++ s.show_ t ++ (match e.targetInfo with
      | some i => s.mark i
      | none => "")
    | none => s.mark e.info
  s.front all e ++ mode ++ field (fun i => toString i.names) ++
    (if s.owner then user else "") ++ (if s.group then user else "") ++
    (if s.context then "? " else "") ++
    field s.sizeField ++ s.time now e.info ++ " " ++ s.show_ e.name ++ target

/-- A file in a short list. -/
def Style.shortText (s : Style) (all : List Entry) (e : Entry) : Bytes :=
  s.front all e ++ s.show_ e.name ++ s.mark e.info

/-- Blanks and tabs from one column to another. -/
def indent (tabs : Nat) : (bound : Nat) → (start stop : Nat) → Bytes
  | 0, _, _ => ""
  | bound + 1, start, stop =>
    if stop ≤ start then ""
    else if tabs != 0 && (start + 1) / tabs < stop / tabs then
      "\t" ++ indent tabs bound (start + tabs - start % tabs) stop
    else " " ++ indent tabs bound (start + 1) stop

/-- The widths of columns that texts need, with the place of the column that each text is in. -/
def columnWidths (count : Nat) (place : Nat → Nat) (texts : List Bytes) : List Nat :=
  let placed := (List.range texts.length).zip texts
  (List.range count).map fun c => placed.foldl (fun width (n, t) =>
    if place n != c then width
    else max width (t.length + (if c + 1 == count then 0 else 2))) 3

/-- The greatest number of columns that fit into lines, with their widths. `byColumns` says whether
texts stand below or beside each other. -/
def bestColumns (width : Nat) (byColumns : Bool) (texts : List Bytes) : (count : Nat) → List Nat
  | 0 => [0]
  | count + 1 =>
    let columns := count + 1
    let size := texts.length
    let rows := (size + count) / columns
    let place (n : Nat) : Nat := if byColumns then n / rows else n % columns
    let widths := columnWidths columns place texts
    let total := widths.foldl (· + ·) 0
    if count == 0 || total < width || total == 3 * columns then widths
    else bestColumns width byColumns texts count

/-- A line of texts in columns. -/
def rowText (tabs : Nat) : (at_ : Nat) → List (Bytes × Nat) → Bytes
  | _, [] => ""
  | _, [(text, _)] => text
  | at_, (text, width) :: rest =>
    text ++ indent tabs (width + 1) (at_ + text.length) (at_ + width) ++
      rowText tabs (at_ + width) rest

/-- Texts in columns. -/
def Style.columns (s : Style) (byColumns : Bool) (texts : List Bytes) : List Bytes :=
  if s.width == 0 then [("  ".intercalate texts)] else
  let most := max 1 ((s.width + 2) / 3)
  let widths := bestColumns s.width byColumns texts (min most texts.length)
  let count := widths.length
  let rows := (texts.length + count - 1) / count
  (List.range rows).map fun r =>
    let places := (List.range count).map fun c => if byColumns then r + c * rows else r * count + c
    let cells := (places.zip widths).filterMap fun (n, w) => (texts[n]?).map (·, w)
    rowText s.tabs 0 cells

/-- Texts behind one another with commas between them. -/
def Style.commas (s : Style) : (at_ : Nat) → List Bytes → Bytes
  | _, [] => ""
  | at_, text :: rest =>
    let stop := at_ + text.length
    match rest with
    | [] => text
    | next :: _ =>
      if s.width == 0 || stop + 2 + next.length + 2 ≤ s.width then
        text ++ ", " ++ s.commas (stop + 2) rest
      else text ++ ",\n" ++ s.commas 0 rest

/-- Shows files. -/
def Style.put (s : Style) (all : List Entry) : Tool Unit := do
  if all.isEmpty then return
  let texts := all.map (s.shortText all)
  let putAll (lines : List Bytes) : Tool Unit := lines.forM fun l => Tool.put (l ++ s.ending)
  match s.layout with
  | .lines => putAll texts
  | .long =>
    let now ← Tool.now
    putAll (all.map (s.longLine now all))
  | .columns => putAll (s.columns true texts)
  | .rows => putAll (s.columns false texts)
  | .commas => Tool.putLine (s.commas 0 texts)

/-! ### Directories -/

/-- Says that a file cannot be looked at. -/
def refuse (isGiven : Bool) (path : Bytes) (e : Errno) : Tool Unit := do
  Tool.say ("cannot access " ++ Quoting.always path ++ ": " ++ e.text)
  Tool.setStatus (if isGiven then 2 else 1)

/-- What the system tells about a file of a list. -/
def Style.entry (s : Style) (isGiven : Bool) (path name : Bytes) : Tool (Option Entry) := do
  let enters := isGiven && !s.itself && s.layout != .long && s.marks != .all
  let atFirst ← Tool.info path (s.follows || (isGiven && s.followsFirst))
  let found ← match atFirst with
    | .error .notFound => Tool.info path false
    | .ok { kind := .link, .. } =>
      if enters then
        match ← Tool.info path true with
        | .ok i => pure (if i.kind == .directory then .ok i else atFirst)
        | .error _ => pure atFirst
      else pure atFirst
    | _ => pure atFirst
  match found with
  | .error e =>
    refuse isGiven path e
    return none
  | .ok i =>
    if i.kind == .link then
      let target := (← Tool.act (Act.text (.readLink path))).toOption
      let targetInfo := (← Tool.info path true).toOption
      return some { name, info := i, target, targetInfo }
    else return some { name, info := i }

/-- Whether a file of a directory is listed. -/
def Style.shows (s : Style) (name : Bytes) : Bool :=
  (s.hidden || !name.startsWith ".") &&
    !s.ignored.any fun p => (Sh.Pattern.ofText p).matchesText name.toList

/-- Lists the files of a directory. `titled` says whether its name stands above them, and `isFirst`
whether nothing stands above that. -/
def Style.listDir (s : Style) (titled : Bool) : (bound : Nat) → (isFirst isGiven : Bool) → Bytes →
    Tool Bool
  | 0, isFirst, _, _ => return isFirst
  | bound + 1, isFirst, isGiven, path => do
    match ← Tool.entries path with
    | .error e =>
      Tool.say ("cannot open directory " ++ Quoting.always path ++ ": " ++ e.text)
      Tool.setStatus (if isGiven then 2 else 1)
      return isFirst
    | .ok names =>
      let all := (if s.dots then [".", ".."] else []) ++ names.filter s.shows
      let entries ← all.filterMapM fun name => s.entry false (Relocate.join path name) name
      let entries := s.sorted entries
      if titled then
        if !isFirst then Tool.put "\n"
        Tool.putLine (s.show_ path ++ ":")
      if s.layout == .long || s.blocks then
        let total := entries.foldl (fun n e => n + spaceOf e.info) 0
        Tool.put ("total " ++ s.space total ++ s.ending)
      s.put entries
      if s.enters then
        let dirs := entries.filter fun e =>
          e.info.kind == .directory && e.name != "." && e.name != ".."
        let _ ← dirs.foldlM (fun isFirst e =>
          s.listDir true bound isFirst false (Relocate.join path e.name)) false
      return false

/-- Lists files. -/
def run (args : List Bytes) : Tool Unit := do
  let (s, paths) ← Tool.options table args ({} : Style) Style.withOption
  let given := if paths.isEmpty then ["."] else paths
  let entries ← given.filterMapM fun path => s.entry true path path
  let entries := s.sorted entries
  let dirs := if s.itself then [] else entries.filter (·.info.kind == .directory)
  let files := if s.itself then entries else entries.filter (·.info.kind != .directory)
  s.put files
  let titled := s.enters || 1 < given.length
  let _ ← dirs.foldlM (fun isFirst e => s.listDir titled 100 isFirst true e.name) files.isEmpty

end Tilde.Utility.Ls
