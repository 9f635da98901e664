import Tilde.Sh.Pattern
import Tilde.Utility.Difference.Layout
import Tilde.Utility.Launch
import Tilde.Utility.Remove

/-!
# Comparing files and directories

The tool that compares two files, or the files of the same names in two directories.
-/

namespace Tilde.Utility.Diff

open Unix (Bytes Errno FileInfo)

/-- Letters with a value stand for these words that have no letter. -/
def table : OptionTable where
  letters := OptionTable.ofLetters "abBcdeEfHilnNpPqrstTuvwyZ" "CFILSUWxX"
  words := [("brief", 'q', .none), ("color", 'k', .optional), ("context", 'g', .optional),
    ("ed", 'e', .none), ("exclude", 'x', .required), ("exclude-from", 'X', .required),
    ("expand-tabs", 't', .none), ("forward-ed", 'f', .none), ("ignore-all-space", 'w', .none),
    ("ignore-blank-lines", 'B', .none), ("ignore-case", 'i', .none),
    ("ignore-matching-lines", 'I', .required), ("ignore-space-change", 'b', .none),
    ("ignore-tab-expansion", 'E', .none), ("ignore-trailing-space", 'Z', .none),
    ("initial-tab", 'T', .none), ("label", 'L', .required), ("left-column", 'j', .none),
    ("minimal", 'd', .none), ("new-file", 'N', .none), ("normal", 'o', .none),
    ("paginate", 'l', .none), ("rcs", 'n', .none), ("recursive", 'r', .none),
    ("report-identical-files", 's', .none), ("show-c-function", 'p', .none),
    ("show-function-line", 'F', .required), ("side-by-side", 'y', .none),
    ("speed-large-files", 'H', .none), ("starting-file", 'S', .required),
    ("strip-trailing-cr", 'm', .none), ("suppress-common-lines", 'z', .none),
    ("text", 'a', .none), ("unidirectional-new-file", 'P', .none), ("unified", 'h', .optional),
    ("width", 'W', .required)]
  status := 2
  usage := "diff: "

/-- Says what is wrong with the arguments, and ends the tool. -/
def misused {α : Type} (message : Bytes) : Tool α := do
  Tool.say message
  Tool.writeErr "diff: Try 'diff --help' for more information.\n"
  Tool.stop 2

/-- Chooses how changes are shown. -/
def Style.withLayout (s : Style) (l : Layout) : Tool Style := do
  if s.layout.any (· != l) then misused "conflicting output style options"
  return { s with layout := some l }

/-- Chooses how changes are shown, with a number of lines around them. -/
def Style.withContext (s : Style) (l : Layout) (value : Option Bytes) : Tool Style := do
  let s ← s.withLayout l
  match value with
  | none => return { s with context := some (max 3 (s.context.getD 0)) }
  | some text =>
    match natOf? text with
    | some n => return { s with context := some (max n (s.context.getD 0)) }
    | none => misused ("invalid context length " ++ Quoting.always text)

/-- Lets space count less. -/
def Style.withBlanks (s : Style) (b : Blanks) : Style :=
  let joint := match s.blanks, b with
    | .untabbed, .notAtEnd | .notAtEnd, .untabbed => Blanks.untabbedNotAtEnd
    | old, new => if old.rank < new.rank then new else old
  { s with blanks := joint }

/-- A regular expression of an option. -/
def searcherOf (text : Bytes) : Tool Regex.Searcher := do
  match Regex.parse {} text with
  | .ok p => return p.searcher false
  | .error e => Tool.die 2 (text ++ ": " ++ e.message)

/-- Changes what is done by an option. -/
def Style.withOption (s : Style) (g : Given) : Tool Style := do
  let value := g.value.getD ""
  match g.letter with
  | 'a' => return { s with asText := true }
  | 'b' => return s.withBlanks .asOne
  | 'B' => return { s with ignoresBlankLines := true }
  | 'c' => s.withContext .context none
  | 'C' | 'g' => s.withContext .context g.value
  | 'd' => return { s with minimal := true }
  | 'e' => s.withLayout .commands
  | 'E' => return s.withBlanks .untabbed
  | 'f' => s.withLayout .forwardCommands
  | 'F' => return { s with headings := some (← searcherOf value) }
  | 'i' => return { s with ignoresCase := true }
  | 'I' => return { s with ignored := s.ignored ++ [← searcherOf value] }
  | 'j' => return { s with leftOnly := true }
  | 'L' =>
    if 2 ≤ s.labels.length then Tool.die 2 "too many file label options"
    return { s with labels := s.labels ++ [value] }
  | 'm' => return { s with stripsReturn := true }
  | 'n' => s.withLayout .counted
  | 'N' => return { s with missingIsEmpty := true }
  | 'o' => s.withLayout .normal
  | 'p' =>
    let headings ← searcherOf "^[[:alpha:]$_]"
    return { s with headings := some headings, showsFunctions := true }
  | 'P' => return { s with missingFirstIsEmpty := true }
  | 'q' => return { s with brief := true }
  | 'r' => return { s with recursive := true }
  | 's' => return { s with reportsSame := true }
  | 'S' => return { s with startsAt := some value }
  | 't' => return { s with expandsTabs := true }
  | 'T' => return { s with tabFirst := true }
  | 'u' => s.withContext .unified none
  | 'U' | 'h' => s.withContext .unified g.value
  | 'w' => return s.withBlanks .none
  | 'W' =>
    match (natOf? value).filter (0 < ·) with
    | some width => return { s with width }
    | none => misused ("invalid width " ++ Quoting.always value)
  | 'x' => return { s with excluded := s.excluded ++ [value] }
  | 'X' =>
    match ← Tool.openInput value with
    | .error e => Tool.die 2 (value ++ ": " ++ e.text)
    | .ok fd =>
      let text := (← Tool.readAll fd).toOption.getD ""
      Tool.closeInput fd
      return { s with excluded := s.excluded ++ (text.splitOn "\n").filter (!·.isEmpty) }
  | 'y' => s.withLayout .columns
  | 'z' => return { s with changedOnly := true }
  | 'Z' => return s.withBlanks .notAtEnd
  | _ => return s

/-- The arguments that are options, with those that are their values. -/
def optionArgs : List Bytes → List Bytes
  | [] | "--" :: _ => []
  | arg :: rest =>
    let used := if arg.startsWith "--" then (table.readWord rest.head? (arg.drop 2).toString).2
      else (table.readLetters rest.head? (arg.drop 1).toString.toList).2
    if !arg.startsWith "-" || arg == "-" then optionArgs rest
    else match used, rest with
      | true, value :: rest => arg :: value :: optionArgs rest
      | _, rest => arg :: optionArgs rest

/-! ### Files -/

/-- A file to compare: its path, and what the system tells about it; none if it is missing. -/
structure Side where
  path : Bytes
  label : Option Bytes := none
  info : Option FileInfo

/-- What a file is called. -/
def Side.shown (f : Side) : Bytes := f.label.getD f.path

/-- Whether the file is a directory. -/
def Side.isDir (f : Side) : Bool := f.info.any (·.kind == .directory)

/-- Reads a file; a missing one is empty. -/
def Side.read (f : Side) : Tool (Except Errno Bytes) := do
  if f.info.isNone then return .ok ""
  match ← Tool.openInput f.path with
  | .error e => return .error e
  | .ok fd =>
    let text ← Tool.readAll fd
    Tool.closeInput fd
    return text

/-- The lines of a text. -/
def linesOfText (stripsReturn : Bool) (text : Bytes) : Array Line :=
  let pieces := text.splitOn "\n"
  let last := pieces.getLastD ""
  let ls := pieces.dropLast.map (({ text := · }) : Bytes → Line) ++
    (if last.isEmpty then [] else [⟨last, false⟩])
  let strip (l : Line) : Line :=
    if l.ended && l.text.endsWith "\r" then { l with text := (l.text.dropEnd 1).toString } else l
  (if stripsReturn then ls.map strip else ls).toArray

/-- The text of a file as it is compared. -/
def Side.text (f : Side) (s : Style) (content : Bytes) (now : Nat) : Text :=
  { name := f.path, label := f.label, lines := linesOfText s.stripsReturn content
    modified := if f.path == "-" then now else (f.info.map (·.modified)).getD 0 }

/-- Compares two files. The result is the status. -/
def compareFiles (s : Style) (header : Bytes) (a b : Side) : Tool Nat := do
  match ← a.read, ← b.read with
  | .ok x, .ok y =>
    let same : Tool Nat := do
      if s.reportsSame then
        Tool.putLine ("Files " ++ a.shown ++ " and " ++ b.shown ++ " are identical")
      return 0
    if x == y && s.layout != some .columns then return ← same
    let isBinary (t : Bytes) : Bool := t.toList.contains '\x00'
    if !s.asText && (isBinary x || isBinary y) then
      if x == y then return ← same
      let word := if s.brief then "Files " else "Binary files "
      Tool.putLine (word ++ a.shown ++ " and " ++ b.shown ++ " differ")
      return 1
    let now ← Tool.now
    let (first, second) := (a.text s x now, b.text s y now)
    let changes := s.changes first second
    let counts := changes.any fun c => !s.ignores first second c
    if s.brief then
      if !counts then return ← same
      Tool.putLine ("Files " ++ a.shown ++ " and " ++ b.shown ++ " differ")
      return 1
    if counts || s.layout == some .columns then
      Tool.put header
      Tool.put (s.text first second changes)
    let isFragile := s.form == .commands || s.form == .forwardCommands
    let broken := [(a, first), (b, second)].filter fun (_, t) =>
      isFragile && (t.lines.back?.any (!·.ended))
    broken.forM fun (f, _) => Tool.say (f.path ++ ": No newline at end of file\n")
    if !broken.isEmpty then return 2
    if counts then return 1 else return ← same
  | x, y =>
    let complain (f : Side) (r : Except Errno Bytes) : Tool Unit := do
      if let .error e := r then Tool.say (f.path ++ ": " ++ e.text)
    complain a x
    complain b y
    return 2

/-! ### Directories -/

/-- A path in a directory. -/
def inner (dir name : Bytes) : Bytes := if dir.endsWith "/" then dir ++ name else dir ++ "/" ++ name

/-- What the system tells about a file, if it is there. -/
def sideOf (path : Bytes) (label : Option Bytes) : Tool Side := do
  let info ← if path == "-" then Tool.act (Unix.Act.info (.infoOf 0)) else Tool.info path true
  return { path, label, info := info.toOption }

/-- Compares what two paths lead to. The result is the status. -/
def compare (s : Style) (options : Bytes) : (bound depth : Nat) → Side → Side → Tool Nat
  | 0, _, _, _ => return 0
  | bound + 1, depth, a, b => do
    let header := if depth == 0 then "" else
      "diff" ++ options ++ " " ++ Style.quotedName a.shown ++ " " ++ Style.quotedName b.shown ++
        "\n"
    if a.isDir && b.isDir then
      if depth != 0 && !s.recursive then
        Tool.putLine ("Common subdirectories: " ++ a.path ++ " and " ++ b.path)
        return 0
      let names (f : Side) : Tool (List Bytes) := do
        let all := (← Tool.entries f.path).toOption.getD []
        let isMeant (n : Bytes) : Bool :=
          !s.excluded.any (fun p => (Sh.Pattern.ofText p).matchesText n.toList) &&
            (depth != 0 || s.startsAt.all (· ≤ n))
        return all.filter isMeant
      let first ← names a
      let second ← names b
      let all := (first ++ second.filter (!first.contains ·)).mergeSort (· ≤ ·)
      all.foldlM (fun status name => do
        let isFirst := first.contains name
        let isSecond := second.contains name
        let absent (f : Side) : Side := { path := inner f.path name, info := none }
        let x ← if isFirst then sideOf (inner a.path name) a.label
          else pure { absent a with label := a.label }
        let y ← if isSecond then sideOf (inner b.path name) b.label
          else pure { absent b with label := b.label }
        let onlyIn (f : Side) : Tool Nat := do
          Tool.putLine ("Only in " ++ f.path ++ ": " ++ name)
          return max status 1
        if isFirst && !isSecond && !s.missingIsEmpty then onlyIn a
        else if !isFirst && !s.missingIsEmpty && !s.missingFirstIsEmpty then onlyIn b
        else if x.isDir != y.isDir && (isFirst && isSecond) then
          let kind (f : Side) : Bytes := (f.info.map Rm.kindName).getD ""
          Tool.putLine ("File " ++ x.path ++ " is a " ++ kind x ++ " while file " ++ y.path ++
            " is a " ++ kind y)
          return max status 1
        else if x.isDir != y.isDir then
          if !s.recursive then
            Tool.putLine ("Common subdirectories: " ++ x.path ++ " and " ++ y.path)
            return status
          let asDir (f g : Side) : Side := if f.info.isNone then { f with info := g.info } else f
          return max status (← compare s options bound (depth + 1) (asDir x y) (asDir y x))
        else return max status (← compare s options bound (depth + 1) x y)) 0
    else compareFiles s header a b

/-- An option as a shell would take it. -/
def optionText (arg : Bytes) : Bytes :=
  let isPlain (c : Char) : Bool := c.isAlphanum || "%+,-./:@_^".toList.contains c
  if !arg.isEmpty && arg.toList.all isPlain then arg else Quoting.always arg

/-- Compares two files or directories. -/
def run (args : List Bytes) : Tool Unit := do
  let (s, paths) ← Tool.options table args ({} : Style) Style.withOption
  match paths with
  | [] => misused ("missing operand after " ++ Quoting.always (args.getLastD (← get).name))
  | [path] =>
    let last := args.getLastD path
    misused ("missing operand after " ++ Quoting.always last)
  | _ :: _ :: extra :: _ => misused ("extra operand " ++ Quoting.always extra)
  | [p, q] =>
    let options := String.join ((optionArgs args).map fun a => " " ++ optionText a)
    let s := if s.brief then { s with layout := s.layout.filter (· != .columns) } else s
    let a ← sideOf p s.labels[0]?
    let b ← sideOf q s.labels[1]?
    let isDash (f : Side) : Bool := f.path == "-"
    if (isDash a && b.isDir) || (isDash b && a.isDir) then
      Tool.die 2 "cannot compare '-' to a directory"
    let a ← if b.isDir || !a.isDir || b.info.isNone then pure a
      else sideOf (inner p (lastName q)) s.labels[0]?
    let b ← if a.isDir || !b.isDir || a.info.isNone then pure b
      else sideOf (inner q (lastName p)) s.labels[1]?
    let bothGone := a.info.isNone && b.info.isNone
    let isWrong (f : Side) (first : Bool) : Bool :=
      f.info.isNone && (bothGone || !(s.missingIsEmpty || (first && s.missingFirstIsEmpty)))
    let wrong := (if isWrong a true then [a] else []) ++ (if isWrong b false then [b] else [])
    if !wrong.isEmpty then
      wrong.forM fun f => Tool.say (f.path ++ ": No such file or directory")
      Tool.stop 2
    if isDash a && isDash b then
      Tool.setStatus 0
    else
      let status ← compare s options 200 0 a b
      Tool.setStatus status

end Tilde.Utility.Diff
