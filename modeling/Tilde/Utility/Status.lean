import Tilde.Utility.Create
import Tilde.Utility.Relocate

/-!
# What is noted about files

Tools that show what the system notes about files and change it: permissions, sizes, where links
lead, and the path of a file without links.
-/

namespace Tilde.Utility

open Unix (Bytes Act Errno FileInfo)

namespace Stat

/-- What is shown, and how. -/
structure Style where
  format : Option Bytes := none
  /-- Backslashes count, and lines do not end by themselves. -/
  escapes : Bool := false
  follows : Bool := false

/-- The options of the tool. -/
def table : OptionTable where
  letters := OptionTable.ofLetters "Lft" "c"
  words := [("dereference", 'L', .none), ("file-system", 'f', .none), ("format", 'c', .required),
    ("printf", 'p', .required), ("terse", 't', .none)]

/-- What a file is called. -/
def kindName (i : FileInfo) : Bytes :=
  match i.kind with
  | .regular => if i.size == 0 then "regular empty file" else "regular file"
  | .directory => "directory"
  | .link => "symbolic link"
  | .characterDevice => "character special file"
  | .pipe => "fifo"

/-- The number of the kind of a file among its permissions. -/
def kindBits (i : FileInfo) : Nat :=
  match i.kind with
  | .regular => 0o100000
  | .directory => 0o40000
  | .link => 0o120000
  | .characterDevice => 0o20000
  | .pipe => 0o10000

/-- The value of a letter of a format, and whether it is a number. -/
def field? (name : Bytes) (target : Option Bytes) (i : FileInfo) (c : Char) :
    Option (Bytes × Bool) :=
  let time := (Calendar.Moment.ofMicros i.modified).show_ "%Y-%m-%d %H:%M:%S.%N %z"
  let hex (n : Nat) : Bytes := String.ofList (Nat.toDigits 16 n)
  let number (n : Nat) : Option (Bytes × Bool) := some (toString n, true)
  match c with
  | 'a' => some (Permissions.digits i.mode, true)
  | 'A' =>
    some (String.singleton (Permissions.kindLetter i.kind) ++ Permissions.show_ i.mode, false)
  | 'b' => number ((if i.kind == .regular || i.kind == .directory then (i.size + 4095) / 4096 * 8
      else 0))
  | 'B' => number 512
  | 'd' => number 42
  | 'D' => some ("2a", true)
  | 'f' => some (hex (kindBits i + i.mode), true)
  | 'F' => some (kindName i, false)
  | 'g' | 'u' | 't' | 'T' => number 0
  | 'G' | 'U' => some ("root", false)
  | 'h' => number i.names
  | 'i' => number i.number
  | 'm' => some ("/", false)
  | 'n' => some (name, false)
  | 'N' => some (Quoting.always name ++ (match target with
      | some t => " -> " ++ Quoting.always t
      | none => ""), false)
  | 'o' => number 4096
  | 's' => number i.size
  | 'W' | 'X' | 'Y' | 'Z' => number (i.modified / 1000000)
  | 'w' | 'x' | 'y' | 'z' => some (time, false)
  | _ => none

/-- A file as a format asks for. -/
def render (s : Style) (name : Bytes) (target : Option Bytes) (i : FileInfo) : (bound : Nat) →
    List Char → Bytes
  | 0, _ | _, [] => ""
  | _, ['%'] => "%"
  | bound + 1, '%' :: '%' :: cs => "%" ++ render s name target i bound cs
  | bound + 1, '%' :: cs =>
    let flags := cs.takeWhile ['-', '0', '+', ' ', '#', '\''].contains
    let rest := cs.drop flags.length
    let width := rest.takeWhile Char.isDigit
    match rest.drop width.length with
    | [] => "%"
    | c :: rest =>
      let text := match field? name target i c with
        | none => "?"
        | some (text, isNumber) =>
          let room := digitsValue width - text.length
          if flags.contains '-' then text.pushn ' ' room
          else "".pushn (if isNumber && flags.contains '0' then '0' else ' ') room ++ text
      text ++ render s name target i bound rest
  | bound + 1, '\\' :: c :: cs =>
    if !s.escapes then "\\" ++ render s name target i bound (c :: cs)
    else
      let (byte, rest) := match c with
        | 'n' => ("\n", cs)
        | 't' => ("\t", cs)
        | 'a' => ("\x07", cs)
        | 'b' => ("\x08", cs)
        | 'f' => ("\x0C", cs)
        | 'r' => ("\r", cs)
        | 'v' => ("\x0B", cs)
        | 'e' => ("\x1B", cs)
        | '"' => ("\"", cs)
        | '\\' => ("\\", cs)
        | c =>
          if '0' ≤ c && c ≤ '7' then
            let (byte, rest) := Echo.byteOf 8 3 (c :: cs)
            (String.singleton byte, rest)
          else ("\\" ++ String.singleton c, cs)
      byte ++ render s name target i bound rest
  | bound + 1, c :: cs => String.singleton c ++ render s name target i bound cs

/-- The format of a full description. -/
def fullFormat (i : FileInfo) : Bytes :=
  "  File: " ++ (if i.kind == .link then "%N" else "%n") ++
    "\n  Size: %-10s\tBlocks: %-10b IO Block: %-6o %F\n" ++
    "Device: 0,42\tInode: %-11i Links: %h\n" ++
    "Access: (%04a/%10A)  Uid: (    0/    root)   Gid: (    0/    root)\n" ++
    "Access: %x\nModify: %y\nChange: %z\n Birth: %w"

/-- Shows what is noted about files. -/
def run (args : List Bytes) : Tool Unit := do
  let (s, paths) ← Tool.options table args ({} : Style) fun s g => return match g.letter with
    | 'L' => { s with follows := true }
    | 'c' => { s with format := g.value, escapes := false }
    | 'p' => { s with format := g.value, escapes := true }
    | 't' => { s with format := some "%n %s %b %f %u %g %D %i %h %t %T %X %Y %Z %W %o" }
    | _ => s
  if paths.isEmpty then Tool.missingOperand 1
  paths.forM fun path => do
    match ← Tool.info path s.follows with
    | .error e => Tool.warn ("cannot statx " ++ Quoting.always path ++ ": " ++ e.text)
    | .ok i =>
      let target := (← Tool.act (Act.text (.readLink path))).toOption
      let format := s.format.getD (fullFormat i)
      Tool.put (render s path target i (format.length + 1) format.toList)
      if !s.escapes then Tool.put "\n"

end Stat

namespace Chmod

/-- What is changed, and what is said about it. -/
structure Style where
  enters : Bool := false
  verbose : Bool := false
  changesOnly : Bool := false
  silent : Bool := false
  reference : Option Bytes := none

/-- The options of the tool. -/
def table : OptionTable where
  letters := OptionTable.ofLetters "Rcfv" "m"
  words := [("changes", 'c', .none), ("no-preserve-root", 'n', .none),
    ("preserve-root", 'p', .none), ("quiet", 'f', .none), ("recursive", 'R', .none),
    ("reference", 'r', .required), ("silent", 'f', .none), ("verbose", 'v', .none)]

/-- Whether an argument with a dash is a change of permissions and no option. -/
def isChange (arg : Bytes) : Bool :=
  match arg.toList with
  | '-' :: c :: _ => "rwxXstugoa,+=01234567".toList.contains c
  | _ => false

/-- The permissions of a file in a message. -/
def described (mode : Nat) : Bytes :=
  Permissions.fourDigits mode ++ " (" ++ Permissions.show_ mode ++ ")"

/-- Changes the permissions of a file, and of what is in it. -/
def change (s : Style) (changes : List Permissions.Change) (mask : Nat) : (bound : Nat) →
    Bytes → Tool Unit
  | 0, _ => return
  | bound + 1, path => do
    match ← Tool.info path true with
    | .error e =>
      if s.silent then Tool.setStatus 1
      else Tool.warn ("cannot access " ++ Quoting.always path ++ ": " ++ e.text)
    | .ok i =>
      let isDir := i.kind == .directory
      let mode := Permissions.apply changes isDir mask i.mode
      match ← Tool.change (.chmod path mode) with
      | .error e =>
        Tool.warn ("changing permissions of " ++ Quoting.always path ++ ": " ++ e.text)
      | .ok _ =>
        if mode != i.mode && (s.verbose || s.changesOnly) then
          Tool.putLine ("mode of " ++ Quoting.always path ++ " changed from " ++
            described i.mode ++ " to " ++ described mode)
        else if s.verbose then
          Tool.putLine ("mode of " ++ Quoting.always path ++ " retained as " ++ described mode)
      if isDir && s.enters then
        for name in (← Tool.entries path).toOption.getD [] do
          let inner := Relocate.join path name
          match ← Tool.info inner false with
          | .ok j => if j.kind != .link then change s changes mask bound inner
          | .error _ => pure ()

/-- Changes the permissions of files. -/
def run (args : List Bytes) : Tool Unit := do
  let isEnd (arg : Bytes) : Bool := arg == "--"
  let early := args.takeWhile (!isEnd ·)
  let dashed := early.filter isChange
  let args := early.filter (!isChange ·) ++ args.drop early.length
  let (s, operands) ← Tool.options table args ({} : Style) fun s g => return match g.letter with
    | 'R' => { s with enters := true }
    | 'c' => { s with changesOnly := true }
    | 'f' => { s with silent := true }
    | 'v' => { s with verbose := true }
    | 'r' => { s with reference := g.value }
    | _ => s
  let (text, paths) := match s.reference, dashed, operands with
    | some _, _, paths => ("", paths)
    | none, [], [] => ("", [])
    | none, [], mode :: paths => (mode, paths)
    | none, dashed, paths => (",".intercalate dashed, paths)
  if paths.isEmpty then
    if operands.isEmpty && dashed.isEmpty then Tool.missingOperand 1
    else Tool.misused 1 ("missing operand after " ++
      Quoting.always ((dashed ++ operands).getLastD ""))
  let changes ← match s.reference with
    | some path =>
      match ← Tool.info path true with
      | .ok i =>
        let all := Permissions.all
        pure [{ affected := all, sign := '=', bits := .plain i.mode, mentioned := all }]
      | .error e =>
        Tool.die 1 ("failed to get attributes of " ++ Quoting.always path ++ ": " ++ e.text)
    | none =>
      match Permissions.parse? text with
      | some changes => pure changes
      | none => Tool.misused 1 ("invalid mode: " ++ Quoting.plain text)
  let mask ← Tool.mask
  paths.forM (change s changes mask 100)

end Chmod

namespace Truncate

/-- The options of the tool. -/
def table : OptionTable where
  letters := OptionTable.ofLetters "co" "rs"
  words := [("io-blocks", 'o', .none), ("no-create", 'c', .none), ("reference", 'r', .required),
    ("size", 's', .required)]

/-- What is done to which files. -/
structure Style where
  makes : Bool := true
  reference : Option Bytes := none
  size : Option Bytes := none

/-- The size that a text asks for, from that of a file. -/
def newSize? (text : Bytes) (size : Nat) : Option Nat := do
  let cs := text.toList
  let amount (cs : List Char) : Option Nat := amountOf? (String.ofList cs)
  match cs with
  | '+' :: cs => return size + (← amount cs)
  | '-' :: cs => return size - (← amount cs)
  | '<' :: cs => return min size (← amount cs)
  | '>' :: cs => return max size (← amount cs)
  | '/' :: cs =>
    let n ← amount cs
    if n == 0 then none else some (size / n * n)
  | '%' :: cs =>
    let n ← amount cs
    if n == 0 then none else some ((size + n - 1) / n * n)
  | cs => amount cs

/-- Changes the sizes of files. -/
def run (args : List Bytes) : Tool Unit := do
  let (s, paths) ← Tool.options table args ({} : Style) fun s g => return match g.letter with
    | 'c' => { s with makes := false }
    | 'r' => { s with reference := g.value }
    | 's' => { s with size := g.value }
    | _ => s
  if s.size.isNone && s.reference.isNone then
    Tool.misused 1 "you must specify either '--size' or '--reference'"
  let text := s.size.getD "+0"
  if (newSize? text 0).isNone then Tool.die 1 ("Invalid number: " ++ Quoting.plain text)
  if paths.isEmpty then Tool.misused 1 "missing file operand"
  let base ← match s.reference with
    | none => pure none
    | some path =>
      match ← Tool.info path true with
      | .ok i => pure (some i.size)
      | .error e => Tool.die 1 ("cannot stat " ++ Quoting.always path ++ ": " ++ e.text)
  paths.forM fun path => do
    match ← Tool.act (Act.number (.open_ path { writes := true, creates := s.makes } 0o666)) with
    | .error e =>
      if !(e == .notFound && !s.makes) then
        Tool.warn ("cannot open " ++ Quoting.always path ++ " for writing: " ++ e.text)
    | .ok fd =>
      Tool.closeFd fd
      let size := match ← Tool.info path true with
        | .ok i => i.size
        | .error _ => 0
      match ← Tool.change (.truncate path ((newSize? text (base.getD size)).getD size)) with
      | .ok _ => pure ()
      | .error e => Tool.warn ("failed to truncate " ++ Quoting.always path ++ ": " ++ e.text)

end Truncate

/-! ### Paths without links -/

namespace Resolve

/-- How much of a path has to be there. -/
inductive Need where
  | all
  | allButLast
  | nothing
  deriving DecidableEq, Repr

/-- The path that names from the root stand for. -/
def pathOf (names : List Bytes) : Bytes := "/" ++ "/".intercalate names

/-- Walks along names, from a directory that is the names before. -/
def walk (need : Need) (follows : Bool) : (bound links : Nat) → (before : List Bytes) →
    List Bytes → Tool (Except Errno (List Bytes))
  | 0, _, _, _ => return .error .tooManyLinks
  | _, _, before, [] => return .ok before
  | bound + 1, links, before, name :: rest => do
    if name == "" || name == "." then walk need follows bound links before rest
    else if name == ".." then walk need follows bound links before.dropLast rest
    else
      let here := before ++ [name]
      let path := pathOf here
      let isLast := rest.all (· == "")
      if !follows then
        if need == .nothing then return ← walk need follows bound links here rest
        else
          match ← Tool.info path true with
          | .error e =>
            if need == .allButLast && isLast && e == .notFound then return .ok here
            return .error e
          | .ok _ => return ← walk need follows bound links here rest
      match ← Tool.info path false with
      | .error e =>
        if need == .nothing || (need == .allButLast && isLast && e == .notFound) then
          walk need follows bound links here rest
        else return .error e
      | .ok i =>
        if i.kind == .link then
          match links, ← Tool.act (Act.text (.readLink path)) with
          | links + 1, .ok target =>
            let before := if target.startsWith "/" then [] else before
            walk need follows bound links before (target.splitOn "/" ++ rest)
          | 0, .ok _ =>
            if need == .nothing then walk need follows bound 0 here rest
            else return .error .tooManyLinks
          | _, .error e => return .error e
        else if i.kind != .directory && !rest.isEmpty && need != .nothing then
          return .error .notDirectory
        else walk need follows bound links here rest

/-- The path of a file from the root, without links. -/
def resolve (need : Need) (follows : Bool) (path : Bytes) : Tool (Except Errno Bytes) := do
  if path.isEmpty then return .error .notFound
  let here := (← Tool.act (Act.text .cwd)).toOption.getD "/"
  let start := if path.startsWith "/" then [] else (here.splitOn "/").filter (· != "")
  return (← walk need follows 10000 40 start (path.splitOn "/")).map pathOf

end Resolve

namespace Readlink

/-- What is shown of links. -/
structure Style where
  need : Option Resolve.Need := none
  ends : Bool := true
  verbose : Bool := false
  ending : Bytes := "\n"

/-- The options of the tool. -/
def table : OptionTable where
  letters := OptionTable.ofLetters "efmnqsvz" ""
  words := [("canonicalize", 'f', .none), ("canonicalize-existing", 'e', .none),
    ("canonicalize-missing", 'm', .none), ("no-newline", 'n', .none), ("quiet", 'q', .none),
    ("silent", 's', .none), ("verbose", 'v', .none), ("zero", 'z', .none)]

/-- Shows where links lead. -/
def run (args : List Bytes) : Tool Unit := do
  let (s, paths) ← Tool.options table args ({} : Style) fun s g => return match g.letter with
    | 'e' => { s with need := some .all }
    | 'f' => { s with need := some .allButLast }
    | 'm' => { s with need := some .nothing }
    | 'n' => { s with ends := false }
    | 'v' => { s with verbose := true }
    | 'z' => { s with ending := "\x00" }
    | _ => { s with verbose := false }
  if paths.isEmpty then Tool.missingOperand 1
  let ends := s.ends || 1 < paths.length
  if !s.ends && 1 < paths.length then Tool.say "ignoring --no-newline with multiple arguments"
  paths.forM fun path => do
    let found ← match s.need with
      | some need => Resolve.resolve need true path
      | none => Tool.act (Act.text (.readLink path))
    match found with
    | .ok target => Tool.put (if ends then target ++ s.ending else target)
    | .error e => if s.verbose then Tool.warnOf path e else Tool.setStatus 1

end Readlink

namespace Realpath

/-- How paths are shown. -/
structure Style where
  need : Resolve.Need := .allButLast
  follows : Bool := true
  quiet : Bool := false
  ending : Bytes := "\n"
  /-- Paths are shown from here. -/
  origin : Option Bytes := none
  /-- Only paths below this one are. -/
  base : Option Bytes := none

/-- The options of the tool. -/
def table : OptionTable where
  letters := OptionTable.ofLetters "eLmPqsz" ""
  words := [("canonicalize-existing", 'e', .none), ("canonicalize-missing", 'm', .none),
    ("logical", 'L', .none), ("no-symlinks", 's', .none), ("physical", 'P', .none),
    ("quiet", 'q', .none), ("relative-base", 'b', .required), ("relative-to", 't', .required),
    ("strip", 's', .none), ("zero", 'z', .none)]

/-- Whether a path is below another one. -/
def isBelow (base path : Bytes) : Bool :=
  path == base || path.startsWith (if base.endsWith "/" then base else base ++ "/")

/-- Shows the paths of files from the root, without links. -/
def run (args : List Bytes) : Tool Unit := do
  let (s, paths) ← Tool.options table args ({} : Style) fun s g => return match g.letter with
    | 'e' => { s with need := .all }
    | 'm' => { s with need := .nothing }
    | 'q' => { s with quiet := true }
    | 's' => { s with follows := false }
    | 'z' => { s with ending := "\x00" }
    | 't' => { s with origin := g.value }
    | 'b' => { s with base := g.value }
    | _ => s
  if paths.isEmpty then Tool.missingOperand 1
  let place (path : Option Bytes) : Tool (Option Bytes) := do
    match path with
    | none => return none
    | some path =>
      match ← Resolve.resolve s.need s.follows path with
      | .ok path => return some path
      | .error e => Tool.die 1 (Quoting.name path ++ ": " ++ e.text)
  let base ← place s.base
  let origin ← place (if s.origin.isSome then s.origin else s.base)
  paths.forM fun path => do
    match ← Resolve.resolve s.need s.follows path with
    | .error e => if s.quiet then Tool.setStatus 1 else Tool.warnOf path e
    | .ok path =>
      let shown := match origin with
        | none => path
        | some origin =>
          if base.all fun b => isBelow b path && isBelow b origin then Ln.wayTo "/" origin path
          else path
      Tool.put (shown ++ s.ending)

end Realpath

namespace Pwd

/-- The options of the tool. -/
def table : OptionTable where
  letters := OptionTable.ofLetters "LP" ""
  words := [("logical", 'L', .none), ("physical", 'P', .none)]

/-- Shows the current directory. -/
def run (args : List Bytes) : Tool Unit := do
  let (logical, rest) ← Tool.options table args false fun _ g => return g.letter == 'L'
  if !rest.isEmpty then Tool.say "ignoring non-option arguments"
  let here := (← Tool.act (Act.text .cwd)).toOption.getD "/"
  let named ← Tool.environmentValue "PWD"
  match logical, named with
  | true, some path =>
    let a := (← Tool.info path true).toOption
    let b := (← Tool.info "." true).toOption
    let isHere := match a, b with
      | some a, some b => a.number == b.number
      | _, _ => false
    Tool.putLine (if path.startsWith "/" && isHere then path else here)
  | _, _ => Tool.putLine here

end Pwd

end Tilde.Utility
