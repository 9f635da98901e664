import Tilde.Utility.Create
import Tilde.Utility.Input
import Tilde.Utility.Remove

/-!
# Copying, moving and linking files

Tools that give the content of files to other files, and that give files other names or more of
them. All of them take their arguments alike: the last one is the directory in which the others get
their names, or the new name of the only other one.
-/

namespace Tilde.Utility

open Unix (Bytes Act Errno FileInfo)

namespace Relocate

/-- What a tool does where the new name is taken. -/
inductive Taken where
  | replace
  | ask
  | skip
  /-- The old file is kept, and that is an error. -/
  | refuse
  /-- The new file must be younger. -/
  | update
  deriving DecidableEq, Repr

/-- How a tool goes on. -/
structure Style where
  taken : Taken := .replace
  verbose : Bool := false
  /-- What is in the way is removed first. -/
  force : Bool := false
  /-- The old file gets another name, with this at its end. -/
  backup : Bool := false
  suffix : Bytes := "~"
  target : Option Bytes := none
  /-- The last argument is never a directory to put something into. -/
  exact : Bool := false
  /-- Directories are copied with what is in them. -/
  enters : Bool := false
  /-- Permissions and times are copied. -/
  preserves : Bool := false
  /-- Whether symbolic links are followed: all, those that are arguments, or none. -/
  followsAll : Bool := false
  followsNone : Bool := false
  followsFirst : Bool := false
  /-- A link is made in place of a copy. -/
  links : Bool := false
  symbolic : Bool := false
  /-- The directories before a name are copied with it. -/
  parents : Bool := false
  /-- A symbolic link tells the way from where it is. -/
  relative : Bool := false
  /-- A symbolic link to a directory is a name to replace. -/
  nameOnly : Bool := false

/-- The style that an option about updates asks for. -/
def Style.withUpdate (s : Style) (g : Given) : Tool Style := do
  let choices := [["all"], ["none"], ["none-fail"], ["older"]]
  return { s with taken := match ← Tool.choose 1 "--update" (g.value.getD "older") choices with
    | "none" => .skip
    | "none-fail" => .refuse
    | "older" => .update
    | _ => .replace }

/-- Joins a directory and a name. -/
def join (dir name : Bytes) : Bytes :=
  if dir.endsWith "/" then dir ++ name else dir ++ "/" ++ name

/-- The path in a directory where a file gets its name. -/
def within (dir path : Bytes) : Bytes :=
  let name := lastName path
  if name == ".." || name == "/" then dir else join dir name

/-- What a tool is asked to do: pairs of old and new names, and whether the new ones are in a
directory. -/
structure Plan where
  pairs : List (Bytes × Bytes)
  inside : Bool

/-- Whether a path is that of a directory, or the error of looking. -/
def lookFor (s : Style) (path : Bytes) : Tool (Except Errno Unit) := do
  if s.nameOnly then
    match ← Tool.info path false with
    | .ok { kind := .link, .. } => return .error .notDirectory
    | _ => pure ()
  match ← Tool.info path true with
  | .ok i => return if i.kind == .directory then .ok () else .error .notDirectory
  | .error e => return .error e

/-- Reads what the arguments ask for. -/
def plan (s : Style) (args : List Bytes) : Tool Plan := do
  let given := args.length
  let place (dir path : Bytes) : Bytes :=
    if s.parents then join dir (withoutSlashes path) else within dir path
  let into (dir : Bytes) (paths : List Bytes) : Plan :=
    { pairs := paths.map fun p => (p, place dir p), inside := true }
  if given == 0 then Tool.misused 1 "missing file operand"
  if s.exact && s.target.isSome then
    Tool.die 1 "cannot combine --target-directory (-t) and --no-target-directory (-T)"
  match s.target with
  | some dir =>
    match ← lookFor { s with nameOnly := false } dir with
    | .error e => Tool.die 1 ("target directory " ++ Quoting.always dir ++ ": " ++ e.text)
    | .ok _ => return into dir args
  | none =>
    let last := args.getLastD ""
    match args with
    | [a] => Tool.misused 1 ("missing destination file operand after " ++ Quoting.always a)
    | _ =>
      if s.exact then
        match args with
        | [a, b] => return { pairs := [(a, b)], inside := false }
        | _ => Tool.misused 1 ("extra operand " ++ Quoting.always (args.getD 2 ""))
      else
        match ← lookFor s last with
        | .ok _ => return into last args.dropLast
        | .error e =>
          match args with
          | [a, b] => return { pairs := [(a, b)], inside := false }
          | _ => Tool.die 1 ("target " ++ Quoting.always last ++ ": " ++ e.text)

/-- Gives what has a name another one, if the style says so. -/
def keepOld (s : Style) (path : Bytes) : Tool Bytes := do
  if !s.backup then return ""
  let old := withoutSlashes path ++ s.suffix
  match ← Tool.change (.rename path old) with
  | .ok _ => return old
  | .error _ => return ""

/-- The line about a new name. -/
def shown (sign old new backup : Bytes) : Bytes :=
  let line := Quoting.always old ++ sign ++ Quoting.always new
  if backup.isEmpty then line else line ++ " (backup: " ++ Quoting.always backup ++ ")"

/-- Whether what has the new name may give way. -/
def mayReplace (s : Style) (source there : FileInfo) (new : Bytes) : Tool Bool := do
  match s.taken with
  | .replace => return true
  | .skip => return false
  | .refuse =>
    Tool.warn ("not replacing " ++ Quoting.always new)
    return false
  | .update => return there.modified < source.modified
  | .ask =>
    let answer ← Tool.confirm ((← get).name ++ ": overwrite " ++ Quoting.always new ++ "? ")
    if !answer then Tool.setStatus 1
    return answer

/-- Whether the new name must not be that of what is there: a directory and another file do not
replace each other. -/
def clash? (source there : FileInfo) (old new : Bytes) : Option Bytes :=
  let isDir := source.kind == .directory
  if there.kind == .directory && !isDir then
    some ("cannot overwrite directory " ++ Quoting.always new ++ " with non-directory")
  else if isDir && there.kind != .directory then
    some ("cannot overwrite non-directory " ++ Quoting.always new ++ " with directory " ++
      Quoting.always old)
  else none

/-- The options that the tools have in common. -/
def commonWords : List (String × Char × Arity) := [("backup", 'b', .optional),
  ("force", 'f', .none), ("interactive", 'i', .none), ("no-target-directory", 'T', .none),
  ("suffix", 'S', .required), ("target-directory", 't', .required), ("verbose", 'v', .none)]

/-- Changes the style by an option that the tools have in common. -/
def Style.withCommon (s : Style) (g : Given) : Style :=
  match g.letter with
  | 'b' => { s with backup := g.value != some "none" && g.value != some "off" }
  | 'f' => { s with force := true, taken := if s.taken == .ask then .replace else s.taken }
  | 'i' => { s with taken := .ask }
  | 'S' => { s with backup := true, suffix := g.value.getD "~" }
  | 't' => { s with target := g.value }
  | 'T' => { s with exact := true }
  | 'v' => { s with verbose := true }
  | _ => s

/-- Goes through pairs of names, and reports an old name that is there twice. -/
def visitPairs (step : Bytes → Bytes → Tool Unit) (inside : Bool) :
    (seen : List (Nat × Bytes)) → List (Bytes × Bytes) → Tool Unit
  | _, [] => return
  | seen, (old, new) :: rest => do
    match ← Tool.info old false with
    | .ok i =>
      if inside && seen.contains (i.number, new) then
        let kind := if i.kind == .directory then "directory" else "file"
        Tool.say ("warning: source " ++ kind ++ " " ++ Quoting.always old ++
          " specified more than once")
        visitPairs step inside seen rest
      else
        step old new
        visitPairs step inside ((i.number, new) :: seen) rest
    | .error _ =>
      step old new
      visitPairs step inside seen rest

end Relocate

open Relocate (Style)

namespace Cp

/-- The options of the tool. -/
def table : OptionTable where
  letters := OptionTable.ofLetters "abdfHilLnPpRrsTuvxZ" "St"
  words := Relocate.commonWords ++ [("archive", 'a', .none), ("attributes-only", 'A', .none),
    ("copy-contents", 'C', .none), ("dereference", 'L', .none), ("link", 'l', .none),
    ("no-clobber", 'n', .none), ("no-dereference", 'P', .none),
    ("no-preserve", 'N', .required), ("one-file-system", 'x', .none), ("parents", 'D', .none),
    ("preserve", 'p', .optional), ("recursive", 'R', .none), ("reflink", 'F', .optional),
    ("remove-destination", 'X', .none), ("sparse", 'O', .required),
    ("strip-trailing-slashes", 'E', .none), ("symbolic-link", 's', .none),
    ("update", 'u', .optional)]

/-- Changes how the tool goes on by an option. -/
def withOption (s : Style) (g : Given) : Tool Style := do
  match g.letter with
  | 'a' =>
    return { s with enters := true, preserves := true, followsNone := true, followsAll := false }
  | 'd' | 'P' => return { s with followsNone := true, followsAll := false, followsFirst := false }
  | 'D' => return { s with parents := true }
  | 'H' => return { s with followsFirst := true, followsAll := false, followsNone := false }
  | 'l' => return { s with links := true }
  | 'L' => return { s with followsAll := true, followsNone := false }
  | 'n' =>
    Tool.say ("warning: behavior of -n is non-portable and may change in future; " ++
      "use --update=none instead")
    return { s with taken := .skip }
  | 'p' => return { s with preserves := true }
  | 'R' | 'r' => return { s with enters := true }
  | 's' => return { s with symbolic := true }
  | 'u' => s.withUpdate g
  | 'X' => return { s with force := true }
  | _ => return s.withCommon g

/-- Says that something cannot be done to a file. -/
def cannot (what path : Bytes) (e : Errno) : Tool Unit :=
  Tool.warn ("cannot " ++ what ++ " " ++ Quoting.always path ++ ": " ++ e.text)

/-- Copies block after block. The result is the error of a write. -/
def pump (source target : Nat) : (bound : Nat) → Tool (Option Errno)
  | 0 => return none
  | bound + 1 => do
    match ← Tool.readBlock source with
    | .error .interrupted => pump source target bound
    | .error _ | .ok "" => return none
    | .ok block =>
      match ← Tool.act (Act.write target block) with
      | .error e => return some e
      | .ok _ => pump source target bound

/-- Copies the content of a file. -/
def copyContent (s : Style) (i : FileInfo) (isNew : Bool) (old new : Bytes) : Tool Unit := do
  match ← Tool.act (Act.number (.open_ old { reads := true } 0)) with
  | .error e => Tool.warn ("cannot open " ++ Quoting.always old ++ " for reading: " ++ e.text)
  | .ok source =>
    let how : Unix.OpenMode := { writes := true, creates := isNew, truncates := true }
    match ← Tool.act (Act.number (.open_ new how (i.mode &&& 0o777))) with
    | .error e =>
      let e := if e == .isDirectory then .notDirectory else e
      cannot "create regular file" new e
    | .ok target =>
      match ← pump source target Tool.rounds with
      | some e => Tool.warn ("error writing " ++ Quoting.always new ++ ": " ++ e.text)
      | none => pure ()
      Tool.closeFd target
      if s.preserves then
        let _ ← Tool.change (.chmod new i.mode)
        let _ ← Tool.change (.setTime new i.modified)
    Tool.closeFd source

/-- Makes a copy of a file that is no directory. -/
def place (s : Style) (i : FileInfo) (isNew : Bool) (old new : Bytes) : Tool Unit := do
  let report (what : Bytes) (result : Except Errno Unit) : Tool Unit :=
    match result with
    | .ok _ => return
    | .error e => cannot what new e
  if s.symbolic then
    match ← Tool.change (.symlink old new) with
    | .ok _ => return
    | .error e =>
      Tool.warn ("cannot create symbolic link " ++ Quoting.always new ++ " to " ++
        Quoting.always old ++ ": " ++ e.text)
  else if s.links then
    match ← Tool.change (.link old new) with
    | .ok _ => return
    | .error e =>
      Tool.warn ("cannot create hard link " ++ Quoting.always new ++ " to " ++
        Quoting.always old ++ ": " ++ e.text)
  else if i.kind == .link then
    match ← Tool.act (Act.text (.readLink old)) with
    | .error e => cannot "read symbolic link" old e
    | .ok target => report "create symbolic link" (← Tool.change (.symlink target new))
  else if i.kind == .pipe && s.enters then
    report "create fifo" (← Tool.change (.makePipe new (i.mode &&& 0o777)))
  else copyContent s i isNew old new

/-- What has been copied so far for an argument. -/
structure Progress where
  /-- The name that the argument is, and that of its copy. -/
  old : Bytes
  new : Bytes
  /-- The first directory that was made for it. -/
  made : Option Nat := none
  isFirst : Bool := true

/-- Copies a file or a directory. -/
def copy (s : Style) : (bound : Nat) → Progress → (old new : Bytes) → Tool Progress
  | 0, p, _, _ => return p
  | bound + 1, p, old, new => do
    let usual := !(s.enters && !s.symbolic && !s.links)
    let follows := s.followsAll || (p.isFirst && s.followsFirst) ||
      (!s.followsNone && !s.followsFirst && usual)
    let p := { p with isFirst := false }
    let i ← match ← Tool.info old follows with
      | .error e =>
        cannot "stat" old e
        return p
      | .ok i => pure i
    let isDir := i.kind == .directory
    if isDir && !s.enters then
      Tool.warn ("-r not specified; omitting directory " ++ Quoting.always old)
      return p
    let there ← match ← Tool.info new (i.kind != .link) with
      | .ok there => pure (some there)
      | .error .notFound => pure none
      | .error e =>
        cannot "stat" new e
        return p
    match there with
    | none => pure ()
    | some there =>
      if there.number == i.number && !isDir && !(s.links || s.symbolic) then
        Tool.warn (Quoting.always old ++ " and " ++ Quoting.always new ++ " are the same file")
        return p
      let allowed ← if isDir then pure true else Relocate.mayReplace s i there new
      if !allowed then return p
      if let some message := Relocate.clash? i there old new then
        Tool.warn message
        return p
    if !isDir then
      let backup ← if there.isSome then Relocate.keepOld s new else pure ""
      let mustGo := there.isSome && backup.isEmpty &&
        (i.kind == .link || ((s.links || s.symbolic) && s.force))
      if mustGo then
        let _ ← Tool.change (.unlink new)
      if s.verbose then Tool.putLine (Relocate.shown " -> " old new backup)
      place s i (there.isNone || mustGo || !backup.isEmpty) old new
      return p
    else if p.made == some i.number then
      Tool.warn ("cannot copy a directory, " ++ Quoting.always p.old ++ ", into itself, " ++
        Quoting.always p.new)
      return p
    else
      if there.isNone then
        if s.verbose then Tool.putLine (Relocate.shown " -> " old new "")
        match ← Tool.change (.makeDir new 0o777) with
        | .error e =>
          cannot "create directory" new e
          return p
        | .ok _ => pure ()
      let number := ((← Tool.info new true).toOption).map (·.number)
      let p := if there.isNone && p.made.isNone then { p with made := number } else p
      match ← Tool.entries old with
      | .error e =>
        cannot "access" old e
        return p
      | .ok names =>
        let p ← names.foldlM (fun p name =>
          copy s bound p (Relocate.join old name) (Relocate.join new name)) p
        if there.isNone then
          let mask ← Tool.mask
          let mode := if s.preserves then i.mode else Permissions.without i.mode mask
          let _ ← Tool.change (.chmod new mode)
        if s.preserves then
          let _ ← Tool.change (.setTime new i.modified)
        return p

/-- Makes the directories before a name that is copied with them. -/
def makeParents (s : Style) (dir path : Bytes) : Tool Unit :=
  (Mkdir.above path).forM fun front => do
    let new := Relocate.join dir front
    if !(← Mkdir.isDirectory new) then
      match ← Tool.change (.makeDir new 0o777) with
      | .ok _ => if s.verbose then Tool.putLine (front ++ " -> " ++ new)
      | .error e => cannot "make directory" new e

/-- Copies files. -/
def run (args : List Bytes) : Tool Unit := do
  let (s, paths) ← Tool.options table args ({} : Style) withOption
  let plan ← Relocate.plan s paths
  if s.parents && !plan.inside then
    Tool.misused 1 "with --parents, the destination must be a directory"
  let step (old new : Bytes) : Tool Unit := do
    if s.parents then makeParents s (new.dropEnd (old.length + 1)).toString old
    let _ ← copy s 200 { old, new } old new
  Relocate.visitPairs step plan.inside [] plan.pairs

end Cp

namespace Mv

/-- The options of the tool. -/
def table : OptionTable where
  letters := OptionTable.ofLetters "bfinTuvZ" "St"
  words := Relocate.commonWords ++ [("no-clobber", 'n', .none),
    ("strip-trailing-slashes", 'E', .none), ("update", 'u', .optional)]

/-- Changes how the tool goes on by an option. -/
def withOption (s : Style) (g : Given) : Tool Style := do
  match g.letter with
  | 'n' => return { s with taken := .refuse }
  | 'u' => s.withUpdate g
  | _ => return s.withCommon g

/-- Gives a file a new name. -/
def move (s : Style) (old new : Bytes) : Tool Unit := do
  let i ← match ← Tool.info old false with
    | .error e =>
      Tool.warn ("cannot stat " ++ Quoting.always old ++ ": " ++ e.text)
      return
    | .ok i => pure i
  let there ← match ← Tool.info new false with
    | .ok there => pure (some there)
    | .error .notFound => pure none
    | .error e =>
      Tool.warn ("cannot stat " ++ Quoting.always new ++ ": " ++ e.text)
      return
  match there with
  | none => pure ()
  | some there =>
    let isSame ← if there.number != i.number then pure false
      else pure (i.kind == .directory || i.names == 1 || withoutSlashes old == withoutSlashes new)
    if isSame && i.kind == .directory then
      Tool.warn ("cannot move " ++ Quoting.always old ++ " to a subdirectory of itself, " ++
        Quoting.always new)
      return
    if isSame then
      Tool.warn (Quoting.always old ++ " and " ++ Quoting.always new ++ " are the same file")
      return
    if !(← Relocate.mayReplace s i there new) then return
    if let some message := Relocate.clash? i there old new then
      Tool.warn message
      return
  let backup ← if there.isSome then Relocate.keepOld s new else pure ""
  match ← Tool.change (.rename (withoutSlashes old) new) with
  | .ok _ =>
    if s.verbose then Tool.putLine ("renamed " ++ Relocate.shown " -> " old new backup)
  | .error .invalid =>
    Tool.warn ("cannot move " ++ Quoting.always old ++ " to a subdirectory of itself, " ++
      Quoting.always new)
  | .error e =>
    if e == .notEmpty || e == .exists_ || e == .isDirectory then
      Tool.warn ("cannot overwrite " ++ Quoting.always new ++ ": " ++ e.text)
    else
      Tool.warn ("cannot move " ++ Quoting.always old ++ " to " ++ Quoting.always new ++ ": " ++
        e.text)

/-- Moves files. -/
def run (args : List Bytes) : Tool Unit := do
  let (s, paths) ← Tool.options table args ({} : Style) withOption
  let plan ← Relocate.plan s paths
  Relocate.visitPairs (move s) plan.inside [] plan.pairs

end Mv

namespace Ln

/-- The options of the tool. -/
def table : OptionTable where
  letters := OptionTable.ofLetters "bdfFinLPrsTv" "St"
  words := Relocate.commonWords ++ [("directory", 'd', .none), ("logical", 'L', .none),
    ("no-dereference", 'n', .none), ("physical", 'P', .none), ("relative", 'r', .none),
    ("symbolic", 's', .none)]

/-- Changes how the tool goes on by an option. -/
def withOption (s : Style) (g : Given) : Tool Style :=
  return match g.letter with
  | 'f' => { s with force := true, taken := .replace }
  | 'n' => { s with nameOnly := true }
  | 'r' => { s with relative := true }
  | 's' => { s with symbolic := true }
  | 'L' => { s with followsAll := true }
  | 'P' => { s with followsAll := false }
  | _ => s.withCommon g

/-- The names of a path from the root on, without those that lead nowhere new. -/
def namesFrom (here path : Bytes) : List Bytes :=
  let whole := if path.startsWith "/" then path else Relocate.join here path
  (whole.splitOn "/").foldl (fun names name =>
    if name == "" || name == "." then names
    else if name == ".." then names.dropLast
    else names ++ [name]) []

/-- The way from a directory to a path. -/
def wayTo (here dir path : Bytes) : Bytes :=
  let source := namesFrom here dir
  let target := namesFrom here path
  let common := ((source.zip target).takeWhile fun (a, b) => a == b).length
  let names := List.replicate (source.length - common) ".." ++ target.drop common
  if names.isEmpty then "." else "/".intercalate names

/-- Says that a link cannot be made. -/
def refuse (s : Style) (old new : Bytes) (e : Errno) : Tool Unit := do
  let kind := if s.symbolic then "symbolic" else "hard"
  let detail :=
    if s.symbolic then
      (if old.isEmpty || e == .nameTooLong then " -> " ++ Quoting.always old else "")
    else if e == .exists_ then "" else " => " ++ Quoting.always old
  Tool.warn ("failed to create " ++ kind ++ " link " ++ Quoting.always new ++ detail ++ ": " ++
    e.text)

/-- Makes a link. -/
def link (s : Style) (old new : Bytes) : Tool Unit := do
  let source ← if s.symbolic then pure none
    else match ← Tool.info old s.followsAll with
      | .ok i => pure (some i)
      | .error e =>
        Tool.warn ("failed to access " ++ Quoting.always old ++ ": " ++ e.text)
        return
  if source.any (·.kind == .directory) then
    Tool.warn (Quoting.name old ++ ": hard link not allowed for directory")
    return
  let there := (← Tool.info new false).toOption
  let replaces := s.force || s.taken == .ask || s.backup
  let mut backup := ""
  if let (some j, true) := (there, replaces) then
    if j.kind == .directory then
      Tool.warn (Quoting.name new ++ ": cannot overwrite directory")
      return
    let oldInfo ← if s.symbolic then pure (← Tool.info old true).toOption else pure source
    let isSame := oldInfo.any fun i =>
      i.number == j.number && (i.names == 1 || lastName old == lastName new)
    if isSame && !(s.backup && s.symbolic) then
      Tool.warn (Quoting.always old ++ " and " ++ Quoting.always new ++ " are the same file")
      return
    if s.taken == .ask then
      if !(← Tool.confirm ((← get).name ++ ": replace " ++ Quoting.always new ++ "? ")) then
        Tool.setStatus 1
        return
    backup ← Relocate.keepOld s new
    if backup.isEmpty then
      let _ ← Tool.change (.unlink new)
  let target ← if s.symbolic && s.relative then do
      let here := (← Tool.act (Act.text .cwd)).toOption.getD "/"
      pure (wayTo here (directoryName new) old)
    else pure old
  let result ← if s.symbolic then Tool.change (.symlink target new)
    else Tool.change (.link old new)
  match result with
  | .ok _ =>
    if s.verbose then
      let sign := if s.symbolic then " -> " else " => "
      let arrow := Quoting.always new ++ sign ++ Quoting.always target
      Tool.putLine (if backup.isEmpty then arrow else Quoting.always backup ++ " ~ " ++ arrow)
  | .error e => refuse s target new e

/-- Makes links. -/
def run (args : List Bytes) : Tool Unit := do
  let (s, paths) ← Tool.options table args ({} : Style) withOption
  let plan ← match paths, s.target, s.exact with
    | [path], none, false =>
      pure { pairs := [(path, Relocate.within "." path)], inside := true }
    | _, _, _ => Relocate.plan s paths
  plan.pairs.forM fun (old, new) => link s old new

end Ln

end Tilde.Utility
