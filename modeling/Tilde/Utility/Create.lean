import Tilde.Utility.Basic
import Tilde.Utility.DateText
import Tilde.Utility.Permissions

/-!
# Making files

Tools that make directories, pipes, empty files and files with names that nobody has used, and that
set the time of the last change.
-/

namespace Tilde.Utility

open Unix (Bytes Act Errno)

namespace Tool

/-- The mask of the permissions that new files do not get. -/
def mask : Tool Nat := return (← act (Act.number (.umask none))).toOption.getD 0

/-- Sets the mask. -/
def setMask (mask : Nat) : Tool Unit := do
  let _ ← ask (.umask (some mask))

/-- The permissions of a new file that an option asks for, from those that it has without it. -/
def permissionsFor (option : Option Bytes) (isDir : Bool) (usual : Nat) : Tool (Option Nat) := do
  match option with
  | none => return none
  | some text =>
    match Permissions.parse? text with
    | none => die 1 ("invalid mode " ++ Quoting.plain text)
    | some changes => return some (Permissions.apply changes isDir (← mask) usual)

end Tool

namespace Mkdir

/-- How directories are made. -/
structure Style where
  mode : Option Bytes := none
  parents : Bool := false
  verbose : Bool := false

/-- The options of the tool. -/
def table : OptionTable where
  letters := OptionTable.ofLetters "pv" "m" ++ [('Z', .none)]
  words := [("context", 'Z', .optional), ("mode", 'm', .required), ("parents", 'p', .none),
    ("verbose", 'v', .none)]

/-- Makes a directory. `isLast` says that it is not one on the way to another. -/
def make (verbose : Bool) (mode : Option Nat) (path : Bytes) : Tool (Except Errno Unit) := do
  let result ← Tool.change (.makeDir path (mode.getD 0o777))
  match result with
  | .ok _ =>
    if verbose then Tool.putLine (← said)
    match mode with
    | some mode =>
      let _ ← Tool.change (.chmod path mode)
    | none => pure ()
  | .error _ => pure ()
  return result
where
  /-- The message about a new directory. -/
  said : Tool Bytes := do
    return (← get).name ++ ": created directory " ++ Quoting.always path

/-- Says that a directory cannot be made. -/
def refuse (path : Bytes) (e : Errno) : Tool Unit :=
  Tool.warn ("cannot create directory " ++ Quoting.always path ++ ": " ++ e.text)

/-- Whether a path is that of a directory. -/
def isDirectory (path : Bytes) : Tool Bool := do
  match ← Tool.info path true with
  | .ok i => return i.kind == .directory
  | .error _ => return false

/-- The paths of the directories on the way to a path. -/
def above (path : Bytes) : List Bytes :=
  let names := path.splitOn "/"
  let fronts := (List.range names.length).map fun n => "/".intercalate (names.take n)
  let last := (withoutSlashes path).length
  fronts.filter fun p => !p.isEmpty && !p.endsWith "/" && p.length < last

/-- Makes the directories on the way to a path. The result says whether there is a way. -/
def makeAbove (verbose : Bool) : List Bytes → Tool Bool
  | [] => return true
  | path :: rest => do
    match ← make verbose none path with
    | .ok _ => makeAbove verbose rest
    | .error e =>
      if ← isDirectory path then makeAbove verbose rest
      else
        match ← Tool.info path true with
        | .ok _ => refuse path .notDirectory
        | .error _ => refuse path e
        return false

/-- Makes directories. -/
def run (args : List Bytes) : Tool Unit := do
  let (s, paths) ← Tool.options table args ({} : Style) fun s g => return match g.letter with
    | 'm' => { s with mode := g.value }
    | 'p' => { s with parents := true }
    | 'v' => { s with verbose := true }
    | _ => s
  if paths.isEmpty then Tool.missingOperand 1
  let mode ← Tool.permissionsFor s.mode true 0o777
  paths.forM fun path => do
    let goesOn ← if s.parents then makeAbove s.verbose (above path) else pure true
    if goesOn then
      match ← make s.verbose mode path with
      | .ok _ => pure ()
      | .error e =>
        if s.parents && e == .exists_ && (← isDirectory path) then pure () else refuse path e

end Mkdir

namespace Mkfifo

/-- The options of the tool. -/
def table : OptionTable where
  letters := OptionTable.ofLetters "Z" "m"
  words := [("context", 'Z', .optional), ("mode", 'm', .required)]

/-- Makes pipes with names. -/
def run (args : List Bytes) : Tool Unit := do
  let (mode, paths) ← Tool.options table args (none : Option Bytes) fun mode g =>
    return if g.letter == 'm' then g.value else mode
  if paths.isEmpty then Tool.missingOperand 1
  let mode ← Tool.permissionsFor mode false 0o666
  paths.forM fun path => do
    match ← Tool.change (.makePipe path (mode.getD 0o666)) with
    | .ok _ => pure ()
    | .error e => Tool.warn ("cannot create fifo " ++ Quoting.always path ++ ": " ++ e.text)

end Mkfifo

namespace Touch

/-- Which times are set. -/
structure Style where
  makes : Bool := true
  date : Option Bytes := none
  stamp : Option Bytes := none
  reference : Option Bytes := none
  follows : Bool := true
  /-- Only the time of the last use is set. -/
  useOnly : Bool := false

/-- The options of the tool. -/
def table : OptionTable where
  letters := OptionTable.ofLetters "acfhm" "drt"
  words := [("date", 'd', .required), ("no-create", 'c', .none), ("no-dereference", 'h', .none),
    ("reference", 'r', .required), ("time", 'T', .required)]

/-- Changes how the tool goes on by an option. -/
def Style.withOption (s : Style) (g : Given) : Tool Style :=
  return match g.letter with
  | 'c' => { s with makes := false }
  | 'd' => { s with date := g.value }
  | 'h' => { s with makes := false, follows := false }
  | 'r' => { s with reference := g.value }
  | 't' => { s with stamp := g.value }
  | 'a' => { s with useOnly := true }
  | 'T' => { s with useOnly := ["access", "atime", "use"].contains (g.value.getD "") }
  | 'm' => { s with useOnly := false }
  | _ => s

/-- The microseconds of a time that is written with two digits each for the month, the day, the hour
and the minute, perhaps after a year and before a point and a second. -/
def stampOf? (now : Nat) (text : Bytes) : Option Nat := do
  let cs := text.toList
  let digits := cs.takeWhile Char.isDigit
  let second ← match cs.drop digits.length with
    | [] => some 0
    | ['.', a, b] => if a.isDigit && b.isDigit then some (digitsValue [a, b]) else none
    | _ => none
  let pair (n : Nat) : Nat := digitsValue ((digits.drop n).take 2)
  let (year, front) ← match digits.length with
    | 8 => some ((Calendar.Moment.ofMicros now).year, 0)
    | 10 => some ((if pair 0 < 69 then 2000 else 1900) + (pair 0 : Int), 2)
    | 12 => some ((pair 0 * 100 + pair 2 : Int), 4)
    | _ => none
  let month : Int := pair front
  let day : Int := pair (front + 2)
  let number := Calendar.dayNumber year month day
  if Calendar.dateOf number != (year, month, day) then none
  if 24 ≤ pair (front + 4) || 60 ≤ pair (front + 6) || 61 ≤ second then none
  let seconds := number * 86400 + (pair (front + 4) * 3600 + pair (front + 6) * 60 + second : Nat)
  return (seconds * 1000000).toNat

/-- The time that the options ask for. -/
def Style.time (s : Style) : Tool Nat := do
  let now ← Tool.now
  let base ← match s.reference with
    | none => pure now
    | some path =>
      match ← Tool.info path s.follows with
      | .ok i => pure i.modified
      | .error e =>
        Tool.die 1 ("failed to get attributes of " ++ Quoting.always path ++ ": " ++ e.text)
  match s.date, s.stamp with
  | some text, _ =>
    match DateText.resolve? (base * 1000) text with
    | some nanos => return (nanos / 1000).toNat
    | none => Tool.die 1 ("invalid date format " ++ Quoting.plain text)
  | none, some text =>
    match stampOf? now text with
    | some micros => return micros
    | none => Tool.die 1 ("invalid date format " ++ Quoting.plain text)
  | none, none => return base

/-- Sets the time of a file, which is made if there is none. -/
def touch (s : Style) (time : Nat) (path : Bytes) : Tool Unit := do
  if path == "-" then return
  let how : Unix.OpenMode := { writes := true, creates := true }
  let opened ← if s.makes then Tool.act (Act.number (.open_ path how 0o666))
    else pure (.error .isDirectory)
  match opened with
  | .ok fd => Tool.closeFd fd
  | .error _ => pure ()
  let result ← if s.useOnly then pure ((← Tool.info path s.follows).map fun _ => ())
    else Tool.change (.setTime path time)
  match result, opened with
  | .ok _, _ => return
  | .error e, .error first =>
    if first != .isDirectory then
      Tool.warn ("cannot touch " ++ Quoting.always path ++ ": " ++ first.text)
    else if !s.makes && e == .notFound then return
    else Tool.warn ("setting times of " ++ Quoting.always path ++ ": " ++ e.text)
  | .error e, .ok _ => Tool.warn ("setting times of " ++ Quoting.always path ++ ": " ++ e.text)

/-- Sets the times of files. -/
def run (args : List Bytes) : Tool Unit := do
  let (s, paths) ← Tool.options table args ({} : Style) Style.withOption
  if s.stamp.isSome && (s.date.isSome || s.reference.isSome) then
    Tool.misused 1 "cannot specify times from more than one source"
  let time ← s.time
  if paths.isEmpty then Tool.misused 1 "missing file operand"
  paths.forM (touch s time)

end Touch

namespace Mktemp

/-- What is made where. -/
structure Style where
  directory : Bool := false
  dryRun : Bool := false
  quiet : Bool := false
  suffix : Option Bytes := none
  /-- The template stands for a name in a directory: the one given, or the one for such files. -/
  inside : Option Bytes := none
  usual : Bool := false

/-- The options of the tool. -/
def table : OptionTable where
  letters := OptionTable.ofLetters "dqtuV" "p"
  words := [("directory", 'd', .none), ("dry-run", 'u', .none), ("quiet", 'q', .none),
    ("suffix", 's', .required), ("tmpdir", 'p', .optional)]

/-- Changes what is made by an option. -/
def Style.withOption (s : Style) (g : Given) : Tool Style :=
  return match g.letter with
  | 'd' => { s with directory := true }
  | 'u' => { s with dryRun := true }
  | 'q' => { s with quiet := true }
  | 's' => { s with suffix := g.value }
  | 't' => { s with usual := true }
  | _ => { s with usual := true, inside := g.value }

/-- The letters of new names. -/
def letters : List Char :=
  "abcdefghijklmnopqrstuvwxyzABCDEFGHIJKLMNOPQRSTUVWXYZ0123456789".toList

/-- Letters that a number stands for. -/
def lettersOf : (count : Nat) → (n : Nat) → List Char
  | 0, _ => []
  | count + 1, n => letters.getD (n % letters.length) 'x' :: lettersOf count (n / letters.length)

/-- A number that differs from call to call and looks like no other. -/
def scattered (n : Nat) : Nat :=
  let modulus := Nat.pow 2 89 - 1
  n * 6364136223846793005 * 1442695040888963407 * (n + 77) % modulus

/-- Makes something with a name that is not taken. -/
def attempt (s : Style) (front : Bytes) (count : Nat) (back : Bytes) : (bound : Nat) →
    Tool (Except Errno Bytes)
  | 0 => return .error .exists_
  | bound + 1 => do
    let number := scattered ((← Tool.now) + 7919 * bound)
    let path := front ++ String.ofList (lettersOf count number) ++ back
    let result ← if s.dryRun then
        pure (match ← Tool.info path false with
          | .ok _ => Except.error Errno.exists_
          | .error .notFound => .ok ()
          | .error e => .error e)
      else if s.directory then Tool.change (.makeDir path 0o700)
      else do
        let how : Unix.OpenMode := { writes := true, creates := true, exclusive := true }
        match ← Tool.act (Act.number (.open_ path how 0o600)) with
        | .ok fd =>
          Tool.closeFd fd
          pure (.ok ())
        | .error e => pure (.error e)
    match result with
    | .ok _ => return .ok path
    | .error .exists_ => attempt s front count back bound
    | .error e => return .error e

/-- Makes a file or a directory with a new name, and shows the name. -/
def run (args : List Bytes) : Tool Unit := do
  let (s, operands) ← Tool.options table args ({} : Style) Style.withOption
  match operands with
  | _ :: _ :: _ => Tool.misused 1 "too many templates"
  | _ => pure ()
  let s := if operands.isEmpty then { s with usual := true } else s
  let template := operands.headD "tmp.XXXXXXXXXX"
  let base := match s.suffix with
    | some _ => template
    | none => (template.dropEndWhile (· != 'X')).toString
  if s.suffix.isSome && !template.endsWith "X" then
    Tool.die 1 ("with --suffix, template " ++ Quoting.plain template ++ " must end in X")
  let back := (template.drop base.length).toString ++ s.suffix.getD ""
  let count := (base.toList.reverse.takeWhile (· == 'X')).length
  if count < 3 then Tool.die 1 ("too few X's in template " ++ Quoting.plain template)
  if back.toList.contains '/' then
    Tool.die 1 ("invalid suffix " ++ Quoting.plain back ++ ", contains directory separator")
  let directory ← match s.inside with
    | some d => pure d
    | none => pure ((← Tool.environmentValue "TMPDIR").getD "/tmp")
  let directory := if directory.isEmpty then "/tmp" else directory
  if s.usual && template.startsWith "/" then
    Tool.die 1 ("invalid template, " ++ Quoting.plain template ++
      "; with --tmpdir, it may not be absolute")
  let front := (base.dropEnd count).toString
  let front := if !s.usual then front
    else if directory.endsWith "/" then directory ++ front else directory ++ "/" ++ front
  match ← attempt s front count back 100 with
  | .ok path => Tool.putLine path
  | .error e =>
    if s.quiet then Tool.setStatus 1
    else
      let shown := front ++ "".pushn 'X' count ++ back
      let what := if s.directory then "directory" else "file"
      Tool.warn ("failed to create " ++ what ++ " via template " ++ Quoting.plain shown ++ ": " ++
        e.text)

end Mktemp

end Tilde.Utility
