import Tilde.Utility.Basic

/-!
# Removing files

Tools that remove directories and names of files, and the question that a tool asks before it does
something that cannot be undone.
-/

namespace Tilde.Utility

open Unix (Bytes Act Errno)

namespace Tool

/-- Asks a question. The answer is in the first letter of the next line of the input. -/
def confirm (question : Bytes) : Tool Bool := do
  flush
  writeErr question
  match ← act (Act.text (.readLine 0 '\n')) with
  | .ok line => return line.startsWith "y" || line.startsWith "Y"
  | .error _ => return false

end Tool

namespace Rmdir

/-- How directories are removed. -/
structure Style where
  parents : Bool := false
  verbose : Bool := false
  lenient : Bool := false

/-- The options of the tool. -/
def table : OptionTable where
  letters := OptionTable.ofLetters "pv" ""
  words := [("ignore-fail-on-non-empty", 'i', .none), ("parents", 'p', .none),
    ("verbose", 'v', .none)]

/-- Removes a directory. The result says whether it is gone. -/
def remove (s : Style) (what path : Bytes) : Tool Bool := do
  if s.verbose then
    Tool.putLine ((← get).name ++ ": removing directory, " ++ Quoting.always path)
  match ← Tool.change (.removeDir path) with
  | .ok _ => return true
  | .error e =>
    if !(s.lenient && e == .notEmpty) then
      Tool.warn ("failed to remove " ++ what ++ Quoting.always path ++ ": " ++ e.text)
    return false

/-- Removes the directories above a path, from the last on. -/
def removeAbove (s : Style) : (bound : Nat) → Bytes → Tool Unit
  | 0, _ => return
  | bound + 1, path => do
    let above := ((path.dropEndWhile (· != '/')).dropEndWhile (· == '/')).toString
    if above.isEmpty then return
    if ← remove s "directory " above then removeAbove s bound above

/-- Removes empty directories. -/
def run (args : List Bytes) : Tool Unit := do
  let (s, paths) ← Tool.options table args ({} : Style) fun s g => return match g.letter with
    | 'p' => { s with parents := true }
    | 'v' => { s with verbose := true }
    | _ => { s with lenient := true }
  if paths.isEmpty then Tool.missingOperand 1
  paths.forM fun path => do
    if (← remove s "" path) && s.parents then
      removeAbove s path.length (withoutSlashes path)

end Rmdir

namespace Unlink

/-- Removes a name of a file. -/
def run (args : List Bytes) : Tool Unit := do
  let (_, paths) ← Tool.options { mixes := false } args () fun _ _ => return ()
  match paths with
  | [] => Tool.missingOperand 1
  | [path] =>
    match ← Tool.change (.unlink path) with
    | .ok _ => return
    | .error e => Tool.warn ("cannot unlink " ++ Quoting.always path ++ ": " ++ e.text)
  | _ :: extra :: _ => Tool.extraOperand 1 extra

end Unlink

namespace Rm

/-- When the tool asks before it removes something. -/
inductive Asking where
  | never
  | once
  | always
  deriving DecidableEq, Repr

/-- What is removed, and how. -/
structure Style where
  asking : Asking := .never
  force : Bool := false
  enters : Bool := false
  emptyDirs : Bool := false
  verbose : Bool := false
  sparesRoot : Bool := true

/-- The options of the tool. -/
def table : OptionTable where
  letters := OptionTable.ofLetters "dfiIrRv" ""
  words := [("dir", 'd', .none), ("force", 'f', .none), ("interactive", 'a', .optional),
    ("no-preserve-root", 'n', .none), ("one-file-system", 'o', .none),
    ("preserve-root", 'p', .optional), ("recursive", 'r', .none), ("verbose", 'v', .none)]

/-- Changes how the tool goes on by an option. -/
def Style.withOption (s : Style) (g : Given) : Tool Style :=
  match g.letter with
  | 'd' => return { s with emptyDirs := true }
  | 'f' => return { s with asking := .never, force := true }
  | 'i' => return { s with asking := .always, force := false }
  | 'I' => return { s with asking := .once, force := false }
  | 'a' => do
    let choices := [["never", "no", "none"], ["once"], ["always", "yes"]]
    match ← Tool.choose 1 "--interactive" (g.value.getD "always") choices with
    | "never" => return { s with asking := .never }
    | "once" => return { s with asking := .once, force := false }
    | _ => return { s with asking := .always, force := false }
  | 'n' => return { s with sparesRoot := false }
  | 'r' | 'R' => return { s with enters := true }
  | 'v' => return { s with verbose := true }
  | _ => return s

/-- Says that something cannot be removed. -/
def refuse (path : Bytes) (e : Errno) : Tool Unit :=
  Tool.warn ("cannot remove " ++ Quoting.always path ++ ": " ++ e.text)

/-- What a file is called in a question. -/
def kindName (i : Unix.FileInfo) : Bytes :=
  match i.kind with
  | .regular => if i.size == 0 then "regular empty file" else "regular file"
  | .directory => "directory"
  | .link => "symbolic link"
  | .characterDevice => "character special file"
  | .pipe => "fifo"

/-- Asks whether something may be done with a file. -/
def Style.allows (s : Style) (verb : Bytes) (kind path : Bytes) : Tool Bool := do
  if s.asking != .always then return true
  Tool.confirm ((← get).name ++ ": " ++ verb ++ " " ++ kind ++ " " ++ Quoting.always path ++ "? ")

/-- Removes what a path leads to. The result says whether it is gone. -/
def Style.remove (s : Style) : (bound : Nat) → Bytes → Tool Bool
  | 0, _ => return false
  | bound + 1, path => do
    let failed (e : Errno) : Tool Bool := do
      refuse path e
      return false
    match ← Tool.info path false with
    | .error e =>
      if s.force && (e == .notFound || e == .notDirectory) then return true else failed e
    | .ok i =>
      if i.kind != .directory then
        if path.endsWith "/" then return ← failed .notDirectory
        if !(← s.allows "remove" (kindName i) path) then return false
        match ← Tool.change (.unlink path) with
        | .error e => failed e
        | .ok _ =>
          if s.verbose then Tool.putLine ("removed " ++ Quoting.always path)
          return true
      else if !s.enters && !s.emptyDirs then failed .isDirectory
      else
        let names := (← Tool.entries path).toOption.getD []
        if !names.isEmpty && s.enters then
          if !(← s.allows "descend into" "directory" path) then return false
          let front := if path.endsWith "/" then path else path ++ "/"
          let emptied ← names.foldlM (fun all name => do
            let gone ← s.remove bound (front ++ name)
            return all && gone) true
          if !emptied then return false
        if !(← s.allows "remove" "directory" path) then return false
        match ← Tool.change (.removeDir path) with
        | .error e => failed e
        | .ok _ =>
          if s.verbose then Tool.putLine ("removed directory " ++ Quoting.always path)
          return true

/-- Removes what an argument stands for, unless that is asking for trouble. -/
def Style.removeArgument (s : Style) (path : Bytes) : Tool Unit := do
  let name := lastName path
  if s.enters && (name == "." || name == "..") then
    Tool.warn ("refusing to remove '.' or '..' directory: skipping " ++ Quoting.always path)
  else if s.enters && s.sparesRoot && name == "/" then
    Tool.say "it is dangerous to operate recursively on '/'"
    Tool.warn "use --no-preserve-root to override this failsafe"
  else
    let _ ← s.remove 1000 path

/-- Removes files. -/
def run (args : List Bytes) : Tool Unit := do
  let (s, paths) ← Tool.options table args ({} : Style) Style.withOption
  if paths.isEmpty then
    if s.force then Tool.stop 0 else Tool.missingOperand 1
  if s.asking == .once && (s.enters || 3 < paths.length) then
    let count := toString paths.length ++ (if paths.length == 1 then " argument" else " arguments")
    let how := if s.enters then " recursively? " else "? "
    if !(← Tool.confirm ((← get).name ++ ": remove " ++ count ++ how)) then Tool.stop 0
  paths.forM s.removeArgument

end Rm

end Tilde.Utility
