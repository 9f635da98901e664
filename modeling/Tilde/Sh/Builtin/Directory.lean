import Tilde.Sh.Process
import Tilde.Sh.Search

/-!
# Commands about the current directory

A shell remembers the path by which its directory was reached, so that `..` leads back along it.
-/

namespace Tilde.Sh

open Unix (Bytes Act)

namespace ShM

/-- Goes along the names of a path from the names of a directory. The names are in reverse. -/
def walkNames (here : List Bytes) : List Bytes → List Bytes
  | [] => here
  | "" :: rest | "." :: rest => walkNames here rest
  | ".." :: rest => walkNames here.tail rest
  | name :: rest => walkNames (name :: here) rest

/-- The path that a path leads to from the current directory, without dots in it. -/
def logicalPath (cwd path : Bytes) : Bytes :=
  let start (s : Bytes) : List Bytes := walkNames [] (s.splitOn "/")
  let twoSlashes (s : Bytes) : Bool := s.startsWith "//" && !s.startsWith "///"
  let isAbsolute := path.startsWith "/"
  let names := if isAbsolute then start path else walkNames (start cwd) (path.splitOn "/")
  let lead := if twoSlashes (if isAbsolute then path else cwd) then "//" else "/"
  lead ++ "/".intercalate names.reverse

/-- The path of the current directory without links. -/
def physicalPath : ShM Bytes := do
  match ← act (Act.text .cwd) with
  | .ok p => return p
  | .error _ => return ""

/-- Goes to a directory. The result says whether it did. -/
def changeDirectory (path : Bytes) (physical : Bool) : ShM Bool := do
  let s ← get
  let logical := if physical || s.cwd.isEmpty && !path.startsWith "/" then none
    else some (logicalPath s.cwd path)
  match ← act (Act.check (.chdir (logical.getD path))) with
  | .error _ => return false
  | .ok _ =>
    setVarWith (fun v => { v with exported := true }) "OLDPWD" (some s.cwd)
    let real ← physicalPath
    let cwd := logical.getD real
    modify fun s => { s with
      cwd, physicalCwd := real, hashed := s.hashed.filter (·.2.startsWith "/") }
    setVarWith (fun v => { v with exported := true }) "PWD" (some cwd)
    return true

/-- Goes to the first directory among paths that there is. The result is the path, if one of them
is a directory. -/
def firstDirectory : List Bytes → ShM (Option Bytes)
  | [] => return none
  | path :: rest => do
    match ← act (Act.info (.info path true)) with
    | .ok i => if i.kind == .directory then return some path else firstDirectory rest
    | .error _ => firstDirectory rest

/-- Whether a path is not looked for in other directories. -/
def isFixedPath (path : Bytes) : Bool :=
  path.startsWith "/" || path == "." || path == ".." || path.startsWith "./" ||
    path.startsWith "../"

/-- Whether the last of some options is `P`. -/
def isPhysical (opts : List (Char × Bytes)) : Bool := opts.getLast?.any (·.1 == 'P')

/-- The command `cd`. -/
def goTo (args : List Bytes) : ShM Nat := do
  let (opts, args) ← options "LP" args
  let physical := isPhysical opts
  let (dest, goesBack) ← match args.head? with
    | none => pure ((← lookup "HOME").getD "", false)
    | some "-" => pure ((← lookup "OLDPWD").getD "", true)
    | some d => pure (d, false)
  let failed : ShM Nat := do
    let reason ← match ← act (Act.info (.info dest true)) with
      | .error e => pure e.text
      | .ok i => pure (if i.kind == .directory then Unix.Errno.permissionDenied.text
          else Unix.Errno.notDirectory.text)
    failAs ("can't cd to " ++ dest) (dest ++ ": " ++ reason)
  let showCwd : ShM Unit := do out ((← get).cwd ++ "\n")
  if isFixedPath dest then
    if !(← changeDirectory dest physical) then return ← failed
    if goesBack then showCwd
    return 0
  let place := if dest.isEmpty then "." else dest
  let searched := (← lookup "CDPATH").getD ""
  match ← firstDirectory (candidates searched place) with
  | some path =>
    if !(← changeDirectory path physical) then return ← failed
    if goesBack || path != place then showCwd
    return 0
  | none =>
    if !(← changeDirectory dest physical) then return ← failed
    if goesBack then showCwd
    return 0

/-- The command `pwd`. -/
def tellDirectory (args : List Bytes) : ShM Nat := do
  let (opts, _) ← options "LP" args
  let s ← get
  out ((if isPhysical opts then s.physicalCwd else s.cwd) ++ "\n")
  return 0

/-- Finds out where the shell is when it starts. A path that is given holds if it leads there. -/
def startDirectory : ShM Unit := do
  let real ← physicalPath
  let here ← act (Act.info (.info "." true))
  let given ← lookup "PWD"
  let cwd ← match given with
    | none => pure real
    | some p =>
      if !p.startsWith "/" then pure real
      else match ← act (Act.info (.info p true)), here with
        | .ok i, .ok j => pure (if i.number == j.number then p else real)
        | _, _ => pure real
  modify fun s => { s with cwd, physicalCwd := real }
  setVarWith (fun v => { v with exported := true }) "PWD" (some cwd)

end ShM

end Tilde.Sh
