import Tilde.Sh.Process

/-!
# Finding commands

What a name of a command stands for: a function, a command of the shell itself, or a program in one
of the directories that are searched.
-/

namespace Tilde.Sh

open Unix (Bytes Act Errno)

/-- How a command of the shell itself is treated. -/
structure BuiltinKind where
  /-- An error in it ends the shell, and assignments before it stay. -/
  special : Bool := false
  /-- Its arguments may be assignments. -/
  assigns : Bool := false

/-- The commands of the shell itself. -/
def builtinKinds : List (Bytes × BuiltinKind) :=
  let special : BuiltinKind := { special := true }
  let assigning : BuiltinKind := { special := true, assigns := true }
  [(".", special), (":", special), ("[", {}), ("alias", { assigns := true }), ("bg", {}),
    ("break", special), ("cd", {}), ("chdir", {}), ("command", {}), ("continue", special),
    ("echo", {}), ("eval", special), ("exec", special), ("exit", special),
    ("export", assigning), ("false", {}), ("fg", {}), ("getopts", {}), ("hash", {}),
    ("jobs", {}), ("kill", {}), ("local", assigning), ("printf", {}), ("pwd", {}),
    ("read", {}), ("readonly", assigning), ("return", special), ("set", special),
    ("shift", special), ("test", {}), ("times", special), ("trap", special), ("true", {}),
    ("type", {}), ("ulimit", {}), ("umask", {}), ("unalias", {}), ("unset", special),
    ("wait", {})]

/-- What a name stands for. -/
inductive Found where
  | builtin (kind : BuiltinKind)
  | function (f : Function)
  | program (path : Bytes)
  | missing (e : Errno)

namespace ShM

/-- The paths of a name in the directories that are searched. -/
def candidates (path name : Bytes) : List Bytes :=
  (path.splitOn ":").map fun dir => if dir.isEmpty then name else dir ++ "/" ++ name

/-- The first path at which there is a program. If there is none, the error is the last one that is
not about a missing file. -/
def firstProgram (e : Errno) : List Bytes → ShM (Except Errno Bytes)
  | [] => return .error e
  | path :: rest => do
    match ← act (Act.info (.info path true)) with
    | .error .notFound | .error .notDirectory => firstProgram e rest
    | .error e => firstProgram e rest
    | .ok i =>
      if i.kind == .regular && i.mode &&& 0o111 != 0 then return .ok path
      else firstProgram .permissionDenied rest

/-- Finds a program. One found in the usual directories is remembered. -/
def findProgram (name : Bytes) (path : Option Bytes) : ShM Found := do
  if name.toList.contains '/' then return .program name
  let hashed := (← get).hashed
  let known := if path.isNone then hashed.lookup name else none
  match known with
  | some found => return .program found
  | none =>
    let dirs ← match path with
      | some p => pure p
      | none => searchPath
    match ← firstProgram .notFound (candidates dirs name) with
    | .ok found =>
      if path.isNone then modify fun s => { s with hashed := s.hashed ++ [(name, found)] }
      return .program found
    | .error e => return .missing e

/-- The commands that only the extended shell has. -/
def extendedBuiltins : List (Bytes × BuiltinKind) :=
  let assigning : BuiltinKind := { special := true, assigns := true }
  let special : BuiltinKind := { special := true }
  [("declare", assigning), ("let", special), ("mapfile", special), ("readarray", special),
    ("shopt", special), ("source", special), ("typeset", assigning)]

/-- What a name stands for, without looking for a program. -/
def findInner? (name : Bytes) (functions : Bool) : ShM (Option Found) := do
  let s ← get
  let defined := s.functions[name]?
  let function := if functions then defined else none
  match function with
  | some f => return some (.function f)
  | none =>
    let usual := builtinKinds.lookup name
    if !s.extended then return usual.map .builtin
    else if name == "chdir" then return none
    else return (usual.or (extendedBuiltins.lookup name)).map .builtin

/-- What a name stands for. -/
def findCommand (name : Bytes) (functions : Bool) (path : Option Bytes) : ShM Found := do
  if name.toList.contains '/' then return .program name
  match ← findInner? name functions with
  | some f => return f
  | none => findProgram name path

/-- Lets a program take over. A file that is no program is read by a shell. -/
def tryExec (path : Bytes) (args env : List Bytes) : ShM Errno := do
  match ← ask (.exec path args env) with
  | .failed .notExecutable =>
    let shell : Bytes := "/bin/sh"
    match ← ask (.exec shell (shell :: path :: args.drop 1) env) with
    | .failed e => return e
    | _ => return .invalid
  | .failed e => return e
  | _ => return .invalid

/-- Tries programs in turn. The result is the last error that is not about a missing file. -/
def tryAll (args env : List Bytes) (e : Errno) : List Bytes → ShM Errno
  | [] => return e
  | path :: rest => do
    let new ← tryExec path args env
    tryAll args env (if new == .notFound || new == .notDirectory then e else new) rest

/-- Lets a program take over, or ends the shell. -/
def execProgram (args : List Bytes) (paths : List Bytes) : ShM Unit := do
  let name := args.headD ""
  let env ← environment
  let env := if (← get).extended then env ++ ["_=" ++ (if name.toList.contains '/' then name
    else paths.headD name)] else env
  let e ← if name.toList.contains '/' then tryExec name args env
    else tryAll args env .notFound paths
  let isMissing := [Errno.notFound, .notDirectory, .tooManyLinks, .nameTooLong].contains e
  setStatus (if isMissing then 127 else 126)
  let fault ← if (← get).extended then do
      match ← act (Act.info (.info name true)) with
      | .ok i => pure (if i.kind == .directory then Errno.isDirectory.text else e.text)
      | .error _ => pure (if name.toList.contains '/' then e.text else "not found")
    else pure (programFault e)
  warn (name ++ ": " ++ fault)
  flush
  throw .over

end ShM

end Tilde.Sh
