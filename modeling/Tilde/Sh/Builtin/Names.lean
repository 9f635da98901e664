import Tilde.Sh.Lexer
import Tilde.Sh.Process
import Tilde.Sh.Search

/-!
# Commands about names of commands

What a name stands for, and names that stand for other texts.
-/

namespace Tilde.Sh

open Unix (Bytes)

namespace ShM

/-! ### Aliases -/

/-- Writes an alias in the form in which it can be set. -/
def showAlias (name value : Bytes) : ShM Unit := out (name ++ "=" ++ quoted value ++ "\n")

/-- Sets an alias, or shows it. The result says whether there is one. -/
def setAlias (text : Bytes) : ShM Bool := do
  let name := ((text.drop 1).takeWhile (· != '=')).toString
  let name := (text.take 1).toString ++ name
  if name.length < text.length && !text.isEmpty then
    let value := (text.drop (name.length + 1)).toString
    let old := (← get).aliases
    let replaced := old.map fun a => if a.1 == name then (name, value) else a
    let aliases := if (old.lookup name).isSome then replaced else old ++ [(name, value)]
    modify fun s => { s with aliases }
    return true
  else match (← get).aliases.lookup text with
    | some value =>
      showAlias text value
      return true
    | none =>
      writeErr ("alias: " ++ text ++ " not found\n")
      return false

/-- The command `alias`. -/
def aliasNames (args : List Bytes) : ShM Nat := do
  if args.isEmpty then
    let aliases := (← get).aliases
    (List.range 39).forM fun place =>
      (aliases.filter fun a => tablePlace 39 a.1 == place).forM fun (name, value) =>
        showAlias name value
    return 0
  else
    let found ← args.mapM setAlias
    return if found.all id then 0 else 1

/-- The command `unalias`. -/
def unaliasNames (args : List Bytes) : ShM Nat := do
  let (opts, names) ← options "a" args
  if !opts.isEmpty then
    modify fun s => { s with aliases := [] }
    return 0
  let found ← names.mapM fun name => do
    if ((← get).aliases.lookup name).isSome then
      modify fun s => { s with aliases := s.aliases.filter (·.1 != name) }
      return true
    else
      writeErr ("unalias: " ++ name ++ " not found\n")
      return false
  return if found.all id then 0 else 1

/-! ### Descriptions -/

/-- Says what a name stands for. -/
def describe (name : Bytes) (path : Option Bytes) (verbose : Bool) : ShM Nat := do
  let say (short long : Bytes) : ShM Nat := do
    out ((if verbose then name ++ long else short) ++ "\n")
    return 0
  if keywords.contains name then return ← say name " is a shell keyword"
  match (← get).aliases.lookup name with
  | some value =>
    if verbose then return ← say name (" is an alias for " ++ value)
    out "alias "
    showAlias name value
    return 0
  | none =>
    let s ← get
    let hashed := if s.extended then none else s.hashed.lookup name
    match path, s.functions[name]?, hashed with
    | none, some _, _ => say name " is a shell function"
    | none, none, some found =>
      if (builtinKinds.lookup name).isNone && !name.toList.contains '/' then
        say found (" is a tracked alias for " ++ found)
      else plainly say
    | _, _, _ => plainly say
where
  /-- Says what a name stands for that was not found before. -/
  plainly (say : Bytes → Bytes → ShM Nat) : ShM Nat := do
    let missing : ShM Nat := do
      let extended := (← get).extended
      if extended then
        if verbose then warn (name ++ ": not found")
        return 1
      if verbose then out (name ++ ": not found\n")
      return 127
    if name.toList.contains '/' then
      match ← act (Unix.Act.info (.info name true)) with
      | .ok _ => say name (" is " ++ name)
      | .error _ => missing
    else
      let extended := (← get).extended
      let more := if extended then extendedBuiltins.lookup name else none
      match (builtinKinds.lookup name).or more with
      | some kind =>
        let special := kind.special && !extended
        say name (if special then " is a special shell builtin" else " is a shell builtin")
      | none =>
        match ← findProgram name path with
        | .program p => say p (" is " ++ p)
        | _ => missing

/-- The command `type`. -/
def describeAll (args : List Bytes) : ShM Nat := do
  if (← get).extended then
    let (opts, names) ← options "atpP" args
    let statuses ← names.mapM fun name => do
      if !(opts.any (·.1 == 't')) then describe name none true
      else
        let word ← if keywords.contains name || extendedKeywords.contains name then pure "keyword"
          else match ← findCommand name true none with
            | .builtin _ => pure "builtin"
            | .function _ => pure "function"
            | .program _ => pure "file"
            | .missing _ => pure ""
        if word.isEmpty then return 1
        out (word ++ "\n")
        return 0
    return if statuses.all (· == 0) then 0 else 1
  let statuses ← (← plainArguments args).mapM fun name => describe name none true
  return if statuses.all (· == 0) then 0 else 127

/-- The command `command`, where it only says what a name stands for. -/
def describeOnly (args : List Bytes) : ShM Nat := do
  let (opts, names) ← options "pvV" args
  let path := if opts.any (·.1 == 'p') then some usualPath else none
  let extended := (← get).extended
  match names.head?, opts.any (·.1 == 'V'), opts.any (·.1 == 'v') with
  | some name, true, _ => if extended then eachOf true path names else describe name path true
  | some name, false, true => if extended then eachOf false path names else describe name path false
  | _, _, _ => return 0
where
  /-- Says what each name stands for. -/
  eachOf (verbose : Bool) (path : Option Bytes) (names : List Bytes) : ShM Nat := do
    let statuses ← names.mapM fun name => describe name path verbose
    return if statuses.any (· == 0) then 0 else 1

/-- The command `hash`. -/
def hashNames (args : List Bytes) : ShM Nat := do
  let (opts, names) ← options "r" args
  if !opts.isEmpty then
    modify fun s => { s with hashed := [] }
    return 0
  if names.isEmpty then
    let hashed := (← get).hashed
    (List.range 31).forM fun place =>
      (hashed.filter fun h => tablePlace 31 h.1 == place).forM fun (_, path) => out (path ++ "\n")
    return 0
  let statuses ← names.mapM fun name => do
    modify fun s => { s with hashed := s.hashed.filter (·.1 != name) }
    match ← findCommand name true none with
    | .missing e =>
      warn (name ++ ": " ++ programFault e)
      return 1
    | _ => return 0
  return if statuses.all (· == 0) then 0 else 1

end ShM

end Tilde.Sh
