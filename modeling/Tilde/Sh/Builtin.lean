import Tilde.Sh.Builtin.Directory
import Tilde.Sh.Builtin.Jobs
import Tilde.Sh.Builtin.Names
import Tilde.Sh.Builtin.Variables
import Tilde.Sh.Printf
import Tilde.Sh.Test

/-!
# Commands of the shell itself

The commands that need no other program, with those that change the course of the shell.
-/

namespace Tilde.Sh

open Unix (Bytes Act)

namespace ShM

/-- The command `exit`. -/
def exit (args : List Bytes) : ShM Nat := do
  match args with
  | s :: _ =>
    let isNumber := !s.isEmpty && s.toList.all isDigit
    let extended := (← get).extended
    let n ← if extended && !isNumber then do
        let r := readNumber 10 s.toList
        if r.found && r.rest.isEmpty then pure (r.value.emod 256).toNat
        else
          warn (s ++ ": numeric argument required")
          pure 2
      else toCount s
    modify fun s => { s with endStatus := some n }
  | [] => pure ()
  throw .exit

/-- The command `return`. -/
def goBack (args : List Bytes) : ShM Nat := do
  let s ← get
  let outside := s.extended && s.locals.isEmpty && s.sourced == 0
  let refuse : ShM Nat := do
    warn "can only \x60return' from a function or sourced script"
    return 2
  match args with
  | s :: _ =>
    let n ← toCount s
    if outside then return ← refuse
    modify fun s => { s with skip := .goBack }
    return n
  | [] =>
    if outside then return ← refuse
    modify fun s => { s with skip := .goBackLate }
    return (← get).status

/-- The commands `break` and `continue`. -/
def leaveLoop (skip : Skip) (args : List Bytes) : ShM Nat := do
  if (← get).extended && (← get).loops == 0 then
    warn "only meaningful in a \x60for', \x60while', or \x60until' loop"
    return 0
  let n ← match args with
    | [] => pure 1
    | s :: _ =>
      let n ← toCount s
      if n == 0 then notNumber s
      pure n
  let n := min n (← get).loops
  if n != 0 then modify fun s => { s with skip, skipCount := n }
  return 0

/-- The command `eval`. -/
def evalArguments (h : Hooks) (flags : Flags) (args : List Bytes) : ShM Nat :=
  if args.isEmpty then return 0
  else h.evalText (" ".intercalate args) { tested := flags.tested }

/-- The first path at which there is a file. -/
def firstFile : List Bytes → ShM (Option Bytes)
  | [] => return none
  | path :: rest => do
    match ← act (Act.info (.info path true)) with
    | .ok i => if i.kind == .regular then return some path else firstFile rest
    | .error _ => firstFile rest

/-- The command `.`. -/
def dot (h : Hooks) (args : List Bytes) : ShM Nat := do
  match ← plainArguments args with
  | [] => return 0
  | name :: _ =>
    let path ← if name.toList.contains '/' then pure name
      else match ← firstFile (candidates (← searchPath) name) with
        | some p => pure p
        | none => if (← get).extended then pure name else fail (name ++ ": not found")
    if (← get).extended then modify fun s => { s with running := none }
    modify fun s => { s with sourced := s.sourced + 1 }
    let status ← h.evalFile path
    modify fun s => { s with sourced := s.sourced - 1 }
    return status

/-- The command `exec`. -/
def execArguments (args : List Bytes) : ShM Nat := do
  match ← plainArguments args with
  | [] => return 0
  | program =>
    let paths := candidates (← searchPath) (program.headD "")
    execProgram program paths
    return 0

/-- The command `[`, whose last argument closes it. -/
def bracket (args : List Bytes) : ShM Nat := do
  if args.getLast? != some "]" then
    if (← get).extended then failWith 2 "missing \x60]'"
    fail "missing ]"
  return if ← Test.judge args.dropLast then 0 else 1

/-- The command `times`. -/
def times : ShM Nat := do
  let line := "0m0.000000s 0m0.000000s\n"
  out (line ++ line)
  return 0

/-! ### Masks and limits -/

/-- A number in octal with at least so many digits. -/
def octalText (size n : Nat) : Bytes :=
  let s := String.ofList (Nat.toDigits 8 n)
  "".pushn '0' (size - s.length) ++ s

/-- What a mask leaves to the owner, the group and the others. -/
def symbolicMask (mask : Nat) : Bytes :=
  let part (who : Bytes) (shift : Nat) : Bytes :=
    let bits := (mask >>> shift) % 8
    let letter (bit : Nat) (s : Bytes) : Bytes := if bits &&& bit == 0 then s else ""
    who ++ "=" ++ letter 4 "r" ++ letter 2 "w" ++ letter 1 "x"
  ",".intercalate [part "u" 6, part "g" 3, part "o" 0]

/-- What a part of a mask between commas does to what a mask leaves. -/
def symbolicStep (allowed : Nat) (cs : List Char) : Option Nat :=
  let isWho (c : Char) : Bool := ['u', 'g', 'o', 'a'].contains c
  let whoBits (c : Char) : Nat :=
    match c with
    | 'u' => 0o700
    | 'g' => 0o070
    | 'o' => 0o007
    | _ => 0o777
  let who := cs.takeWhile isWho
  let mine := if who.isEmpty then 0o777 else who.foldl (fun n c => n ||| whoBits c) 0
  let rec ops : (bound : Nat) → Nat → List Char → Option Nat
    | 0, n, _ => some n
    | _ + 1, n, [] => some n
    | bound + 1, n, op :: cs =>
      if !(['+', '-', '='].contains op) then none
      else
        let letters := cs.takeWhile fun c => ['r', 'w', 'x', 'X', 's', 't'].contains c
        let bit (c : Char) : Nat :=
          match c with
          | 'r' => 0o444
          | 'w' => 0o222
          | 'x' => 0o111
          | _ => 0
        let bits := (letters.foldl (fun n c => n ||| bit c) 0) &&& mine
        let n := match op with
          | '+' => n ||| bits
          | '-' => n &&& (0o777 ^^^ bits)
          | _ => (n &&& (0o777 ^^^ mine)) ||| bits
        ops bound n (cs.drop letters.length)
  let after := cs.drop who.length
  if after.isEmpty then none else ops (after.length + 1) allowed after

/-- The command `umask`. -/
def umask (args : List Bytes) : ShM Nat := do
  let (opts, args) ← options "S" args
  let current ← act (Act.number (.umask none))
  let mask := current.toOption.getD 0
  match args with
  | [] =>
    out ((if opts.isEmpty then octalText 4 mask else symbolicMask mask) ++ "\n")
    return 0
  | s :: _ =>
    let new ← if isDigit (s.toList.headD 'x') then do
        if !s.toList.all isOctal then notNumber s
        pure (s.foldl (fun n c => 8 * n + (c.toNat - 48)) 0)
      else
        let allowed := 0o777 ^^^ (mask &&& 0o777)
        match (s.splitOn ",").foldlM (fun n part => symbolicStep n part.toList) allowed with
        | some n => pure (0o777 ^^^ n)
        | none => fail ("Illegal mode: " ++ s)
    let _ ← ask (.umask (some (new &&& 0o777)))
    return 0

/-- The limits of the system with their letters. -/
def limits : List (Char × Bytes × Bytes) :=
  [('t', "time(seconds)", "unlimited"), ('f', "file(blocks)", "unlimited"),
    ('d', "data(kbytes)", "unlimited"), ('s', "stack(kbytes)", "8192"),
    ('c', "coredump(blocks)", "0"), ('m', "memory(kbytes)", "unlimited"),
    ('l', "locked memory(kbytes)", "8192"), ('p', "process", "unlimited"),
    ('n', "nofiles", "1048576"), ('v', "vmemory(kbytes)", "unlimited"),
    ('w', "locks", "unlimited"), ('r', "rtprio", "0")]

/-- The command `ulimit`. -/
def ulimit (args : List Bytes) : ShM Nat := do
  let (opts, args) ← options "HSatfdscmlpnvwr" args
  let letters := (opts.map (·.1)).filter fun c => c != 'H' && c != 'S'
  let set := (← get).limits
  let valueOf (c : Char) (usual : Bytes) : Bytes := (set.lookup c).getD usual
  if letters.getLast? == some 'a' then
    limits.forM fun (c, name, usual) =>
      out (name.pushn ' ' (20 - name.length) ++ " " ++ valueOf c usual ++ "\n")
    return 0
  let letter := letters.getLastD 'f'
  match args with
  | [] =>
    out (valueOf letter (((limits.lookup letter).map (·.2)).getD "unlimited") ++ "\n")
    return 0
  | [s] =>
    if s != "unlimited" && !s.toList.all isDigit then fail "bad number"
    modify fun t => { t with limits := (letter, s) :: t.limits.filter (·.1 != letter) }
    return 0
  | _ => fail "too many arguments"

/-- Runs a command of the shell itself. -/
def runBuiltin (h : Hooks) (flags : Flags) (name : Bytes) (args : List Bytes) : ShM Nat := do
  match name with
  | ":" | "true" => return 0
  | "false" => return 1
  | "." | "source" => dot h args
  | "[" => bracket args
  | "alias" => aliasNames args
  | "bg" | "fg" => resumeJob args
  | "break" => leaveLoop .leave args
  | "cd" | "chdir" => goTo args
  | "command" => describeOnly args
  | "continue" => leaveLoop .again args
  | "declare" | "typeset" => declareVars args
  | "echo" =>
    let extended := (← get).extended
    out (if extended then extendedEchoText false true args else echoText args)
    return 0
  | "eval" => evalArguments h flags args
  | "exec" => execArguments args
  | "exit" => exit args
  | "export" | "readonly" => markVars name args
  | "getopts" => nextScriptOption args
  | "hash" => hashNames args
  | "jobs" => showJobs args
  | "kill" => kill args
  | "let" => letExpressions args
  | "local" => localVars args
  | "mapfile" | "readarray" => readLines args
  | "printf" =>
    let extended := (← get).extended
    let given ← if extended && args.head? == some "-v" then pure args else plainArguments args
    match given with
    | [] => fail "usage: printf format [arg ...]"
    | format :: args => do
      match extended && format == "-v", args with
      | true, name :: format :: args =>
        let before := (← get).output
        modify fun s => { s with output := "" }
        let status ← ShM.printf format args
        let text := (← get).output
        modify fun s => { s with output := before }
        setVar name text
        return status
      | _, _ => ShM.printf format args
  | "pwd" => tellDirectory args
  | "read" => readVars args
  | "return" => goBack args
  | "set" => setAll args
  | "shift" => shiftArguments args
  | "shopt" => setFeatures args
  | "test" => return if ← Test.judge args then 0 else 1
  | "times" => times
  | "trap" => trap args
  | "type" => describeAll args
  | "ulimit" => ulimit args
  | "umask" => umask args
  | "unalias" => unaliasNames args
  | "unset" => unsetNames args
  | "wait" => waitFor args
  | _ => return 0

end ShM

end Tilde.Sh
