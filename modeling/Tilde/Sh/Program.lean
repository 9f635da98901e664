import Tilde.Sh.Eval

/-!
# The shell as a program

The shell runs the commands of an argument, of a file, or of its input. It stands in for the shell
of a real system when the command line runs a program on a platform; no theorem speaks of it.
-/

namespace Tilde.Sh

open Unix (Bytes Act Course)

/-- The arguments that a shell is started with. -/
structure Start where
  /-- The commands are in an argument. -/
  fromArgument : Bool := false
  rest : List Bytes := []

namespace ShM

/-- Reads the letters behind a dash or a plus sign at the start of a shell. -/
def startLetters (on : Bool) (start : Start) : List Char → List Bytes → ShM Start
  | [], args => return { start with rest := args }
  | 'o' :: cs, args => do
    setNamed args.head? on
    startLetters on start cs args.tail
  | c :: cs, args => do
    if c == 'c' then startLetters on { start with fromArgument := true } cs args
    else if c == 'l' then startLetters on start cs args
    else
      setLetter c on
      startLetters on start cs args

/-- Reads the options at the start of a shell. -/
def startOptions : (bound : Nat) → Start → ShM Start
  | 0, start => return start
  | bound + 1, start => do
    match start.rest with
    | [] => return start
    | arg :: args =>
      match arg.toList with
      | ['-'] | ['-', '-'] => return { start with rest := args }
      | '-' :: cs => startOptions bound (← startLetters true start cs args)
      | '+' :: cs => startOptions bound (← startLetters false start cs args)
      | _ => return start

/-- Sets the variables that a shell has from the start. -/
def startVars (env : List Bytes) : ShM Unit := do
  let fixed (name value : Bytes) : ShM Unit := setVar name value
  fixed "PATH" usualPath
  fixed "PS1" "# "
  fixed "PS2" "> "
  fixed "PS4" "+ "
  env.forM fun text => do
    let (name, value) := splitAssignment text
    if value.isSome && isName name then
      setVarWith (fun v => { v with exported := true }) name value
  fixed "IFS" usualSeparators
  fixed "OPTIND" "1"
  let parent ← act (Act.number .parentNumber)
  fixed "PPID" (toString (parent.toOption.getD 0))
  if (← get).extended then
    fixed "BASH" "/bin/bash"
    fixed "BASH_VERSION" "5.2.21(1)-release"
    fixed "UID" "0"
    fixed "EUID" "0"
    fixed "HOSTTYPE" "x86_64"
    fixed "OSTYPE" "linux-gnu"
    fixed "MACHTYPE" "x86_64-pc-linux-gnu"
    let level := ((← lookup "SHLVL").bind String.toNat?).getD 0
    setVarWith (fun v => { v with exported := true }) "SHLVL" (some (toString (level + 1)))

/-- Runs the commands of a text that is a file or the input, and shows them if they are to be
shown. -/
def runLines (h : Hooks) : (bound : Nat) → Reader → ShM Unit
  | 0, _ => return
  | bound + 1, r => do
    let verbose ← isOn .verbose
    let (c, next) ← parseLine r
    if verbose then
      writeErr (String.ofList (r.rest.take (r.rest.length - next.rest.length)))
    match c with
    | none => return
    | some c =>
      let _ ← h.eval c {}
      if (← get).skip != .none then
        modify fun s => { s with
          skip := if s.skip == .goBack || s.skip == .goBackLate then .none else s.skip }
        return
      runLines h bound next

/-- Runs the commands of the input. -/
def runInput (h : Hooks) : ShM Unit := do
  let text ← act (Act.readAll 0)
  runLines h Act.rounds (Reader.ofText (text.toOption.getD ""))

/-- Runs a shell. -/
def run (h : Hooks) (args env : List Bytes) : ShM Unit := do
  let pid ← act (Act.number .processNumber)
  modify fun s => { s with pid := pid.toOption.getD 0 }
  startVars env
  startDirectory
  let start ← startOptions (args.length + 1) { rest := args.drop 1 }
  let reads := (← get).switches.contains .stdin
  modify fun s => { s with fromArgument := start.fromArgument }
  if start.fromArgument then
    match start.rest with
    | [] => fail "-c requires an argument"
    | text :: rest =>
      match rest with
      | name :: rest =>
        modify fun s => { s with name, arguments := { list := rest } }
      | [] => pure ()
      let _ ← h.evalText text { exits := !reads }
      if reads then runInput h
  else if reads || start.rest.isEmpty then
    setSwitch .stdin true
    setArguments start.rest
    runInput h
  else
    let path := start.rest.headD ""
    if (← get).extended then
      if let .error e := ← act (Act.info (.info path true)) then
        writeErr ((← get).name ++ ": " ++ path ++ ": " ++ e.text ++ "\n")
        setStatus 127
        throw .exit
    let fd ← openPath path { reads := true }
    modify fun s => { s with name := path, arguments := { list := start.rest.drop 1 } }
    let text ← act (Act.readAll fd)
    close fd
    runLines h Act.rounds (Reader.ofText (text.toOption.getD ""))

end ShM

/-- The course of a shell that is started with some arguments, the first of them its own name.
`extended` says whether it does more than the standard asks for. -/
def program (extended : Bool) (args env : List Bytes) : Course :=
  let h := hooks Act.rounds
  Act.course (ShM.whole h (ShM.run h args env) { name := args.headD "", extended })

end Tilde.Sh
