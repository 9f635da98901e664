import Tilde.Utility.Basic
import Tilde.Utility.Input
import Tilde.Utility.Tool

/-!
# Running other programs

Tools that let another program take over, with another environment, with a limit of time, or once
for each part of their input.
-/

namespace Tilde.Utility

open Unix (Bytes Act Errno)

namespace Launch

/-- The directories that programs are searched in where the environment names none. -/
def usualPath : Bytes := "/bin:/usr/bin"

/-- The value of a variable in an environment. -/
def valueOf? (name : Bytes) (env : List Bytes) : Option Bytes :=
  let front := name ++ "="
  (env.find? (·.startsWith front)).map fun e => (e.drop front.length).toString

/-- Lets the program at a path take over. A file that is no program is read by a shell. -/
def attempt (path : Bytes) (args env : List Bytes) : Act Errno := do
  match ← Act.ask (.exec path args env) with
  | .failed .notExecutable =>
    let shell : Bytes := "/bin/sh"
    match ← Act.ask (.exec shell (shell :: path :: args.drop 1) env) with
    | .failed e => return e
    | _ => return .invalid
  | .failed e => return e
  | _ => return .invalid

/-- Tries paths in turn. -/
def attemptAll (args env : List Bytes) (denied : Bool) (last : Errno) : List Bytes → Act Errno
  | [] => return if denied then .permissionDenied else last
  | path :: rest => do
    match ← attempt path args env with
    | .permissionDenied => attemptAll args env true last rest
    | e =>
      if e == .notFound || e == .notDirectory then attemptAll args env denied e rest
      else return e

/-- Lets a program take over. The result is why it does not. -/
def program (args env : List Bytes) : Act Errno := do
  let name := args.headD ""
  if name.isEmpty then return .notFound
  else if name.toList.contains '/' then attempt name args env
  else
    let dirs := ((valueOf? "PATH" env).getD usualPath).splitOn ":"
    attemptAll args env false .notFound
      (dirs.map fun d => if d.isEmpty then name else d ++ "/" ++ name)

/-- The status of a tool whose program does not run. -/
def statusOf (e : Errno) : Nat := if e == .notFound then 127 else 126

/-- Lets a program take over from a tool, or ends the tool. -/
def takeOver {α : Type} (what : Bytes) (args : List Bytes) : Tool α := do
  Tool.flush
  let e ← Tool.act (program args (← get).env)
  Tool.die (statusOf e) (what ++ Quoting.always (args.headD "") ++ ": " ++ e.text)

/-- Splits off a process for a program. `before` is done in it first. -/
def spawn (args env : List Bytes) (before : Act Unit) (message : Errno → Bytes) : Act Nat :=
  Act.fork do
    before
    let e ← program args env
    let _ ← Act.write 2 (message e)
    Act.exit (statusOf e)

/-- The names of signals, by their numbers. -/
def signals : List (Bytes × Nat) := [("HUP", 1), ("INT", 2), ("QUIT", 3), ("ILL", 4), ("TRAP", 5),
  ("ABRT", 6), ("BUS", 7), ("FPE", 8), ("KILL", 9), ("USR1", 10), ("SEGV", 11), ("USR2", 12),
  ("PIPE", 13), ("ALRM", 14), ("TERM", 15), ("STKFLT", 16), ("CHLD", 17), ("CONT", 18),
  ("STOP", 19), ("TSTP", 20), ("TTIN", 21), ("TTOU", 22), ("URG", 23), ("XCPU", 24), ("XFSZ", 25),
  ("VTALRM", 26), ("PROF", 27), ("WINCH", 28), ("POLL", 29), ("PWR", 30), ("SYS", 31)]

/-- The number of a signal. -/
def signalOf? (text : Bytes) : Option Nat :=
  let name := text.toUpper
  let name := if name.startsWith "SIG" then (name.drop 3).toString else name
  match natOf? text with
  | some n => if n < 65 then some n else none
  | none => signals.lookup name

/-- The name of a signal. -/
def signalName (n : Nat) : Bytes :=
  match signals.find? (·.2 == n) with
  | some (name, _) => name
  | none => toString n

end Launch

namespace Env

/-- What is done before the program takes over. -/
structure Style where
  clears : Bool := false
  ending : Bytes := "\n"
  directory : Option Bytes := none
  unset : List Bytes := []
  verbose : Bool := false

/-- The options of the tool. -/
def table : OptionTable where
  letters := OptionTable.ofLetters "i0v" "uCS"
  words := [("block-signal", 'b', .optional), ("chdir", 'C', .required), ("debug", 'v', .none),
    ("default-signal", 'b', .optional), ("ignore-environment", 'i', .none),
    ("ignore-signal", 'b', .optional), ("list-signal-handling", 'b', .none), ("null", '0', .none),
    ("split-string", 'S', .required), ("unset", 'u', .required)]
  mixes := false
  status := 125

/-- Changes what is done by an option. -/
def Style.withOption (s : Style) (g : Given) : Tool Style :=
  return match g.letter with
  | 'i' => { s with clears := true }
  | '0' => { s with ending := "\x00" }
  | 'v' => { s with verbose := true }
  | 'u' => { s with unset := s.unset ++ g.value.toList }
  | 'C' => { s with directory := g.value }
  | _ => s

/-- The words of a text, as a shell would take it apart. -/
def words : (bound : Nat) → (word : Option (List Char)) → (quote : Option Char) →
    List Char → List Bytes
  | 0, _, _, _ => []
  | _, word, _, [] => (word.map fun cs => String.ofList cs.reverse).toList
  | bound + 1, word, quote, c :: cs =>
    let push (c : Char) (rest : List Char) : List Bytes :=
      words bound (some (c :: word.getD [])) quote rest
    match quote with
    | some q =>
      if c == q then words bound (some (word.getD [])) none cs
      else if c == '\\' && q == '"' then
        match cs with
        | e :: cs => push e cs
        | [] => push c cs
      else push c cs
    | none =>
      if c == '"' || c == '\'' then words bound (some (word.getD [])) (some c) cs
      else if c == '\\' then
        match cs with
        | '_' :: cs => (word.map fun w => String.ofList w.reverse).toList ++
            words bound none none cs
        | 'n' :: cs => push '\n' cs
        | 't' :: cs => push '\t' cs
        | e :: cs => push e cs
        | [] => push c cs
      else if c == ' ' || c == '\t' || c == '\n' then
        (word.map fun w => String.ofList w.reverse).toList ++ words bound none none cs
      else if c == '#' && word.isNone then []
      else push c cs

/-- The arguments with the words of a text in place of the option that holds it. -/
def splitArgs : (bound : Nat) → List Bytes → List Bytes
  | 0, args => args
  | _, [] => []
  | bound + 1, arg :: rest =>
    let split (text : Bytes) : List Bytes := words (text.length + 1) none none text.toList
    if ["-S", "-vS", "-iS", "--split-string"].contains arg then
      match rest with
      | text :: rest =>
        let front := if arg == "-vS" then ["-v"] else if arg == "-iS" then ["-i"] else []
        front ++ splitArgs bound (split text ++ rest)
      | [] => [arg]
    else if arg.startsWith "-S" then splitArgs bound (split (arg.drop 2).toString ++ rest)
    else if arg.startsWith "-vS" then
      "-v" :: splitArgs bound (split (arg.drop 3).toString ++ rest)
    else if arg.startsWith "-iS" then
      "-i" :: splitArgs bound (split (arg.drop 3).toString ++ rest)
    else if arg.startsWith "--split-string=" then
      splitArgs bound (split (arg.drop 15).toString ++ rest)
    else if arg.startsWith "-" && arg != "--" && arg != "-" then
      if arg == "-u" || arg == "-C" then
        match rest with
        | value :: rest => arg :: value :: splitArgs bound rest
        | [] => [arg]
      else arg :: splitArgs bound rest
    else arg :: rest

/-- An environment without a variable. -/
def without (env : List Bytes) (name : Bytes) : List Bytes :=
  env.filter fun e => !e.startsWith (name ++ "=")

/-- An environment with a variable. -/
def set (env : List Bytes) (assignment : Bytes) : List Bytes :=
  let front := (assignment.takeWhile (· != '=')).toString ++ "="
  if env.any (·.startsWith front) then
    env.map fun e => if e.startsWith front then assignment else e
  else env ++ [assignment]

/-- Runs a program in another environment, or shows that. -/
def run (args : List Bytes) : Tool Unit := do
  let args := splitArgs (args.length + 100) args
  let (s, operands) ← Tool.options table args ({} : Style) Style.withOption
  let (s, operands) := match operands with
    | "-" :: rest => ({ s with clears := true }, rest)
    | operands => (s, operands)
  let note (line : Bytes) : Tool Unit := if s.verbose then Tool.writeErr (line ++ "\n") else return
  if s.clears then note "cleaning environ"
  let given := (← get).env
  let env := if s.clears then [] else given
  if let some name := s.unset.find? fun n => n.isEmpty || n.toList.contains '=' then
    Tool.die 125 ("cannot unset " ++ Quoting.always name ++ ": Invalid argument")
  s.unset.forM fun name => note ("unset:    " ++ name)
  let env := s.unset.foldl without env
  let assignments := operands.takeWhile fun w => w.toList.contains '='
  assignments.forM fun a => note ("setenv:   " ++ a)
  let env := assignments.foldl set env
  let command := operands.drop assignments.length
  if command.isEmpty then
    if s.directory.isSome then Tool.misused 125 "must specify command with --chdir (-C)"
    env.forM fun e => Tool.put (e ++ s.ending)
  else
    if s.ending != "\n" then Tool.misused 125 "cannot specify --null (-0) with command"
    match s.directory with
    | some dir =>
      note ("chdir:    " ++ Quoting.always dir)
      match ← Tool.change (.chdir dir) with
      | .ok _ => pure ()
      | .error e =>
        Tool.die 125 ("cannot change directory to " ++ Quoting.always dir ++ ": " ++ e.text)
    | none => pure ()
    note ("executing: " ++ command.headD "")
    (List.range command.length).forM fun n =>
      note ("   arg[" ++ toString n ++ "]= " ++ Quoting.always (command.getD n ""))
    let name := command.headD ""
    let e ← Tool.act (Launch.program command env)
    Tool.say (Quoting.always name ++ ": " ++ e.text)
    if e == .notFound && name.toList.any Char.isWhitespace then
      Tool.say "use -[v]S to pass options in shebang lines"
    Tool.stop (Launch.statusOf e)

end Env

namespace Printenv

/-- The options of the tool. -/
def table : OptionTable where
  letters := OptionTable.ofLetters "0" ""
  words := [("null", '0', .none)]
  mixes := false
  status := 2

/-- Shows variables of the environment. -/
def run (args : List Bytes) : Tool Unit := do
  let (ending, names) ← Tool.options table args "\n" fun _ _ => return "\x00"
  let env := (← get).env
  if names.isEmpty then env.forM fun e => Tool.put (e ++ ending)
  else names.forM fun name => do
    match Launch.valueOf? name env with
    | some value =>
      if name.toList.contains '=' then Tool.setStatus 1 else Tool.put (value ++ ending)
    | none => Tool.setStatus 1

end Printenv

namespace Nohup

/-- Runs a program that goes on when its terminal is gone. -/
def run (args : List Bytes) : Tool Unit := do
  let (_, command) ← Tool.options { mixes := false, status := 125 } args () fun _ _ => return ()
  if command.isEmpty then Tool.missingOperand 125
  let _ ← Tool.ask (.onSignal 1 .ignore)
  Launch.takeOver "failed to run command " command

end Nohup

namespace Setsid

/-- Runs a program in a session of its own. -/
def run (args : List Bytes) : Tool Unit := do
  let table : OptionTable := { letters := OptionTable.ofLetters "cfw" "", mixes := false }
  let (_, command) ← Tool.options table args () fun _ _ => return ()
  if command.isEmpty then Tool.misused 1 "no command specified"
  Launch.takeOver "failed to execute " command

end Setsid

namespace Stdbuf

/-- The options of the tool. -/
def table : OptionTable where
  letters := OptionTable.ofLetters "" "ioe"
  words := [("error", 'e', .required), ("input", 'i', .required), ("output", 'o', .required)]
  mixes := false
  status := 125

/-- Runs a program whose output is held back otherwise. -/
def run (args : List Bytes) : Tool Unit := do
  let (given, command) ← Tool.options table args false fun _ g => do
    let mode := g.value.getD ""
    if mode != "L" && (amountOf? mode).isNone then
      Tool.die 125 ("invalid mode " ++ Quoting.plain mode)
    if mode == "L" && g.letter == 'i' then Tool.misused 125 "line buffering stdin is meaningless"
    return true
  if command.isEmpty then Tool.missingOperand 125
  if !given then Tool.misused 125 "you must specify a buffering mode option"
  Launch.takeOver "failed to run command " command

end Stdbuf

namespace Nice

/-- The options of the tool. -/
def table : OptionTable where
  letters := OptionTable.ofLetters "" "n"
  words := [("adjustment", 'n', .required)]
  mixes := false
  status := 125

/-- The argument where a number behind a dash is an amount. -/
def modern (arg : Bytes) : Bytes :=
  let rest := (arg.drop 1).toString
  if arg.startsWith "-" && (intOf? rest).isSome then "-n" ++ rest else arg

/-- Runs a program that gives way to others. -/
def run (args : List Bytes) : Tool Unit := do
  let args := match args with
    | arg :: rest => modern arg :: rest
    | [] => []
  let (amount, command) ← Tool.options table args (none : Option Bytes) fun _ g => return g.value
  if let some text := amount then
    if (intOf? text).isNone then Tool.die 125 ("invalid adjustment " ++ Quoting.plain text)
    if command.isEmpty then Tool.misused 125 "a command must be given with an adjustment"
  if command.isEmpty then Tool.putLine "0" else Launch.takeOver "" command

end Nice

namespace Timeout

/-- What is sent when. -/
structure Style where
  signal : Nat := 15
  kill : Option Bytes := none
  preserves : Bool := false
  verbose : Bool := false

/-- The options of the tool. -/
def table : OptionTable where
  letters := OptionTable.ofLetters "fpv" "ks"
  words := [("foreground", 'f', .none), ("kill-after", 'k', .required),
    ("preserve-status", 'p', .none), ("signal", 's', .required), ("verbose", 'v', .none)]
  mixes := false
  status := 125

/-- Changes what is sent by an option. -/
def Style.withOption (s : Style) (g : Given) : Tool Style := do
  match g.letter with
  | 'k' => return { s with kill := g.value }
  | 'p' => return { s with preserves := true }
  | 'v' => return { s with verbose := true }
  | 's' =>
    let text := g.value.getD ""
    match Launch.signalOf? text with
    | some signal => return { s with signal }
    | none => Tool.misused 125 (Quoting.plain text ++ ": invalid signal")
  | _ => return s

/-- The microseconds that a text asks for. -/
def micros (text : Bytes) : Tool Nat := do
  match Sleep.interval? text with
  | some (some n) => return n
  | some none => return 1000000000000000
  | none => Tool.misused 125 ("invalid time interval " ++ Quoting.plain text)

/-- Waits for the program, and sends it signals when it has taken too long. The result is how it
ended and whether that was because of a signal from here. -/
def watch (s : Style) (name : Bytes) (child : Nat) (killAfter : Nat) : (bound : Nat) →
    (signal : Nat) → (late : Bool) → Tool (Status × Bool)
  | 0, _, late => return (.exited 0, late)
  | bound + 1, signal, late => do
    match ← Tool.act (Act.wait (some child) true) with
    | .ok (_, status) => return (status, late)
    | .error .interrupted =>
      let _ ← Tool.ask .noted
      if s.verbose then
        Tool.say ("sending signal " ++ Launch.signalName signal ++ " to command " ++
          Quoting.plain name)
      let _ ← Tool.ask (.kill child signal)
      if signal == 9 then
        let me := (← Tool.act (Act.number .processNumber)).toOption.getD 0
        let _ ← Tool.ask (.kill me 9)
      if killAfter != 0 then
        let _ ← Tool.ask (.alarm killAfter)
      watch s name child 0 bound 9 true
    | .error _ => return (.exited 0, late)

/-- Runs a program for some time at most. -/
def run (args : List Bytes) : Tool Unit := do
  let (s, operands) ← Tool.options table args ({} : Style) Style.withOption
  match operands with
  | [] | [_] =>
    Tool.writeErr (← Tool.hint)
    Tool.stop 125
  | duration :: command =>
    let killAfter ← match s.kill with
      | some text => micros text
      | none => pure 0
    let time ← micros duration
    let env := (← get).env
    let name := command.headD ""
    let me := (← get).name
    let _ ← Tool.ask (.onSignal 14 .note)
    let message (e : Errno) : Bytes :=
      me ++ ": failed to run command " ++ Quoting.always name ++ ": " ++ e.text ++ "\n"
    let child ← Tool.act (Launch.spawn command env (pure ()) message)
    if time != 0 then
      let _ ← Tool.ask (.alarm time)
    let (status, late) ← watch s name child killAfter 1000 s.signal false
    match status with
    | .exited n => Tool.stop (if late && !s.preserves then 124 else n.toNat)
    | .killed signal =>
      if late then
        Tool.stop (if s.preserves || signal == 9 then 128 + signal.toNat else 124)
      else
        let number := (← Tool.act (Act.number .processNumber)).toOption.getD 0
        let _ ← Tool.ask (.kill number signal.toNat)
        Tool.stop (128 + signal.toNat)

end Timeout

namespace Which

/-- Shows where programs are. -/
def run (args : List Bytes) : Tool Unit := do
  let options := args.takeWhile fun a => a.startsWith "-" && 1 < a.length && a != "--"
  let names := args.drop options.length
  let names := if names.head? == some "--" then names.drop 1 else names
  let letters := options.flatMap fun o => (o.drop 1).toString.toList
  if let some c := letters.find? fun c => !(['a', 's'].contains c) then
    Tool.writeErr ("Illegal option -" ++ String.singleton c ++ "\n")
    Tool.putLine "Usage: /usr/bin/which [-as] args"
    Tool.stop 2
  if names.isEmpty then Tool.setStatus 1
  let dirs := ((Launch.valueOf? "PATH" (← get).env).getD "").splitOn ":"
  names.forM fun name => do
    let paths := if name.toList.contains '/' then [name]
      else dirs.map fun d => (if d.isEmpty then "." else d) ++ "/" ++ name
    let found ← paths.filterM fun path => do
      match ← Tool.info path true with
      | .ok i => return i.kind == .regular && i.mode &&& 0o111 != 0
      | .error _ => return false
    if found.isEmpty then Tool.setStatus 1
    else if !letters.contains 's' then
      (if letters.contains 'a' then found else found.take 1).forM Tool.putLine

end Which

end Tilde.Utility
