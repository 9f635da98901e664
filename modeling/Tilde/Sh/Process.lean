import Tilde.Sh.Redirect

/-!
# Processes of a shell

How a shell splits off processes for commands, waits for them, and comes to its own end; and how its
own commands read the letters behind dashes at the front of their arguments.
-/

namespace Tilde.Sh

open Unix (Bytes Act Call)

/-- What is said about the course of a command to what runs it. -/
structure Flags where
  /-- The shell ends after it. -/
  exits : Bool := false
  /-- Its status is looked at, so failing is no reason to end. -/
  tested : Bool := false

/-- What the parts of a shell go back to: the evaluation of commands and of texts. -/
structure Hooks where
  eval : Command → Flags → ShM Nat
  evalText : Bytes → Flags → ShM Nat
  /-- Runs the commands of a file. -/
  evalFile : Bytes → ShM Nat
  expand : ExpandHooks

/-- The status that the end of a process gives. -/
def Status.asNumber : Status → Nat
  | .exited code => code.toNat
  | .killed signal => 128 + signal.toNat

/-- The texts for the ends by signals. -/
def signalTexts : List Bytes :=
  ["Unknown signal 0", "Hangup", "Interrupt", "Quit", "Illegal instruction",
    "Trace/breakpoint trap", "Aborted", "Bus error", "Floating point exception", "Killed",
    "User defined signal 1", "Segmentation fault", "User defined signal 2", "Broken pipe",
    "Alarm clock", "Terminated", "Stack fault", "Child exited", "Continued", "Stopped (signal)",
    "Stopped", "Stopped (tty input)", "Stopped (tty output)", "Urgent I/O condition",
    "CPU time limit exceeded", "File size limit exceeded", "Virtual timer expired",
    "Profiling timer expired", "Window changed", "I/O possible", "Power failure",
    "Bad system call"]

/-- The text for the end by a signal. -/
def signalText (n : Nat) : Bytes :=
  match signalTexts[n]? with
  | some s => s
  | none =>
    if n < 34 then "Unknown signal " ++ toString n
    else "Real-time signal " ++ toString (n - 34)

/-- The names of the signals, by number. -/
def signalNames : List Bytes :=
  ["EXIT", "HUP", "INT", "QUIT", "ILL", "TRAP", "ABRT", "BUS", "FPE", "KILL", "USR1", "SEGV",
    "USR2", "PIPE", "ALRM", "TERM", "16", "CHLD", "CONT", "STOP", "TSTP", "TTIN", "TTOU", "URG",
    "XCPU", "XFSZ", "VTALRM", "PROF", "WINCH", "IO", "PWR", "SYS", "32", "33", "RTMIN"] ++
  ((List.range 15).map fun i => "RTMIN+" ++ toString (i + 1)) ++
  ((List.range 14).map fun i => "RTMAX-" ++ toString (14 - i)) ++ ["RTMAX"]

/-- The number of a signal that is given by its number. -/
def signalNumber? (s : Bytes) : Option Nat :=
  if s.isEmpty || !s.toList.all isDigit then none
  else
    let n := (readNumber 10 s.toList).value.toNat
    if n < 65 then some n else none

/-- The number of a signal that is given by its number or its name, from `least` on. -/
def signal? (least : Nat) (s : Bytes) : Option Nat :=
  match signalNumber? s with
  | some n => some n
  | none =>
    let name := s.toUpper
    ((List.range 65).drop least).find? fun n => signalNames[n]? == some name

namespace ShM

/-! ### The end of a shell -/

/-- Forgets what was going on when a jump came. -/
def resetAfter (jump : Option Jump) : ShM Unit := do
  let s ← get
  match s.endStatus with
  | some n =>
    let counts := jump == some .exit || s.skip == .goBackLate
    set { s with status := if counts then n else s.status, endStatus := none }
  | none => pure ()
  modify fun s => { s with skip := .none, loops := 0, running := none }
  unwindRedirectsTo 0
  let frames := (← get).locals
  frames.forM fun _ => leaveLocals

/-- Does what is to be done at the end of a shell. -/
def finish (h : Hooks) (result : Except Jump Unit) : ShM Unit := do
  match result with
  | .error j => resetAfter (some j)
  | .ok _ => pure ()
  let s ← get
  set { s with endStatus := some s.status }
  match s.traps.lookup 0 with
  | none => resetAfter (some .exit)
  | some action =>
    modify fun s => { s with traps := s.traps.filter (·.1 != 0), skip := .none }
    match ← caught (h.evalText action {}) with
    | .ok _ =>
      modify fun s => { s with skip := .goBackLate }
      resetAfter none
    | .error j => resetAfter (some j)
  flush

/-- The act of a process that runs something in a shell and ends. -/
def whole (h : Hooks) (m : ShM Unit) (s : State) : Act Empty := do
  let (_, s) ← StateT.run (ExceptT.run do finish h (← caught m)) s
  Act.exit s.status

/-! ### Splitting off processes -/

/-- What a new process of a shell does first. -/
def enterChild (background first : Bool) : ShM Unit := do
  let s ← get
  let kept := s.traps.filter (·.2.isEmpty)
  let dropped := s.traps.filter fun t => !t.2.isEmpty && t.1 != 0
  set { s with
    traps := kept, jobs := [], isSubshell := true, skip := .none, loops := 0, redirects := []
    endStatus := none, traceFd := 2, output := "" }
  dropped.forM fun (signal, _) => do
    let _ ← ask (.onSignal signal .usual)
  if background then
    let _ ← ask (.onSignal 2 .ignore)
    let _ ← ask (.onSignal 3 .ignore)
    if first then
      close 0
      match ← act (Act.number (.open_ "/dev/null" { reads := true } 0)) with
      | .ok _ => pure ()
      | .error _ => fail "Can't open /dev/null"

/-- Splits off a process. The result is its number. -/
def fork (child : State → Act Empty) : ShM Nat := do
  let s ← get
  act (Act.fork (child s))

/-- Splits off a shell. -/
def forkShell (h : Hooks) (background first : Bool) (m : ShM Unit) : ShM Nat :=
  fork (whole h do
    enterChild background first
    m)

/-! ### Jobs -/

/-- The least number from `n` on that no job has that is still of interest. -/
def freeJobNumber (jobs : List Job) : (bound : Nat) → (n : Nat) → Nat
  | 0, n => n
  | bound + 1, n =>
    match jobs.find? (·.number == n) with
    | some j => if j.isDone && j.waited then n else freeJobNumber jobs bound (n + 1)
    | none => n

/-- Makes a job without processes. -/
def makeJob : ShM Nat := do
  let s ← get
  let n := freeJobNumber s.jobs (s.jobs.length + 1) 1
  set { s with jobs := { number := n, workers := [] } :: s.jobs.filter (·.number != n) }
  return n

/-- Changes a job. -/
def modifyJob (number : Nat) (change : Job → Job) : ShM Unit :=
  modify fun s => { s with
    jobs := s.jobs.map fun j => if j.number == number then change j else j }

/-- Adds a process to a job. -/
def addWorker (number pid : Nat) (background : Bool) : ShM Unit := do
  modifyJob number fun j => { j with workers := j.workers ++ [{ pid }] }
  if background then
    modify fun s =>
      let (this, others) := s.jobs.partition (·.number == number)
      { s with lastBackground := pid, jobs := this ++ others }

/-- The job of a number. -/
def job? (number : Nat) : ShM (Option Job) := return (← get).jobs.find? (·.number == number)

/-- Takes a job away. -/
def dropJob (number : Nat) : ShM Unit :=
  modify fun s => { s with jobs := s.jobs.filter (·.number != number) }

/-- How the end of a process is told, and whether it is told at all where only ends by signals
are. -/
def endText (status : Status) (signalsOnly : Bool) : Bytes :=
  match status with
  | .exited code =>
    if signalsOnly then ""
    else if code == 0 then "Done" else "Done(" ++ toString code.toNat ++ ")"
  | .killed signal =>
    if signalsOnly && (signal == 2 || signal == 13) then "" else signalText signal.toNat

/-- Notes the end of a process. If it belongs to the job that is waited for, its end by a signal is
told. -/
def noteEnd (awaited : Option Nat) (pid : Nat) (status : Status) : ShM Unit := do
  let s ← get
  let isOf (j : Job) : Bool := !j.isDone && j.workers.any (·.pid == pid)
  match s.jobs.find? isOf with
  | none => return
  | some j =>
    modifyJob j.number fun j =>
      let workers := j.workers.map fun w =>
        if w.pid == pid then { w with ended := some status } else w
      { j with workers, changed := true }
    if awaited == some j.number then
      let text := endText status true
      if !text.isEmpty then writeErr (text ++ "\n")

/-- What has come of waiting. -/
inductive Waited where
  | one
  | none
  | interrupted
  deriving DecidableEq

/-- Waits for the end of some process. -/
def waitOnce (awaited : Option Nat) (blocks : Bool) : ShM Waited := do
  match ← ask (.wait none blocks) with
  | .ended pid status =>
    noteEnd awaited pid status
    return .one
  | .failed .interrupted => return .interrupted
  | _ => return .none

/-- Notes all ends of processes that have come. -/
def collectEnds (awaited : Option Nat) : (bound : Nat) → ShM Unit
  | 0 => return
  | bound + 1 => do
    if (← waitOnce awaited false) == .one then collectEnds awaited bound

/-- Waits until a job has ended. -/
def awaitJob (number : Nat) : (bound : Nat) → ShM Unit
  | 0 => return
  | bound + 1 => do
    if (← job? number).all Job.isDone then collectEnds (some number) Act.rounds
    else match ← waitOnce (some number) true with
      | .none => return
      | _ => awaitJob number bound

/-- The status of a job that has ended. -/
def Job.status (j : Job) : Nat :=
  match j.workers.getLast?.bind (·.ended) with
  | some status => Status.asNumber status
  | none => 0

/-- Waits for a job that the shell does not go on without, and forgets it. -/
def finishJob (number : Nat) : ShM Nat := do
  awaitJob number Act.rounds
  let status := ((← job? number).map Job.status).getD 0
  dropJob number
  return status

/-- Runs something in a process of its own and waits for it. -/
def inSubshell (h : Hooks) (m : ShM Unit) : ShM Nat := do
  let n ← makeJob
  let pid ← forkShell h false true m
  addWorker n pid false
  finishJob n

/-- The output of a command, without the line ends at its end. -/
def outputOf (h : Hooks) (c : Command) : ShM Bytes := do
  match c with
  | .nothing => return ""
  | c =>
    let (a, b) ← pipe
    let n ← makeJob
    let pid ← forkShell h false true do
      close a
      if b != 1 then
        let _ ← ask (.duplicateTo b 1)
        close b
      let _ ← h.eval c { exits := true }
    addWorker n pid false
    close b
    let text ← act (Act.readAll a)
    close a
    let status ← finishJob n
    modify fun s => { s with substituted := status }
    let text := (text.toOption.getD "").toList.filter (· != '\x00')
    return String.ofList (text.reverse.dropWhile (· == '\n')).reverse

/-- Runs a command in a process of its own, and gives the path under which it is read, or written
to. -/
def processPath (h : Hooks) (reads : Bool) (c : Command) : ShM Bytes := do
  let (a, b) ← pipe
  let (own, its) := if reads then (a, b) else (b, a)
  let _ ← forkShell h false true do
    close own
    let _ ← ask (.duplicateTo its (if reads then 1 else 0))
    close its
    let _ ← h.eval c { exits := true }
  close its
  let place := 63 - (← get).ends.length
  let _ ← ask (.duplicateTo own place)
  close own
  modify fun s => { s with ends := place :: s.ends }
  return "/dev/fd/" ++ toString place

/-- Does something, and closes the descriptors of the commands in its words. -/
def closingEnds {α : Type} (m : ShM α) : ShM α := do
  let before := (← get).ends.length
  let a ← m
  let ends := (← get).ends
  (ends.take (ends.length - before)).forM close
  modify fun s => { s with ends := s.ends.drop (s.ends.length - before) }
  return a

/-! ### Traps -/

/-- Whether some trap has an action. -/
def hasTraps : ShM Bool := return (← get).traps.any (!·.2.isEmpty)

/-- Asks for the signals that have come. -/
def noteSignals : ShM Unit := do
  if (← get).traps.any fun t => t.1 != 0 && !t.2.isEmpty then
    match ← ask .noted with
    | .signals ns =>
      if !ns.isEmpty then
        modify fun s => { s with
          pending := (s.pending ++ ns.filter (!s.pending.contains ·)).mergeSort }
    | _ => pure ()

/-- Runs the actions that are due. -/
def runTraps (h : Hooks) : (bound : Nat) → (status : Nat) → ShM Unit
  | 0, _ => return
  | bound + 1, status => do
    let s ← get
    match s.pending with
    | [] => return
    | signal :: rest =>
      if s.skip != .none then return
      set { s with pending := rest }
      match s.traps.lookup signal with
      | none => runTraps h bound status
      | some action =>
        let _ ← h.evalText action {}
        if (← get).skip != .goBack then setStatus status
        runTraps h bound status

/-- Runs the actions of the signals that have come. -/
def trapsDue (h : Hooks) : ShM Unit := do
  noteSignals
  let s ← get
  if s.pending.isEmpty then return
  let status := s.endStatus.getD s.status
  modify fun s => { s with endStatus := some status }
  runTraps h Act.rounds status
  modify fun t => { t with endStatus := s.endStatus }

end ShM

/-! ## Options of commands -/

open Unix (Bytes)

namespace ShM

/-- Whether an option has a value; none if there is no such option. A colon after a letter says that
it has. -/
def optionKind? (letter : Char) : List Char → Option Bool
  | [] => none
  | c :: cs => if c == letter then some (cs.head? == some ':') else optionKind? letter cs

/-- Reads the letters behind one dash. The result has a letter whose value is still due. -/
def optionLetters (spec : List Char) : List Char → ShM (List (Char × Bytes) × Option Char)
  | [] => return ([], none)
  | c :: cs => do
    match if c == ':' then none else optionKind? c spec with
    | none => fail ("Illegal option -" ++ String.singleton c)
    | some false =>
      let (options, due) ← optionLetters spec cs
      return ((c, "") :: options, due)
    | some true =>
      if cs.isEmpty then return ([], some c) else return ([(c, String.ofList cs)], none)

/-- Reads options with their values up to the first argument that is none. -/
def options (spec : Bytes) : List Bytes → ShM (List (Char × Bytes) × List Bytes)
  | [] => return ([], [])
  | arg :: args => do
    match arg.toList with
    | ['-', '-'] => return ([], args)
    | '-' :: c :: cs =>
      let (here, due) ← optionLetters spec.toList (c :: cs)
      match due, args with
      | none, args =>
        let (more, rest) ← options spec args
        return (here ++ more, rest)
      | some c, value :: args =>
        let (more, rest) ← options spec args
        return (here ++ (c, value) :: more, rest)
      | some c, [] => fail ("No arg for -" ++ String.singleton c ++ " option")
    | _ => return ([], arg :: args)

/-- Reads arguments of a command that has no options. -/
def plainArguments (args : List Bytes) : ShM (List Bytes) := return (← options "" args).2

end ShM

end Tilde.Sh
