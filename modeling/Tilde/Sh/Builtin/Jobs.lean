import Tilde.Sh.Process

/-!
# Commands about jobs and signals

The commands that show, wait for and signal what runs beside the shell, and set what the shell does
about signals.
-/

namespace Tilde.Sh

open Unix (Bytes Act Errno)

namespace ShM

/-- The job that a text names. -/
def namedJob (name : Option Bytes) : ShM Job := do
  let jobs := (← get).jobs
  let noCurrent : ShM Job := fail "No current job"
  let missing (n : Bytes) : ShM Job := fail ("No such job: " ++ n)
  match name with
  | none =>
    match jobs with
    | j :: _ => return j
    | [] => noCurrent
  | some n =>
    match n.toList with
    | ['%'] | ['%', '+'] | ['%', '%'] =>
      match jobs with
      | j :: _ => return j
      | [] => noCurrent
    | ['%', '-'] =>
      match jobs with
      | _ :: j :: _ => return j
      | _ => fail "No previous job"
    | '%' :: cs =>
      if cs.all isDigit then
        let k := (readNumber 10 cs).value.toNat
        match jobs.find? (·.number == k) with
        | some j => return j
        | none => missing n
      else missing n
    | _ => missing n

/-- How jobs are shown. -/
inductive JobView where
  | short
  | withProcesses
  | processOnly
  deriving DecidableEq

/-- Shows a job. One that has ended is forgotten. -/
def showJob (view : JobView) (j : Job) : ShM Unit := do
  if view == .processOnly then
    out (String.join ((j.workers.take 1).map fun w => toString w.pid ++ "\n"))
    return
  let s ← get
  let sign := match s.jobs with
    | a :: rest =>
      if a.number == j.number then "+"
      else if (rest.head?.map (·.number)) == some j.number then "-" else " "
    | [] => " "
  let lead := "[" ++ toString j.number ++ "] " ++ sign ++ " "
  let pid := match view, j.workers with
    | .withProcesses, w :: _ => toString w.pid ++ " "
    | _, _ => ""
  let state := if !j.isDone then "Running"
    else match j.workers.getLast?.bind (·.ended) with
      | some status => endText status false
      | none => "Done"
  let head := lead ++ pid ++ state
  let padded (s : Bytes) (size : Nat) : Bytes := s.pushn ' ' (33 - size - 1) ++ " "
  out (padded head head.length)
  let others := j.workers.drop 1
  match view with
  | .withProcesses =>
    others.forM fun w =>
      let s := " |\n".pushn ' ' lead.length ++ toString w.pid ++ " "
      out (padded s (s.length - 3))
  | _ => others.forM fun _ => out " | "
  out "\n"
  if j.isDone then dropJob j.number
  else modifyJob j.number fun j => { j with changed := false }

/-- The command `jobs`. -/
def showJobs (args : List Bytes) : ShM Nat := do
  let (opts, names) ← options "lp" args
  let view : JobView := match opts.getLast? with
    | some ('l', _) => .withProcesses
    | some _ => .processOnly
    | none => .short
  if names.isEmpty then
    collectEnds none Act.rounds
    (← get).jobs.forM fun j => showJob view j
  else names.forM fun n => do showJob view (← namedJob (some n))
  return 0

/-- The command `fg` or `bg`: this shell has no jobs that they could be about. -/
def resumeJob (args : List Bytes) : ShM Nat := do
  let names ← plainArguments args
  let j ← namedJob names.head?
  let name := match names.head? with
    | some n => n
    | none => "(null)"
  let _ := j
  fail ("job " ++ name ++ " not created under job control")

/-- Waits until a condition on the jobs holds. The result is the signal that came first, if one
did. -/
def waitUntil (isOver : List Job → Bool) (awaited : Option Nat) : (bound : Nat) →
    ShM (Option Nat)
  | 0 => return none
  | bound + 1 => do
    let s ← get
    if isOver s.jobs then return none
    noteSignals
    match (← get).pending.getLast? with
    | some signal => return some signal
    | none =>
      match ← waitOnce awaited true with
      | .one => waitUntil isOver awaited bound
      | .none => return none
      | .interrupted => waitUntil isOver awaited bound

/-- Waits for the jobs that are named. -/
def waitEach (status : Nat) : List Bytes → ShM Nat
  | [] => return status
  | name :: rest => do
    let jobs := (← get).jobs
    let j ← if name.startsWith "%" then do pure (some (← namedJob (some name)))
      else do
        let pid ← toCount name
        pure (jobs.find? fun j => (j.workers.getLast?.map (·.pid)) == some pid)
    match j with
    | none =>
      let extended := (← get).extended
      if extended then warn ("pid " ++ name ++ " is not a child of this shell")
      waitEach 127 rest
    | some j =>
      let isOver (jobs : List Job) : Bool := (jobs.find? (·.number == j.number)).all Job.isDone
      match ← waitUntil isOver (some j.number) Act.rounds with
      | some signal => return 128 + signal
      | none =>
        collectEnds (some j.number) Act.rounds
        modifyJob j.number fun j => { j with waited := true }
        waitEach (((← job? j.number).map Job.status).getD 127) rest

/-- The command `wait`. -/
def waitFor (args : List Bytes) : ShM Nat := do
  let names ← plainArguments args
  if names.isEmpty then
    match ← waitUntil (fun jobs => jobs.all Job.isDone) none Act.rounds with
    | some signal => return 128 + signal
    | none =>
      modify fun s => { s with jobs := s.jobs.map fun j => { j with waited := true } }
      return 0
  else waitEach 127 names

/-! ### Signals -/

/-- How `kill` is used. -/
def killUsage : Bytes :=
  "Usage: kill [-s sigspec | -signum | -sigspec] [pid | job]... or\nkill -l [exitstatus]"

/-- Writes the names of signals. -/
def listSignals (args : List Bytes) : ShM Nat := do
  match args with
  | [] =>
    out "0\n"
    (signalNames.drop 1).forM fun n => out (n ++ "\n")
    return 0
  | s :: _ =>
    let extended := (← get).extended
    if extended && !s.toList.all isDigit then
      match signal? 1 s with
      | some n =>
        out (toString n ++ "\n")
        return 0
      | none => fail (s ++ ": invalid signal specification")
    let n ← toCount s
    let n := if 128 < n then n - 128 else n
    match if n == 0 then none else signalNames[n]? with
    | some name =>
      out (name ++ "\n")
      return 0
    | none => fail ("invalid signal number or exit status: " ++ s)

/-- Sends a signal to a process or a job. The result says whether that went well. -/
def sendTo (signal : Nat) (target : Bytes) : ShM Bool := do
  let pid ← if target.startsWith "%" then do
      pure (((← namedJob (some target)).workers.head?.map (·.pid)).getD 0)
    else
      let digits := if target.startsWith "-" then (target.drop 1).toString else target
      let extended := (← get).extended
      if extended && (digits.isEmpty || !digits.toList.all isDigit) then
        fail (target ++ ": arguments must be process or job IDs")
      toCount digits
  match ← act (Act.check (.kill pid signal)) with
  | .ok _ => return true
  | .error e =>
    let extended := (← get).extended
    warn (if extended then "(" ++ target ++ ") - " ++ e.text else e.text ++ "\n")
    return false

/-- Sends a signal to each of some targets. -/
def sendAll (signal : Nat) (targets : List Bytes) : ShM Nat := do
  let went ← targets.mapM (sendTo signal)
  return if went.all id then 0 else 1

/-- The command `kill`. -/
def kill (args : List Bytes) : ShM Nat := do
  let usage : ShM Nat := fail killUsage
  match args with
  | [] => usage
  | first :: rest =>
    let direct := if first.startsWith "-" then signal? 1 (first.drop 1).toString else none
    match direct with
    | some n => if rest.isEmpty then usage else sendAll n rest
    | none =>
      let (opts, targets) ← options "ls:" args
      let signal ← opts.foldlM (fun (n : Option Nat) (c, v) => do
        if c != 's' then return n
        match signal? 1 v with
        | some n => return some n
        | none => fail ("invalid signal number or name: " ++ v)) none
      if opts.any (·.1 == 'l') then
        if signal.isSome then usage else listSignals targets
      else if targets.isEmpty then usage
      else sendAll (signal.getD 15) targets

/-- Sets what the shell does about a signal. -/
def setTrap (action : Option Bytes) (signal : Nat) : ShM Unit := do
  modify fun s => { s with traps := s.traps.filter (·.1 != signal) ++
    (match action with
      | some a => [(signal, a)]
      | none => []) }
  if signal != 0 then
    let what : Unix.SignalAction := match action with
      | none => .usual
      | some "" => .ignore
      | some _ => .note
    let _ ← ask (.onSignal signal what)

/-- Sets what the shell does about each of some signals. -/
def setTraps (action : Option Bytes) : List Bytes → ShM Nat
  | [] => return 0
  | name :: rest => do
    match signal? 0 name with
    | none =>
      writeErr ("trap: " ++ name ++ ": bad trap\n")
      return 1
    | some signal =>
      setTrap action signal
      setTraps action rest

/-- The command `trap`. -/
def trap (args : List Bytes) : ShM Nat := do
  match ← plainArguments args with
  | [] =>
    let traps := (← get).traps.mergeSort fun a b => decide (a.1 ≤ b.1)
    traps.forM fun (signal, action) =>
      out ("trap -- " ++ quoted action ++ " " ++ (signalNames[signal]?.getD "") ++ "\n")
    return 0
  | first :: rest =>
    if rest.isEmpty || (signalNumber? first).isSome then setTraps none (first :: rest)
    else setTraps (if first == "-" then none else some first) rest

end ShM

end Tilde.Sh
