import Tilde.Eval
import Tilde.Namespace

/-!
# Executing statements

A statement runs in a machine: the variables and the world outside. It ends by going on, by leaving
or repeating the loop around it, or by a halt. A fault is given the line of the statement that
raises it at the place where it is raised, so no enclosing statement adds another.

Only `while` can run without end. Each such loop has a budget of rounds; a program that uses one up
halts in a way that nothing in the program can take.
-/

namespace Tilde

variable {ω : Type}

/-- How a statement ends when nothing goes wrong. -/
inductive Flow where
  | next
  | leave
  | repeat
  deriving DecidableEq, Repr

/-- What ends a program before its last statement. -/
inductive Halt where
  | exit (status : Int32)
  | fault (line : Nat) (f : Fault)
  /-- A `while` loop used up its budget. -/
  | endless
  deriving DecidableEq, Repr

namespace Halt

/-- The kind of a halt, for handlers and diagnostics. A loop without end has none. -/
def kind? : Halt → Option FaultKind
  | exit _ => some .systemExit
  | fault _ f => some f.kind
  | endless => none

/-- The message of a halt, without a line. -/
def message : Halt → String
  | exit status => s!"exit requested with status {status.toInt}"
  | fault _ f => f.message
  | endless => "loop budget exhausted"

/-- Whether a handler that asks for the given kind takes the halt. A handler without a kind, or for
`Exception`, takes every fault; an `OSError` may be a failed command; an exit is taken by its own
name only. -/
def takenBy (h : Halt) (kind : Option String) : Bool :=
  match h with
  | exit _ => kind == some FaultKind.systemExit.name
  | endless => false
  | fault _ f =>
    match kind with
    | none | some "Exception" => true
    | some "OSError" => f.kind == .osError || f.kind == .childProcessError
    | some k => k == f.kind.name

end Halt

/-- The variables of a program and the world outside. -/
structure Machine (ω : Type) where
  vars : Namespace
  outside : Outside ω

/-- Execution in a world whose states are of type `ω`. -/
abbrev ExecM (ω : Type) := ExceptT Halt (StateM (Machine ω))

namespace ExecM

variable {α : Type}

/-- Gives a stop the line of its statement. -/
def halted (line : Nat) : Stop → Halt
  | .exit status => .exit status
  | .fault f => .fault line f

/-- Evaluates for a statement on the given line. -/
def evalAt (line : Nat) (m : Namespace → EvalM ω α) : ExecM ω α := do
  let machine ← get
  let (result, outside) := m machine.vars machine.outside
  set { machine with outside }
  match result with
  | .ok a => return a
  | .error stop => throw (halted line stop)

/-- Binds a value for a statement on the given line. -/
def bindAt (line : Nat) (target : Target) (v : Value) : ExecM ω Unit := do
  let machine ← get
  let (result, vars) := target.bind v machine.vars
  set { machine with vars }
  match result with
  | .ok _ => return ()
  | .error f => throw (.fault line f)

/-- Adds a log record. -/
def note (r : LogRecord) : ExecM ω Unit :=
  modify fun machine =>
    { machine with outside := { machine.outside with log := r :: machine.outside.log } }

/-- Goes through a loop's rounds until one leaves it. -/
def whileLoop (test : ExecM ω Bool) (body : ExecM ω Flow) : (budget : Nat) → ExecM ω Unit
  | 0 => throw .endless
  | budget + 1 => do
    if ← test then
      match ← body with
      | .leave => return ()
      | .next | .repeat => whileLoop test body budget
    else return ()

/-- Goes through the items of a loop until one round leaves it. -/
def forEach (bind : Value → ExecM ω Unit) (body : ExecM ω Flow) : List Value → ExecM ω Unit
  | [] => return ()
  | v :: vs => do
    bind v
    match ← body with
    | .leave => return ()
    | .next | .repeat => forEach bind body vs

/-- Runs the first handler that takes a halt of the body. -/
def attempt (body : ExecM ω Flow) (handler? : Halt → Option (ExecM ω Flow)) : ExecM ω Flow :=
  tryCatch body fun h =>
    match handler? h with
    | some handler => handler
    | none => throw h

end ExecM

/-- Shows the value of an expression statement, if it has one to show. -/
def echo (host : Host ω) (v : Value) : EvalM ω Unit :=
  match v with
  | .none => return ()
  | v => .write host [v.repr, "\n"]

/-- The settings of a run: its host, the mode of its text, and the budget of each `while` loop. -/
structure Run (ω : Type) where
  host : Host ω
  mode : Mode
  budget : Nat

mutual

/-- Executes a statement. -/
def Stmt.exec (run : Run ω) : Stmt → ExecM ω Flow
  | .evaluate line e => do
    .evalAt line fun ns => do
      let v ← e.eval run.host ns
      if run.mode = .interactive then echo run.host v
    return .next
  | .assign line target e => do
    let v ← .evalAt line (e.eval run.host)
    .bindAt line target v
    return .next
  | .assert line test message => do
    .evalAt line fun ns => do
      if !(← test.eval run.host ns).truthy then
        match message with
        | some e => .fail (.assertion (← e.eval run.host ns).text)
        | none => .fail (.assertion "")
    return .next
  | .pass _ => return .next
  | .breakLoop _ => return .leave
  | .continueLoop _ => return .repeat
  | .branch line test body orelse => do
    if (← .evalAt line (test.eval run.host)).truthy then execBody run body
    else execBody run orelse
  | .whileLoop line test body => do
    let test := return (← .evalAt line (test.eval run.host)).truthy
    ExecM.whileLoop test (execBody run body) run.budget
    return .next
  | .forEach line target items body => do
    let v ← .evalAt line (items.eval run.host)
    match v.items? with
    | none => throw (.fault line (.notIterable v.type))
    | some items =>
      ExecM.forEach (ExecM.bindAt line target) (execBody run body) items
      return .next
  | .attempt _ body handlers =>
    ExecM.attempt (execBody run body) (execHandlers run handlers)

/-- Executes the statements of a block until one does not go on. -/
def execBody (run : Run ω) : List Stmt → ExecM ω Flow
  | [] => return .next
  | s :: ss => do
    match ← s.exec run with
    | .next => execBody run ss
    | flow => return flow

/-- The handler that takes a halt. It binds the message first, if it has a name for it. -/
def execHandlers (run : Run ω) : List Handler → Halt → Option (ExecM ω Flow)
  | [], _ => none
  | .mk kind name body :: hs, h =>
    if h.takenBy kind then some do
      match h.kind? with
      | some k => .note (.handled k.name)
      | none => pure ()
      match name with
      | some n => modify fun machine =>
          { machine with vars := machine.vars.set n (.str h.message) }
      | none => pure ()
      execBody run body
    else execHandlers run hs h

end

/-- Executes the statements of a program. None of them may leave or repeat a loop. -/
def execProgram (run : Run ω) : List Stmt → ExecM ω Unit
  | [] => return ()
  | s :: ss => do
    match ← s.exec run with
    | .next => execProgram run ss
    | .leave | .repeat => throw (.fault s.line .outsideLoop)

/-- Executes a parsed program as it is. -/
def Program.exec (p : Program) (host : Host ω) (budget : Nat) : ExecM ω Unit :=
  execProgram ⟨host, p.mode, budget⟩ p.body

end Tilde
