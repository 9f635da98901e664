import Tilde.Run

/-!
# Interactive sessions

A session takes one input at a time. Lines gather in a buffer until a probe finds them complete;
then they run as one source text. A text that can never become complete runs too, so that its error
is reported. While lines are gathering, a blank one ends them whatever the probe says, and an
interrupt drops them.
-/

namespace Tilde

variable {ω : Type}

/-- What a probe says of the lines gathered so far. -/
inductive Completeness where
  /-- They are whole statements. -/
  | complete
  /-- More lines are needed. -/
  | incomplete
  /-- No further line can make them valid. -/
  | invalid
  deriving DecidableEq, Repr

/-- Judges whether a text is complete. -/
abbrev Probe := String → Completeness

/-- Whether the statement owns a block. -/
def Stmt.hasBlock : Stmt → Bool
  | .branch .. | .whileLoop .. | .forEach .. | .attempt .. => true
  | _ => false

/-- The probe that parses the text. A text whose last statement owns a block stays incomplete, since
the block may go on. -/
def probe (source : String) : Completeness :=
  match parse source .interactive with
  | .ok p => if p.body.getLast?.any Stmt.hasBlock then .incomplete else .complete
  | .error e => if e.isIncomplete then .incomplete else .invalid

/-- What a reader of lines gives. -/
inductive Input where
  | line (text : String)
  | interrupt
  | endOfInput
  deriving DecidableEq, Repr

/-- What a session waits for. -/
inductive Waiting where
  /-- A first line. -/
  | statement
  /-- A further line. -/
  | continuation
  deriving DecidableEq, Repr

/-- The prompt for a line. -/
def Waiting.prompt : Waiting → String
  | statement => ">>> "
  | continuation => "... "

/-- The settings of a session. -/
structure Settings (ω : Type) where
  host : Host ω
  budget : Nat
  probe : Probe

/-- The state of a session. -/
structure Session (ω : Type) where
  machine : Machine ω
  buffer : String := ""
  waiting : Waiting := .statement

/-- What became of an input: the session goes on, it is over with a status, or writing failed. -/
inductive Outcome where
  | goOn
  | over (status : Int32)
  | failed (error : OsError)
  deriving DecidableEq, Repr

namespace Session

/-- Writes a line. -/
def writeLine (s : Session ω) (host : Host ω) (sink : Sink) (text : String) :
    Option OsError × Session ω :=
  let outside := s.machine.outside
  let (error, world) := host.put sink [text, "\n"] outside.world
  (error, { s with machine := { s.machine with outside := { outside with world } } })

/-- Writes an empty line to the output and ends an input so, unless that fails. -/
def endLine (s : Session ω) (host : Host ω) (outcome : Outcome) : Outcome × Session ω :=
  match s.writeLine host .output "" with
  | (some e, s) => (.failed e, s)
  | (none, s) => (outcome, s)

/-- Runs the gathered lines and reports an error. -/
def runBuffer (s : Session ω) (settings : Settings ω) : Outcome × Session ω :=
  let (result, machine) :=
    runSource settings.host settings.budget s.buffer .interactive s.machine
  let s : Session ω := { machine }
  match result with
  | .ok _ => (.goOn, s)
  | .error e =>
    match e.exitStatus? with
    | some status => (.over status, s)
    | none =>
      match s.writeLine settings.host .diagnostics e.diagnostic with
      | (some e, s) => (.failed e, s)
      | (none, s) => (.goOn, s)

/-- Adds a log record. -/
def note (s : Session ω) (r : LogRecord) : Session ω :=
  { s with machine := s.machine.logged [r] }

/-- The buffer with a further line. -/
def gathered (s : Session ω) (line : String) : String :=
  match s.waiting with
  | .statement => s.buffer ++ line
  | .continuation => s.buffer ++ "\n" ++ line

/-- Takes a line. -/
def takeLine (s : Session ω) (settings : Settings ω) (line : String) : Outcome × Session ω :=
  let s := { s with buffer := s.gathered line }
  if s.waiting = .continuation && (Text.trim line).isEmpty then s.runBuffer settings
  else match settings.probe s.buffer with
    | .incomplete =>
      let s := s.note (.incomplete (Text.lines s.buffer.toList).length)
      (.goOn, { s with waiting := .continuation })
    | .complete | .invalid => s.runBuffer settings

/-- Takes an input. -/
def handle (s : Session ω) (settings : Settings ω) : Input → Outcome × Session ω
  | .line text => s.takeLine settings text
  | .interrupt =>
    let s := s.note (.dropped s.buffer.utf8ByteSize)
    { s with buffer := "", waiting := .statement }.endLine settings.host .goOn
  | .endOfInput => s.endLine settings.host (.over 0)

end Session

/-- What a reader of lines may do: give an input, or fail. -/
abbrev Reading := Except String Input

/-- How a session ended. -/
inductive Ending where
  | over (status : Int32)
  | failed (message : String)
  deriving DecidableEq, Repr

/-- A session that has ended, the prompts it showed, and what its reader still holds. -/
structure Ended (ω : Type) where
  ending : Ending
  session : Session ω
  prompts : List String
  unread : List Reading

/-- Runs a session over a reader that gives the listed inputs and then the end of input. `prompts`
holds the prompts shown before, the last of them first. -/
def Session.runOver (settings : Settings ω) (s : Session ω) (prompts : List String) :
    List Reading → Ended ω
  | [] =>
    let prompts := (s.waiting.prompt :: prompts).reverse
    match s.handle settings .endOfInput with
    | (.over status, s) => ⟨.over status, s, prompts, []⟩
    | (.failed e, s) => ⟨.failed e.message, s, prompts, []⟩
    | (.goOn, s) => ⟨.over 0, s, prompts, []⟩
  | .error message :: rest => ⟨.failed message, s, (s.waiting.prompt :: prompts).reverse, rest⟩
  | .ok input :: rest =>
    let prompts := s.waiting.prompt :: prompts
    match s.handle settings input with
    | (.over status, s) => ⟨.over status, s, prompts.reverse, rest⟩
    | (.failed e, s) => ⟨.failed e.message, s, prompts.reverse, rest⟩
    | (.goOn, s) => runOver settings s prompts rest

end Tilde
