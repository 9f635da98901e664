import Tilde.Exec
import Tilde.Expand
import Tilde.Parser.Stmt

/-!
# Running a source text

A source text is parsed, its shell literals are expanded, and the result is executed. What comes of
it is reported in one line: where the trouble is, of what kind it is, and what it is.
-/

namespace Tilde

variable {ω : Type}

/-- What a source text may come to instead of its end. -/
inductive RunError where
  /-- The text is no program. -/
  | unparsable (error : SyntaxError)
  /-- The program halted. -/
  | halted (halt : Halt)
  deriving DecidableEq, Repr

namespace RunError

/-- The name of the kind of an error. -/
def kindName : RunError → String
  | unparsable _ => FaultKind.syntaxError.name
  | halted h => (h.kind?.map FaultKind.name).getD ""

/-- The message of an error, without the line of a statement. -/
def message : RunError → String
  | unparsable e => e.message
  | halted h => h.message

/-- The status of a request to exit. -/
def exitStatus? : RunError → Option Int32
  | halted (.exit status) => some status
  | _ => none

/-- Whether a handler that asks for the given kind would take the error. -/
def takenBy (e : RunError) (kind : Option String) : Bool :=
  match e with
  | halted h => h.takenBy kind
  | unparsable _ =>
    match kind with
    | none | some "Exception" => true
    | some k => k == FaultKind.syntaxError.name

/-- A report in one line. -/
def diagnostic (e : RunError) : String :=
  match e with
  | halted (.fault line _) => s!"line {line}: {e.kindName}: {e.message}"
  | _ => s!"{e.kindName}: {e.message}"

end RunError

/-- Executes a program in a machine. -/
def Program.run (p : Program) (host : Host ω) (budget : Nat) (m : Machine ω) :
    Except RunError Unit × Machine ω :=
  let (result, m) := p.exec host budget m
  (result.mapError .halted, m)

/-- Adds log records to a machine, in order. -/
def Machine.logged (m : Machine ω) (records : List LogRecord) : Machine ω :=
  { m with outside := { m.outside with log := records.reverse ++ m.outside.log } }

/-- Parses a text and executes it with its shell literals as they are. -/
def runPlain (host : Host ω) (budget : Nat) (source : String) (mode : Mode) (m : Machine ω) :
    Except RunError Unit × Machine ω :=
  match parse source mode with
  | .error e => (.error (.unparsable e), m)
  | .ok p => p.run host budget m

/-- Runs a source text. -/
def runSource (host : Host ω) (budget : Nat) (source : String) (mode : Mode) (m : Machine ω) :
    Except RunError Unit × Machine ω :=
  match parse source mode with
  | .error e => (.error (.unparsable e), m)
  | .ok p =>
    p.expand.run host budget (m.logged (p.notes ++ [.expanded p.literalCount]))

end Tilde
