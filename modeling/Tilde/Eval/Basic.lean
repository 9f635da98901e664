import Tilde.Fault
import Tilde.Log
import Tilde.Shell.Run

/-!
# Evaluation with effects

An expression is evaluated in the world outside, to which it adds effects and log records, and it
may stop the statement it belongs to. It cannot change a variable.

A call has arguments by position and by name, on which functions make checks. An argument given by
name that a function does not know is refused before the number of arguments is.
-/

namespace Tilde

/-- What stops an expression: a request to exit with a status, or a fault. -/
inductive Stop where
  | exit (status : Int32)
  | fault (f : Fault)
  deriving DecidableEq, Repr

/-- The world outside and the log, whose last record comes first. -/
structure Outside (ω : Type) where
  world : ω
  log : List LogRecord

/-- Evaluation in a world whose states are of type `ω`. -/
abbrev EvalM (ω : Type) := ExceptT Stop (StateM (Outside ω))

namespace EvalM

variable {ω α : Type}

/-- Stops with a fault. -/
def fail (f : Fault) : EvalM ω α := throw (.fault f)

/-- A result that is worked out without effects. -/
def ofExcept : Except Fault α → EvalM ω α
  | .ok a => pure a
  | .error f => fail f

/-- Adds a log record. -/
def note (r : LogRecord) : EvalM ω Unit := modify fun o => { o with log := r :: o.log }

/-- Acts on the world. -/
def act (f : ω → α × ω) : EvalM ω α := do
  let o ← get
  let (a, w) := f o.world
  set { o with world := w }
  return a

/-- Writes texts to the output of the program, and flushes it. -/
def write (host : Host ω) (texts : List String) : EvalM ω Unit := do
  match ← act (host.put .output texts) with
  | some e => fail (.io e)
  | none => return ()

/-- The result of a command, whose failure is a fault. -/
def ofRun (f : ω → Except Shell.RunError α × ω) : EvalM ω α := do
  match ← act f with
  | .ok a => return a
  | .error e => fail (.shell e)

end EvalM

/-! ## Arguments of calls -/

/-- The arguments of a call. -/
structure Args where
  positional : List Value
  keywords : List (String × Value) := []

namespace Args

/-- Refuses arguments given by name. -/
def rejectKeywords (args : Args) (function : String) : Except Fault Unit :=
  match args.keywords with
  | [] => .ok ()
  | (name, _) :: _ => .error (.unexpectedKeyword function name)

/-- How many arguments were expected, where `given` is not between `least` and `most`. -/
def expected (least most given : Nat) : Expected :=
  if least = most then .exactly least
  else if given < least then .atLeast least
  else .atMost most

/-- The arguments given by position, if there are neither too few nor too many. -/
def between (args : Args) (function : String) (least most : Nat) : Except Fault (List Value) := do
  args.rejectKeywords function
  let given := args.positional.length
  if least ≤ given && given ≤ most then .ok args.positional
  else .error (.argumentCount function (expected least most given) given)

/-- The one argument of a function. -/
def one (args : Args) (function : String) : Except Fault Value := do
  match ← args.between function 1 1 with
  | [v] => .ok v
  | vs => .error (.argumentCount function (.exactly 1) vs.length)

/-- The argument of a function that may go without. -/
def atMostOne (args : Args) (function : String) : Except Fault (Option Value) := do
  return (← args.between function 0 1).head?

/-- No arguments. -/
def noArgs (args : Args) (function : String) : Except Fault Unit := do
  let _ ← args.between function 0 0

/-- Takes an argument given by name out of the others. -/
def take (args : Args) (name : String) : Option Value × Args :=
  (args.keywords.lookup name, { args with keywords := args.keywords.eraseP (·.1 == name) })

/-- Takes a text given by name, or its default. -/
def takeText (args : Args) (name default : String) : Except Fault (String × Args) :=
  match args.take name with
  | (none, args) | (some .none, args) => .ok (default, args)
  | (some (.str s), args) => .ok (s, args)
  | (some v, _) => .error (.notText name v.type)

end Args

end Tilde
