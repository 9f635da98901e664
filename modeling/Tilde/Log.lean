import Tilde.Shell.Delivery

/-!
# Log records

What the program notes about its own work, each as a fact with its data. The level and the wording
are given once, in `LogRecord.level` and `LogRecord.message`.
-/

namespace Tilde

/-- A fact worth noting. -/
inductive LogRecord where
  /-- A field of a shell literal on this line stands in single quotes. -/
  | quotedTwice (line : Nat)
  /-- A shell literal on this line was given a delivery. -/
  | runsAs (line : Nat) (delivery : Shell.Delivery)
  /-- So many shell literals were expanded. -/
  | expanded (count : Nat)
  /-- A handler took a fault of this kind. -/
  | handled (kind : String)
  /-- A command is about to run. -/
  | running (delivery : Shell.Delivery) (command : String)
  /-- An interrupt dropped so many bytes of input. -/
  | dropped (bytes : Nat)
  /-- The input, of so many lines, is not complete. -/
  | incomplete (lines : Nat)
  /-- The shell asked for was not found. -/
  | noSuchShell (requested : String)
  deriving DecidableEq, Repr

/-- How important a record is. -/
inductive LogLevel where
  | warn
  | debug
  | trace
  deriving DecidableEq, Repr

/-- The word for a level. -/
def LogLevel.text : LogLevel → String
  | .warn => "WARN"
  | .debug => "DEBUG"
  | .trace => "TRACE"

namespace LogRecord

/-- The level of a record. -/
def level : LogRecord → LogLevel
  | quotedTwice _ | noSuchShell _ => .warn
  | runsAs .. | expanded _ | handled _ => .debug
  | running .. | dropped _ | incomplete _ => .trace

/-- The wording of a record. -/
def message : LogRecord → String
  | quotedTwice line =>
    s!"line {line}: interpolated value is inside single quotes and will be quoted twice"
  | runsAs line delivery => s!"line {line}: shell literal runs as {delivery.text}"
  | expanded count => s!"rewrote {count} shell literal(s)"
  | handled kind => s!"{kind} handled by except clause"
  | running delivery command => s!"{delivery.runner}: {command}"
  | dropped bytes => s!"interrupted, dropping {bytes} buffered bytes"
  | incomplete lines => s!"buffer incomplete after {lines} line(s)"
  | noSuchShell requested =>
    s!"TILDESH_SHELL={requested} does not name an executable, using /bin/sh"

/-- A record as a line: its level and its wording. -/
def line (r : LogRecord) : String := s!"{r.level.text} {r.message}"

/-- Whether the record tells of an expanded shell literal. -/
def isRunsAs : LogRecord → Bool
  | runsAs .. => true
  | _ => false

end LogRecord

end Tilde
