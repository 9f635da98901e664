import Tilde.Unix.Errno

/-!
# Errors of the operating system

The errors that starting a command, reading a file or writing output can meet, and the text that is
shown for each. A command fails by ending with a code other than zero, by not starting, or because
its output cannot be passed on.
-/

namespace Tilde

/-- An error of the operating system. -/
inductive OsError where
  /-- A call of the system failed. -/
  | system (error : Unix.Errno)
  /-- A text that has to be free of NUL is not. -/
  | nulByte
  /-- A file that has to be text is not. -/
  | invalidUtf8
  /-- An error of some other source, with its own text. -/
  | other (text : String)
  deriving DecidableEq, Repr

/-- The text of an error. -/
def OsError.message : OsError → String
  | system error => s!"{error.text} (os error {error.number})"
  | nulByte => "nul byte found in provided data"
  | invalidUtf8 => "stream did not contain valid UTF-8"
  | other text => text

end Tilde

/-! ## Failures of commands -/

namespace Tilde.Shell

/-- Why running a command failed. -/
inductive RunError where
  /-- The command ended with this code, which is not zero. -/
  | failed (code : Int32)
  /-- The shell did not start. -/
  | notStarted (program : String) (error : OsError)
  /-- The output of the command cannot be passed on. -/
  | io (error : OsError)
  deriving DecidableEq, Repr

/-- The message of a failure. -/
def RunError.message : RunError → String
  | failed code => s!"command exited with status {code.toInt}"
  | notStarted program error => s!"failed to start {program}: {error.message}"
  | io error => error.message

end Tilde.Shell
