/-!
# Delivery of a command's output

A shell literal runs in one of three ways, which its place in the program decides. Each way is
reached through a helper in the namespace whose name no program can spell, since no word starts
with a dollar sign.
-/

namespace Tilde.Shell

/-- How the output of a shell literal is delivered. -/
inductive Delivery where
  /-- It goes to the output of the program as it arrives. -/
  | stream
  /-- It is the value: both streams as one string. -/
  | single
  /-- The value is the two streams and the exit code; a failure is no fault. -/
  | triple
  deriving DecidableEq, Repr

namespace Delivery

/-- The name of the helper that runs a command this way. -/
def runner : Delivery → String
  | stream => "$run_stream"
  | single => "$run_capture"
  | triple => "$run_capture_triple"

/-- The word for this way in the log. -/
def text : Delivery → String
  | stream => "Stream"
  | single => "Single"
  | triple => "Triple"

end Delivery

/-- The name of the helper that quotes an interpolated value. -/
def quoter : String := "$shell_quote"

end Tilde.Shell
