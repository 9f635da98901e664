import Tilde.OsError

/-!
# The host of a program

A program reaches the world outside through three acts: it starts a command in a shell, it writes
text, and it flushes what it has written. What the world does is not the program's business, so a
host is any three such functions over a state of its own, and every statement about running a
program holds for all of them.
-/

namespace Tilde

/-- A stream that a command writes to. -/
inductive Stream where
  | out
  | err
  deriving DecidableEq, Repr

/-- Where the streams of a command go: into one pipe, or into one each. -/
inductive Wiring where
  | merged
  | separate
  deriving DecidableEq, Repr

/-- How a command ended. -/
inductive Status where
  | exited (code : UInt8)
  | killed (signal : UInt8)
  deriving DecidableEq, Repr

/-- The code of an end: that of a killed command is 128 and the number of the signal. -/
def Status.code : Status → Int32
  | exited code => Int32.ofNat code.toNat
  | killed signal => Int32.ofNat (128 + signal.toNat)

/-- What a command did: the pieces of output it wrote, in order, and how it ended. -/
structure Child where
  pieces : List (Stream × List UInt8)
  status : Status
  deriving DecidableEq, Repr

namespace Child

/-- All bytes, in the order they were written. -/
def merged (c : Child) : List UInt8 := c.pieces.flatMap (·.2)

/-- The bytes written to one stream. -/
def bytesOf (c : Child) (s : Stream) : List UInt8 :=
  (c.pieces.filter (·.1 == s)).flatMap (·.2)

end Child

/-- Where the program writes: its output, or its diagnostics. -/
inductive Sink where
  | output
  | diagnostics
  deriving DecidableEq, Repr

/-- The acts by which a program reaches a world whose states are of type `ω`. -/
structure Host (ω : Type) where
  /-- The name of the program that runs commands. -/
  shell : String
  /-- Runs a command to its end. -/
  start : Wiring → String → ω → Except OsError Child × ω
  /-- Writes a text that is not empty. -/
  write : Sink → String → ω → Option OsError × ω
  /-- Passes on what has been written, or finds that this fails. -/
  flush : Sink → ω → Option OsError × ω

namespace Host

variable {ω : Type} (host : Host ω) (sink : Sink)

/-- Writes a text. An empty one does not reach the sink. -/
def emit (text : String) (w : ω) : Option OsError × ω :=
  if text.isEmpty then (none, w) else host.write sink text w

/-- Writes texts one after the other, until a write fails, and flushes the sink behind them. Where
all texts are empty, the sink is flushed all the same. -/
def put : List String → ω → Option OsError × ω
  | [], w => host.flush sink w
  | text :: texts, w =>
    match host.emit sink text w with
    | (some e, w) => (some e, w)
    | (none, w) => put texts w

/-- Writes a text and flushes the sink. For an empty text neither is done. -/
def pass (text : String) (w : ω) : Option OsError × ω :=
  if text.isEmpty then (none, w) else host.put sink [text] w

end Host

end Tilde
