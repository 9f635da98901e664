import Tilde.Host
import Tilde.Unix.Files

/-!
# The course of a process

A process goes on by itself until it asks something of the system; then it waits for the reply. So
its course is a tree: an end, or a question with a course for each reply, or a split into two
processes. The system decides nothing about a process but what it replies and when.

A program is written as an act (`Act`): what remains to be done after it is handed to it, so that
acts are joined in time that does not depend on how deep they are nested.
-/

namespace Tilde.Unix

/-- How a file is opened. -/
structure OpenMode where
  reads : Bool := false
  writes : Bool := false
  appends : Bool := false
  creates : Bool := false
  truncates : Bool := false
  /-- The file must not be there before. -/
  exclusive : Bool := false
  deriving DecidableEq, Repr

/-- The kinds of files. -/
inductive FileKind where
  | regular
  | directory
  | link
  | characterDevice
  | pipe
  deriving DecidableEq, Repr

/-- What the system tells about a file. -/
structure FileInfo where
  number : Nat
  kind : FileKind
  mode : Nat
  size : Nat
  modified : Nat
  names : Nat
  deriving DecidableEq, Repr

/-- What a process does about a signal. -/
inductive SignalAction where
  | usual
  | ignore
  /-- The signal is noted, for the process to find. -/
  | note
  deriving DecidableEq, Repr

/-- What a process asks of the system. -/
inductive Call where
  | open_ (path : Bytes) (how : OpenMode) (mode : Nat)
  | close (fd : Nat)
  /-- Another descriptor for what a descriptor stands for: the least one from `least` on that is
  free, closed when another program takes over if `closes` says so. -/
  | duplicate (fd least : Nat) (closes : Bool)
  | duplicateTo (fd target : Nat)
  | pipe
  | read (fd count : Nat)
  /-- Reads up to the end of a line and no further, as by single characters. -/
  | readLine (fd : Nat) (ending : Char)
  | write (fd : Nat) (text : Bytes)
  | seek (fd : Nat) (place : Nat)
  /-- The place that a descriptor has come to. -/
  | tell (fd : Nat)
  | wait (child : Option Nat) (blocks : Bool)
  /-- Sends a signal to a process, or to all of its group for zero. -/
  | kill (pid : Nat) (signal : Nat)
  | onSignal (signal : Nat) (action : SignalAction)
  /-- The signals noted since the last time. -/
  | noted
  | sleep (micros : Nat)
  /-- Asks for a signal after a time. -/
  | alarm (micros : Nat)
  | now
  | processNumber
  | parentNumber
  | exec (path : Bytes) (args env : List Bytes)
  | info (path : Bytes) (follow : Bool)
  | infoOf (fd : Nat)
  | list (path : Bytes)
  | makeDir (path : Bytes) (mode : Nat)
  | makePipe (path : Bytes) (mode : Nat)
  | removeDir (path : Bytes)
  | unlink (path : Bytes)
  | rename (old new : Bytes)
  | link (old new : Bytes)
  | symlink (target path : Bytes)
  | readLink (path : Bytes)
  | chmod (path : Bytes) (mode : Nat)
  | setTime (path : Bytes) (micros : Nat)
  | truncate (path : Bytes) (size : Nat)
  | chdir (path : Bytes)
  | cwd
  | umask (mask : Option Nat)
  /-- Nothing; lets time pass. -/
  | tick

/-- What the system replies. -/
inductive Reply where
  | done
  | failed (error : Errno)
  | number (n : Nat)
  | pair (first second : Nat)
  | text (s : Bytes)
  | names (ns : List Bytes)
  | info (i : FileInfo)
  | ended (pid : Nat) (status : Status)
  | signals (ns : List Nat)

/-- The course of a process. -/
inductive Course where
  | exit (status : UInt8)
  | ask (call : Call) (next : Reply → Course)
  /-- Splits off a child, whose number is the reply. -/
  | fork (child : Course) (next : Nat → Course)

/-- An act of a process: given what comes after it, a course. -/
def Act (α : Type) : Type := (α → Course) → Course

namespace Act

variable {α β : Type}

instance : Monad Act where
  pure a := fun next => next a
  bind m f := fun next => m fun a => f a next

/-- Asks something of the system. -/
def ask (call : Call) : Act Reply := fun next => .ask call next

/-- Ends the process. -/
def exit (status : Nat) : Act α := fun _ => .exit status.toUInt8

/-- Splits off a child that does something and ends. The result is its number. -/
def fork (child : Act Empty) : Act Nat :=
  fun next => .fork (child fun e => nomatch e) next

/-- The course of a process that only does one thing. -/
def course (m : Act Empty) : Course := m fun e => nomatch e

/-- The reply to a call that has nothing to tell. -/
def check (call : Call) : Act (Except Errno Unit) := do
  match ← ask call with
  | .failed e => return .error e
  | _ => return .ok ()

/-- The reply to a call that tells a number. -/
def number (call : Call) : Act (Except Errno Nat) := do
  match ← ask call with
  | .number n => return .ok n
  | .failed e => return .error e
  | _ => return .error .invalid

/-- The reply to a call that tells a text. -/
def text (call : Call) : Act (Except Errno Bytes) := do
  match ← ask call with
  | .text s => return .ok s
  | .failed e => return .error e
  | _ => return .error .invalid

/-- The reply to a call that tells names. -/
def names (call : Call) : Act (Except Errno (List Bytes)) := do
  match ← ask call with
  | .names ns => return .ok ns
  | .failed e => return .error e
  | _ => return .error .invalid

/-- What the system tells about a file. -/
def info (call : Call) : Act (Except Errno FileInfo) := do
  match ← ask call with
  | .info i => return .ok i
  | .failed e => return .error e
  | _ => return .error .invalid

/-- Writes a text; an empty one is not written. -/
def write (fd : Nat) (s : Bytes) : Act (Except Errno Unit) :=
  if s.isEmpty then pure (.ok ()) else check (.write fd s)

/-- Waits for a child. -/
def wait (child : Option Nat) (blocks : Bool) : Act (Except Errno (Nat × Status)) := do
  match ← ask (.wait child blocks) with
  | .ended pid status => return .ok (pid, status)
  | .failed e => return .error e
  | _ => return .error .noChild

/-- A bound on the rounds of a loop that no process reaches. -/
def rounds : Nat := 1000000000000

/-- Reads up to the end of what a descriptor gives. The pieces come last first. -/
def readPieces (fd : Nat) : (bound : Nat) → List Bytes → Act (Except Errno (List Bytes))
  | 0, pieces => pure (.ok pieces)
  | bound + 1, pieces => do
    match ← text (.read fd 65536) with
    | .error .interrupted => readPieces fd bound pieces
    | .error e => return .error e
    | .ok s => if s.isEmpty then return .ok pieces else readPieces fd bound (s :: pieces)

/-- Reads all that a descriptor gives. -/
def readAll (fd : Nat) : Act (Except Errno Bytes) := do
  return (← readPieces fd rounds []).map fun pieces => String.join pieces.reverse

end Act

/-- The programs of a system: the course of a process that runs the program of a name with the
given arguments, the first of them its own name, and the given environment. -/
abbrev Programs := Bytes → Option (List Bytes → List Bytes → Course)

end Tilde.Unix
