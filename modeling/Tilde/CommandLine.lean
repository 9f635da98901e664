import Tilde.Platform
import Tilde.Session
import Tilde.Shell.Run
import Tilde.Text.Cluster

/-!
# The command line

The program is given options, then a script and the arguments of the script. It runs the script, or
starts an interactive session where there is none or one is asked for. The session reads its lines
from the same input as the commands, in blocks, so what a block holds is no longer there for a
command.
-/

namespace Tilde.CommandLine

/-- What the arguments ask for. -/
structure Options where
  interactive : Bool := false
  command : List String := []
  deriving DecidableEq, Repr

/-- What the arguments come to. -/
inductive Request where
  | run (options : Options)
  | help
  | badUsage (message : String)
  deriving DecidableEq, Repr

/-- Reads arguments. From the first that is no option on, all belong to the script. -/
def read (options : Options) (help : Bool) : List String → Request
  | [] => if help then .help else .run options
  | arg :: rest =>
    if arg = "--help" || arg = "help" then read options true rest
    else if arg = "--" then if help then .help else .run { options with command := rest }
    else if arg.startsWith "-" then
      if help then .badUsage "Trailing arguments are not allowed after `help`."
      else if arg = "-i" || arg = "--interactive" then
        read { options with interactive := true } help rest
      else .badUsage s!"Unrecognized argument: {arg}\n"
    else if help then .help
    else .run { options with command := arg :: rest }

/-- The text that explains the arguments. -/
def helpText : String := "\n".intercalate [
  "Usage: tildesh [-i] [command...]",
  "",
  "Run a program that embeds shell commands as ~'...' literals, or start an interactive " ++
    "session when no program is given.",
  "",
  "Options:",
  "  -i, --interactive keep going in an interactive session after the program has",
  "                    run",
  "  --help, help      display usage information", ""]

/-- The line that opens a session without a script. -/
def banner : String := "tildesh 0.1.0\n"

/-- How many bytes a session takes from the input at a time. -/
def blockSize : Nat := 8 * 1024

/-- The first line of some bytes, and the bytes after it. A line may end with a carriage return
before its line feed. -/
def takeLine (bytes : Unix.Bytes) : Option (Unix.Bytes × Unix.Bytes) :=
  let line := (bytes.takeWhile (· != '\n')).toString
  if line.utf8ByteSize = bytes.utf8ByteSize then none
  else
    some (if line.endsWith "\r" then (line.dropEnd 1).toString else line,
      (bytes.drop (line.length + 1)).toString)

/-- Reads a line from a buffer, which is filled from the input as long as it holds no whole line.
The result is the line, the buffer and the input; at the end of the input there is no line. -/
def readLine : (bound : Nat) → (buffer input : Unix.Bytes) →
    Option Unix.Bytes × Unix.Bytes × Unix.Bytes
  | 0, buffer, input => (none, buffer, input)
  | bound + 1, buffer, input =>
    match takeLine buffer with
    | some (line, rest) => (some line, rest, input)
    | none =>
      if input.isEmpty then
        if buffer.isEmpty then (none, "", "") else (some buffer, "", "")
      else
        readLine bound (buffer ++ (input.take blockSize).toString)
          (input.drop blockSize).toString

/-- Writes to a sink of a console. -/
def say (sink : Sink) (text : String) (c : Console) : Console := (c.write sink text).2

/-- The text that some bytes are. -/
def textOf? (bytes : Unix.Bytes) : Option String :=
  String.fromUTF8? (ByteArray.mk (Unix.listOfBytes bytes).toArray)

/-- Why a line cannot be used. -/
inductive LineFault where
  /-- Its bytes are no text. -/
  | notText
  /-- A backspace divides one of its characters. -/
  | divided
  deriving DecidableEq, Repr

/-- The status of a session that such a line ends. -/
def LineFault.status : LineFault → Int32
  | notText => 1
  | divided => 101

/-- What is said about such a line. -/
def LineFault.report : LineFault → String
  | notText =>
    s!"Error: failed to read an input line\n\nCaused by:\n    {OsError.invalidUtf8.message}\n"
  | divided => ""

/-- What a session is given by a line, or by the end of the input. -/
def inputOf : Option Unix.Bytes → Except LineFault Input
  | none => .ok .endOfInput
  | some bytes =>
    match textOf? bytes with
    | none => .error .notText
    | some text =>
      match Text.withoutBackspaces text with
      | none => .error .divided
      | some line => .ok (.line line)

/-- Runs a session over the input of the console. `buffer` holds bytes taken and not used yet. -/
def interact (settings : Settings Console) : (bound : Nat) → (buffer : Unix.Bytes) →
    Session Console → Int32 × Session Console
  | 0, _, s => (0, s)
  | bound + 1, buffer, s =>
    let console := s.machine.outside.world
    let platform := console.platform
    let (line, buffer, input) := readLine (platform.input.length + 1) buffer platform.input
    let console := { console with platform := platform.withInput input }
    let withConsole (console : Console) : Session Console := { s with machine :=
      { s.machine with outside := { s.machine.outside with world := console } } }
    match inputOf line with
    | .error fault => (fault.status, withConsole (say .diagnostics fault.report console))
    | .ok given =>
      match (withConsole console).handle settings given with
      | (.over status, s) => (status, s)
      | (.failed _, s) => (1, s)
      | (.goOn, s) => interact settings bound buffer s

/-- What a run of the program leaves: the console and the status. -/
structure Ended where
  console : Console
  status : Int32

/-- Starts a session. -/
def startSession (host : Host Console) (budget : Nat) (m : Machine Console) : Ended :=
  let bound := m.outside.world.platform.input.length + 2
  let (status, s) := interact ⟨host, budget, probe⟩ bound "" { machine := m }
  ⟨s.machine.outside.world, status⟩

/-- Says that a script cannot be read. -/
def unreadable (script : String) (error : OsError) (c : Console) : Ended :=
  ⟨say .diagnostics s!"Error: failed to read {script}\n\nCaused by:\n    {error.message}\n" c, 1⟩

/-- The text of a script. -/
def scriptText (c : Console) (script : String) : Except OsError String × Console :=
  let (bytes, platform) := c.platform.readFile (Unix.bytesOf script)
  let text := do
    match textOf? (← bytes) with
    | some text => .ok text
    | none => .error .invalidUtf8
  (text, { c with platform })

/-- Runs a script. -/
def runScript (host : Host Console) (budget : Nat) (options : Options) (script : String)
    (c : Console) : Ended :=
  match scriptText c script with
  | (.error e, c) => unreadable script e c
  | (.ok source, c) =>
    let m : Machine Console := ⟨.withArgs options.command, ⟨c, []⟩⟩
    let (result, m) := runSource host budget source .file m
    match result with
    | .ok _ =>
      if options.interactive then startSession host budget m else ⟨m.outside.world, 0⟩
    | .error e =>
      match e.exitStatus? with
      | some status => ⟨m.outside.world, status⟩
      | none =>
        let c := say .diagnostics s!"{script}: {e.diagnostic}\n" m.outside.world
        if options.interactive then
          startSession host budget { m with outside := { m.outside with world := c } }
        else ⟨c, 1⟩

/-- Runs the program with its arguments. -/
def run (shell : String) (budget : Nat) (args : List String) (c : Console) : Ended :=
  match read {} false args with
  | .help => ⟨say .output (helpText ++ "\n") c, 0⟩
  | .badUsage message =>
    ⟨say .diagnostics s!"{message}\nRun tildesh --help for more information.\n" c, 1⟩
  | .run options =>
    let host := Console.host shell
    match options.command with
    | [] => startSession host budget ⟨.fresh, ⟨say .output banner c, []⟩⟩
    | script :: _ => runScript host budget options script c

end Tilde.CommandLine
