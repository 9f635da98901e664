import Tilde.Host
import Tilde.Log
import Tilde.OsError
import Tilde.Text.Utf8
import Tilde.Unix.Files

/-!
# Running commands

The three ways to run a command. Streaming passes each piece of output on as it arrives, a character
cut by the end of a piece with the piece that completes it; capturing collects the bytes first and
reads them as a whole.

The shell that runs them may be asked for by a path or by a name. A path is taken as it is; a name is
looked for in each directory of a search path, where an empty entry means the current directory. What
is found is named as it was found, without any tidying of the path.
-/

namespace Tilde.Shell

variable {ω : Type}

/-- Fails if the code of a command's end is not zero. -/
def check (status : Status) : Except RunError Unit :=
  if status.code = 0 then .ok () else .error (.failed status.code)

/-- Starts a command. -/
def start (host : Host ω) (wiring : Wiring) (command : String) (w : ω) :
    Except RunError Child × ω :=
  let (result, w) := host.start wiring command w
  (result.mapError (.notStarted host.shell), w)

/-- Passes pieces of output on, until one cannot be passed on. -/
def forward (host : Host ω) (d : Utf8.Decoder) : List (List UInt8) → ω → Option OsError × ω
  | [], w => host.pass .output (String.ofList d.finish) w
  | piece :: pieces, w =>
    let (text, d) := d.feed piece
    match host.pass .output (String.ofList text) w with
    | (some e, w) => (some e, w)
    | (none, w) => forward host d pieces w

/-- Runs a command and passes its output on. A failing write comes before the command's code. -/
def stream (host : Host ω) (command : String) (w : ω) : Except RunError Unit × ω :=
  match start host .merged command w with
  | (.error e, w) => (.error e, w)
  | (.ok child, w) =>
    match forward host {} (child.pieces.map (·.2)) w with
    | (some e, w) => (.error (.io e), w)
    | (none, w) => (check child.status, w)

/-- Runs a command and gives its output, both streams as one text. -/
def capture (host : Host ω) (command : String) (w : ω) : Except RunError String × ω :=
  match start host .merged command w with
  | (.error e, w) => (.error e, w)
  | (.ok child, w) => ((check child.status).map fun _ => Utf8.decodeText child.merged, w)

/-- What a finished command gave. -/
structure Captured where
  out : String
  err : String
  code : Int32
  deriving DecidableEq, Repr

/-- Runs a command and gives each stream and the code of its end, whatever it is. -/
def captureTriple (host : Host ω) (command : String) (w : ω) : Except RunError Captured × ω :=
  match start host .separate command w with
  | (.error e, w) => (.error e, w)
  | (.ok child, w) =>
    (.ok {
      out := Utf8.decodeText (child.bytesOf .out)
      err := Utf8.decodeText (child.bytesOf .err)
      code := child.status.code }, w)

/-! ## Finding the shell -/

/-- The shell that runs commands where no other is asked for. -/
def defaultShell : String := "/bin/sh"

/-- The components of a path. Repeated slashes count as one, and a dot counts at the front only. -/
def components (path : String) : List String :=
  match (path.splitOn "/").filter (· ≠ "") with
  | [] => []
  | first :: rest => first :: rest.filter (· ≠ ".")

/-- Whether a program is asked for by a path. -/
def isPath (program : String) : Bool :=
  program.front == '/' || 1 < (components program).length

/-- A name in a directory. -/
def inDirectory (dir name : String) : String :=
  if dir.isEmpty then name
  else if dir.back = '/' then dir ++ name
  else dir ++ "/" ++ name

/-- Whether a path leads to a file that may be run. -/
def isRunnable (files : Unix.Files) (cwd : Nat) (path : String) : Bool :=
  match files.find cwd (Unix.bytesOf path) with
  | .ok i => i.isExecutable
  | .error _ => false

/-- Finds a program, by its path or in the directories of a search path. -/
def findProgram (files : Unix.Files) (cwd : Nat) (searchPath program : String) :
    Option String :=
  if program.isEmpty then none
  else if isPath program then
    if isRunnable files cwd program then some program else none
  else ((searchPath.splitOn ":").map (inDirectory · program)).find? (isRunnable files cwd)

/-- The shell to use: the one asked for if it is found, and else the default, with the log records
of the choice. -/
def choose (files : Unix.Files) (cwd : Nat) (searchPath : String)
    (requested : Option String) : String × List LogRecord :=
  match requested with
  | none | some "" => (defaultShell, [])
  | some program =>
    match findProgram files cwd searchPath program with
    | some found => (found, [])
    | none => (defaultShell, [.noSuchShell program])

end Tilde.Shell
