import Tilde.Unix.Kernel
import Tilde.Utility

/-!
# The system that commands run on

A program carries the system its commands run on: files in memory, an input that they share, and the
programs of the system. Starting a program finds its file as the system does, and then lets the
system run until the program has ended and nobody writes to its output any more.

A console is a host in memory: it keeps what a program writes and runs its commands on such a system
of its own. Either of its sinks may be broken, so that every write to it fails. Flushing never does.

## What this is for

The command line runs commands on this system, which stands in for the shell and the utilities of a
real one, so that a program can be run as a whole without one. This is all that the shell (`Sh`), the
processes and files (`Unix`), the utilities (`Utility`) and their regular expressions (`Regex`) are
for. No theorem speaks of them: what is proved about running a program is proved for any host, and a
console is one host among others. The program itself takes two small things from here, the error
numbers (`Unix.Errno`) and the files among which it looks for the shell (`Unix.Files`).
-/

namespace Tilde

open Unix (Bytes Kernel Files Inode)

/-- A system, the current directory of the program, and whether commands share an input. -/
structure Platform where
  kernel : Kernel
  cwd : Nat
  hasInput : Bool := false

namespace Platform

/-- The directories that a name is searched in. -/
def searchDirs : List Bytes := ["/usr/local/bin", "/usr/bin", "/bin"]

/-- The environment of commands. -/
def environment : List Bytes := ["PATH=" ++ ":".intercalate searchDirs, "HOME=/root"]

/-- A directory with its rights. -/
def directory (mode : Nat) : Inode := { content := .dir 0 [], mode }

/-- A file with a text. -/
def textFile (text : Bytes) : Inode := { content := .file text }

/-- A device. -/
def device (d : Unix.Device) : Inode := { content := .device d, mode := 0o666 }

/-- A symbolic link. -/
def symlink (target : Bytes) : Inode := { content := .link target, mode := 0o777 }

/-- The files that every system has. -/
def baseFiles : Files :=
  let programs := Utility.names.map fun name =>
    (["usr", "bin", name], ({ content := .program name, mode := 0o755 } : Inode))
  let others : List (List Bytes × Inode) := [
    (["usr", "bin", "sh"], symlink "dash"), (["usr", "sbin"], directory 0o755),
    (["usr", "lib"], directory 0o755),
    (["usr", "local", "bin"], directory 0o755),
    (["bin"], symlink "usr/bin"), (["sbin"], symlink "usr/sbin"), (["lib"], symlink "usr/lib"),
    (["etc", "passwd"], textFile ("root:x:0:0:root:/root:/bin/bash\n" ++
      "nobody:x:65534:65534:nobody:/nonexistent:/usr/sbin/nologin\n")),
    (["etc", "group"], textFile "root:x:0:\nnogroup:x:65534:\n"),
    (["dev", "null"], device .null), (["dev", "zero"], device .zero),
    (["dev", "full"], device .full), (["dev", "random"], device .random),
    (["dev", "urandom"], device .random), (["dev", "tty"], device .terminal),
    (["dev", "stdin"], symlink "/proc/self/fd/0"),
    (["dev", "stdout"], symlink "/proc/self/fd/1"),
    (["dev", "stderr"], symlink "/proc/self/fd/2"), (["dev", "fd"], symlink "/proc/self/fd"),
    (["home"], directory 0o755), (["root"], directory 0o700), (["var", "tmp"], directory 0o1777),
    (["tmp"], directory 0o1777)]
  let descriptors := (List.range 64).map fun fd =>
    (["proc", "self", "fd", toString fd], device (.descriptor fd))
  (programs ++ others ++ descriptors).foldl (fun files (names, i) => files.put Files.root i names)
    Files.empty

/-- The current directory of a program. -/
def home : List Bytes := ["tmp", "work"]

/-- A system with the given files in the current directory, each under its path from there. -/
def withFiles (own : List (Bytes × Inode)) (input : Option Bytes) : Platform :=
  let files := baseFiles.put Files.root (directory 0o755) home
  let cwd := (files.locate Files.root ("/" ++ "/".intercalate home)).toOption.getD Files.root
  let files := own.foldl (fun files (path, i) =>
    files.put cwd i ((Files.names path).filter (· != ""))) files
  { kernel := { files, input := input.getD "" }, cwd, hasInput := input.isSome }

/-- The input that is left. -/
def input (s : Platform) : Bytes := s.kernel.input

/-- The system with another input. -/
def withInput (s : Platform) (input : Bytes) : Platform :=
  { s with kernel := { s.kernel with input } }

/-- The content of a file. The input is a file too. -/
def readFile (s : Platform) (path : Bytes) : Except OsError Bytes × Platform :=
  match s.kernel.files.find s.cwd path with
  | .error e => (.error (.system e), s)
  | .ok i =>
    match i.content with
    | .device (.descriptor 0) =>
      (.ok s.input, s.withInput "")
    | _ => ((s.kernel.files.read s.cwd path).mapError .system, s)

/-- Finds the file of a program. -/
def programPath (s : Platform) (program : Bytes) : Except Unix.Errno Bytes := do
  let check (path : Bytes) : Except Unix.Errno Bytes := do
    let i ← s.kernel.files.find s.cwd path
    if i.isExecutable then return path else throw .permissionDenied
  if program.isEmpty then throw .notFound
  else if program.toList.contains '/' then check program
  else
    match (searchDirs.map (· ++ "/" ++ program)).filterMap fun path => (check path).toOption with
    | path :: _ => return path
    | [] => throw .notFound

/-- The number of the first process. -/
def firstPid (s : Platform) : Nat := s.kernel.nextPid

/-- The system with one more process, which runs a course with the input and the output of the
system. -/
def withProcess (s : Platform) (course : Unix.Course) : Kernel :=
  let k := { s.kernel with output := [], nextPid := s.kernel.nextPid + 1 }
  let opened (target : Unix.Target) : Unix.Opened :=
    { target, reads := true, writes := true }
  let (input, k) := k.addOpened
    { opened (if s.hasInput then .input else .device .null) with writes := false }
  let (output, k) := k.addOpened { opened (.output .out) with reads := false }
  let (errors, k) := k.addOpened { opened (.output .err) with reads := false }
  let p : Unix.Proc :=
    { pid := s.firstPid, parent := 1, course, cwd := s.cwd
      fds := [(0, ⟨input, false⟩), (1, ⟨output, false⟩), (2, ⟨errors, false⟩)] }
  { k with ready := k.ready ++ [p] }

/-- A bound on the steps of the system, which no run reaches. -/
def stepBound : Nat := 1000000000000000

/-- Runs a course to its end. -/
def runCourse (s : Platform) (course : Unix.Course) : Child × Platform :=
  let k := (s.withProcess course).run Utility.programs s.firstPid stepBound
  let status := match k.ended.find? (·.1 == s.firstPid) with
    | some (_, _, status) => status
    | none => .exited 0
  ({ pieces := k.output.reverse.map fun (stream, t) => (stream, Unix.listOfBytes t), status },
    { s with kernel := { k with
        output := [], ended := k.ended.filter (·.1 != s.firstPid) } })

/-- Starts a program and runs it to its end. -/
def start (s : Platform) (program : String) (args : List String) :
    Except OsError Child × Platform :=
  if (program :: args).any fun t => t.toList.contains '\x00' then (.error .nulByte, s)
  else
    let program := Unix.bytesOf program
    let course := do
      let path ← s.programPath program
      s.kernel.launched Utility.programs s.cwd path (program :: args.map Unix.bytesOf)
        environment 5
    match course with
    | .error e => (.error (.system e), s)
    | .ok course =>
      let (child, s) := s.runCourse course
      (.ok child, s)

end Platform

/-! ## Consoles -/

/-- What a program has written, and the system its commands run on. -/
structure Console where
  platform : Platform
  output : String := ""
  diagnostics : String := ""
  brokenOutput : Bool := false
  brokenDiagnostics : Bool := false

namespace Console

/-- The error of a broken sink. -/
def sinkClosed : OsError := .other "sink closed"

/-- Writes a text. -/
def write (sink : Sink) (text : String) (c : Console) : Option OsError × Console :=
  match sink with
  | .output =>
    if c.brokenOutput then (some sinkClosed, c)
    else (none, { c with output := c.output ++ text })
  | .diagnostics =>
    if c.brokenDiagnostics then (some sinkClosed, c)
    else (none, { c with diagnostics := c.diagnostics ++ text })

/-- The host that runs commands through a shell on the console's system. -/
def host (shell : String) : Host Console where
  shell := shell
  start _ command c :=
    let (result, platform) := c.platform.start shell ["-c", command]
    (result, { c with platform })
  write := write
  flush _ c := (none, c)

end Console

end Tilde
