import Tilde.CommandLine

/-!
# The program

Reads the arguments, the script and the input, runs the program on a platform that holds the script,
and writes what it wrote.
-/

namespace Tilde.CommandLine

/-- Reads all bytes of a stream. -/
partial def readAll (stream : IO.FS.Stream) (read : ByteArray) : IO ByteArray := do
  let piece ← stream.read 65536
  if piece.isEmpty then return read else readAll stream (read ++ piece)

/-- The files that a script is read from: the script itself, if it can be read. -/
def scriptFiles (args : List String) : IO (List (Unix.Bytes × Unix.Inode)) := do
  match read {} false args with
  | .run { command := script :: _, .. } =>
    try
      let bytes ← IO.FS.readBinFile script
      return [(Unix.bytesOf script, Platform.textFile (Unix.bytesOfList bytes.toList))]
    catch _ => return []
  | _ => return []

/-- The bound on the rounds of a loop, which no run reaches. -/
def roundBound : Nat := Int64.maxValue.toNatClampNeg

/-- Runs the program with the arguments, the input and the environment of the process. -/
def runProcess (args : List String) : IO UInt32 := do
  let files ← scriptFiles args
  let input ← readAll (← IO.getStdin) .empty
  let platform := Platform.withFiles files (some (Unix.bytesOfList input.toList))
  let requested ← IO.getEnv "TILDESH_SHELL"
  let searchPath := (← IO.getEnv "PATH").getD ""
  let (shell, records) := Shell.choose platform.kernel.files platform.cwd searchPath requested
  let stderr ← IO.getStderr
  for r in records do stderr.putStrLn r.line
  let ended := run shell roundBound args { platform }
  (← IO.getStdout).putStr ended.console.output
  stderr.putStr ended.console.diagnostics
  return (ended.status.toInt % 256).toNat.toUInt32

end Tilde.CommandLine

/-- Runs the program. -/
def main (args : List String) : IO UInt32 := Tilde.CommandLine.runProcess args
