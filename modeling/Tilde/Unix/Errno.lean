/-!
# Errors of the system

The errors that a call of the system can meet, with their numbers and texts.
-/

namespace Tilde.Unix

/-- An error of the system. -/
inductive Errno where
  | notPermitted
  | notFound
  | noProcess
  | interrupted
  | noDevice
  | argumentsTooLong
  | notExecutable
  | badDescriptor
  | noChild
  | permissionDenied
  | exists_
  | notDirectory
  | isDirectory
  | invalid
  | notTerminal
  | noSpace
  | notSeekable
  | brokenPipe
  | nameTooLong
  | notEmpty
  | tooManyLinks
  deriving DecidableEq, Repr

namespace Errno

/-- The number of an error. -/
def number : Errno → Nat
  | notPermitted => 1
  | notFound => 2
  | noProcess => 3
  | interrupted => 4
  | noDevice => 6
  | argumentsTooLong => 7
  | notExecutable => 8
  | badDescriptor => 9
  | noChild => 10
  | permissionDenied => 13
  | exists_ => 17
  | notDirectory => 20
  | isDirectory => 21
  | invalid => 22
  | notTerminal => 25
  | noSpace => 28
  | notSeekable => 29
  | brokenPipe => 32
  | nameTooLong => 36
  | notEmpty => 39
  | tooManyLinks => 40

/-- The text of an error. -/
def text : Errno → String
  | notPermitted => "Operation not permitted"
  | notFound => "No such file or directory"
  | noProcess => "No such process"
  | interrupted => "Interrupted system call"
  | noDevice => "No such device or address"
  | argumentsTooLong => "Argument list too long"
  | notExecutable => "Exec format error"
  | badDescriptor => "Bad file descriptor"
  | noChild => "No child processes"
  | permissionDenied => "Permission denied"
  | exists_ => "File exists"
  | notDirectory => "Not a directory"
  | isDirectory => "Is a directory"
  | invalid => "Invalid argument"
  | notTerminal => "Inappropriate ioctl for device"
  | noSpace => "No space left on device"
  | notSeekable => "Illegal seek"
  | brokenPipe => "Broken pipe"
  | nameTooLong => "File name too long"
  | notEmpty => "Directory not empty"
  | tooManyLinks => "Too many levels of symbolic links"

end Errno

end Tilde.Unix
