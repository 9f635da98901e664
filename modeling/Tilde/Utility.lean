import Tilde.Sh.Program
import Tilde.Utility.Awk.Run
import Tilde.Utility.Basic
import Tilde.Utility.Batch
import Tilde.Utility.Checksum
import Tilde.Utility.Condition
import Tilde.Utility.Copy
import Tilde.Utility.Count
import Tilde.Utility.Create
import Tilde.Utility.Date
import Tilde.Utility.Difference.Bytewise
import Tilde.Utility.Difference.Run
import Tilde.Utility.Dump
import Tilde.Utility.Ends
import Tilde.Utility.Expression
import Tilde.Utility.Facts
import Tilde.Utility.Fields
import Tilde.Utility.Find.Walk
import Tilde.Utility.Format
import Tilde.Utility.Grep
import Tilde.Utility.Launch
import Tilde.Utility.Layout
import Tilde.Utility.Listing
import Tilde.Utility.Neighbours
import Tilde.Utility.Pairing
import Tilde.Utility.Relocate
import Tilde.Utility.Remove
import Tilde.Utility.Sed.Run
import Tilde.Utility.Sequence
import Tilde.Utility.Sort
import Tilde.Utility.Status
import Tilde.Utility.Translate

/-!
# The programs of the system

The utilities by their names. They serve the commands that the command line runs on a platform; no
theorem speaks of them.
-/

namespace Tilde.Utility

open Unix (Bytes Course)

/-- A program by its name. -/
structure Program where
  name : Bytes
  course : List Bytes → List Bytes → Course

/-- A tool as a program. -/
def tool (name : Bytes) (run : List Bytes → Tool Unit) : Program := ⟨name, Tool.course 1 run⟩

/-- A tool that ends with status two where others end with one. -/
def tool2 (name : Bytes) (run : List Bytes → Tool Unit) : Program := ⟨name, Tool.course 2 run⟩

/-- The programs that show digests. -/
def digests : List Program := Checksum.kinds.map fun k =>
  tool (k.name.toLower ++ "sum") (Checksum.run k)

/-- The programs of the system. -/
def all : List Program := [
  tool2 "[" Condition.runBracketed,
  ⟨"bash", Sh.program true⟩,
  ⟨"dash", Sh.program false⟩,
  tool "arch" (Whoami.run "x86_64"),
  tool2 "awk" Awk.command,
  tool "base32" (Alphabet.run Alphabet.base32),
  tool "base64" (Alphabet.run Alphabet.base64),
  tool "basename" Basename.run,
  tool "cat" Cat.run,
  tool "chmod" Chmod.run,
  tool "cksum" Cksum.run,
  tool2 "cmp" Cmp.run,
  tool "comm" Comm.run,
  tool "cp" Cp.run,
  tool "cut" Cut.run,
  tool "date" Date.run,
  tool2 "diff" Diff.run,
  tool "dirname" Dirname.run,
  tool "echo" Echo.run,
  tool2 "egrep" (Grep.run .extended),
  tool "env" Env.run,
  tool "expand" Expand.run,
  tool2 "expr" Expression.run,
  tool "factor" Factor.run,
  tool "false" (Constant.run 1),
  tool2 "fgrep" (Grep.run .fixed),
  tool "find" Find.run,
  tool "fold" Fold.run,
  tool2 "grep" (Grep.run .basic),
  tool "groups" Groups.run,
  tool "head" Head.run,
  tool "hostname" (Whoami.run "localhost"),
  tool "id" Id.run,
  tool "join" Join.run,
  tool "ln" Ln.run,
  tool2 "ls" Ls.run,
  tool2 "mawk" Awk.command,
  tool "mkdir" Mkdir.run,
  tool "mkfifo" Mkfifo.run,
  tool "mktemp" Mktemp.run,
  tool "mv" Mv.run,
  tool "nice" Nice.run,
  tool "nl" Nl.run,
  tool "nohup" Nohup.run,
  tool "nproc" Nproc.run,
  tool "od" Od.run,
  tool "paste" Paste.run,
  tool "printenv" Printenv.run,
  tool "printf" Format.run,
  tool "pwd" Pwd.run,
  tool "readlink" Readlink.run,
  tool "realpath" Realpath.run,
  tool "rev" Rev.run,
  tool "rm" Rm.run,
  tool "rmdir" Rmdir.run,
  ⟨"sed", Tool.course 4 Sed.run⟩,
  tool "seq" Seq.run,
  tool "setsid" Setsid.run,
  tool "sleep" Sleep.run,
  tool2 "sort" Sort.run,
  tool "stat" Stat.run,
  tool "stdbuf" Stdbuf.run,
  tool "sum" Sum.run,
  tool "sync" (Constant.run 0),
  tool "tac" Tac.run,
  tool "tail" Tail.run,
  tool "tee" Tee.run,
  tool2 "test" Condition.run,
  tool "timeout" Timeout.run,
  tool "touch" Touch.run,
  tool "tr" Tr.run,
  tool "true" (Constant.run 0),
  tool "truncate" Truncate.run,
  tool "tty" Tty.run,
  tool "uname" Uname.run,
  tool "unexpand" Unexpand.run,
  tool "uniq" Uniq.run,
  tool "unlink" Unlink.run,
  tool "wc" Wc.run,
  tool "which" Which.run,
  tool "whoami" (Whoami.run "root"),
  tool "xargs" Xargs.run,
  tool "yes" Yes.run] ++ digests

/-- The names of the programs. -/
def names : List Bytes := all.map (·.name)

/-- The programs, found by their names. -/
def programs : Unix.Programs :=
  let table : Std.HashMap Bytes (List Bytes → List Bytes → Course) :=
    .ofList (all.map fun p => (p.name, p.course))
  fun name => table[name]?

end Tilde.Utility
