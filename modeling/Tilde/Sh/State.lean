import Std.Data.HashMap
import Tilde.Sh.Command
import Tilde.Unix.Course

/-!
# The state of a shell

What a shell carries from one command to the next, and the acts by which it changes it, writes and
fails.

A command that fails in a way that the shell cannot go on after jumps (`Jump`). A loop that is left
and a function that returns do not jump: they note what is to be left out (`Skip`), and all that
runs commands goes by that note.
-/

namespace Tilde.Sh

open Unix (Bytes Act Call Reply Errno)

/-- A switch of the shell. -/
inductive Switch where
  | errexit | noglob | ignoreeof | interactive | monitor | noexec | stdin | xtrace | verbose
  | vi | emacs | noclobber | allexport | notify | nounset | privileged | nolog | debug
  deriving DecidableEq, Repr

namespace Switch

/-- The switches with their names and letters, in the order in which they are listed. -/
def table : List (Switch × Bytes × Option Char) :=
  [(errexit, "errexit", some 'e'), (noglob, "noglob", some 'f'),
    (ignoreeof, "ignoreeof", some 'I'), (interactive, "interactive", some 'i'),
    (monitor, "monitor", some 'm'), (noexec, "noexec", some 'n'), (stdin, "stdin", some 's'),
    (xtrace, "xtrace", some 'x'), (verbose, "verbose", some 'v'), (vi, "vi", some 'V'),
    (emacs, "emacs", some 'E'), (noclobber, "noclobber", some 'C'),
    (allexport, "allexport", some 'a'), (notify, "notify", some 'b'),
    (nounset, "nounset", some 'u'), (privileged, "privileged", some 'p'), (nolog, "nolog", none),
    (debug, "debug", none)]

/-- The switch of a letter. -/
def ofLetter? (c : Char) : Option Switch := (table.find? (·.2.2 == some c)).map (·.1)

/-- The switch of a name. -/
def ofName? (s : Bytes) : Option Switch := (table.find? (·.2.1 == s)).map (·.1)

/-- The letters of some switches, as the shell shows them. -/
def letters (on : List Switch) : Bytes :=
  String.ofList (table.reverse.filterMap fun (s, _, c) => if on.contains s then c else none)

end Switch

/-- A variable. One that is only marked has no value. -/
structure Var where
  value : Option Bytes
  /-- When the variable was made. -/
  since : Nat := 0
  exported : Bool := false
  readOnly : Bool := false

/-- A function. -/
structure Function where
  body : Command
  line : Nat

/-- A process of a job, and how it ended. -/
structure Worker where
  pid : Nat
  ended : Option Status := none

/-- What runs at once in a shell. -/
structure Job where
  number : Nat
  workers : List Worker
  /-- The shell has waited for it. -/
  waited : Bool := false
  /-- The shell has not said yet that it ended. -/
  changed : Bool := false

/-- Whether all processes of a job have ended. -/
def Job.isDone (j : Job) : Bool := j.workers.all (·.ended.isSome)

/-- What is left out before commands run again. -/
inductive Skip where
  | none
  /-- The rest of a loop, and the loop. -/
  | leave
  /-- The rest of a round of a loop. -/
  | again
  /-- The rest of a function or a script. -/
  | goBack
  /-- The rest of a function, for a reason found while a trap ran. -/
  | goBackLate
  deriving DecidableEq, Repr

/-- The arguments of a shell or a function, and how far they have been read as options. -/
structure Arguments where
  list : List Bytes := []
  nextOption : Nat := 1
  offset : Option Nat := none

/-- The state of a shell. -/
structure State where
  name : Bytes
  /-- The shell does more than the standard asks for. -/
  extended : Bool := false
  /-- The commands are in an argument. -/
  fromArgument : Bool := false
  arrays : Std.HashMap Bytes (List (Nat × Bytes)) := {}
  /-- The arrays with texts as keys, whose newest elements come first. -/
  tables : Std.HashMap Bytes (List (Bytes × Bytes)) := {}
  /-- How many scripts are read within others. -/
  sourced : Nat := 0
  /-- The descriptors under which the commands in words are read or written to. -/
  ends : List Nat := []
  /-- The variables whose values are worked out. -/
  numeric : List Bytes := []
  /-- Further switches that are on, by their names. -/
  features : List Bytes := []
  arguments : Arguments := {}
  vars : Std.HashMap Bytes Var := {}
  nextVar : Nat := 0
  /-- What the local variables of the running functions were before, the innermost first. -/
  locals : List (List (Bytes × Option Var)) := []
  savedSwitches : List (Nat × List Switch) := []
  functions : Std.HashMap Bytes Function := {}
  aliases : List (Bytes × Bytes) := []
  /-- The texts that redirections refer to by number. -/
  texts : Std.HashMap Nat Word := {}
  nextText : Nat := 0
  /-- The programs that have been found, with their paths. -/
  hashed : List (Bytes × Bytes) := []
  switches : List Switch := []
  status : Nat := 0
  /-- The status of the last command whose output was put into a word of the current command. -/
  substituted : Nat := 0
  /-- The line in messages. -/
  errorLine : Nat := 0
  line : Nat := 0
  /-- The line of the function that runs. -/
  functionLine : Nat := 0
  skip : Skip := .none
  skipCount : Nat := 0
  loops : Nat := 0
  /-- The command that runs in the shell itself. -/
  running : Option Bytes := none
  /-- What the running command has written but not handed on. -/
  output : Bytes := ""
  outputFailed : Bool := false
  /-- The jobs, the current one first. -/
  jobs : List Job := []
  lastBackground : Nat := 0
  pid : Nat := 0
  /-- The actions of traps by the number of the signal, zero for the end of the shell. -/
  traps : List (Nat × Bytes) := []
  /-- The signals whose actions are due. -/
  pending : List Nat := []
  /-- The status that an end without a number gives, where a trap runs. -/
  endStatus : Option Nat := none
  /-- What the descriptors that are redirected were before: copies, or closed. -/
  redirects : List (List (Nat × Option Nat)) := []
  /-- Where the shell shows the commands that it runs. -/
  traceFd : Nat := 2
  isSubshell : Bool := false
  /-- The limits that have been set, by their letters. -/
  limits : List (Char × Bytes) := []
  /-- The current directory as it was reached, and as it is called without links. -/
  cwd : Bytes := ""
  physicalCwd : Bytes := ""

/-- What leaves the ordinary course of commands. -/
inductive Jump where
  | error
  /-- The shell was told to end. -/
  | exit
  /-- There is nothing more to do. -/
  | over
  deriving DecidableEq, Repr

/-- Acts of a shell. -/
abbrev ShM := ExceptT Jump (StateT State Act)

namespace ShM

variable {α : Type}

/-- Does something as a process. -/
def act (m : Act α) : ShM α := ExceptT.lift (StateT.lift m)

/-- Asks something of the system. -/
def ask (call : Call) : ShM Reply := act (.ask call)

/-- Does something, up to a jump. -/
def caught (m : ShM α) : ShM (Except Jump α) := ExceptT.mk do return .ok (← m.run)

/-- Whether a switch is on. -/
def isOn (s : Switch) : ShM Bool := return (← get).switches.contains s

/-- Sets the status of the last command. -/
def setStatus (status : Nat) : ShM Unit := modify fun s => { s with status }

/-! ### Writing -/

/-- Writes at once. -/
def writeErr (text : Bytes) : ShM Unit := do
  let _ ← act (Act.write 2 text)

/-- Writes to the output when the running command ends. -/
def out (text : Bytes) : ShM Unit := modify fun s => { s with output := s.output ++ text }

/-- Hands on what has been written. -/
def flush : ShM Unit := do
  let text := (← get).output
  if text.isEmpty then return
  modify fun s => { s with output := "" }
  match ← act (Act.write 1 text) with
  | .ok _ => return
  | .error _ => modify fun s => { s with outputFailed := true }

/-- Says what went wrong, after the name of the shell, the line and the running command. -/
def warn (message : Bytes) : ShM Unit := do
  let s ← get
  let line := toString s.errorLine
  let who := match s.running with
    | some command => command ++ ": "
    | none => ""
  let word := if s.extended then "line " else ""
  writeErr (s.name ++ ": " ++ word ++ line ++ ": " ++ who ++ message ++ "\n")

/-- Says what went wrong and jumps with a status. -/
def failWith (status : Nat) (message : Bytes) : ShM α := do
  setStatus status
  warn message
  flush
  throw .error

/-- Says what went wrong and jumps. -/
def fail (message : Bytes) : ShM α := do
  failWith (if (← get).extended then 1 else 2) message

/-- Says what went wrong, in the words of the shell or in those of the extended one, and jumps. -/
def failAs (message extended : Bytes) : ShM α := do
  fail (if (← get).extended then extended else message)

/-- Says that a text is no number. -/
def notNumber (text : Bytes) : ShM α :=
  failAs ("Illegal number: " ++ text) (text ++ ": numeric argument required")

/-! ### Variables -/

/-- The field separators where none are set. -/
def usualSeparators : Bytes := " \t\n"

/-- The value of a variable. -/
def lookup (name : Bytes) : ShM (Option Bytes) := do
  let s ← get
  if name == "LINENO" then return some (toString s.line)
  else match (s.vars[name]?).bind (·.value) with
    | some v => return some v
    | none => return (s.arrays[name]?).bind (·.lookup 0)

/-- The length of the name at the front of a text. -/
def nameLength (s : Bytes) : Nat :=
  match s.toList with
  | [] => 0
  | c :: cs => if isNameStart c then 1 + (cs.takeWhile isNameChar).length else 0

/-- The name before an equals sign, and the value after it if there is a sign. -/
def splitAssignment (s : Bytes) : Bytes × Option Bytes :=
  let name := (s.takeWhile (· != '=')).toString
  if name.length == s.length then (name, none)
  else (name, some (s.drop (name.length + 1)).toString)

end ShM

/-- White space of the kind that may stand around a number. -/
def isSpace (c : Char) : Bool := c == ' ' || ('\t' ≤ c && c ≤ '\r')

/-- The greatest number. -/
def maxNumber : Int := 9223372036854775807

/-- The least number. -/
def minNumber : Int := -9223372036854775808

/-- The value of a digit in any base. -/
def digitValue (c : Char) : Nat :=
  if isDigit c then c.toNat - 48
  else if 'a' ≤ c && c ≤ 'z' then c.toNat - 87
  else if 'A' ≤ c && c ≤ 'Z' then c.toNat - 55
  else 99

/-- A number at the front of a text. -/
structure ReadNumber where
  /-- The number, or the nearest one that there is. -/
  value : Int
  /-- The number itself is not there. -/
  overflow : Bool
  /-- Whether there are digits. -/
  found : Bool
  rest : List Char

/-- Reads digits of a base. -/
def readDigits (base : Nat) (negative : Bool) (cs : List Char) : ReadNumber :=
  let digits := cs.takeWhile fun c => digitValue c < base
  let n : Nat := digits.foldl (fun n c => base * n + digitValue c) 0
  let v : Int := if negative then -n else n
  { value := max minNumber (min maxNumber v)
    overflow := v < minNumber || maxNumber < v
    found := !digits.isEmpty
    rest := cs.drop digits.length }

/-- Reads a number after white space and a sign. In base zero the number itself says its base:
octal after a zero, hexadecimal after `0x`. -/
def readNumber (base : Nat) (text : List Char) : ReadNumber :=
  let cs := text.dropWhile isSpace
  let (negative, cs) := match cs with
    | '-' :: cs => (true, cs)
    | '+' :: cs => (false, cs)
    | cs => (false, cs)
  let isHex : List Char → Bool
    | '0' :: x :: c :: _ => (x == 'x' || x == 'X') && digitValue c < 16
    | _ => false
  let r := if (base == 0 || base == 16) && isHex cs then readDigits 16 negative (cs.drop 2)
    else if base == 0 then readDigits (if cs.head? == some '0' then 8 else 10) negative cs
    else readDigits base negative cs
  if r.found then r else { r with rest := text }

namespace ShM

variable {α : Type}

/-- Reads a text as a number. In base zero an empty text is zero. -/
def toNumber (base : Nat) (text : Bytes) : ShM Int := do
  let r := readNumber base text.toList
  if r.overflow || (base != 0 && !r.found) || !(r.rest.all isSpace) then notNumber text
  return r.value

/-- Reads a text as a number that is not negative. -/
def toCount (text : Bytes) : ShM Nat := do
  let n ← toNumber 10 text
  if n < 0 || 2147483647 < n then notNumber text
  return n.toNat

/-- What a new value of a variable means to the shell. -/
def noticeValue (name : Bytes) (value : Bytes) : ShM Unit := do
  if name == "OPTIND" then
    let n ← toCount value
    modify fun s => { s with
      arguments := { s.arguments with nextOption := if n == 0 then 1 else n, offset := none } }
  else if name == "PATH" then modify fun s => { s with hashed := [] }

/-- Sets a variable, whose name is taken to be one. `mark` changes what it is marked with. -/
def setKnown (name : Bytes) (value : Option Bytes) (mark : Var → Var) : ShM Unit := do
  let s ← get
  let old := s.vars[name]?
  if old.any (·.readOnly) then failAs (name ++ ": is read only") (name ++ ": readonly variable")
  match value with
  | some v => noticeValue name v
  | none => pure ()
  let exports := s.switches.contains .allexport
  let v : Var := mark { old.getD { value := none, since := s.nextVar } with value := value }
  let v := if exports && value.isSome then { v with exported := true } else v
  modify fun s => { s with vars := s.vars.insert name v, nextVar := s.nextVar + 1 }

/-- Sets a variable. -/
def setVarWith (mark : Var → Var) (name : Bytes) (value : Option Bytes) : ShM Unit := do
  if !isName name then fail (name ++ ": bad variable name")
  setKnown name value mark

/-- Sets a variable to a value. -/
def setVar (name value : Bytes) : ShM Unit := setVarWith id name (some value)

/-- Takes a variable away. -/
def unsetVar (name : Bytes) : ShM Unit := do
  if !isName name then fail (name ++ ": bad variable name")
  if ((← get).vars[name]?).any (·.readOnly) then
    failAs (name ++ ": is read only") (name ++ ": cannot unset: readonly variable")
  modify fun s => { s with
    vars := s.vars.erase name, arrays := s.arrays.erase name, tables := s.tables.erase name
    numeric := s.numeric.filter (· != name) }

/-- The field separators. -/
def separators : ShM Bytes := return (← lookup "IFS").getD usualSeparators

/-- The directories that programs are searched in where none are set. -/
def usualPath : Bytes := "/usr/local/sbin:/usr/local/bin:/usr/sbin:/usr/bin:/sbin:/bin"

/-- The directories that programs are searched in. -/
def searchPath : ShM Bytes := return (← lookup "PATH").getD ""

/-- The place of a name in a table of a size. -/
def tablePlace (size : Nat) (name : Bytes) : Nat :=
  let first := (name.toList.headD '\x00').toNat
  (name.foldl (fun n c => n + c.toNat) (16 * first)) % size

/-- What programs get to know of the variables, in the order in which the shell finds them. -/
def environment : ShM (List Bytes) := do
  let exported := (← get).vars.toList.filterMap fun (name, v) =>
    if v.exported then v.value.map fun value => (tablePlace 39 name, v.since, name, value)
    else none
  let before (a b : Nat × Nat × Bytes × Bytes) : Bool :=
    a.1 < b.1 || (a.1 == b.1 && a.2.1 ≤ b.2.1)
  return (exported.mergeSort before).map fun (_, _, name, v) => name ++ "=" ++ v

/-- Puts a variable back to what it was. -/
def restoreVar (name : Bytes) (old : Option Var) : ShM Unit := do
  match old with
  | none => modify fun s => { s with vars := s.vars.erase name }
  | some v =>
    modify fun s => { s with vars := s.vars.insert name v }
    if name == "OPTIND" || name == "PATH" then noticeValue name (v.value.getD "")

/-- Puts back what the local variables of the innermost function hid. -/
def leaveLocals : ShM Unit := do
  match (← get).locals with
  | [] => return
  | frame :: outer =>
    let depth := outer.length
    modify fun s =>
      let (here, others) := s.savedSwitches.partition (·.1 == depth)
      { s with
        locals := outer
        savedSwitches := others
        switches := match here.getLast? with
          | some (_, switches) => switches
          | none => s.switches }
    frame.forM fun (name, old) => restoreVar name old

/-- Makes a variable local to the innermost function. -/
def makeLocal (mark : Var → Var) (text : Bytes) : ShM Unit := do
  let s ← get
  if text == "-" then
    modify fun s => { s with
      savedSwitches := (s.locals.length - 1, s.switches) :: s.savedSwitches }
  else
    let (name, value) := splitAssignment text
    let old := s.vars[name]?
    if old.isNone && !isName name then fail (name ++ ": bad variable name")
    match value, old with
    | some _, _ | none, none => setVarWith mark name value
    | none, some _ => pure ()
    modify fun s => { s with locals := match s.locals with
      | frame :: outer => ((name, old) :: frame) :: outer
      | [] => [] }

/-- The text in quotes, so that a shell reads it back. -/
def quoted (s : Bytes) : Bytes :=
  if s.isEmpty then "''" else String.join (parts s.length s.toList)
where
  parts : Nat → List Char → List Bytes
    | 0, _ | _, [] => []
    | bound + 1, cs =>
      if cs.head? == some '\'' then
        let run := cs.takeWhile (· == '\'')
        ("\"" ++ String.ofList run ++ "\"") :: parts bound (cs.drop run.length)
      else
        let run := cs.takeWhile (· != '\'')
        ("'" ++ String.ofList run ++ "'") :: parts bound (cs.drop run.length)

/-- The value of `$-`. -/
def switchLetters : ShM Bytes := do
  let s ← get
  if !s.extended then return Switch.letters s.switches
  let on := (Switch.letters s.switches).toList ++ ['h', 'B']
  let shown := "abefhkmnptuvxBCEHPT".toList.filter on.contains
  return String.ofList shown ++ (if s.fromArgument then "c" else "")

end ShM

end Tilde.Sh
