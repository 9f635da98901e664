import Tilde.Unix.Course
import Tilde.Unix.Files

/-!
# Tools

What the utilities of the system have in common. A tool holds its output back until there is a block
of it, and hands it on before it says what went wrong, so that both come in the right order where
they go to the same place. A failing write is reported once and makes the tool fail.

Messages show the names that a tool was given as they are where a shell would take them so, and else
in quotes that a shell reads back. Numbers of lines, bytes and the like are given as digits, and
perhaps a letter that multiplies them.
-/

namespace Tilde.Utility

/-! ## Amounts -/

open Unix (Bytes)

/-- The number that digits make. -/
def digitsValue (cs : List Char) : Nat := cs.foldl (fun n c => 10 * n + (c.toNat - 48)) 0

/-- A text that holds nothing but digits, as a number. -/
def natOf? (s : Bytes) : Option Nat :=
  let cs := s.toList
  if cs.isEmpty || !cs.all Char.isDigit then none else some (digitsValue cs)

/-- A whole number with an optional sign. -/
def intOf? (s : Bytes) : Option Int :=
  match s.toList with
  | '-' :: cs => (natOf? (String.ofList cs)).map fun n => -(n : Int)
  | '+' :: cs => (natOf? (String.ofList cs)).map fun n => (n : Int)
  | _ => (natOf? s).map fun n => (n : Int)

/-- The letters that multiply an amount, in order of size. -/
def sizeLetters : List Char := ['K', 'M', 'G', 'T', 'P', 'E', 'Z', 'Y']

/-- What a text behind a number multiplies it by. -/
def factorOf? (s : Bytes) : Option Nat :=
  match s.toList with
  | [] => some 1
  | ['b'] => some 512
  | c :: rest =>
    let c := if c == 'k' || c == 'm' then c.toUpper else c
    match sizeLetters.idxOf? c with
    | none => none
    | some i =>
      match rest with
      | [] | ['i', 'B'] => some (Nat.pow 1024 (i + 1))
      | ['B'] => some (Nat.pow 1000 (i + 1))
      | _ => none

/-- An amount: a number that a letter may multiply. -/
def amountOf? (s : Bytes) : Option Nat := do
  let cs := s.toList
  let digits := cs.takeWhile Char.isDigit
  let factor ← factorOf? (String.ofList (cs.drop digits.length))
  if digits.isEmpty then none else some (digitsValue digits * factor)

/-! ## Names in messages -/

open Unix (Bytes)

/-- Whether a character may stand in a message as it is. -/
def isShown (c : Char) : Bool := ' ' ≤ c && c ≤ '~'

/-- Three octal digits. -/
def octal (n : Nat) : String :=
  let digits := String.ofList (Nat.toDigits 8 n)
  "".pushn '0' (3 - digits.length) ++ digits

/-- The letter that stands for a character after a backslash, or its number. -/
def escape (c : Char) : String :=
  match c with
  | '\x07' => "\\a"
  | '\x08' => "\\b"
  | '\t' => "\\t"
  | '\n' => "\\n"
  | '\x0B' => "\\v"
  | '\x0C' => "\\f"
  | '\r' => "\\r"
  | c => "\\" ++ octal c.toNat

namespace Quoting

/-- Whether a character makes a shell take a text apart. `first` says that it is the first one. -/
def isSpecial (first : Bool) (c : Char) : Bool :=
  " !\"$&'()*;<=>?[\\^\x60|:".toList.contains c || (first && (c == '#' || c == '~'))

/-- Whether a text needs quotes. -/
def isNeeded (s : List Char) : Bool :=
  s.isEmpty || s == ['\x7b'] || s == ['\x7d'] || s.any (!isShown ·) ||
    isSpecial true (s.headD ' ') || s.any (isSpecial false)

/-- The rest of a text that stands in single quotes. `escaping` says that the quotes are those in
which backslashes count. -/
def rest (escaping : Bool) : List Char → String
  | [] => "'"
  | c :: cs =>
    if isShown c then
      let again := if escaping then "''" else ""
      if c == '\'' then "'\\''" ++ rest false cs
      else again ++ String.singleton c ++ rest false cs
    else (if escaping then "" else "'$'") ++ escape c ++ rest true cs

/-- The text in quotes. -/
def always (s : Bytes) : Bytes :=
  let cs := s.toList
  if cs.contains '\'' && cs.all (fun c => isShown c && !("\"$\x60\\!".toList.contains c)) then
    "\"" ++ s ++ "\""
  else "'" ++ rest false cs

/-- The text as it is, or in quotes if it needs them. -/
def name (s : Bytes) : Bytes := if isNeeded s.toList then always s else s

/-- The text in single quotes, with escapes for what cannot be shown. -/
def plain (s : Bytes) : Bytes :=
  "'" ++ String.join (s.toList.map fun c =>
    if c == '\'' then "\\'" else if c == '\\' then "\\\\"
    else if isShown c then String.singleton c else escape c) ++ "'"

end Quoting

/-! ## Output and messages -/

open Unix (Bytes Act Errno Call Reply Course OpenMode FileInfo)

/-- A running tool. -/
structure Running where
  /-- The name the tool was called by. -/
  name : Bytes
  env : List Bytes
  /-- The output held back, the last piece first. -/
  held : List Bytes := []
  heldSize : Nat := 0
  /-- The status that the tool will end with. -/
  status : Nat := 0
  /-- The status of a tool whose output cannot be written. -/
  writeFailed : Nat := 1

/-- Acts of a tool, which may end it with a status. -/
abbrev Tool := ExceptT Nat (StateT Running Act)

/-- How much output is held back. -/
def blockSize : Nat := 4096

namespace Tool

variable {α : Type}

/-- Does something as a process. -/
def act (m : Act α) : Tool α := ExceptT.lift (StateT.lift m)

/-- Asks something of the system. -/
def ask (call : Call) : Tool Reply := act (.ask call)

/-- Changes something of the system. -/
def change (call : Call) : Tool (Except Errno Unit) := act (Act.check call)

/-- What the system tells about a file. `follow` says whether a symbolic link at the end of the path
stands for its target. -/
def info (path : Bytes) (follow : Bool) : Tool (Except Errno FileInfo) :=
  act (Act.info (.info path follow))

/-- The names in a directory. -/
def entries (path : Bytes) : Tool (Except Errno (List Bytes)) := act (Act.names (.list path))

/-- Closes a descriptor. -/
def closeFd (fd : Nat) : Tool Unit := do
  let _ ← ask (.close fd)

/-- The time, in microseconds. -/
def now : Tool Nat := return (← act (Act.number .now)).toOption.getD 0

/-- Ends the tool. -/
def stop (status : Nat) : Tool α := throw status

/-- The tool ends with this status if nothing worse happens. -/
def setStatus (status : Nat) : Tool Unit :=
  modify fun s => { s with status := max s.status status }

/-- Writes to the diagnostics. -/
def writeErr (text : Bytes) : Tool Unit := do
  let _ ← act (Act.write 2 text)

/-- Hands on the output held back. The result is the error of the write. -/
def tryFlush : Tool (Option Errno) := do
  let s ← get
  if s.held.isEmpty then return none
  set { s with held := [], heldSize := 0 }
  match ← act (Act.write 1 (String.join s.held.reverse)) with
  | .ok _ => return none
  | .error e => return some e

/-- Hands on the output held back, or ends the tool. -/
def flush : Tool Unit := do
  match ← tryFlush with
  | none => return
  | some e =>
    let s ← get
    writeErr (s.name ++ ": write error: " ++ e.text ++ "\n")
    throw s.writeFailed

/-- Writes to the output. -/
def put (text : Bytes) : Tool Unit := do
  if text.isEmpty then return
  modify fun s => { s with held := text :: s.held, heldSize := s.heldSize + text.utf8ByteSize }
  if blockSize ≤ (← get).heldSize then flush

/-- Writes a line. -/
def putLine (text : Bytes) : Tool Unit := do
  put text
  put "\n"

/-- Says something after the name of the tool. -/
def say (message : Bytes) : Tool Unit := do
  flush
  writeErr ((← get).name ++ ": " ++ message ++ "\n")

/-- Says what went wrong, and goes on. -/
def warn (message : Bytes) : Tool Unit := do
  say message
  setStatus 1

/-- Says what went wrong, and ends the tool. -/
def die (status : Nat) (message : Bytes) : Tool α := do
  say message
  throw status

/-- The line that says where to find more about the usage. -/
def hint : Tool Bytes := return "Try '" ++ (← get).name ++ " --help' for more information.\n"

/-- Says what is wrong with the arguments, and ends the tool. -/
def misused (status : Nat) (message : Bytes) : Tool α := do
  say message
  writeErr (← hint)
  throw status

/-- Says that an argument is missing, and ends the tool. -/
def missingOperand (status : Nat) : Tool α := misused status "missing operand"

/-- Says that there is an argument too many, and ends the tool. -/
def extraOperand (status : Nat) (text : Bytes) : Tool α :=
  misused status ("extra operand " ++ Quoting.plain text)

/-- The value of a variable of the environment. -/
def environmentValue (name : Bytes) : Tool (Option Bytes) := do
  let front := name ++ "="
  return ((← get).env.find? (·.startsWith front)).map fun e => (e.drop front.length).toString

/-- A bound on the rounds of a loop that no tool reaches. -/
def rounds : Nat := Act.rounds

/-- Goes on as long as there is something to go on with. -/
def loop {σ : Type} (step : σ → Tool (Option σ)) : (bound : Nat) → σ → Tool Unit
  | 0, _ => return
  | bound + 1, s => do
    match ← step s with
    | some s => loop step bound s
    | none => return

/-- The course of a tool that is started with some arguments, the first of them its name.
`writeFailed` is its status if its output cannot be written. -/
def course (writeFailed : Nat) (m : List Bytes → Tool Unit) (args env : List Bytes) : Course :=
  Act.course do
    let whole : Tool Unit := do
      let code ← ExceptT.mk do return .ok (← (m (args.drop 1)).run)
      match code with
      | .ok _ => flush
      | .error status =>
        flush
        throw status
    let (result, s) ← whole.run.run { name := args.headD "", env, writeFailed }
    Act.exit (match result with
      | .ok _ => s.status
      | .error status => status)

end Tool

end Tilde.Utility
