import Tilde.Utility.Awk.Lexer
import Tilde.Utility.Awk.Machine
import Tilde.Utility.Launch

/-!
# What awk programs read and write

Records come from the arguments in turn, from files, or from commands. Output is held back for each
file and command; all of it is handed on before another process is started, and at the end.
-/

namespace Tilde.Utility.Awk

open Unix (Bytes Act Errno)

/-- What has been read and not been used. -/
def Stream.unread (s : Stream) : Bytes :=
  String.join (s.ready.foldr (fun (a, b) out => a :: b :: out) []) ++ s.rest

/-- The records of a text, and what remains of it. -/
def marked (c : Char) (text : Bytes) : List (Bytes × Bytes) × Bytes :=
  let parts := text.splitOn (String.singleton c)
  (parts.dropLast.map (·, String.singleton c), parts.getLastD "")

/-- The records between empty lines, from all lines of a text. -/
def paragraphs : (lines : List Bytes) → (begun : List Bytes) → List (Bytes × Bytes)
  | [], [] => []
  | [], begun => [("\n".intercalate begun.reverse, "\n")]
  | "" :: lines, [] => paragraphs lines []
  | "" :: lines, begun => ("\n".intercalate begun.reverse, "\n\n") :: paragraphs lines []
  | line :: lines, begun => paragraphs lines (line :: begun)

/-- The records of a whole text that an expression ends. -/
def ended (s : Regex.Searcher) (text : Bytes) : List (Bytes × Bytes) :=
  let chars := text.toList.toArray
  let places := matchesFrom s chars (chars.size + 1) 0
  let records := between chars 0 places
  let ends := places.map fun (a, b) => String.ofList (chars.extract a b).toList
  let last := records.getLastD ""
  records.zip ends ++ (if last.isEmpty then [] else [(last, "")])

/-- A destination that is open. -/
inductive Outlet where
  | main
  | errors
  | output (name : Bytes) (o : Output)

namespace Run

/-- What ends records now. -/
def separator : Run Separator := do
  match (← specialText rs).toList with
  | [] => return .emptyLines
  | [c] => return .mark c
  | cs => return .pattern (String.ofList cs)

/-- Finds records in what has been read. -/
def arrange (s : Stream) : Run Stream := do
  match s.separator with
  | .mark c =>
    let (ready, rest) := marked c s.rest
    return { s with ready, rest }
  | .emptyLines =>
    if s.isOver then return { s with ready := paragraphs (s.rest.splitOn "\n") [], rest := "" }
    else return s
  | .pattern p =>
    if s.isOver then
      return { s with ready := ended (← searcher p) s.rest, rest := "" } else return s

/-- The next record of a stream. -/
def readRecord : (bound : Nat) → Stream → Run (Option Bytes × Stream)
  | 0, s => return (none, s)
  | bound + 1, s => do
    match s.ready with
    | (text, _) :: ready => return (some text, { s with ready })
    | [] =>
      if s.isOver then
        if s.rest.isEmpty then return (none, s) else return (some s.rest, { s with rest := "" })
      else match ← tool (Tool.act (Act.text (.read s.fd 4096))) with
        | .error .interrupted => readRecord bound s
        | .error e => deny ("read error (" ++ e.text ++ ")")
        | .ok "" => readRecord bound (← arrange { s with isOver := true })
        | .ok block => readRecord bound (← arrange { s with rest := s.rest ++ block })

/-- The next record of a stream, as records end now. -/
def nextRecord (s : Stream) : Run (Option Bytes × Stream) := do
  let wanted ← separator
  if s.separator == wanted then readRecord Tool.rounds s
  else
    let s ← arrange { s with separator := wanted, ready := [], rest := s.unread }
    readRecord Tool.rounds s

/-! ### The input of the program -/

/-- Sets a variable by an argument. One that the program does not mention is left out. -/
def assign (argument : Bytes) : Run Unit := do
  let name := (argument.takeWhile (· != '=')).toString
  match (← get).names.idxOf? name with
  | some n =>
    let value := unescaped (argument.drop (name.length + 1)).toString
    setVariable (.everywhere n) (.input value)
  | none => return

/-- Whether an argument sets a variable. -/
def isAssignment (argument : Bytes) : Bool :=
  let name := argument.toList.takeWhile (· != '=')
  name.length < argument.length && (name.head?.map startsName).getD false && name.all inName

/-- Opens the next file of the arguments. -/
def openNext : (bound : Nat) → Run (Option Stream)
  | 0 => return none
  | bound + 1 => do
    let s ← get
    let count := truncated (← special argc).toNumber
    if count ≤ s.argument then
      if s.hasRead then return none
      modify fun s => { s with hasRead := true }
      setSpecial filename (.text "-")
      setSpecial fnr (.number 0.0)
      return some { fd := 0 }
    else
      modify fun s => { s with argument := s.argument + 1 }
      match (← table argv).values[toString s.argument]? with
      | none => openNext bound
      | some v =>
        let name ← textOf v
        if name.isEmpty then openNext bound
        else if isAssignment name then
          assign name
          openNext bound
        else
          modify fun s => { s with hasRead := true }
          setSpecial filename (.text name)
          setSpecial fnr (.number 0.0)
          if name == "-" || name == "/dev/stdin" then return some { fd := 0 }
          match ← tool (Tool.openInput name) with
          | .ok fd => return some { fd }
          | .error e => deny ("cannot open \"" ++ name ++ "\" (" ++ e.text ++ ")")

/-- The next record of the input of the program. -/
def nextMain : (bound : Nat) → Run (Option Bytes)
  | 0 => return none
  | bound + 1 => do
    let s ← get
    if s.isOver then return none
    match s.main with
    | none =>
      let main ← openNext Tool.rounds
      modify fun s => { s with main, isOver := main.isNone }
      nextMain bound
    | some stream =>
      match ← nextRecord stream with
      | (some text, stream) =>
        modify fun s => { s with main := some stream }
        let all := (← special nr).toNumber + 1.0
        setSpecial nr (.number all)
        let inFile := (← special fnr).toNumber + 1.0
        setSpecial fnr (.number inFile)
        return some text
      | (none, stream) =>
        tool (Tool.closeInput stream.fd)
        modify fun s => { s with main := none }
        nextMain bound

/-- Leaves out the rest of the file that is being read. -/
def leaveFile : Run Unit := do
  match (← get).main with
  | some stream =>
    tool (Tool.closeInput stream.fd)
    modify fun s => { s with main := none }
  | none => return

/-! ### Output -/

/-- Writes what an output has held back. -/
def writeHeld (o : Output) : Run (Except Errno Output) := do
  if o.held.isEmpty then return .ok o
  let o' := { o with held := [], heldSize := 0 }
  return (← tool (Tool.act (Act.write o.fd (String.join o.held.reverse)))).map fun _ => o'

/-- Hands on all output. -/
def flushAll : Run Unit := do
  if let some e ← tool Tool.tryFlush then deny ("write failure (" ++ e.text ++ ")")
  let written ← (← get).outputs.mapM fun (name, o) => do
    match ← writeHeld o with
    | .ok o => return (name, o)
    | .error e => deny ("write failure (" ++ e.text ++ ")")
  modify fun s => { s with outputs := written }

/-- What a shell is called by and does for a command. -/
def shellFor (name command : Bytes) : Run (Act Empty) := do
  let s ← get
  let env := (← tool get).env
  let open_ := s.outputs.map (·.2.fd) ++ s.inputs.map (·.2.fd) ++ (s.main.map (·.fd)).toList
  return do
    (open_.filter (2 < ·)).forM fun fd => do
      let _ ← Act.ask (.close fd)
    let _ ← Act.ask (.exec "/bin/sh" [name, "-c", command] env)
    Act.exit 127

/-- Runs a command with one end of a pipe as its input or output. The result is the other end and
the process. -/
def pipeTo (command : Bytes) (reads : Bool) : Run (Nat × Nat) := do
  flushAll
  let (r, w) ← match ← tool (Tool.ask .pipe) with
    | .pair r w => pure (r, w)
    | _ => deny "could not create a pipe"
  let shell ← shellFor "/bin/sh" command
  let (own, its, target) := if reads then (r, w, 1) else (w, r, 0)
  let child : Act Empty := do
    let _ ← Act.ask (.close own)
    let _ ← Act.ask (.duplicateTo its target)
    let _ ← Act.ask (.close its)
    shell
  let pid ← tool (Tool.act (Act.fork child))
  tool (Tool.closeFd its)
  return (own, pid)

/-- The number for the end of a process. -/
def waitFor (pid : Nat) : Run Nat := do
  match ← tool (Tool.act (Act.wait (some pid) true)) with
  | .ok (_, .exited code) => return code.toNat
  | .ok (_, .killed signal) => return 256 + signal.toNat
  | .error _ => return 0

/-- Runs a command and waits for its end. -/
def system (command : Bytes) : Run Nat := do
  flushAll
  let shell ← shellFor "sh" command
  waitFor (← tool (Tool.act (Act.fork shell)))

/-- Looks for an open destination, or opens it. -/
def outlet (name : Bytes) (start : Run Output) : Run Outlet := do
  match (← get).outputs.lookup name with
  | some o => return .output name o
  | none => return .output name (← start)

/-- Opens a file to write. -/
def openOutput (name : Bytes) (appends : Bool) : Run Output := do
  let mode : Unix.OpenMode := { writes := true, creates := true, appends, truncates := !appends }
  match ← tool (Tool.act (Act.number (.open_ name mode 0o666))) with
  | .ok fd => return { fd }
  | .error e => deny ("cannot open \"" ++ name ++ "\" for output (" ++ e.text ++ ")")

/-- The destination that a file is. -/
def fileOutlet (name : Bytes) (appends : Bool) : Run Outlet := do
  if name == "/dev/stdout" || name == "-" then return .main
  else if name == "/dev/stderr" then return .errors
  else outlet name (openOutput name appends)

/-- The destination that a command is. -/
def commandOutlet (command : Bytes) : Run Outlet :=
  outlet command do
    let (fd, pid) ← pipeTo command false
    return { fd, child := some pid }

/-- Writes to a destination. -/
def write (s : Outlet) (text : Bytes) : Run Unit := do
  match s with
  | .main =>
    tool (modify fun s => { s with
      held := text :: s.held, heldSize := s.heldSize + text.utf8ByteSize })
    if blockSize ≤ (← tool get).heldSize then
      if let some e ← tool Tool.tryFlush then deny ("write failure (" ++ e.text ++ ")")
  | .errors => tool (Tool.writeErr text)
  | .output name o =>
    let o := { o with held := text :: o.held, heldSize := o.heldSize + text.utf8ByteSize }
    let o ← if o.heldSize < blockSize then pure o
      else match ← writeHeld o with
        | .ok o => pure o
        | .error e => deny ("write failure (" ++ e.text ++ ")")
    modify fun s => { s with outputs := (name, o) :: s.outputs.filter (·.1 != name) }

/-- Ends an output. The result is that of its command, if it is one. -/
def endOutput (name : Bytes) (o : Output) : Run Nat := do
  let written ← writeHeld o
  tool (Tool.closeFd o.fd)
  match o.child, written with
  | some pid, _ => waitFor pid
  | none, .ok _ => return 0
  | none, .error e => deny ("close failed on file \"" ++ name ++ "\" (" ++ e.text ++ ")")

/-- Ends an input. The result is that of its command, if it is one. -/
def endInput (s : Stream) : Run Nat := do
  tool (Tool.closeInput s.fd)
  match s.child with
  | some pid => waitFor pid
  | none => return 0

/-- Closes what has a name. -/
def close (name : Bytes) : Run Int := do
  let s ← get
  modify fun s => { s with
    outputs := s.outputs.filter (·.1 != name), inputs := s.inputs.filter (·.1 != name) }
  let read ← (s.inputs.lookup name).mapM endInput
  let written ← (s.outputs.lookup name).mapM (endOutput name)
  return match written, read with
    | some n, _ | none, some n => n
    | none, none => -1

/-- Ends all outputs. -/
def closeAll : Run Unit := do
  let outputs := (← get).outputs
  modify fun s => { s with outputs := [] }
  outputs.forM fun (name, o) => do
    let _ ← endOutput name o

/-! ### Other input -/

/-- The next record of a file or a command; an error if it cannot be opened. -/
def readFrom (name : Bytes) (start : Run (Except Errno Stream))
    : Run (Except Errno (Option Bytes)) := do
  let opened ← match (← get).inputs.lookup name with
    | some s => pure (.ok s)
    | none => start
  match opened with
  | .error e => return .error e
  | .ok stream =>
    let (text, stream) ← nextRecord stream
    modify fun s => { s with inputs := (name, stream) :: s.inputs.filter (·.1 != name) }
    return .ok text

/-- The next record of a file. -/
def readFile (name : Bytes) : Run (Except Errno (Option Bytes)) :=
  readFrom name do
    if name == "/dev/stdin" then return .ok { fd := 0 }
    match ← tool (Tool.openInput name) with
    | .ok fd => return .ok { fd }
    | .error e => return .error e

/-- The next record of the output of a command. -/
def readCommand (command : Bytes) : Run (Except Errno (Option Bytes)) :=
  readFrom command do
    let (fd, pid) ← pipeTo command true
    return .ok { fd, child := some pid }

end Run

end Tilde.Utility.Awk
