import Tilde.Utility.Launch

/-!
# Arguments from the input

The tool that reads arguments from its input and runs a program with as many of them at a time as it
may.
-/

namespace Tilde.Utility.Xargs

open Unix (Bytes Act Errno)

/-- How arguments are read and used. -/
structure Style where
  /-- What stands between arguments, if that is not blanks and ends of lines. -/
  separator : Option Char := none
  /-- The argument that ends the input. -/
  last : Option Bytes := none
  /-- The text that an argument takes the place of. -/
  replaced : Option Bytes := none
  lines : Option Nat := none
  count : Option Nat := none
  size : Nat := 131072
  processes : Nat := 1
  needsInput : Bool := false
  shows : Bool := false
  asks : Bool := false
  exits : Bool := false
  file : Option Bytes := none

/-- The options of the tool. -/
def table : OptionTable where
  letters := OptionTable.ofLetters "0oprtx" "adEILnPs" ++ [('e', .optional), ('i', .optional),
    ('l', .optional)]
  words := [("arg-file", 'a', .required), ("delimiter", 'd', .required), ("eof", 'e', .optional),
    ("exit", 'x', .none), ("interactive", 'p', .none), ("max-args", 'n', .required),
    ("max-chars", 's', .required), ("max-lines", 'l', .optional), ("max-procs", 'P', .required),
    ("no-run-if-empty", 'r', .none), ("null", '0', .none), ("open-tty", 'o', .none),
    ("replace", 'i', .optional), ("verbose", 't', .none)]
  mixes := false

/-- The number that an option has. -/
def number (letter : Char) (text : Bytes) (least : Nat) : Tool Nat := do
  let option := "-" ++ String.singleton letter ++ " option"
  match intOf? text with
  | none => Tool.misused 1 ("invalid number \"" ++ text ++ "\" for " ++ option)
  | some n =>
    if n < least then
      Tool.misused 1 ("value " ++ text ++ " for " ++ option ++ " should be >= " ++ toString least)
    return n.toNat

/-- The character that a text of an option stands for. -/
def separatorOf (text : Bytes) : Tool Char := do
  match text.toList with
  | [c] => return c
  | '\\' :: rest =>
    match Echo.unescaped 10 ('\\' :: rest) with
    | ([c], _) => return c
    | _ => wrong text
  | _ => wrong text
where
  /-- Says that a text is not one character. -/
  wrong (text : Bytes) : Tool Char := do
    Tool.say ("Invalid input delimiter specification " ++ text ++ ": the delimiter must be " ++
      "either a single character or an escape sequence starting with \\.")
    Tool.stop 1

/-- Says that an option makes another one void. -/
def conflict (old new : Bytes) : Tool Unit :=
  Tool.say ("warning: options " ++ old ++ " and " ++ new ++
    " are mutually exclusive, ignoring previous " ++ old ++ " value")

/-- Changes the style by an option. -/
def Style.withOption (s : Style) (g : Given) : Tool Style := do
  let value := g.value.getD ""
  match g.letter with
  | '0' => return { s with separator := some '\x00' }
  | 'a' => return { s with file := g.value }
  | 'd' => return { s with separator := some (← separatorOf value) }
  | 'e' | 'E' => return { s with last := if value.isEmpty then none else some value }
  | 'I' | 'i' =>
    if s.count.isSome then conflict "--max-args" "--replace/-I/-i"
    if s.lines.isSome then conflict "--max-lines" "--replace/-I/-i"
    return { s with replaced := some (g.value.getD "\x7b\x7d"), count := none, lines := none }
  | 'l' | 'L' =>
    let n ← number g.letter (g.value.getD "1") 1
    let word := if g.letter == 'L' then "-L" else "--max-lines/-l"
    if s.count.isSome then conflict "--max-args" word
    if s.replaced.isSome then conflict "--replace" word
    return { s with lines := some n, count := none, replaced := none }
  | 'n' =>
    let n ← number 'n' value 1
    if s.lines.isSome then conflict "--max-lines" "--max-args/-n"
    if s.replaced.isSome && n != 1 then conflict "--replace" "--max-args/-n"
    let replaced := if n == 1 then s.replaced else none
    return { s with count := if replaced.isSome then none else some n, lines := none, replaced }
  | 'P' => return { s with processes := ← number 'P' value 0 }
  | 's' => return { s with size := min 131072 (← number 's' value 1) }
  | 'r' => return { s with needsInput := true }
  | 't' => return { s with shows := true }
  | 'p' => return { s with shows := true, asks := true }
  | 'x' => return { s with exits := true }
  | _ => return s

/-! ### Running -/

/-- What has come of the programs so far. -/
structure Progress where
  /-- The arguments for the next program, the last one first. -/
  args : List Bytes := []
  size : Nat := 0
  lines : Nat := 0
  running : Nat := 0
  runs : Nat := 0
  failed : Bool := false
  /-- The input is over because of an argument. -/
  ended : Bool := false

/-- A command: the program with its first arguments. -/
abbrev Command := List Bytes

/-- Judges how a program ended. -/
def judge (name : Bytes) (p : Progress) (status : Status) : Tool Progress := do
  match status with
  | .exited 255 => Tool.die 124 (name ++ ": exited with status 255; aborting")
  | .exited 126 | .exited 127 => return { p with failed := true, running := p.running - 1 }
  | .exited n => return { p with failed := p.failed || n != 0, running := p.running - 1 }
  | .killed signal =>
    Tool.die 125 (name ++ ": terminated by signal " ++ toString signal.toNat)

/-- Waits until no more than some programs are running. -/
def await (name : Bytes) (most : Nat) : (bound : Nat) → Progress → Tool Progress
  | 0, p => return p
  | bound + 1, p => do
    if p.running ≤ most then return p
    match ← Tool.act (Act.wait none true) with
    | .ok (_, status) => await name most bound (← judge name p status)
    | .error .interrupted => await name most bound p
    | .error _ => return { p with running := 0 }

/-- Whether there is a program to run. The result is why there is none. -/
def missing? (name : Bytes) : Tool (Option Errno) := do
  let dirs := ((Launch.valueOf? "PATH" (← get).env).getD Launch.usualPath).splitOn ":"
  let paths := if name.toList.contains '/' then [name]
    else dirs.map fun d => if d.isEmpty then name else d ++ "/" ++ name
  let look (path : Bytes) : Tool (Option Errno) := do
    match ← Tool.info path true with
    | .error e => return some e
    | .ok i =>
      return if i.kind == .regular && i.mode &&& 0o111 != 0 then none else some .permissionDenied
  let found ← paths.mapM look
  if found.contains none then return none
  else if found.contains (some .permissionDenied) then return some .permissionDenied
  else return found.getLast?.join

/-- Runs a command. -/
def launch (s : Style) (p : Progress) (command : Command) : Tool Progress := do
  let name := command.headD ""
  let p ← if s.processes == 0 then pure p else await name (s.processes - 1) 1000000 p
  if s.shows then
    Tool.writeErr (" ".intercalate (command.map Quoting.name) ++ (if s.asks then "" else "\n"))
  if s.asks then
    Tool.die 1 "failed to open /dev/tty for reading: No such device or address"
  if let some e ← missing? name then
    Tool.die (Launch.statusOf e) (name ++ ": " ++ e.text)
  Tool.flush
  let env := (← get).env
  let me := (← get).name
  let nothing : Act Unit := do
    if s.file.isNone then
      let _ ← Act.ask (.close 0)
      let _ ← Act.ask (.open_ "/dev/null" { reads := true } 0)
  let _ ← Tool.act (Launch.spawn command env nothing fun e =>
    me ++ ": " ++ name ++ ": " ++ e.text ++ "\n")
  return { p with running := p.running + 1, runs := p.runs + 1, args := [], size := 0, lines := 0 }

/-- Says what is wrong with the input, and ends the tool when the programs have ended. -/
def fail {α : Type} (p : Progress) (message : Bytes) : Tool α := do
  Tool.say message
  let _ ← await "" 0 1000000 p
  Tool.stop 1

/-- Says that a quote is open, after a program has run with the arguments before it. -/
def Style.unmatched {α : Type} (s : Style) (command : Command) (p : Progress) (quote : Char) :
    Tool α := do
  let kind := if quote == '"' then "double" else "single"
  let p ← if p.args.isEmpty || s.replaced.isSome then pure p
    else launch s p (command ++ p.args.reverse)
  fail p ("unmatched " ++ kind ++ " quote; by default quotes are special to xargs unless you " ++
    "use the -0 option")

/-- The size of the arguments of a command. -/
def sizeOf (args : List Bytes) : Nat := args.foldl (fun n a => n + a.length + 1) 0

/-- Uses an argument. -/
def Style.take (s : Style) (command : Command) (p : Progress) (arg : Bytes) : Tool Progress := do
  if p.ended || some arg == s.last then return { p with ended := true }
  match s.replaced with
  | some mark => launch s p (command.map fun w => w.replace mark arg)
  | none =>
    let size := arg.length + 1
    if s.size < sizeOf command + size then
      fail p "argument line too long"
    let p ← if s.size < sizeOf command + p.size + size then
        launch s p (command ++ p.args.reverse)
      else pure p
    let p := { p with args := arg :: p.args, size := p.size + size }
    if s.count == some p.args.length then launch s p (command ++ p.args.reverse) else return p

/-- Takes note of the end of a line. -/
def Style.endLine (s : Style) (command : Command) (p : Progress) : Tool Progress := do
  if s.lines.all (p.lines < ·) || p.args.isEmpty then return p
  else launch s p (command ++ p.args.reverse)

/-! ### Reading -/

/-- Where the reader is. -/
inductive State where
  | blank
  | plain
  | quoted (c : Char)
  | escaped
  deriving DecidableEq

/-- What has been read of an argument. -/
structure Reading where
  state : State := .blank
  /-- The characters so far, the last one first. -/
  word : List Char := []
  hasWord : Bool := false
  previous : Char := ' '

/-- Reads a character. -/
def Style.visit (s : Style) (command : Command) (r : Reading) (p : Progress) (c : Char) :
    Tool (Reading × Progress) := do
  let next : Reading := { previous := c }
  let word : Bytes := String.ofList r.word.reverse
  let push (state : State) : Tool (Reading × Progress) :=
    return ({ r with state, word := c :: r.word, hasWord := true, previous := c }, p)
  match s.separator with
  | some d =>
    if c == d then return (next, ← s.take command p word) else push .plain
  | none =>
    let isBlank := c == ' ' || c == '\t'
    match r.state with
    | .quoted q =>
      if c == '\n' then s.unmatched command p q
      else if c == q then return ({ r with state := .plain, hasWord := true, previous := c }, p)
      else push r.state
    | .escaped => push .plain
    | state =>
      if state == .blank && (isBlank || c == '\n' || c == '\x0B' || c == '\x0C' || c == '\r') then
        return ({ r with previous := c }, p)
      else if c == '\n' then
        let lines := if r.previous == ' ' || r.previous == '\t' then p.lines else p.lines + 1
        let p := { p with lines }
        if !r.hasWord then return (next, p)
        else return (next, ← s.endLine command (← s.take command p word))
      else if isBlank && s.replaced.isNone then return (next, ← s.take command p word)
      else if c == '\\' then return ({ r with state := .escaped, previous := c }, p)
      else if c == '"' || c == '\'' then
        return ({ r with state := .quoted c, previous := c }, p)
      else push .plain

/-- Reads block after block. -/
def Style.pump (s : Style) (command : Command) (fd : Nat) : (bound : Nat) → Reading → Progress →
    Tool (Reading × Progress)
  | 0, r, p => return (r, p)
  | bound + 1, r, p => do
    if p.ended then return (r, p)
    match ← Tool.readBlock fd with
    | .error .interrupted => s.pump command fd bound r p
    | .error _ | .ok "" => return (r, p)
    | .ok block =>
      let (r, p) ← block.toList.foldlM (fun (r, p) c => s.visit command r p c) (r, p)
      s.pump command fd bound r p

/-- Runs a program with the arguments of the input. -/
def run (args : List Bytes) : Tool Unit := do
  let (s, operands) ← Tool.options table args ({} : Style) Style.withOption
  let command := if operands.isEmpty then ["echo"] else operands
  let fd ← match s.file with
    | none => pure 0
    | some "-" => pure 0
    | some path =>
      match ← Tool.openInput path with
      | .ok fd => pure fd
      | .error e => Tool.die 1 ("Cannot open input file " ++ Quoting.plain path ++ ": " ++ e.text)
  let (r, p) ← s.pump command fd Tool.rounds {} {}
  match r.state with
  | .quoted q => s.unmatched command p q
  | _ => pure ()
  let p ← if r.hasWord && !p.ended then s.take command p (String.ofList r.word.reverse) else pure p
  let isDue := !p.args.isEmpty || (p.runs == 0 && !s.needsInput && s.replaced.isNone)
  let p ← if isDue then launch s p (command ++ p.args.reverse) else pure p
  let p ← await (command.headD "") 0 1000000 p
  if p.failed then Tool.setStatus 123

end Tilde.Utility.Xargs
