import Tilde.Utility.Input
import Tilde.Utility.Options
import Tilde.Utility.Sed.Script
import Tilde.Utility.Tool

/-!
# The stream editor

Reads lines one after the other, lets the commands of a script change each of them, and shows what
has become of it.
-/

namespace Tilde.Utility.Sed

open Unix (Bytes Act Errno)

/-- What the editor is told. -/
structure Style where
  scripts : List (Option Bytes × Bytes) := []
  quiet : Bool := false
  extended : Bool := false
  separate : Bool := false
  /-- Files are changed in place; the suffix is that of a copy of the old one. -/
  inPlace : Option Bytes := none
  ending : Char := '\n'
  width : Nat := 70

/-- Where a range of lines has come to. -/
inductive RangeState where
  | waiting
  /-- The range goes on; up to a line if that is known. -/
  | active (stop : Option Nat)
  | closed

/-- What is written behind a line when its commands are done. -/
inductive Queued where
  | text (s : Bytes)
  | file (path : Bytes)
  | lineOf (path : Bytes)

/-- Where the lines go. -/
inductive Target where
  | output
  | file (fd : Nat)
  deriving DecidableEq

/-- A running editor. -/
structure Editor where
  style : Style
  commands : Array Command
  labels : List (Bytes × Nat)
  /-- The files still to be read. -/
  paths : List Bytes
  /-- The file that is being read, and its name. -/
  source : Option Source := none
  path : Bytes := "-"
  /-- A line read ahead. -/
  ahead : Option Line := none
  lineNumber : Nat := 0
  pattern : Bytes := ""
  /-- The line had an end. -/
  ended : Bool := true
  hold : Bytes := ""
  changed : Bool := false
  queue : List Queued := []
  ranges : Std.HashMap Nat RangeState := {}
  lastPattern : Pattern := none
  /-- The files that are written, with their descriptors. -/
  files : List (Bytes × Nat) := []
  /-- The sources of single lines. -/
  lineSources : List (Bytes × Source) := []
  /-- The output goes to the file that is changed in place. -/
  target : Target := .output
  /-- What was written last to the output has no end of line. -/
  openEnds : List Target := []
  /-- The path of the file changed in place, and where its new text is. -/
  editing : Option (Bytes × Bytes) := none

/-- Acts of an editor. -/
abbrev Edit := StateT Editor Tool

namespace Edit

/-- Does something as a tool. -/
def tool {α : Type} (m : Tool α) : Edit α := StateT.lift m

/-! ### Output -/

/-- Writes to a target. -/
def put (t : Target) (text : Bytes) : Edit Unit :=
  match t with
  | .output => tool (Tool.put text)
  | .file fd => do
    let _ ← tool (Tool.act (Act.write fd text))

/-- Ends the last line written to a target if it has no end. -/
def closeLine (t : Target) : Edit Unit := do
  if (← get).openEnds.contains t then
    put t (String.singleton (← get).style.ending)
    modify fun s => { s with openEnds := s.openEnds.filter (· != t) }

/-- Writes a line. -/
def putLine (t : Target) (text : Bytes) (ended : Bool) : Edit Unit := do
  closeLine t
  let ending := (← get).style.ending
  put t (if ended then text.push ending else text)
  if !ended then modify fun s => { s with openEnds := t :: s.openEnds }

/-- Writes a text as it is. -/
def putText (t : Target) (text : Bytes) : Edit Unit := do
  closeLine t
  put t text

/-- The target of a file that a command writes to. -/
def targetOf (path : Bytes) : Edit Target := do
  if path == "/dev/stdout" then return (← get).target
  return .file (((← get).files.lookup path).getD 2)

/-- Shows the pattern space. -/
def showPattern : Edit Unit := do
  let s ← get
  putLine s.target s.pattern s.ended

/-! ### Input -/

/-- Ends the change of a file in place. -/
def finishFile : Edit Unit := do
  match (← get).editing with
  | none => return
  | some (path, temporary) =>
    match (← get).target with
    | .file fd =>
      let _ ← tool (Tool.ask (.close fd))
    | .output => pure ()
    match (← get).style.inPlace with
    | some suffix =>
      if !suffix.isEmpty then
        let _ ← tool (Tool.ask (.rename path (path ++ suffix)))
    | none => pure ()
    let _ ← tool (Tool.ask (.rename temporary path))
    modify fun s => { s with editing := none, target := .output }

/-- Opens the next file that can be read; whether there is one. -/
def openNext : (bound : Nat) → Edit Bool
  | 0 => return false
  | bound + 1 => do
    match (← get).paths with
    | [] => return false
    | path :: paths =>
      modify fun s => { s with paths }
      match ← tool (Tool.openInput path) with
      | .error e =>
        tool (Tool.say ("can't read " ++ path ++ ": " ++ e.text))
        tool (Tool.setStatus 2)
        openNext bound
      | .ok fd =>
        let style := (← get).style
        if style.inPlace.isSome && path != "-" then
          match ← tool (Tool.act (Act.info (.info path true))) with
          | .ok i =>
            if i.kind != .regular then
              tool (Tool.say ("couldn't edit " ++ path ++ ": not a regular file"))
              tool (Tool.setStatus 4)
              tool (Tool.closeInput fd)
              openNext bound
            else
              let temporary := path ++ ".sed.tmp"
              let how : Unix.OpenMode := { writes := true, creates := true, truncates := true }
              match ← tool (Tool.act (Act.number (.open_ temporary how i.mode))) with
              | .ok out =>
                modify fun s => { s with editing := some (path, temporary), target := .file out }
              | .error e =>
                tool (Tool.die 4 ("couldn't open temporary file " ++ temporary ++ ": " ++ e.text))
              modify fun s => { s with source := some { fd, ending := style.ending }, path }
              return true
          | .error _ => openNext bound
        else
          modify fun s => { s with source := some { fd, ending := style.ending }, path }
          return true

/-- Whether files are read one by one. -/
def isSeparate : Edit Bool := do
  let style := (← get).style
  return style.separate || style.inPlace.isSome

/-- Reads a line ahead if none is there. The flag says whether the next file may be opened. -/
def fill (crosses : Bool) : (bound : Nat) → Edit Unit
  | 0 => return
  | bound + 1 => do
    if (← get).ahead.isSome then return
    match (← get).source with
    | none =>
      if crosses then
        if ← openNext Tool.rounds then fill crosses bound
    | some source =>
      let (l, source) ← tool (Tool.line source)
      match source.error with
      | some e =>
        tool (Tool.say ("read error on " ++ (← get).path ++ ": " ++ e.text))
        tool (Tool.stop 4)
      | none => pure ()
      match l with
      | some l => modify fun s => { s with ahead := some l, source := some source }
      | none =>
        if !crosses && (← isSeparate) then
          modify fun s => { s with source := some source }
        else
          tool (Tool.closeInput source.fd)
          finishFile
          modify fun s => { s with source := none }
          fill crosses bound

/-- Whether the line is the last one. -/
def isLast : Edit Bool := do
  let separate ← isSeparate
  fill (!separate) Tool.rounds
  return (← get).ahead.isNone

/-- Reads the next line; whether there is one. -/
def readNext : Edit (Option Line) := do
  fill true Tool.rounds
  let s ← get
  match s.ahead with
  | none => return none
  | some l =>
    set { s with ahead := none, lineNumber := s.lineNumber + 1 }
    return some l

/-! ### Addresses -/

/-- The searcher of a pattern, which becomes the one used last. -/
def searcher (p : Pattern) : Edit Regex.Searcher := do
  match p with
  | some r =>
    modify fun s => { s with lastPattern := some r }
    return r
  | none =>
    match (← get).lastPattern with
    | some r => return r
    | none => do
      tool (Tool.say "-e expression #1, char 0: no previous regular expression")
      tool (Tool.stop 1)

/-- Whether an address is that of the line. -/
def fits (a : Address) : Edit Bool := do
  let n := (← get).lineNumber
  match a with
  | .line k => return n == k
  | .every first step => return first ≤ n && (n - first) % step == 0
  | .last => isLast
  | .matching p =>
    let r ← searcher p
    return r.matches (← get).pattern.toList.toArray
  | .after _ | .multiple _ => return false

/-- The line that a range ends with, if that can be told when it begins. -/
def rangeEnd (second : Address) (n : Nat) : Option Nat :=
  match second with
  | .line k => some k
  | .after k => some (n + k)
  | .multiple k => some (if k == 0 then n else (n + k - 1) / k * k)
  | _ => none

/-- Begins a range; whether its first line is all of it. -/
def beginRange (i : Nat) (second : Address) : Edit Unit := do
  let n := (← get).lineNumber
  let stop := rangeEnd second n
  let state : RangeState := if stop.any (· ≤ n) then .closed else .active stop
  modify fun s => { s with ranges := s.ranges.insert i state }

/-- Whether the line is in the range of a command. -/
def inRange (i : Nat) (first second : Address) : Edit Bool := do
  let n := (← get).lineNumber
  let close : Edit Unit := modify fun s => { s with ranges := s.ranges.insert i .closed }
  let start : Edit Bool := do
    let isOnce := match first, ((← get).ranges[i]?).getD .waiting with
      | .line _, .closed => true
      | _, _ => false
    if isOnce then return false
    if ← fits first then
      beginRange i second
      return true
    return false
  match ((← get).ranges[i]?).getD .waiting with
  | .active (some stop) =>
    if n < stop then return true
    close
    if n == stop then return true
    match first with
    | .line _ => return false
    | _ => start
  | .active none =>
    if ← fits second then close
    return true
  | .waiting =>
    match first with
    | .line 0 =>
      -- The range begins before the first line.
      modify fun s => { s with ranges := s.ranges.insert i (.active none) }
      if ← fits second then close
      return true
    | _ => start
  | .closed => start

/-- Whether a command is for the line. -/
def isFor (i : Nat) (c : Command) : Edit Bool := do
  let found ← match c.first, c.second with
    | none, _ => pure true
    | some a, none => fits a
    | some a, some b => inRange i a b
  return found != c.negated

/-! ### Commands -/

/-- How letters are changed: until further notice, and the next one. -/
structure Casing where
  all : Option CaseChange := none
  next : Option CaseChange := none

/-- Adds a text with changed letters. -/
def Casing.add (k : Casing) (out : String) (text : List Char) : Casing × String :=
  text.foldl (fun (k, out) c =>
    let c' := match k.next, k.all with
      | some .upperNext, _ => c.toUpper
      | some .lowerNext, _ => c.toLower
      | _, some .upper => c.toUpper
      | _, some .lower => c.toLower
      | _, _ => c
    ({ k with next := none }, out.push c')) (k, out)

/-- Adds a replacement. -/
def expandPieces (text : Array Char) (m : Regex.Match) (pieces : List Piece) (out : String) :
    String :=
  (pieces.foldl (fun (k, out) p =>
    match p with
    | .text s => Casing.add k out s.toList
    | .group n =>
      match m.group? n with
      | some (a, b) => k.add out (text.extract a b).toList
      | none => (k, out)
    | .case_ .stop => ({}, out)
    | .case_ .upper => ({ k with all := some .upper }, out)
    | .case_ .lower => ({ k with all := some .lower }, out)
    | .case_ c => ({ k with next := some c }, out)) (({} : Casing), out)).2

/-- The text with its matches replaced, and whether there were any. `found` are the matches seen,
and `stop` is where the last of them ended. -/
def replaceIn (s : Substitution) (r : Regex.Searcher) (text : Array Char) : (bound : Nat) →
    (from_ found : Nat) → (stop : Option Nat) → (out : String) → (done : Bool) → String × Bool
  | 0, _, _, _, out, done => (out, done)
  | bound + 1, from_, found, stop, out, done =>
    let piece (a b : Nat) : String := String.ofList (text.extract a b).toList
    let rest : String := piece from_ text.size
    match r.find? text from_ false with
    | none => (out ++ rest, done)
    | some m =>
      if m.start == m.stop && stop == some m.start then
        -- An empty match where the last one ended does not count.
        if text.size ≤ m.start then (out ++ rest, done)
        else replaceIn s r text bound (m.start + 1) found none
          (out ++ piece from_ (m.start + 1)) done
      else
        let found := found + 1
        let before := out ++ piece from_ m.start
        let isMeant := s.which ≤ found
        let out := if isMeant then expandPieces text m s.pieces before
          else before ++ piece m.start m.stop
        if isMeant && !s.all then (out ++ piece m.stop text.size, true)
        else if m.start == m.stop then
          if text.size ≤ m.start then (out, done || isMeant)
          else replaceIn s r text bound (m.start + 1) found none
            (out ++ piece m.start (m.start + 1)) (done || isMeant)
        else replaceIn s r text bound m.stop found (some m.stop) out (done || isMeant)

/-- A character of a line shown without ambiguity. -/
def listed (c : Char) : String :=
  match c with
  | '\\' => "\\\\"
  | '\x07' => "\\a"
  | '\x08' => "\\b"
  | '\x0C' => "\\f"
  | '\n' => "\\n"
  | '\r' => "\\r"
  | '\t' => "\\t"
  | '\x0B' => "\\v"
  | c => if isShown c then String.singleton c else "\\" ++ octal c.toNat

/-- A line shown without ambiguity, broken where it gets too wide. -/
def listing (width : Nat) (text : Bytes) : Bytes :=
  let (out, _) := text.foldl (fun (out, column) c =>
    let part := listed c
    if 1 < width && width - 1 < column + part.length then (out ++ "\\\n" ++ part, part.length)
    else (out ++ part, column + part.length)) (("" : String), 0)
  out ++ "$\n"

/-- The first line of a text. -/
def firstLine (text : Bytes) : Bytes := (text.takeWhile (· != '\n')).toString

/-- What comes after a command. -/
inductive After where
  | go (next : Nat)
  /-- The end of the script. -/
  | endCycle
  /-- The end of the script, without showing the line. -/
  | drop
  /-- The script once more, without reading a line. -/
  | again
  | quit (status : Nat) (shows : Bool)

/-- Writes what has been queued. -/
def flushQueue : Edit Unit := do
  let s ← get
  set { s with queue := [] }
  s.queue.forM fun q => do
    match q with
    | .text t => putText s.target t
    | .file path =>
      if path == "/dev/stdin" then
        match ← tool (Tool.readAll 0) with
        | .ok text => putText s.target text
        | .error _ => pure ()
      else match ← tool (Tool.openInput (if path == "-" then "./-" else path)) with
        | .error _ => pure ()
        | .ok fd =>
          let text ← tool (Tool.readAll fd)
          tool (Tool.closeInput fd)
          match text with
          | .ok "" | .error _ => pure ()
          | .ok text => putText s.target text
    | .lineOf path =>
      let known := (← get).lineSources.lookup path
      let source ← match known with
        | some source => pure (some source)
        | none =>
          match ← tool (Tool.openInput path) with
          | .ok fd => pure (some { fd })
          | .error _ => pure none
      match source with
      | none => pure ()
      | some source =>
        let (l, source) ← tool (Tool.line source)
        modify fun s => { s with
          lineSources := (path, source) :: s.lineSources.filter (·.1 != path) }
        match l with
        | some l => putLine s.target l.text true
        | none => pure ()

/-- Ends the work on a line. -/
def endLine (shows : Bool) : Edit Unit := do
  if shows && !(← get).style.quiet then showPattern
  flushQueue

/-- Goes to a label. -/
def goTo (label : Option Bytes) : Edit After := do
  match label with
  | none => return .endCycle
  | some name => return .go (((← get).labels.lookup name).getD 0)

/-- Substitutes. -/
def substitute (c : Substitution) : Edit Unit := do
  let r ← searcher c.pattern
  let text := (← get).pattern.toList.toArray
  let (out, done) := replaceIn c r text (2 * text.size + 4) 0 0 none "" false
  if done then
    modify fun s => { s with pattern := out, changed := true }
    if c.prints then showPattern
    match c.file with
    | some path => putLine (← targetOf path) (← get).pattern (← get).ended
    | none => pure ()

/-- Carries an action out. `i` is the number of the command. -/
def perform (i : Nat) (c : Command) : Edit After := do
  let next : After := .go (i + 1)
  let queue (q : Queued) : Edit After := do
    modify fun s => { s with queue := s.queue ++ [q] }
    return next
  let s ← get
  match c.action with
  | .block _ | .nothing | .label _ => return next
  | .append text => queue (.text text)
  | .readFile path => queue (.file path)
  | .readLine path => queue (.lineOf path)
  | .insert text =>
    putText s.target text
    return next
  | .change text =>
    let isInside := match c.second, s.ranges[i]? with
      | some _, some (.active _) => !c.negated
      | _, _ => false
    if !isInside then putText s.target text
    return .drop
  | .jump label => goTo label
  | .jumpIfChanged label =>
    if !s.changed then return next
    set { s with changed := false }
    goTo label
  | .jumpIfUnchanged label =>
    if !s.changed then goTo label
    else
      set { s with changed := false }
      return next
  | .delete => return .drop
  | .deleteLine =>
    if !s.pattern.toList.contains '\n' then return .drop
    set { s with pattern := (s.pattern.drop ((firstLine s.pattern).length + 1)).toString }
    return .again
  | .fileName =>
    putText s.target (s.path ++ "\n")
    return next
  | .number =>
    putText s.target (toString s.lineNumber ++ "\n")
    return next
  | .getHold =>
    set { s with pattern := s.hold }
    return next
  | .appendHold =>
    set { s with pattern := s.pattern ++ "\n" ++ s.hold }
    return next
  | .hold =>
    set { s with hold := s.pattern }
    return next
  | .holdMore =>
    set { s with hold := s.hold ++ "\n" ++ s.pattern }
    return next
  | .exchange =>
    set { s with hold := s.pattern, pattern := s.hold }
    return next
  | .list width =>
    putText s.target (listing (width.getD s.style.width) s.pattern)
    return next
  | .next =>
    if ← isLast then
      if (← get).paths.isEmpty || !(← isSeparate) then return .quit 0 true
    if !(← get).style.quiet then showPattern
    flushQueue
    match ← readNext with
    | some l =>
      modify fun s => { s with pattern := l.text, ended := l.ended }
      return next
    | none => return .quit 0 false
  | .appendNext =>
    if ← isLast then
      if (← get).paths.isEmpty || !(← isSeparate) then return .quit 0 true
    flushQueue
    match ← readNext with
    | some l =>
      modify fun s => { s with pattern := s.pattern ++ "\n" ++ l.text, ended := l.ended }
      return next
    | none => return .quit 0 true
  | .print =>
    showPattern
    return next
  | .printLine =>
    putLine s.target (firstLine s.pattern) true
    return next
  | .quit status => return .quit status true
  | .quitQuietly status => return .quit status false
  | .substitute c =>
    substitute c
    return next
  | .write path =>
    putLine (← targetOf path) s.pattern s.ended
    return next
  | .writeLine path =>
    putLine (← targetOf path) (firstLine s.pattern) true
    return next
  | .translate pairs =>
    set { s with pattern := s.pattern.map fun c => (pairs.lookup c).getD c }
    return next
  | .zap =>
    set { s with pattern := "" }
    return next

/-- Runs the commands from one on. -/
def runFrom : (bound : Nat) → (i : Nat) → Edit After
  | 0, _ => return .endCycle
  | bound + 1, i => do
    match (← get).commands[i]? with
    | none => return .endCycle
    | some c =>
      if ← isFor i c then
        match ← perform i c with
        | .go next => runFrom bound next
        | other => return other
      else match c.action with
        | .block stop => runFrom bound (stop + 1)
        | _ => runFrom bound (i + 1)

/-- Puts the place of the input back to the end of the lines that were used. -/
def giveBack : Edit Unit := do
  match (← get).source with
  | none => return
  | some source =>
    let source := match (← get).ahead with
      | some l => { source with ready := l.text :: source.ready }
      | none => source
    tool (Tool.giveBack source)

/-- Copies the rest of a file that is changed in place. -/
def copyRest : (bound : Nat) → Edit Unit
  | 0 => return
  | bound + 1 => do
    if (← get).editing.isNone then return
    fill false Tool.rounds
    match (← get).ahead with
    | none => finishFile
    | some l =>
      modify fun s => { s with ahead := none }
      putLine (← get).target l.text l.ended
      copyRest bound

/-- Runs the script for all lines. The flag says that the line is there already. -/
def cycles : (bound : Nat) → (isThere : Bool) → Edit Unit
  | 0, _ => return
  | bound + 1, isThere => do
    if !isThere then
      match ← readNext with
      | none => return
      | some l =>
        modify fun s => { s with pattern := l.text, ended := l.ended, changed := false }
    match ← runFrom Tool.rounds 0 with
    | .go _ | .endCycle =>
      endLine true
      cycles bound false
    | .drop =>
      endLine false
      cycles bound false
    | .again =>
      flushQueue
      cycles bound true
    | .quit status shows =>
      if shows then endLine true
      giveBack
      copyRest Tool.rounds
      tool (Tool.setStatus status)

end Edit

/-! ### Starting -/

/-- The options of the tool. -/
def table : OptionTable where
  letters := OptionTable.ofLetters "nErsuz" "efl" ++ [('i', .optional)]
  words := [("quiet", 'n', .none), ("silent", 'n', .none), ("expression", 'e', .required),
    ("file", 'f', .required), ("regexp-extended", 'E', .none), ("in-place", 'i', .optional),
    ("line-length", 'l', .required), ("null-data", 'z', .none), ("zero-terminated", 'z', .none),
    ("separate", 's', .none), ("unbuffered", 'u', .none), ("posix", 'u', .none),
    ("debug", 'u', .none), ("sandbox", 'u', .none), ("follow-symlinks", 'u', .none)]
  usage := "Usage: sed [OPTION]... \x7bscript-only-if-no-other-script\x7d [input-file]...\n\n"

/-- The style with an option. -/
def Style.withOption (s : Style) (g : Given) : Tool Style := do
  let text := g.value.getD ""
  match g.letter with
  | 'n' => return { s with quiet := true }
  | 'E' | 'r' => return { s with extended := true }
  | 's' => return { s with separate := true }
  | 'z' => return { s with ending := '\x00' }
  | 'i' => return { s with inPlace := some text }
  | 'e' => return { s with scripts := s.scripts ++ [(none, text)] }
  | 'f' =>
    match ← Tool.openInput text with
    | .error e => Tool.die 1 ("couldn't open file " ++ text ++ ": " ++ e.text)
    | .ok fd =>
      let script := (← Tool.readAll fd).toOption.getD ""
      Tool.closeInput fd
      let script := if script.endsWith "\n" then (script.dropEnd 1).toString else script
      return { s with scripts := s.scripts ++ [(some text, script)] }
  | 'l' =>
    match natOf? text with
    | some width => return { s with width }
    | none => Tool.die 1 ("invalid line length: " ++ text)
  | _ => return s

/-- Where in the scripts a place is: what a message says of it. -/
def placeOf (scripts : List (Option Bytes × Bytes)) (used : Nat) : Bytes :=
  locate 1 used scripts
where
  locate (n used : Nat) : List (Option Bytes × Bytes) → Bytes
    | [] => "-e expression #" ++ toString n ++ ", char " ++ toString used
    | (file, text) :: rest =>
      if text.length < used && !rest.isEmpty then
        locate (if file.isNone then n + 1 else n) (used - text.length - 1) rest
      else match file with
        | none => "-e expression #" ++ toString n ++ ", char " ++ toString used
        | some path =>
          let lines := ((text.take used).toString.splitOn "\n").length
          "file " ++ path ++ " line " ++ toString lines

/-- The labels of jumps. -/
def Action.target? : Action → Option Bytes
  | .jump l | .jumpIfChanged l | .jumpIfUnchanged l => l
  | _ => none

/-- The files that commands write to. -/
def Action.output? : Action → Option Bytes
  | .write path | .writeLine path => some path
  | .substitute s => s.file
  | _ => none

/-- Opens the files that commands write to. -/
def openOutputs (commands : Array Command) : Tool (List (Bytes × Nat)) := do
  let paths := (commands.toList.filterMap fun c => c.action.output?).eraseDups
  let paths := paths.filter fun p => p != "/dev/stdout" && p != "/dev/stderr"
  paths.mapM fun path => do
    let how : Unix.OpenMode := { writes := true, creates := true, truncates := true }
    match ← Tool.act (Act.number (.open_ path how 0o666)) with
    | .ok fd => return (path, fd)
    | .error e => Tool.die 4 ("couldn't open file " ++ path ++ ": " ++ e.text)

/-- Runs the stream editor. -/
def run (args : List Bytes) : Tool Unit := do
  let (s, operands) ← Tool.options table args ({} : Style) Style.withOption
  let (s, paths) ← match s.scripts, operands with
    | [], script :: paths => pure ({ s with scripts := [(none, script)] }, paths)
    | [], [] =>
      Tool.writeErr table.usage
      Tool.stop 1
    | _, paths => pure (s, paths)
  let text := "\n".intercalate (s.scripts.map (·.2))
  let (result, cursor) :=
    (Read.commands { extended := s.extended } (text.length + 1)).run { rest := text.toList }
  match result with
  | .error message =>
    if message == (Regex.Error.message .classOutside) then Tool.die 1 message
    Tool.die 1 (placeOf s.scripts cursor.used ++ ": " ++ message)
  | .ok () => pure ()
  if !cursor.open_.isEmpty then
    Tool.die 1 (placeOf (s.scripts.take 1) 0 ++ ": unmatched \x60\x7b'")
  let labels := cursor.commands.toList.zipIdx.filterMap fun (c, i) => match c.action with
    | .label name => some (name, i)
    | _ => none
  let missing := (cursor.commands.toList.filterMap (·.action.target?)).find? fun l =>
    (labels.lookup l).isNone
  match missing with
  | some l => Tool.die 4 ("can't find label for jump to \x60" ++ l ++ "'")
  | none => pure ()
  let files ← openOutputs cursor.commands
  let editor : Editor :=
    { style := { s with quiet := s.quiet || cursor.quiet }, commands := cursor.commands, labels
      paths := Tool.inputs paths, files }
  let _ ← (Edit.cycles Tool.rounds false).run editor

end Tilde.Utility.Sed
