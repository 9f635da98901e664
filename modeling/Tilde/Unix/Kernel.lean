import Tilde.Unix.Course

/-!
# The system

The system holds the files, the pipes and the processes, and answers what processes ask. One process
runs at a time: the first of those that are ready, until it has to wait or its turn is over. A
process that waits is asked again whenever the others have come to a stop. When all of them wait,
time goes on to the next moment at which one of them may go on.

Each call takes a microsecond, so a process that never waits uses up time as well.

The system serves the commands that the command line runs on a platform; no theorem speaks of it.
-/

namespace Tilde.Unix

/-- What a descriptor stands for. -/
inductive Target where
  | file (number : Nat)
  | pipe (id : Nat) (writes : Bool)
  | device (d : Device)
  /-- The input of the system itself. -/
  | input
  /-- A stream of the system itself. -/
  | output (s : Stream)
  deriving DecidableEq

/-- Something opened, which several descriptors may share. -/
structure Opened where
  target : Target
  reads : Bool
  writes : Bool
  appends : Bool := false
  place : Nat := 0

/-- A descriptor of a process: what it has opened, and whether it is closed when another program
takes over. -/
structure Descriptor where
  opened : Nat
  closes : Bool := false

/-- A process. -/
structure Proc where
  pid : Nat
  parent : Nat
  course : Course
  fds : List (Nat × Descriptor) := []
  cwd : Nat := Files.root
  umask : Nat := 0o022
  actions : List (Nat × SignalAction) := []
  /-- The signals noted. -/
  noted : List Nat := []
  /-- A signal has come while the process waited. -/
  interrupted : Bool := false
  /-- When the process has slept enough. -/
  wakes : Option Nat := none
  /-- When the process gets the signal that it asked for. -/
  alarm : Option Nat := none

/-- A pipe: what is in it, and whether somebody has opened it to write. -/
structure Pipe where
  content : Bytes := ""
  fed : Bool := true

/-- The state of the system. -/
structure Kernel where
  files : Files
  opened : Std.HashMap Nat Opened := {}
  pipes : Std.HashMap Nat Pipe := {}
  ready : List Proc := []
  waiting : List Proc := []
  /-- The processes that have ended and that their parents have not asked about, with the parent. -/
  ended : List (Nat × Nat × Status) := []
  nextPid : Nat := 4242
  nextId : Nat := 0
  clock : Nat := beginning
  /-- The calls left in the turn of the running process. -/
  turn : Nat := 20000
  input : Bytes := ""
  /-- What was written, the last piece first. -/
  output : List (Stream × Bytes) := []

/-- What comes of a call. -/
inductive Outcome where
  | reply (r : Reply) (p : Proc) (k : Kernel)
  | waits (p : Proc)
  | ends (status : Status) (p : Proc) (k : Kernel)
  | becomes (p : Proc) (k : Kernel)

/-- How much a pipe holds. -/
def pipeSize : Nat := 65536

/-- The number of bytes that an argument of a program has to stay below. -/
def argumentLimit : Nat := 131072

/-- The signals that do nothing to a process that has not asked for them. -/
def isHarmless (signal : Nat) : Bool := [0, 17, 18, 19, 20, 21, 22, 23, 28].contains signal

namespace Proc

/-- What the process does about a signal. -/
def action (p : Proc) (signal : Nat) : SignalAction :=
  if signal == 9 then .usual else (p.actions.lookup signal).getD .usual

/-- The least descriptor from `least` on that is free. -/
def freeFd (p : Proc) (least : Nat) : (bound : Nat) → Nat
  | 0 => least
  | bound + 1 => if (p.fds.lookup least).isSome then p.freeFd (least + 1) bound else least

/-- Sets a descriptor. -/
def setFd (p : Proc) (fd : Nat) (d : Descriptor) : Proc :=
  { p with fds := (fd, d) :: p.fds.filter (·.1 != fd) }

/-- A process after a signal; none if it ends by it. -/
def receive (p : Proc) (signal : Nat) : Option Proc :=
  match p.action signal with
  | .ignore => some p
  | .note => some { p with
      noted := if p.noted.contains signal then p.noted else p.noted ++ [signal]
      interrupted := true }
  | .usual => if isHarmless signal then some p else none

end Proc

namespace Kernel

/-- What a descriptor of a process has opened. -/
def opened? (k : Kernel) (p : Proc) (fd : Nat) : Option (Nat × Opened) := do
  let d ← p.fds.lookup fd
  return (d.opened, ← k.opened[d.opened]?)

/-- Whether a process other than the running one has opened something of a kind. -/
def othersHold (k : Kernel) (p : Target → Bool) : Bool :=
  let holds (q : Proc) : Bool := q.fds.any fun (_, d) => (k.opened[d.opened]?).any (p ·.target)
  k.ready.any holds || k.waiting.any holds

/-- Whether some process has opened an end of a pipe. -/
def holdsEnd (k : Kernel) (p : Proc) (id : Nat) (writes : Bool) : Bool :=
  let isEnd (t : Target) : Bool := t == .pipe id writes
  p.fds.any (fun (_, d) => (k.opened[d.opened]?).any (isEnd ·.target)) || k.othersHold isEnd

/-- Adds something opened. -/
def addOpened (k : Kernel) (o : Opened) : Nat × Kernel :=
  (k.nextId, { k with opened := k.opened.insert k.nextId o, nextId := k.nextId + 1 })

/-- Opens something under the least free descriptor. -/
def give (k : Kernel) (p : Proc) (o : Opened) : Outcome :=
  let (id, k) := k.addOpened o
  let fd := p.freeFd 0 1024
  .reply (.number fd) (p.setFd fd ⟨id, false⟩) k

/-- Moves the place of something opened. -/
def moveTo (k : Kernel) (id : Nat) (o : Opened) (place : Nat) : Kernel :=
  { k with opened := k.opened.insert id { o with place } }

/-- Does something to the files that may fail. -/
def change (k : Kernel) (p : Proc) (f : Except Errno Files) : Outcome :=
  match f with
  | .ok files => .reply .done p { k with files }
  | .error e => .reply (.failed e) p k

/-! ### Opening -/

/-- The number of the file at a place where one is made if there is none, and whether it was there.
-/
def created (k : Kernel) (p : Proc) (path : Bytes) (mode : Nat) : (bound : Nat) →
    Except Errno (Nat × Bool × Kernel)
  | 0 => .error .tooManyLinks
  | bound + 1 =>
    if path.endsWith "/" then do
      let _ ← k.files.place p.cwd path
      throw .isDirectory
    else match k.files.locate p.cwd path with
    | .ok file => .ok (file, true, k)
    | .error .notFound => do
      let (dir, name) ← k.files.place p.cwd path
      match ((k.files.entries? dir).getD []).lookup name with
      | some link =>
        match k.files.content? link with
        | some (.link target) =>
          let there := if target.startsWith "/" then target
            else k.files.pathOf dir ++ "/" ++ target
          k.created p there mode bound
        | _ => throw .notFound
      | none =>
        let (file, files) := k.files.make dir name
          { content := .file "", mode := mode &&& (0o777 ^^^ p.umask), modified := k.clock }
        return (file, false, { k with files })
    | .error e => .error e

/-- Opens a file. -/
def openFile (k : Kernel) (p : Proc) (path : Bytes) (how : OpenMode) (mode : Nat) : Outcome :=
  let found := if how.creates then k.created p path mode Files.linkLimit
    else (k.files.locate p.cwd path).map (·, true, k)
  match found with
  | .error e => .reply (.failed e) p k
  | .ok (file, wasThere, k) =>
    if how.exclusive && wasThere then .reply (.failed .exists_) p k
    else
      let opened (target : Target) : Opened := ⟨target, how.reads, how.writes, how.appends, 0⟩
      match k.files.content? file with
      | none => .reply (.failed .notFound) p k
      | some (.dir ..) =>
        if how.writes then .reply (.failed .isDirectory) p k else k.give p (opened (.file file))
      | some (.device .terminal) => .reply (.failed .noDevice) p k
      | some (.device (.descriptor fd)) =>
        match k.opened? p fd with
        | none => .reply (.failed .notFound) p k
        | some (id, o) =>
          match o.target with
          | .file n =>
            let k := if how.truncates then
              { k with files := k.files.modify n fun i => { i with content := .file "" } } else k
            k.give p { opened (.file n) with place := if how.reads then 0 else o.place }
          | _ =>
            let fd := p.freeFd 0 1024
            .reply (.number fd) (p.setFd fd ⟨id, false⟩) k
      | some (.device d) => k.give p (opened (.device d))
      | some (.pipe id) =>
        let k := if how.writes then
          { k with pipes := k.pipes.insert id { (k.pipes[id]?).getD {} with fed := true } } else k
        k.give p (opened (.pipe id how.writes))
      | some _ =>
        let k := if how.truncates then
          { k with files := k.files.modify file fun i =>
              { i with content := .file "", modified := k.clock } }
          else k
        k.give p (opened (.file file))

/-! ### Reading and writing -/

/-- The first `n` bytes, and the rest. -/
def splitAt (s : Bytes) (n : Nat) : Bytes × Bytes := ((s.take n).toString, (s.drop n).toString)

/-- The bytes up to the first `ending` and with it. -/
def lineOf (s : Bytes) (ending : Char) : Nat :=
  let line := (s.takeWhile (· != ending)).toString.length
  line + 1

/-- Reads from what a descriptor stands for. `amount` says how much of what there is is read. -/
def readFrom (k : Kernel) (p : Proc) (fd : Nat) (amount : Bytes → Nat) (count : Nat) : Outcome :=
  match k.opened? p fd with
  | none => .reply (.failed .badDescriptor) p k
  | some (id, o) =>
    if !o.reads then .reply (.failed .badDescriptor) p k
    else match o.target with
      | .file n =>
        match k.files.content? n with
        | some (.file text) =>
          let rest := if o.place == 0 then text else (text.drop o.place).toString
          let got := (splitAt rest (amount rest)).1
          .reply (.text got) p (k.moveTo id o (o.place + got.length))
        | some (.dir ..) => .reply (.failed .isDirectory) p k
        | _ => .reply (.text "") p k
      | .pipe pipe _ =>
        let q := (k.pipes[pipe]?).getD {}
        if q.content.isEmpty then
          if q.fed && !k.holdsEnd p pipe true then .reply (.text "") p k else .waits p
        else
          let n := amount q.content
          if q.content.length < n && count == 0 && k.holdsEnd p pipe true then .waits p
          else
            let (got, rest) := splitAt q.content n
            .reply (.text got) p { k with pipes := k.pipes.insert pipe { q with content := rest } }
      | .device .zero | .device .random | .device .full =>
        .reply (.text ("".pushn '\x00' (if count == 0 then 1 else count))) p k
      | .device _ => .reply (.text "") p k
      | .input =>
        let (got, rest) := splitAt k.input (amount k.input)
        .reply (.text got) p { k with input := rest }
      | .output _ => .reply (.failed .badDescriptor) p k

/-- A text with another one in it from a place on. -/
def overwritten (old : Bytes) (place : Nat) (new : Bytes) : Bytes :=
  let size := old.length
  if place == size then old ++ new
  else
    let front := if size < place then old.pushn '\x00' (place - size) else (old.take place).toString
    front ++ new ++ (old.drop (place + new.length)).toString

/-- What a write into a pipe that nobody reads does. -/
def brokenPipe (k : Kernel) (p : Proc) : Outcome :=
  match p.receive 13 with
  | none => .ends (.killed 13) p k
  | some p => .reply (.failed .brokenPipe) p k

/-- Writes to what a descriptor stands for. -/
def writeTo (k : Kernel) (p : Proc) (fd : Nat) (s : Bytes) : Outcome :=
  match k.opened? p fd with
  | none => .reply (.failed .badDescriptor) p k
  | some (id, o) =>
    if !o.writes then .reply (.failed .badDescriptor) p k
    else match o.target with
      | .file n =>
        match k.files.content? n with
        | some (.file old) =>
          let place := if o.appends then old.length else o.place
          let files := k.files.modify n fun i =>
            { i with content := .file (overwritten old place s), modified := k.clock }
          .reply (.number s.length) p ({ k with files }.moveTo id o (place + s.length))
        | _ => .reply (.failed .badDescriptor) p k
      | .pipe pipe _ =>
        if !k.holdsEnd p pipe false then k.brokenPipe p
        else
          let q := (k.pipes[pipe]?).getD {}
          let size := q.content.length
          if size != 0 && pipeSize < size + s.length then .waits p
          else .reply (.number s.length) p
            { k with pipes := k.pipes.insert pipe { q with content := q.content ++ s } }
      | .device .full => .reply (.failed .noSpace) p k
      | .device _ => .reply (.number s.length) p k
      | .input => .reply (.failed .badDescriptor) p k
      | .output stream => .reply (.number s.length) p { k with output := (stream, s) :: k.output }

/-! ### Files -/

/-- The kind of a file. -/
def kindOf : Content → FileKind
  | .file _ | .program _ => .regular
  | .dir .. => .directory
  | .link _ => .link
  | .device _ => .characterDevice
  | .pipe _ => .pipe

/-- What the system tells about a file. -/
def infoOfFile (k : Kernel) (file : Nat) : Reply :=
  match k.files.inodes[file]? with
  | none => .failed .notFound
  | some i =>
    let size := match i.content with
      | .file text => text.length
      | .link target => target.length
      | .dir .. => 4096
      | .program _ => 100000
      | _ => 0
    .info ⟨file, kindOf i.content, i.mode, size, i.modified, k.files.nameCount file⟩

/-- What the system tells about what a descriptor stands for. -/
def infoOfOpened (k : Kernel) (o : Opened) : Reply :=
  match o.target with
  | .file n => k.infoOfFile n
  | .device _ => .info ⟨0, .characterDevice, 0o666, 0, k.clock, 1⟩
  | _ => .info ⟨0, .pipe, 0o600, 0, k.clock, 1⟩

/-- Makes a file of some kind with a new name. -/
def makeNew (k : Kernel) (p : Proc) (path : Bytes) (i : Inode) : Except Errno Files := do
  let (dir, name) ← k.files.place p.cwd path
  if name == "" || name == "." || name == ".." then throw .exists_
  if (((k.files.entries? dir).getD []).lookup name).isSome then throw .exists_
  return (k.files.make dir name { i with modified := k.clock }).2

/-- Takes a name away from a file that is no directory. -/
def unlinked (k : Kernel) (p : Proc) (path : Bytes) : Except Errno Files := do
  let file ← k.files.locateOr false p.cwd path
  if (k.files.entries? file).isSome then throw .isDirectory
  let (dir, name) ← k.files.place p.cwd path
  return k.files.dropName dir name

/-- Removes an empty directory. -/
def dirRemoved (k : Kernel) (p : Proc) (path : Bytes) : Except Errno Files := do
  let file ← k.files.locateOr false p.cwd path
  let (dir, name) ← k.files.place p.cwd path
  if name == "." then throw .invalid
  match k.files.entries? file with
  | none => throw .notDirectory
  | some [] => return k.files.dropName dir name
  | some _ => throw .notEmpty

/-- Gives a file a new name in place of an old one. -/
def renamed (k : Kernel) (p : Proc) (old new : Bytes) : Except Errno Files := do
  let file ← k.files.locateOr false p.cwd old
  let (fromDir, fromName) ← k.files.place p.cwd old
  let (toDir, toName) ← k.files.place p.cwd new
  let isDir := (k.files.entries? file).isSome
  if !isDir && (old.endsWith "/" || new.endsWith "/") then throw .notDirectory
  match ((k.files.entries? toDir).getD []).lookup toName with
  | none => pure ()
  | some there =>
    if there == file then return k.files
    match k.files.entries? there, isDir with
    | some [], true | none, false => pure ()
    | some _, true => throw .notEmpty
    | some _, false => throw .isDirectory
    | none, true => throw .notDirectory
  if isDir && ((k.files.pathOf toDir) ++ "/").startsWith (k.files.pathOf file ++ "/") then
    throw .invalid
  let files := (k.files.dropName fromDir fromName).addName toDir toName file
  return files.modify file fun i => match i.content with
    | .dir _ entries => { i with content := .dir toDir entries }
    | _ => i

/-- Gives a file one more name. -/
def linked (k : Kernel) (p : Proc) (old new : Bytes) : Except Errno Files := do
  let file ← k.files.locateOr false p.cwd old
  if (k.files.entries? file).isSome then throw .notPermitted
  let (dir, name) ← k.files.place p.cwd new
  if (((k.files.entries? dir).getD []).lookup name).isSome then throw .exists_
  return k.files.addName dir name file

/-- Changes what the system notes about a file. -/
def noted (k : Kernel) (p : Proc) (path : Bytes) (f : Inode → Inode) : Except Errno Files := do
  return k.files.modify (← k.files.locate p.cwd path) f

/-! ### Programs -/

/-- The program that a script asks for, with an argument that comes before the script; none if the
text does not ask for any. -/
def interpreter? (text : Bytes) : Option (Bytes × List Bytes) :=
  if !text.startsWith "#!" then none
  else
    let line := ((text.drop 2).takeWhile (· != '\n')).toString
    let isBlank (c : Char) : Bool := c == ' ' || c == '\t'
    let line := ((line.dropWhile isBlank).dropEndWhile isBlank).toString
    let program := (line.takeWhile (!isBlank ·)).toString
    let argument := ((line.drop program.length).dropWhile isBlank).toString
    if program.isEmpty then none
    else some (program, if argument.isEmpty then [] else [argument])

/-- The course of the program at a path. -/
def launched (programs : Programs) (k : Kernel) (cwd : Nat) (path : Bytes)
    (args env : List Bytes) : (bound : Nat) → Except Errno Course
  | 0 => .error .tooManyLinks
  | bound + 1 => do
    let i ← k.files.find cwd path
    if args.any (argumentLimit ≤ ·.length) then throw .argumentsTooLong
    match i.content with
    | .program name =>
      if !i.isExecutable then throw .permissionDenied
      match programs name with
      | some run => return run args env
      | none => throw .notExecutable
    | .file text =>
      if !i.isExecutable then throw .permissionDenied
      match interpreter? text with
      | some (program, options) =>
        k.launched programs cwd program (program :: options ++ path :: args.drop 1) env bound
      | none => throw .notExecutable
    | _ => throw .permissionDenied

/-- Lets another program take over a process. -/
def exec (programs : Programs) (k : Kernel) (p : Proc) (path : Bytes) (args env : List Bytes) :
    Outcome :=
  match k.launched programs p.cwd path args env 5 with
  | .error e => .reply (.failed e) p k
  | .ok course => .becomes { p with
      course, noted := []
      fds := p.fds.filter (!·.2.closes)
      actions := p.actions.filter (·.2 == .ignore) } k

/-! ### Processes -/

/-- Ends a process: its children have no parent any more, and its own parent may ask about it. -/
def finish (k : Kernel) (p : Proc) (status : Status) : Kernel :=
  let orphan (q : Proc) : Proc := if q.parent == p.pid then { q with parent := 1 } else q
  let tell (q : Proc) : Proc := if q.pid == p.parent then (q.receive 17).getD q else q
  let note (q : Proc) : Proc := tell (orphan q)
  { k with
    ready := k.ready.map note
    waiting := k.waiting.map note
    ended := (k.ended ++ [(p.pid, p.parent, status)]).filter (·.2.1 != p.pid) }

/-- Asks about the end of a child. -/
def waitFor (k : Kernel) (p : Proc) (child : Option Nat) (blocks : Bool) : Outcome :=
  let isMeant (pid parent : Nat) : Bool := parent == p.pid && child.all (· == pid)
  match k.ended.find? fun (pid, parent, _) => isMeant pid parent with
  | some (pid, _, status) =>
    .reply (.ended pid status) p { k with ended := k.ended.filter (·.1 != pid) }
  | none =>
    if !(k.ready ++ k.waiting).any fun q => isMeant q.pid q.parent then
      .reply (.failed .noChild) p k
    else if blocks then .waits p
    else .reply .done p k

/-- Sends a signal to the processes that are not running. -/
def signalOthers (k : Kernel) (isMeant : Proc → Bool) (signal : Nat) : Kernel :=
  let hit := (k.ready ++ k.waiting).filter isMeant
  let hitOne (k : Kernel) (q : Proc) : Kernel :=
    match q.receive signal with
    | some q' =>
      let put (r : Proc) : Proc := if r.pid == q.pid then q' else r
      { k with ready := k.ready.map put, waiting := k.waiting.map put }
    | none =>
      let k := { k with
        ready := k.ready.filter (·.pid != q.pid), waiting := k.waiting.filter (·.pid != q.pid) }
      k.finish q (.killed signal.toUInt8)
  hit.foldl hitOne k

/-- Sends a signal. -/
def kill (k : Kernel) (p : Proc) (pid signal : Nat) : Outcome :=
  let isMeant (q : Proc) : Bool := pid == 0 || q.pid == pid
  let isKnown := isMeant p || (k.ready ++ k.waiting).any isMeant || k.ended.any (·.1 == pid)
  if !isKnown then .reply (.failed .noProcess) p k
  else
    let k := if signal == 0 then k else k.signalOthers isMeant signal
    if isMeant p && signal != 0 then
      match p.receive signal with
      | some p => .reply .done { p with interrupted := false } k
      | none => .ends (.killed signal.toUInt8) p k
    else .reply .done p k

/-- Answers a call. -/
def perform (programs : Programs) (k : Kernel) (p : Proc) : Call → Outcome
  | .open_ path how mode => k.openFile p path how mode
  | .close fd =>
    if (p.fds.lookup fd).isSome then
      .reply .done { p with fds := p.fds.filter (·.1 != fd) } k
    else .reply (.failed .badDescriptor) p k
  | .duplicate fd least closes =>
    match p.fds.lookup fd with
    | none => .reply (.failed .badDescriptor) p k
    | some d =>
      let new := p.freeFd least 1024
      .reply (.number new) (p.setFd new ⟨d.opened, closes⟩) k
  | .duplicateTo fd target =>
    match p.fds.lookup fd with
    | none => .reply (.failed .badDescriptor) p k
    | some d => .reply (.number target)
        (if fd == target then p else p.setFd target ⟨d.opened, false⟩) k
  | .pipe =>
    let id := k.nextId
    let k := { k with pipes := k.pipes.insert id {}, nextId := id + 1 }
    let (reader, k) := k.addOpened ⟨.pipe id false, true, false, false, 0⟩
    let (writer, k) := k.addOpened ⟨.pipe id true, false, true, false, 0⟩
    let a := p.freeFd 0 1024
    let p := p.setFd a ⟨reader, false⟩
    let b := p.freeFd 0 1024
    .reply (.pair a b) (p.setFd b ⟨writer, false⟩) k
  | .read fd count => k.readFrom p fd (fun _ => count) count
  | .readLine fd ending => k.readFrom p fd (lineOf · ending) 0
  | .write fd s => k.writeTo p fd s
  | .seek fd place =>
    match k.opened? p fd with
    | some (id, o@{ target := .file _, .. }) => .reply .done p (k.moveTo id o place)
    | some _ => .reply (.failed .notSeekable) p k
    | none => .reply (.failed .badDescriptor) p k
  | .tell fd =>
    match k.opened? p fd with
    | some (_, { target := .file _, place, .. }) => .reply (.number place) p k
    | some _ => .reply (.failed .notSeekable) p k
    | none => .reply (.failed .badDescriptor) p k
  | .wait child blocks => k.waitFor p child blocks
  | .kill pid signal => k.kill p pid signal
  | .onSignal signal action =>
    .reply .done { p with
      actions := (signal, action) :: p.actions.filter (·.1 != signal) } k
  | .noted => .reply (.signals p.noted) { p with noted := [] } k
  | .sleep micros =>
    match p.wakes with
    | none => .waits { p with wakes := some (k.clock + micros) }
    | some time =>
      if time ≤ k.clock then .reply .done { p with wakes := none } k else .waits p
  | .alarm micros =>
    .reply .done { p with alarm := if micros == 0 then none else some (k.clock + micros) } k
  | .now => .reply (.number k.clock) p k
  | .processNumber => .reply (.number p.pid) p k
  | .parentNumber => .reply (.number p.parent) p k
  | .exec path args env => k.exec programs p path args env
  | .info path follow =>
    match k.files.locateOr follow p.cwd path with
    | .ok file =>
      match k.files.content? file with
      | some (.device (.descriptor fd)) =>
        match k.opened? p fd with
        | some (_, o) => .reply (k.infoOfOpened o) p k
        | none => .reply (.failed .notFound) p k
      | _ => .reply (k.infoOfFile file) p k
    | .error e => .reply (.failed e) p k
  | .infoOf fd =>
    match k.opened? p fd with
    | some (_, o) => .reply (k.infoOfOpened o) p k
    | none => .reply (.failed .badDescriptor) p k
  | .list path =>
    match k.files.locate p.cwd path with
    | .ok dir =>
      match k.files.entries? dir with
      | some entries => .reply (.names (entries.map (·.1))) p k
      | none => .reply (.failed .notDirectory) p k
    | .error e => .reply (.failed e) p k
  | .makeDir path mode => k.change p (k.makeNew p path
      { content := .dir 0 [], mode := mode &&& (0o7777 ^^^ p.umask) })
  | .makePipe path mode =>
    let k := { k with pipes := k.pipes.insert k.nextId { fed := false }, nextId := k.nextId + 1 }
    k.change p (k.makeNew p path
      { content := .pipe (k.nextId - 1), mode := mode &&& (0o777 ^^^ p.umask) })
  | .removeDir path => k.change p (k.dirRemoved p path)
  | .unlink path => k.change p (k.unlinked p path)
  | .rename old new => k.change p (k.renamed p old new)
  | .link old new => k.change p (k.linked p old new)
  | .symlink target path => k.change p (if target.isEmpty then .error .notFound
      else k.makeNew p path { content := .link target, mode := 0o777 })
  | .readLink path =>
    match k.files.locateOr false p.cwd path with
    | .error e => .reply (.failed e) p k
    | .ok file =>
      match k.files.content? file with
      | some (.link target) => .reply (.text target) p k
      | _ => .reply (.failed .invalid) p k
  | .chmod path mode => k.change p (k.noted p path fun i => { i with mode })
  | .setTime path micros => k.change p (k.noted p path fun i => { i with modified := micros })
  | .truncate path size => k.change p (k.noted p path fun i => match i.content with
      | .file text =>
        let text := (text.take size).toString
        { i with content := .file (text.pushn '\x00' (size - text.length)), modified := k.clock }
      | _ => i)
  | .chdir path =>
    match k.files.locate p.cwd path with
    | .ok dir =>
      if (k.files.entries? dir).isSome then .reply .done { p with cwd := dir } k
      else .reply (.failed .notDirectory) p k
    | .error e => .reply (.failed e) p k
  | .cwd => .reply (.text (k.files.pathOf p.cwd)) p k
  | .umask mask => .reply (.number p.umask) { p with umask := mask.getD p.umask } k
  | .tick => .reply .done p k

/-! ### Turns -/

/-- How many calls a process makes in a turn. -/
def turnLength : Nat := 20000

/-- Whether a signal takes a process out of waiting for a call. -/
def isInterruptible : Call → Bool
  | .wait .. | .sleep _ | .read .. | .readLine .. => true
  | _ => false

/-- Asks a waiting process again; none if it goes on waiting. -/
def retry (programs : Programs) (k : Kernel) (p : Proc) : Option Kernel :=
  match p.course with
  | .ask call next =>
    if p.interrupted && isInterruptible call then
      let p := { p with
        course := next (.failed .interrupted), interrupted := false, wakes := none }
      some { k with ready := k.ready ++ [p] }
    else match k.perform programs p call with
      | .reply r p k => some { k with ready := k.ready ++ [{ p with course := next r }] }
      | .waits _ => none
      | .ends status p k => some (k.finish p status)
      | .becomes p k => some { k with ready := k.ready ++ [p] }
  | _ => some { k with ready := k.ready ++ [p] }

/-- Sends the signals whose time has come. -/
def ring (k : Kernel) : Kernel :=
  let isDue (p : Proc) : Bool := p.alarm.any (· ≤ k.clock)
  let due := ((k.ready ++ k.waiting).filter isDue).map (·.pid)
  if due.isEmpty then k
  else
    let clear (p : Proc) : Proc := if isDue p then { p with alarm := none } else p
    let k := { k with ready := k.ready.map clear, waiting := k.waiting.map clear }
    due.foldl (fun k pid => k.signalOthers (·.pid == pid) 14) k

/-- Asks waiting processes again, each of them once. -/
def wake (programs : Programs) : List Nat → Kernel → Kernel
  | [], k => k
  | pid :: pids, k =>
    match k.waiting.find? (·.pid == pid) with
    | none => wake programs pids k
    | some p =>
      let others := { k with waiting := k.waiting.filter (·.pid != pid) }
      match others.retry programs p with
      | some k => wake programs pids k
      | none => wake programs pids k

/-- Asks all waiting processes again. -/
def wakeAll (programs : Programs) (k : Kernel) : Kernel :=
  let k := k.ring
  k.wake programs (k.waiting.map (·.pid))

/-- The next moment at which a waiting process may go on. -/
def nextMoment? (k : Kernel) : Option Nat :=
  (k.waiting.flatMap fun p => p.wakes.toList ++ p.alarm.toList).min?

/-- Lets the first ready process make a step. -/
def stepFirst (programs : Programs) (k : Kernel) (p : Proc) (rest : List Proc) : Kernel :=
  let k := { k with ready := rest, clock := k.clock + 1, turn := k.turn - 1 }
  let goOn (p : Proc) (k : Kernel) : Kernel := { k with ready := p :: k.ready }
  match p.course with
  | .exit status => { k.finish p (.exited status) with turn := turnLength }
  | .fork child next =>
    let q := { p with
      pid := k.nextPid, parent := p.pid, course := child, noted := [], alarm := none }
    let k := { k with nextPid := k.nextPid + 1, ready := k.ready ++ [q] }
    goOn { p with course := next q.pid } k
  | .ask call next =>
    match k.perform programs p call with
    | .reply r p k => goOn { p with course := next r } k
    | .waits p => { k with
        waiting := k.waiting ++ [{ p with interrupted := false }], turn := turnLength }
    | .ends status p k => { k.finish p status with turn := turnLength }
    | .becomes p k => goOn p k

/-- Lets the system make a step; none if nothing can go on. -/
def step (programs : Programs) (k : Kernel) : Option Kernel :=
  match k.ready with
  | p :: rest =>
    if k.turn == 0 then
      some ({ k with ready := rest ++ [p], turn := turnLength }.wakeAll programs)
    else some (k.stepFirst programs p rest)
  | [] =>
    if k.waiting.isEmpty then none
    else
      let woken := k.wakeAll programs
      if !woken.ready.isEmpty || woken.waiting.length < k.waiting.length then some woken
      else match woken.nextMoment? with
        | some time => if woken.clock < time then some { woken with clock := time } else none
        | none => none

/-- Whether nothing more can be written by the system after a process has ended. -/
def isSilent (k : Kernel) (main : Nat) : Bool :=
  !k.ready.any (·.pid == main) && !k.waiting.any (·.pid == main) &&
    !k.othersHold fun t => match t with
      | .output _ => true
      | _ => false

/-- Lets the system run until a process has ended and nothing more can be written. -/
def run (programs : Programs) (main : Nat) : (bound : Nat) → Kernel → Kernel
  | 0, k => k
  | bound + 1, k =>
    match k.step programs with
    | none => k
    | some next => if next.isSilent main then next else run programs main bound next

end Kernel

end Tilde.Unix
