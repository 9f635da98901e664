import Tilde.Regex.Search
import Tilde.Sh.Brace
import Tilde.Sh.Builtin
import Tilde.Sh.Parser

/-!
# Running commands

How a shell runs the commands that it has parsed. The status of a command is that of the last thing
it did; a failure that nobody looks at ends the shell where it was asked to end then.
-/

namespace Tilde.Sh

open Unix (Bytes Act)

namespace ShM

/-- Notes the line that a command stands on. -/
def atLine (line : Nat) : ShM Unit :=
  modify fun s => { s with
    errorLine := line
    line := if s.functionLine == 0 then line else line - (s.functionLine - 1) }

/-! ### Loops -/

/-- What a loop does about a note that something is to be left out. The result says what is still
to be left out. -/
def loopSkip : ShM Skip := do
  let s ← get
  match s.skip with
  | .leave | .again =>
    if s.skipCount ≤ 1 then
      set { s with skip := .none, skipCount := 0 }
      return s.skip
    else
      set { s with skipCount := s.skipCount - 1 }
      return .leave
  | skip => return skip

/-- Whether a loop goes on after a round. -/
def goesOn (skip : Skip) : Bool := skip == .none || skip == .again

/-- Runs something as the body of a loop. -/
def inLoop (m : ShM Nat) : ShM Nat := do
  modify fun s => { s with loops := s.loops + 1 }
  let status ← m
  modify fun s => { s with loops := s.loops - 1 }
  return status

/-- Runs the rounds of a loop with a condition. -/
def conditionRounds (h : Hooks) (whileTrue : Bool) (test body : Command) (flags : Flags) :
    (bound : Nat) → (status : Nat) → ShM Nat
  | 0, status => return status
  | bound + 1, status => do
    let _ ← ask .tick
    let tested ← h.eval test { tested := true }
    let skip ← loopSkip
    if skip != .none then
      let status := if skip == .goBack then tested else status
      if goesOn skip then conditionRounds h whileTrue test body flags bound status
      else return status
    else if (tested == 0) != whileTrue then return status
    else
      let status ← h.eval body flags
      if goesOn (← loopSkip) then conditionRounds h whileTrue test body flags bound status
      else return status

/-- Runs the rounds of a loop over words. -/
def wordRounds (h : Hooks) (name : Bytes) (body : Command) (flags : Flags) (status : Nat) :
    List Bytes → ShM Nat
  | [] => return status
  | w :: rest => do
    let _ ← ask .tick
    setVar name w
    let status ← h.eval body flags
    if goesOn (← loopSkip) then wordRounds h name body flags status rest else return status

/-! ### Choices -/

/-- Whether one of some patterns matches a text. -/
def anyMatches (k : ExpandHooks) (text : List Char) : List Word → ShM Bool
  | [] => return false
  | w :: rest => do
    let items ← k.items { tilde := true } w
    if (Item.pattern items).matchesText text then return true else anyMatches k text rest

/-- Runs the first arm of a choice whose patterns match. -/
def runArm (h : Hooks) (flags : Flags) (text : List Char) :
    List (List Word × Command) → ShM Nat
  | [] => return 0
  | (patterns, body) :: rest => do
    if (← get).skip != .none then return 0
    if ← anyMatches h.expand text patterns then
      match body with
      | .nothing => return 0
      | body => if (← get).skip == .none then h.eval body flags else return 0
    else runArm h flags text rest

/-! ### Processes -/

/-- Runs commands in a process of their own. -/
def runSubshell (h : Hooks) (flags : Flags) (background : Bool) (body : Command)
    (redirs : List Redirection) : ShM Nat := do
  let openings ← expandRedirections h.expand redirs
  let inChild (flags : Flags) : ShM Unit := do
    redirect h.expand false openings
    let _ ← h.eval body { flags with exits := true }
  if !background && flags.exits && !(← hasTraps) then
    enterChild false false
    inChild flags
    throw .over
  let n ← makeJob
  let pid ← forkShell h background true
    (inChild (if background then { flags with tested := false } else flags))
  addWorker n pid background
  if background then return 0 else finishJob n

/-- Looks for the program of a command before the command runs, so that it is remembered. -/
def prefind (c : Command) : ShM Unit := do
  match c with
  | .simple _ _ (w :: _) _ =>
    match plainText? w with
    | some name =>
      if isName name then
        let _ ← findCommand name true none
    | none => return
  | _ => return

/-- Runs the stages of a pipeline. `input` is where the next stage reads. -/
def runStages (h : Hooks) (flags : Flags) (background : Bool) (job : Nat) :
    (first : Bool) → (input : Option Nat) → List Command → ShM Unit
  | _, _, [] => return
  | first, input, c :: rest => do
    prefind c
    let ends ← if rest.isEmpty then pure none else do pure (some (← pipe))
    let pid ← forkShell h background first do
      match ends with
      | some (a, _) => close a
      | none => pure ()
      match input with
      | some n =>
        if n != 0 then
          let _ ← ask (.duplicateTo n 0)
          close n
      | none => pure ()
      match ends with
      | some (_, b) =>
        if b != 1 then
          let _ ← ask (.duplicateTo b 1)
          close b
      | none => pure ()
      let _ ← h.eval c { flags with exits := true }
    addWorker job pid background
    match input with
    | some n => close n
    | none => pure ()
    match ends with
    | some (_, b) => close b
    | none => pure ()
    runStages h flags background job false (ends.map (·.1)) rest

/-- Notes how the processes of a pipeline ended. -/
def noteStatuses (statuses : List Nat) : ShM Unit := do
  if !(← get).extended then return
  let elements := (List.range statuses.length).zip (statuses.map fun (n : Nat) => toString n)
  modify fun s => { s with arrays := s.arrays.insert "PIPESTATUS" elements }

/-- Runs a pipeline. -/
def runPipeline (h : Hooks) (flags : Flags) (background : Bool) (stages : List Command) :
    ShM Nat := do
  let n ← makeJob
  runStages h flags background n true none stages
  if background then return 0
  awaitJob n Act.rounds
  let workers := ((← job? n).map (·.workers)).getD []
  let statuses := workers.map fun w => (w.ended.map Status.asNumber).getD 0
  let status ← finishJob n
  noteStatuses statuses
  let counted := if (← get).features.contains "pipefail" then
      (statuses.filter (· != 0)).getLastD 0
    else status
  return counted

/-! ### Simple commands -/

/-- The words of a simple command, while it is found out what command it is. -/
structure Naming where
  /-- The words expanded so far. -/
  words : List Bytes := []
  /-- The words that have not been expanded. -/
  rest : List Word
  /-- The commands of the shell that have been found, the first one last. -/
  kinds : List (Bytes × BuiltinKind) := []
  /-- Functions do not count. -/
  withoutFunctions : Bool := false
  path : Option Bytes := none
  /-- The words that stand before the command. -/
  front : List Bytes := []

/-- Expands a word of a command into any number of words. -/
def commandWords (k : ExpandHooks) (w : Word) : ShM (List Bytes) := do
  if !(← get).extended then k.words w
  else
    let each ← w.braced.mapM k.words
    return each.flatten

/-- Expands words until there is one. -/
def expandSome (k : ExpandHooks) : List Word → ShM (List Bytes × List Word)
  | [] => return ([], [])
  | w :: rest => do
    let words ← commandWords k w
    if words.isEmpty then expandSome k rest else return (words, rest)

/-- Reads the options of the command `command`, while it is only to run another one. `seen` are the
words before the ones looked at. The result says whether there is another command. -/
def skipCommandOptions (k : ExpandHooks) : (bound : Nat) → (seen words : List Bytes) → Naming →
    ShM (Naming × Bool)
  | 0, _, _, n => return (n, false)
  | bound + 1, seen, words, n => do
    let nothing (words : List Bytes) (n : Naming) : Naming × Bool :=
      ({ n with words := seen ++ words }, false)
    let found (front words : List Bytes) (n : Naming) : Naming × Bool :=
      ({ n with words, front := n.front ++ seen ++ front, withoutFunctions := true }, true)
    match words with
    | [] => return nothing [] n
    | [w] =>
      let (more, rest) ← expandSome k n.rest
      let n := { n with rest }
      if more.isEmpty then return nothing [w] n
      else skipCommandOptions k bound seen (w :: more) n
    | w :: next :: after =>
      match next.toList with
      | ['-', '-'] =>
        if after.isEmpty then
          let (more, rest) ← expandSome k n.rest
          let n := { n with rest }
          return if more.isEmpty then nothing [w, next] n else found [w, next] more n
        else return found [w, next] after n
      | '-' :: c :: cs =>
        if (c :: cs).all (· == 'p') then
          skipCommandOptions k bound (seen ++ [w]) (next :: after)
            { n with path := some usualPath }
        else return nothing words n
      | _ => return found [w] (next :: after) n

/-- Finds out what command a simple command runs, as far as it is one of the shell. -/
def nameCommand (k : ExpandHooks) : (bound : Nat) → Naming → ShM Naming
  | 0, n => return n
  | bound + 1, n => do
    match n.words with
    | [] => return n
    | w :: _ =>
      match ← findInner? w (!n.withoutFunctions) with
      | some (.builtin kind) =>
        let n := { n with kinds := (w, kind) :: n.kinds }
        if w != "command" then return n
        let (n, goesOn) ← skipCommandOptions k Act.rounds [] n.words n
        if goesOn then nameCommand k bound n else return n
      | _ => return n

/-- Shows a command before it runs. -/
def trace (h : Hooks) (words : List Bytes) : ShM Unit := do
  if !(← isOn .xtrace) then return
  let lead ← tracePrompt
  let _ ← act (Act.write (← get).traceFd (lead ++ " ".intercalate words ++ "\n"))
where
  /-- What stands before the commands that are shown. -/
  tracePrompt : ShM Bytes := do
    let ps4 := (← lookup "PS4").getD "+ "
    match (Parser.promptWord.run (Reader.ofText ps4)) with
    | .ok (w, _) =>
      let switches := (← get).switches
      modify fun s => { s with switches := s.switches.filter (· != .xtrace) }
      let text ← h.expand.text { quoted := true } w
      modify fun s => { s with switches }
      return text
    | .error _ => return ps4

/-- Runs a command of the shell itself. An error in it is over with it unless `fatal`. -/
def callBuiltin (h : Hooks) (flags : Flags) (fatal : Bool) (words : List Bytes) : ShM Nat := do
  let name := words.headD ""
  let outer := (← get).running
  modify fun s => { s with running := some name, outputFailed := false }
  let result ← caught do
    let status ← runBuiltin h flags name (words.drop 1)
    flush
    let failed := (← get).outputFailed
    if failed then warn (name ++ ": I/O error")
    let status := if failed then status ||| 1 else status
    setStatus status
  modify fun s => { s with running := outer, output := "", outputFailed := false }
  match result with
  | .ok _ => return (← get).status
  | .error .error => if fatal then throw .error else return (← get).status
  | .error j => throw j

/-- Runs a function. -/
def callFunction (h : Hooks) (flags : Flags) (f : Function) (args : List Bytes) : ShM Nat := do
  let s ← get
  set { s with functionLine := f.line, loops := 0, arguments := { list := args } }
  let result ← caught (h.eval f.body { tested := flags.tested })
  modify fun t => { t with
    functionLine := s.functionLine, loops := s.loops, arguments := s.arguments
    skip := if t.skip == .goBack || t.skip == .goBackLate then .none else t.skip }
  match result with
  | .ok status => return status
  | .error j => throw j

/-- Runs a program in a process of its own, or in that of the shell if there is nothing more to
do. -/
def callProgram (flags : Flags) (path : Bytes) (words : List Bytes) : ShM Nat := do
  let paths := if (words.headD "").toList.contains '/' then [] else [path]
  if flags.exits && !(← hasTraps) then
    execProgram words paths
    return 0
  let n ← makeJob
  let child (s : State) : Act Empty := do
    let (_, s) ← StateT.run (ExceptT.run (execProgram words paths)) s
    Act.exit s.status
  let pid ← fork child
  addWorker n pid false
  finishJob n

/-- Sets an element of an array. -/
def setElement (array : Bytes) (place : Nat) (value : Bytes) : ShM Unit := do
  let s ← get
  let old := match s.arrays[array]? with
    | some elements => elements
    | none => (((s.vars[array]?).bind (·.value)).map fun v => (0, v)).toList
  let elements := old.takeWhile (·.1 < place) ++ (place, value) :: old.filter (place < ·.1)
  set { s with vars := s.vars.erase array, arrays := s.arrays.insert array elements }

/-- Sets an element of a table. -/
def setEntry (table key value : Bytes) : ShM Unit :=
  modify fun s =>
    let old := (s.tables[table]?).getD []
    let new := if old.any (·.1 == key) then
        old.map fun e => if e.1 == key then (key, value) else e
      else (key, value) :: old
    { s with tables := s.tables.insert table new }

/-- Sets elements with their subscripts. -/
def setSubscripted (k : ExpandHooks) (array : Bytes) (sub value : Word) : ShM Unit := do
  let new ← k.text { assigns := true, assigned := true } value
  let inside ← k.text { quoted := true } sub
  if (← get).tables.contains array then setEntry array inside new
  else setElement array (← Arith.eval inside).toNat new

/-- Sets an array, or adds to it. -/
def setArray (k : ExpandHooks) (array : Bytes) (adds : Bool) (words : List Word) : ShM Unit := do
  let isTable := (← get).tables.contains array
  if isTable || words.any fun w => (subscripted? w).isSome then
    if !adds then
      modify fun s => { s with
        vars := s.vars.erase array
        arrays := if isTable then s.arrays else s.arrays.insert array []
        tables := if isTable then s.tables.insert array [] else s.tables }
    words.forM fun w => do
      match subscripted? w with
      | some (sub, value) => setSubscripted k array sub value
      | none => return
    return
  let each ← words.mapM (commandWords k)
  let values := each.flatten
  let s ← get
  let old := if !adds then [] else match s.arrays[array]? with
    | some elements => elements
    | none => (((s.vars[array]?).bind (·.value)).map fun v => (0, v)).toList
  let first := match old.getLast? with
    | some (n, _) => n + 1
    | none => 0
  let elements := old ++ (List.range' first values.length).zip values
  set { s with vars := s.vars.erase array, arrays := s.arrays.insert array elements }

/-- Makes an assignment of the extended shell that is not one of the standard. The result says
whether it was one. -/
def assignExtended (k : ExpandHooks) (w : Word) : ShM Bool := do
  let s ← get
  match if s.extended then assignment? w else none with
  | none => return false
  | some a =>
    match a.value, a.subscript with
    | [.elements words], _ =>
      setArray k a.name a.adds words
      return true
    | value, some sub =>
      if let some elements := s.tables[a.name]? then
        let key ← k.text { quoted := true } sub
        let new ← k.text { assigns := true, assigned := true } value
        setEntry a.name key (if a.adds then (elements.lookup key).getD "" ++ new else new)
        return true
      let n ← subscript (← k.text { quoted := true } sub)
      let last := (((s.arrays[a.name]?).getD []).map (·.1)).foldl max 0
      let place := if n < 0 then (last + 1 + n).toNat else n.toNat
      let new ← k.text { assigns := true, assigned := true } value
      let before ← elementOf a.name place
      let old := if a.adds then before.getD "" else ""
      setElement a.name place (old ++ new)
      return true
    | value, none =>
      let isNumeric := s.numeric.contains a.name
      if s.arrays.contains a.name then
        let new ← k.text { assigns := true, assigned := true } value
        let before ← elementOf a.name 0
        let old := if a.adds then before.getD "" else ""
        setElement a.name 0 (old ++ new)
        return true
      else if a.adds || isNumeric then
        let new ← k.text { assigns := true, assigned := true } value
        let before ← lookup a.name
        let old := if a.adds then before.getD "" else ""
        if isNumeric then
          let n ← Arith.eval new
          let m ← if old.isEmpty then pure 0 else Arith.eval old
          setVar a.name (toString (m + n))
        else setVar a.name (old ++ new)
        return true
      else return false

/-- Sets the variables that stand before a command. -/
def assignAll (k : ExpandHooks) (isLocal : Bool) (marked : Bool) :
    List Word → ShM (List Bytes)
  | [] => return []
  | w :: rest => do
    let isDone ← assignExtended k w
    if isDone then return ← assignAll k isLocal marked rest
    let text ← k.text { assigns := true } w
    let exported (v : Var) : Var := { v with exported := true }
    if isLocal then makeLocal exported text
    else
      let (name, value) := splitAssignment text
      setVarWith (if marked then exported else id) name value
    return text :: (← assignAll k isLocal marked rest)

/-- Expands the words of a simple command that are left. Those that are assignments to a command
that makes them are not split. -/
def expandRest (k : ExpandHooks) (assigns : Bool) (words : List Word) : ShM (List Bytes) := do
  let each ← words.mapM fun w => do
    let isArray := match (assignment? w).map (·.value) with
      | some [Atom.elements _] => true
      | _ => false
    if assigns && isArray then
      let name := ((assignment? w).map (·.name)).getD ""
      let declares := plainText? (words.headD []) == some "-A"
      if declares then modify fun s => { s with tables := s.tables.insert name [] }
      let _ ← assignExtended k w
      return [name]
    if assigns && isAssignment w then return [← k.text { assigns := true } w]
    else commandWords k w
  return each.flatten

/-- Runs a simple command. -/
def runSimple (h : Hooks) (flags : Flags) (assigns words : List Word)
    (redirs : List Redirection) : ShM Nat := do
  let k := h.expand
  let s ← get
  let localCount := s.locals.length
  let redirectCount := s.redirects.length
  set { s with substituted := 0 }
  let (first, rest) ← expandSome k words
  let n ← nameCommand k Act.rounds { words := first, rest }
  let assigning := n.kinds.head?.any (·.2.assigns)
  let n := { n with words := n.words ++ (← expandRest k assigning n.rest), rest := [] }
  let isSpecial := n.kinds.getLast?.any (·.2.special)
  let isFatal := isSpecial && !s.extended
  let isExec := n.kinds.head?.any (·.1 == "exec")
  let isLocal := !n.words.isEmpty && !isSpecial
  if isLocal then modify fun s => { s with locals := [] :: s.locals }
  let openings ← expandRedirections k redirs
  if !openings.isEmpty then pushRedirects
  let leave : ShM Unit := do
    if !openings.isEmpty then popRedirects isExec
    unwindRedirectsTo redirectCount
    unwindLocals localCount localCount
  let bail (status : Nat) : ShM Nat := do
    setStatus status
    if isFatal then throw .error
    leave
    return status
  if !(← redirectSafely k openings) then return ← bail (if s.extended then 1 else 2)
  let traceFd := (((← get).redirects.head?.bind (·.lookup 2)).bind id).getD 2
  let outerTrace := (← get).traceFd
  modify fun s => { s with traceFd := if openings.isEmpty then s.traceFd else traceFd }
  let assigned ← assignAll k isLocal (isExec && 1 < n.words.length) assigns
  trace h (assigned ++ n.front ++ n.words)
  modify fun s => { s with traceFd := outerTrace }
  let status ← match n.words with
    | [] =>
      let status := (← get).substituted
      setStatus status
      pure status
    | name :: args =>
      match ← findCommand name (!n.withoutFunctions) n.path with
      | .missing e =>
        let extended := if e == .notFound then "command not found" else e.text
        warn (name ++ ": " ++ (if s.extended then extended else programFault e))
        return ← bail 127
      | .builtin _ => callBuiltin h flags isFatal n.words
      | .function f => callFunction h flags f args
      | .program path => callProgram flags path n.words
  leave
  return status
where
  /-- Leaves the variables that were local to a command. -/
  unwindLocals (count : Nat) : (bound : Nat) → ShM Unit
    | 0 => do
      if count < (← get).locals.length then leaveLocals
    | bound + 1 => do
      if count < (← get).locals.length then
        leaveLocals
        unwindLocals count bound

/-! ### Commands -/

/-- What is done after a command: the traps that are due, and the end of the shell if this was the
last command or a failure that nobody looks at. -/
def afterCommand (h : Hooks) (flags : Flags) (checks : Bool) (status : Nat) : ShM Nat := do
  trapsDue h
  if checks && !flags.tested && status != 0 then
    if ← isOn .errexit then throw .over
  if flags.exits then throw .over
  return (← get).status

/-! ### Commands of the extended shell -/

/-- The text of a regular expression, in which what was quoted stands for itself. -/
def regexText (items : List Item) : Bytes :=
  String.ofList (items.flatMap fun
    | .char c true => if c.isAlphanum then [c] else ['\\', c]
    | .char c false => [c]
    | .quote => [])

/-- Whether a text matches a regular expression. What the groups have matched is noted. -/
def matchesRegex (text regex : Bytes) : ShM Nat := do
  match Regex.parse { extended := true } regex with
  | .error _ => return 2
  | .ok p =>
    let chars := text.toList.toArray
    match (p.searcher false).find? chars 0 false with
    | none => return 1
    | some m =>
      let group (n : Nat) : Bytes := match m.group? n with
        | some (a, b) => String.ofList (chars.extract a b).toList
        | none => ""
      let groups := (List.range (p.groups + 1)).map fun n => (n, group n)
      modify fun s => { s with arrays := s.arrays.insert "BASH_REMATCH" groups }
      return 0

/-- The status of a condition: zero if it holds, one if not, and two if it is none. -/
def judge (k : ExpandHooks) : Condition → ShM Nat
  | .unary op a => do
    let text ← k.text { tilde := true } a
    if op == "-v" then return if (← lookup text).isSome then 0 else 1
    let op := if op == "-a" then "-e" else op
    return if (← (Test.unary op text).run []).1 then 0 else 1
  | .binary op a b => do
    let text ← k.text { tilde := true } a
    match op with
    | "=" | "==" | "!=" =>
      let items ← k.items { tilde := true } b
      let isMatch := (Item.pattern items).matchesText text.toList
      return if isMatch == (op != "!=") then 0 else 1
    | "=~" => matchesRegex text (regexText (← k.items { tilde := true } b))
    | op =>
      let other ← k.text { tilde := true } b
      if ["-eq", "-ne", "-lt", "-le", "-gt", "-ge"].contains op then
        let m ← Arith.eval text
        let n ← Arith.eval other
        return if (← (Test.binary op (toString m) (toString n)).run []).1 then 0 else 1
      else return if (← (Test.binary op text other).run []).1 then 0 else 1
  | .negated c => do
    let status ← judge k c
    return if status == 0 then 1 else if status == 1 then 0 else status
  | .both c d => do
    let status ← judge k c
    if status == 0 then judge k d else return status
  | .either c d => do
    let status ← judge k c
    if status == 1 then judge k d else return status

/-- The value of an expression in a word; that of an empty one is given. -/
def wordValue (k : ExpandHooks) (empty : Int) (w : Word) : ShM Int := do
  let text ← k.text { quoted := true } w
  if text.toList.all isSpace then return empty else Arith.eval text

/-- Runs the rounds of a loop that an expression bounds. -/
def countRounds (h : Hooks) (test after : Word) (body : Command) (flags : Flags) :
    (bound : Nat) → (status : Nat) → ShM Nat
  | 0, status => return status
  | bound + 1, status => do
    let _ ← ask .tick
    let value ← wordValue h.expand 1 test
    if value == 0 then return status
    let status ← h.eval body flags
    if goesOn (← loopSkip) then
      let _ ← wordValue h.expand 0 after
      countRounds h test after body flags bound status
    else return status

/-- Runs a command and sets the status. -/
def evalCommand (h : Hooks) (c : Command) (flags : Flags) : ShM Nat := do
  if ← isOn .noexec then return ← afterCommand h flags false 0
  match c with
  | .nothing => afterCommand h flags false 0
  | c =>
    trapsDue h
    let plain (m : ShM Nat) (checks : Bool) : ShM Nat := do
      let status ← m
      setStatus status
      afterCommand h flags checks status
    let skipped : ShM Bool := return (← get).skip != .none
    match c with
    | .nothing => return 0
    | .negated body =>
      plain (do return if (← h.eval body { tested := true }) == 0 then 1 else 0) false
    | .redirected line body redirs =>
      plain (closingEnds do
        atLine line
        let openings ← expandRedirections h.expand redirs
        if !openings.isEmpty then pushRedirects
        let status ← if ← redirectSafely h.expand openings then
            h.eval body { tested := flags.tested }
          else pure 2
        if !openings.isEmpty then popRedirects false
        return status) false
    | .simple line assigns words redirs =>
      plain (closingEnds do
        atLine line
        let status ← runSimple h flags assigns words redirs
        noteStatuses [status]
        return status) true
    | .condition line c =>
      plain (do
        atLine line
        judge h.expand c) true
    | .arithmetic line e =>
      plain (do
        atLine line
        return if (← h.expand.text {} e) == "0" then 1 else 0) true
    | .count line start test after body =>
      plain (do
        atLine line
        let _ ← wordValue h.expand 0 start
        inLoop (countRounds h test after body { tested := flags.tested } Act.rounds 0)) false
    | .forIn line name words body =>
      plain (do
        atLine line
        let list ← words.mapM (commandWords h.expand)
        inLoop (wordRounds h name body { tested := flags.tested } 0 list.flatten)) false
    | .loop whileTrue test body =>
      plain (inLoop (conditionRounds h whileTrue test body { tested := flags.tested }
        Act.rounds 0)) false
    | .subshell line body redirs =>
      plain (do
        atLine line
        runSubshell h flags false body redirs) true
    | .background line body redirs =>
      plain (do
        atLine line
        runSubshell h flags true body redirs) true
    | .pipeline background stages =>
      plain (runPipeline h flags background stages) true
    | .caseOf line subject arms =>
      plain (do
        atLine line
        let text ← h.expand.text { tilde := true } subject
        runArm h flags text.toList arms) false
    | .both first second =>
      let status ← h.eval first { tested := true }
      if status != 0 || (← skipped) then afterCommand h flags false 0
      else plain (h.eval second flags) false
    | .either first second =>
      let status ← h.eval first { tested := true }
      if status == 0 || (← skipped) then afterCommand h flags false 0
      else plain (h.eval second flags) false
    | .sequence first second =>
      let _ ← h.eval first { tested := flags.tested }
      if ← skipped then afterCommand h flags false 0
      else plain (h.eval second flags) false
    | .ifElse test body orelse =>
      let status ← h.eval test { tested := true }
      if ← skipped then afterCommand h flags false 0
      else if status == 0 then plain (h.eval body flags) false
      else match orelse with
        | .nothing => plain (return 0) false
        | orelse => plain (h.eval orelse flags) false
    | .define line name body =>
      modify fun s => { s with functions := s.functions.insert name { body, line } }
      plain (return 0) false

/-! ### Texts -/

/-- The reader of a text, with what the shell knows. -/
def readerOf (s : State) (r : Reader) : Reader :=
  { r with
    aliases := s.aliases, nextText := s.nextText, texts := [], extended := s.extended }

/-- Says why a text cannot be read as commands, and jumps. -/
def problemFail {α : Type} (r : Reader) (p : Problem) : ShM α := do
  if !(← get).extended then syntaxFail p.line p.message
  let line := ((String.ofList r.rest).splitOn "\n").getD (p.line - r.line) ""
  match p.quote, p.token with
  | some q, _ =>
    tokenFail p.line none ("unexpected EOF while looking for matching \x60" ++ q ++ "'") line
  | none, some t => tokenFail p.line (some t) "" line
  | none, none => tokenFail (p.line + 1) none "syntax error: unexpected end of file" line

/-- Parses a line of commands. -/
def parseLine (r : Reader) : ShM (Option Command × Reader) := do
  match Parser.line (readerOf (← get) r) with
  | .error p => problemFail r p
  | .ok (c, r) =>
    modify fun s => { s with
      nextText := r.nextText
      texts := r.texts.foldl (fun texts (n, w) => texts.insert n w) s.texts }
    return (c, r)

/-- Whether a text has been read to its end. -/
def isAtEnd (r : Reader) : Bool :=
  match r.back with
  | some .eof => true
  | _ => false

/-- Runs the commands of a text, one line at a time. -/
def evalLines (h : Hooks) (flags : Flags) : (bound : Nat) → (status : Nat) → Reader → ShM Nat
  | 0, status, _ => return status
  | bound + 1, status, r => do
    match ← parseLine r with
    | (none, _) => return status
    | (some c, r) =>
      let here ← h.eval c { flags with exits := flags.exits && isAtEnd r }
      let status := match c with
        | .nothing => status
        | _ => here
      if (← get).skip != .none then return status else evalLines h flags bound status r

/-- Runs the commands of a text. -/
def evalText (h : Hooks) (text : Bytes) (flags : Flags) : ShM Nat :=
  evalLines h flags Act.rounds 0 (Reader.ofText text)

/-- Runs the commands of a file, up to one that goes back. -/
def evalFile (h : Hooks) (path : Bytes) : ShM Nat := do
  let fd ← openPath path { reads := true }
  let text ← act (Act.readAll fd)
  close fd
  modify fun s => { s with running := some path }
  let status ← evalLines h {} Act.rounds 0 (Reader.ofText (text.toOption.getD ""))
  modify fun s => { s with
    skip := if s.skip == .goBack || s.skip == .goBackLate then .none else s.skip }
  return status

end ShM

/-- What the parts of a shell go back to, down to a depth of nesting. -/
def hooks : (depth : Nat) → Hooks
  | 0 => {
      eval := fun _ _ => throw .error
      evalText := fun _ _ => throw .error
      evalFile := fun _ => throw .error
      expand := {
        word := fun _ _ => return [], output := fun _ => return "",
        process := fun _ _ => return "" } }
  | depth + 1 => {
      eval := fun c flags => fun s => ShM.evalCommand (hooks depth) c flags s
      evalText := fun text flags => fun s => ShM.evalText (hooks depth) text flags s
      evalFile := fun path => fun s => ShM.evalFile (hooks depth) path s
      expand := expandHooks (fun c => fun s => ShM.outputOf (hooks depth) c s)
        (fun reads c => fun s => ShM.processPath (hooks depth) reads c s) (depth + 1) }

end Tilde.Sh
