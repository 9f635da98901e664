import Tilde.Sh.Process

/-!
# Commands about variables

The commands that mark, take away, show and read variables, and those that go through the arguments
of the shell.
-/

namespace Tilde.Sh

open Unix (Bytes Act)

namespace ShM

/-- Writes the variables that satisfy a condition, in the order of their names. -/
def showVars (lead : Bytes) (isMeant : Var → Bool) : ShM Unit := do
  let shown := (← get).vars.toList.filter fun (_, v) => isMeant v
  let lead := if lead.isEmpty then lead else lead ++ " "
  (shown.mergeSort fun a b => decide (a.1 ≤ b.1)).forM fun (name, v) =>
    out (lead ++ name ++ (match v.value with
      | some value => "=" ++ quoted value
      | none => "") ++ "\n")

/-- Marks a variable, and sets it if there is a value. -/
def markVar (mark : Var → Var) (text : Bytes) : ShM Unit := do
  let (name, value) := splitAssignment text
  match value, (← get).vars[name]? with
  | none, some v => modify fun s => { s with vars := s.vars.insert name (mark v) }
  | value, _ => setVarWith mark name value

/-- The commands `export` and `readonly`. -/
def markVars (command : Bytes) (args : List Bytes) : ShM Nat := do
  let isExport := command == "export"
  let change (v : Var) : Var :=
    if isExport then { v with exported := true } else { v with readOnly := true }
  let (opts, names) ← options "p" args
  if opts.isEmpty && !names.isEmpty then
    if (← get).extended then
      let statuses ← names.mapM fun text => do
        if isName (splitAssignment text).1 then
          markVar change text
          return 0
        warn ("\x60" ++ text ++ "': not a valid identifier")
        return 1
      return statuses.foldl max 0
    names.forM (markVar change)
  else showVars command fun v => if isExport then v.exported else v.readOnly
  return 0

/-- The command `local`. -/
def localVars (args : List Bytes) : ShM Nat := do
  if (← get).locals.isEmpty then failAs "not in a function" "can only be used in a function"
  let extended := (← get).extended
  let names := args.filter fun a => !(extended && a.startsWith "-" && a != "-")
  names.forM (makeLocal id)
  return 0

/-- The command `declare`: makes variables, local ones in a function. -/
def declareVars (args : List Bytes) : ShM Nat := do
  let opts := args.takeWhile fun a => (a.startsWith "-" || a.startsWith "+") && 1 < a.length
  let has (c : Char) : Bool := opts.any fun a => a.startsWith "-" && a.toList.contains c
  let mark (v : Var) : Var :=
    { v with exported := v.exported || has 'x', readOnly := v.readOnly || has 'r' }
  (args.drop opts.length).forM fun text => do
    let name := (splitAssignment text).1
    if has 'i' then modify fun s => { s with numeric := name :: s.numeric }
    let inFunction := !(← get).locals.isEmpty && !has 'g'
    let text ← match has 'i', (splitAssignment text).2 with
      | true, some value => pure (name ++ "=" ++ toString (← Arith.eval value))
      | _, _ => pure text
    let s ← get
    if has 'A' then
      set { s with tables := if s.tables.contains name then s.tables else s.tables.insert name [] }
    else if s.arrays.contains name && (splitAssignment text).2.isNone then return
    else if inFunction then makeLocal mark text
    else if has 'a' then
      modify fun s => { s with
        arrays := if s.arrays.contains name then s.arrays else s.arrays.insert name [] }
    else markVar mark text
  return 0

/-- The command `let`: works out expressions, and fails if the last one is zero. -/
def letExpressions (args : List Bytes) : ShM Nat := do
  if args.isEmpty then fail "expression expected"
  let values ← args.mapM Arith.eval
  return if values.getLastD 0 == 0 then 1 else 0

/-- The command `shopt`: turns further switches on or off. -/
def setFeatures (args : List Bytes) : ShM Nat := do
  let names := args.filter fun a => !a.startsWith "-"
  if args.contains "-s" then modify fun s => { s with features := names ++ s.features }
  if args.contains "-u" then
    modify fun s => { s with features := s.features.filter fun f => !names.contains f }
  if args.contains "-q" then
    let on := (← get).features
    return if names.all on.contains then 0 else 1
  return 0

/-- The command `unset`. -/
def unsetNames (args : List Bytes) : ShM Nat := do
  let (opts, names) ← options "vf" args
  let functions := opts.getLast?.any (·.1 == 'f')
  names.forM fun name => do
    let extended := (← get).extended
    if functions then modify fun s => { s with functions := s.functions.erase name }
    else if !extended then unsetVar name
    else if isName name then
      let s ← get
      if s.vars.contains name || s.arrays.contains name || s.tables.contains name then
        unsetVar name
      else modify fun s => { s with functions := s.functions.erase name }
    else
      let array := (name.takeWhile (· != '[')).toString
      let inside := ((name.drop (array.length + 1)).dropEnd 1).toString
      if let some elements := (← get).tables[array]? then
        let key := String.ofList (← subscriptText inside.length inside.toList)
        modify fun s => { s with
          tables := s.tables.insert array (elements.filter fun e => e.1 != key) }
      else if isName array && name.endsWith "]" then
        let n ← subscript inside
        modify fun s => { s with
          arrays := s.arrays.insert array (((s.arrays[array]?).getD []).filter fun e => e.1 != n) }
  return 0

/-! ### Arguments of the shell -/

/-- Sets the arguments of the shell. -/
def setArguments (args : List Bytes) : ShM Unit :=
  modify fun s => { s with arguments := { list := args } }

/-- Turns a switch on or off. Jobs cannot be controlled without a terminal. -/
def setSwitch (s : Switch) (on : Bool) : ShM Unit :=
  if s == .monitor && on then warn "can't access tty; job control turned off"
  else modify fun t => { t with
    switches := if on then (if t.switches.contains s then t.switches else s :: t.switches)
      else t.switches.filter (· != s) }

/-- Turns the switch of a letter on or off. -/
def setLetter (c : Char) (on : Bool) : ShM Unit := do
  match Switch.ofLetter? c with
  | some s => setSwitch s on
  | none => fail ("Illegal option -" ++ String.singleton c)

/-- The names of switches that only the extended shell has. -/
def furtherSwitches : List Bytes :=
  ["braceexpand", "errtrace", "functrace", "hashall", "histexpand",
  "history", "keyword", "onecmd", "physical", "pipefail", "posix"]

/-- Turns the switch of a name on or off, or shows all of them. -/
def setNamed (name : Option Bytes) (on : Bool) : ShM Unit := do
  match name with
  | some n =>
    let extended := (← get).extended
    match Switch.ofName? n with
    | some s => setSwitch s on
    | none =>
      if extended && furtherSwitches.contains n then
        modify fun s => { s with
          features := if on then n :: s.features else s.features.filter (· != n) }
      else failAs ("Illegal option -o " ++ n) (n ++ ": invalid option name")
  | none =>
    let switches := (← get).switches
    if on then
      out "Current option settings\n"
      Switch.table.forM fun (s, name, _) =>
        out (name.pushn ' ' (16 - name.length) ++
          (if switches.contains s then "on\n" else "off\n"))
    else
      Switch.table.forM fun (s, name, _) =>
        out ("set " ++ (if switches.contains s then "-o " else "+o ") ++ name ++ "\n")

/-- Reads the letters behind a dash or a plus sign. The result is the arguments left. -/
def setLetters (on : Bool) : List Char → List Bytes → ShM (List Bytes)
  | [], args => return args
  | 'o' :: cs, args => do
    setNamed args.head? on
    setLetters on cs args.tail
  | c :: cs, args => do
    setLetter c on
    setLetters on cs args

/-- Reads the switches at the front of arguments. The result is the arguments after them, if any
are to be set. -/
def setSwitches : (bound : Nat) → List Bytes → ShM (Option (List Bytes))
  | 0, _ => return none
  | bound + 1, args => do
    match args with
    | [] => return none
    | arg :: rest =>
      match arg.toList with
      | ['-'] =>
        setSwitch .xtrace false
        setSwitch .verbose false
        return if rest.isEmpty then none else some rest
      | ['-', '-'] => return some rest
      | '-' :: cs => setSwitches bound (← setLetters true cs rest)
      | '+' :: cs => setSwitches bound (← setLetters false cs rest)
      | _ => return some args

/-- The command `set`. -/
def setAll (args : List Bytes) : ShM Nat := do
  if args.isEmpty then showVars "" (·.value.isSome)
  else match ← setSwitches (args.length + 1) args with
    | some list => setArguments list
    | none => pure ()
  return 0

/-- The command `shift`. -/
def shiftArguments (args : List Bytes) : ShM Nat := do
  let n ← match args with
    | [] => pure 1
    | s :: _ => toCount s
  let s ← get
  if s.arguments.list.length < n then
    if s.extended then return 1
    fail "can't shift that many"
  setArguments (s.arguments.list.drop n)
  return 0

/-! ### Options of a script -/

/-- Whether an option letter has a value, by the letters that there are. -/
def scriptOption? (spec : List Char) (c : Char) : Option Bool :=
  optionKind? c (if spec.head? == some ':' then spec.drop 1 else spec)

/-- What `getopts` does with the next option: the letter for the variable, the value, and what to
say. -/
structure NextOption where
  letter : Bytes
  value : Option Bytes := none
  complaint : Option Bytes := none
  /-- The arguments that have been gone through, and the place in the next one. -/
  next : Nat
  offset : Option Nat := none
  isOver : Bool := false

/-- Finds the next option among arguments. -/
def nextOption (spec : List Char) (args : List Bytes) (index : Nat) (offset : Option Nat) :
    NextOption :=
  let silent := spec.head? == some ':'
  let current := (args[index - 2]?.getD "").toList
  let here : Option (List Char × Nat) := match offset with
    | some n => if 2 ≤ index && n < current.length then some (current.drop n, index) else none
    | none => none
  let start : Option (List Char × Nat) := match here with
    | some h => some h
    | none => match args[index - 1]? with
      | some arg => match arg.toList with
        | '-' :: c :: cs => if c == '-' && cs.isEmpty then some ([], index + 1)
          else some (c :: cs, index + 1)
        | _ => none
      | none => none
  match start with
  | none => { letter := "?", next := index, isOver := true }
  | some ([], next) => { letter := "?", next, isOver := true }
  | some (c :: cs, next) =>
    let arg := (args[next - 2]?.getD "").toList
    let offset := some (arg.length - cs.length)
    let name := String.singleton c
    match if c == ':' then none else scriptOption? spec c with
    | none =>
      if silent then { letter := "?", value := some name, next, offset }
      else { letter := "?", complaint := some ("Illegal option -" ++ name ++ "\n"), next, offset }
    | some false => { letter := name, value := some "", next, offset }
    | some true =>
      if !cs.isEmpty then { letter := name, value := some (String.ofList cs), next }
      else match args[next - 1]? with
        | some v => { letter := name, value := some v, next := next + 1 }
        | none =>
          if silent then { letter := ":", value := some name, next }
          else { letter := "?", complaint := some ("No arg for -" ++ name ++ " option\n"), next }

/-- The command `getopts`. -/
def nextScriptOption (args : List Bytes) : ShM Nat := do
  match ← plainArguments args with
  | spec :: name :: given =>
    let s ← get
    let list := if given.isEmpty then s.arguments.list else given
    let r := nextOption spec.toList list s.arguments.nextOption s.arguments.offset
    match r.complaint with
    | some message => writeErr message
    | none => pure ()
    match r.value with
    | some v => setVar "OPTARG" v
    | none => if !r.isOver then unsetVar "OPTARG"
    let offset := r.offset
    setVar "OPTIND" (toString r.next)
    setVar name r.letter
    modify fun s => { s with
      arguments := { s.arguments with nextOption := r.next, offset } }
    return if r.isOver then 1 else 0
  | _ => fail "Usage: getopts optstring var [arg...]"

/-! ### Reading -/

/-- A line that is read: its characters, the first of them last, and the parts of it that are split
into fields. -/
structure Line where
  chars : List Char := []
  size : Nat := 0
  regions : List Region := []
  /-- Where the current region begins. -/
  first : Nat := 0

/-- Ends a region before what a backslash escapes. -/
def Line.endRegion (l : Line) (last skipped : Nat) : Line :=
  { l with regions := ⟨l.first, last, false⟩ :: l.regions, first := last + skipped }

/-- Reads a line by its characters. `escaped` says that a backslash came before. The result says
whether there was an end of the line. -/
def readChars (raw : Bool) : List Char → (escaped : Bool) → Line → Line × Bool × Bool
  | [], escaped, l => (l, false, escaped)
  | c :: cs, escaped, l =>
    if c == '\x00' then readChars raw cs escaped l
    else if escaped then
      if c == '\n' then readChars raw cs false (l.endRegion l.size 0)
      else readChars raw cs false
        ({ l with chars := c :: l.chars, size := l.size + 1 }.endRegion l.size 1)
    else if !raw && c == '\\' then readChars raw cs true l
    else if c == '\n' then (l, true, false)
    else readChars raw cs false { l with chars := c :: l.chars, size := l.size + 1 }

/-- Reads a line from the input. The result says whether there was an end of the line. -/
def readLine (raw : Bool) : (bound : Nat) → (escaped : Bool) → Line → ShM (Line × Bool)
  | 0, _, l => return (l, false)
  | bound + 1, escaped, l => do
    match ← act (Act.text (.readLine 0 '\n')) with
    | .error .interrupted => do
      noteSignals
      if (← get).pending.isEmpty then readLine raw bound escaped l else return (l, false)
    | .error _ => return (l, false)
    | .ok s =>
      if s.isEmpty then return (l, false)
      let (l, ended, escaped) := readChars raw s.toList escaped l
      if ended then return (l, true) else readLine raw bound escaped l

/-- What the splitting of a line has come to. -/
structure LineSplitting where
  /-- How many fields may still be found. -/
  left : Nat
  start : Nat := 0
  /-- White space has ended a field. -/
  space : Bool := false
  /-- Where what is left out at the end of the last field begins. -/
  cut : Option Nat := none
  /-- The fields found, by their ends, the last one first. -/
  fields : List (Nat × Nat) := []

/-- Goes on over one character. -/
def LineSplitting.step (s : LineSplitting) (ifs : List Char) (place : Nat) (c : Char) :
    LineSplitting :=
  let separates := ifs.contains c
  let isSpace := separates && [' ', '\t', '\n'].contains c
  if s.left == 0 then
    if isSpace then { s with cut := some (s.cut.getD place) }
    else { s with cut := if separates && s.space then s.cut else none, space := false }
  else if s.space then
    { s with start := if separates then place + 1 else place, space := isSpace }
  else if separates then
    if place == s.start && isSpace then { s with start := place + 1, space := false }
    else if s.left == 1 then { s with left := 0, cut := some place, space := isSpace }
    else { s with
      space := isSpace, left := s.left - 1, start := place + 1
      fields := (s.start, place) :: s.fields }
  else s

/-- Splits a line into at most so many fields; the last one has the rest of the line. -/
def splitLine (ifs : List Char) (count : Nat) (l : Line) : List Bytes :=
  let chars := l.chars.reverse.toArray
  let regions := (⟨l.first, l.size, false⟩ :: l.regions).reverse
  let s := regions.foldl (fun (s : LineSplitting) r =>
    (List.range' r.first (r.last - r.first)).foldl (fun (s : LineSplitting) i =>
      s.step ifs i (chars.getD i ' ')) { s with space := false }) { left := count }
  let last := s.cut.getD l.size
  let fields := if s.start < last then (s.start, last) :: s.fields else s.fields
  fields.reverse.map fun (first, last) => String.ofList (chars.extract first last).toList

/-- The command `mapfile`: reads lines into an array. -/
def readLines (args : List Bytes) : ShM Nat := do
  let (opts, names) ← options "td:n:O:s:u:" args
  let text := (← act (Act.readAll 0)).toOption.getD ""
  let lines := text.splitOn "\n"
  let cut := opts.any (·.1 == 't')
  let ended := lines.dropLast.map fun l => if cut then l else l ++ "\n"
  let last := lines.getLastD ""
  let all := if last.isEmpty then ended else ended ++ [last]
  modify fun s => { s with
    arrays := s.arrays.insert (names.headD "MAPFILE") ((List.range all.length).zip all) }
  return 0

/-- The command `read`. -/
def readVars (args : List Bytes) : ShM Nat := do
  let extended := (← get).extended
  let (opts, names) ← options (if extended then "p:ra:d:n:N:t:u:es" else "p:r") args
  let names := if extended && names.isEmpty then ["REPLY"] else names
  if names.isEmpty then fail "arg count"
  let raw := opts.any (·.1 == 'r')
  let (line, ended) ← readLine raw Act.rounds false {}
  let ifs ← separators
  match opts.lookup 'a' with
  | some array =>
    let fields := splitLine ifs.toList Act.rounds line
    modify fun s => { s with
      vars := s.vars.erase array
      arrays := s.arrays.insert array ((List.range fields.length).zip fields) }
    return if ended then 0 else 1
  | none => pure ()
  let fields := if extended && names == ["REPLY"] then [String.ofList line.chars.reverse]
    else splitLine ifs.toList names.length line
  (names.zip (fields ++ List.replicate names.length "")).forM fun (name, v) => setVar name v
  return if ended then 0 else 1

end ShM

end Tilde.Sh
