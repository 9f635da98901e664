import Tilde.Utility.Awk.Eval
import Tilde.Utility.Awk.Statement

/-!
# The scanning of records by patterns

Runs a program: what comes before the input, its rules for each record, and what comes after; and
reads what the program is told by its arguments.
-/

namespace Tilde.Utility.Awk

open Unix (Bytes)
open Run

/-! ### Statements -/

/-- Does the body of a loop. The result says whether the loop goes on. -/
def loopBody (m : Run Unit) : Run Bool := ExceptT.mk do
  match ← m.run with
  | .ok _ | .error .continue_ => return .ok true
  | .error .break_ => return .ok false
  | .error e => return .error e

/-- Does something for keys in turn. -/
def overKeys (m : Bytes → Run Bool) : List Bytes → Run Unit
  | [] => return
  | key :: keys => do
    let goesOn ← m key
    if goesOn then overKeys m keys

/-- A value as it is printed. -/
def printed (v : Value) : Run Bytes := do
  match v with
  | .number x => return (Value.number x).toText ((← special ofmt).toText "%.6g")
  | v => textOf v

/-- Where output goes. -/
def outletOf (ev : Ev) (d : Dest) : Run Outlet := do
  match d with
  | .main => return .main
  | .file e => fileOutlet (← textOf (← ev e)) false
  | .append e => fileOutlet (← textOf (← ev e)) true
  | .command e => commandOutlet (← textOf (← ev e))

/-- What an argument of a function is: a variable that is an array, or nothing so far, is handed on
itself. -/
def argument (ev : Ev) (e : Expr) : Run Slot := do
  match e with
  | .var p => if p == .everywhere nf then return .value (← ev e) else slot p
  | e => return .value (← ev e)

mutual

/-- Does a statement. -/
def exec : (bound : Nat) → Stmt → Run Unit
  | 0, _ => fail "too many steps"
  | bound + 1, s => do
    let ev := eval (call bound) bound
    let test (e : Expr) : Run Bool := return (← ev e).isTrue
    match s with
    | .block body => execAll bound body
    | .ifElse c yes no =>
      let c ← test c
      if c then exec bound yes else exec bound no
    | .while_ c body =>
      let holds ← test c
      if holds then
        let goesOn ← loopBody (exec bound body)
        if goesOn then exec bound (.while_ c body)
    | .doWhile body c =>
      let goesOn ← loopBody (exec bound body)
      if goesOn then
        let holds ← test c
        if holds then exec bound (.doWhile body c)
    | .for_ start c after body =>
      exec bound start
      let holds ← match c with
        | some c => test c
        | none => pure true
      if holds then
        let goesOn ← loopBody (exec bound body)
        if goesOn then
          exec bound after
          exec bound (.for_ (.block []) c after body)
    | .forIn e p body =>
      let a ← arrayAt p
      let (keys, t) := (← table a).keys
      setTable a t
      let step (key : Bytes) : Run Bool := do
        let t ← target ev e
        t.set (.text key)
        loopBody (exec bound body)
      overKeys step keys
    | .break_ => throw .break_
    | .continue_ => throw .continue_
    | .next => throw .next
    | .nextFile => throw .nextFile
    | .exit e =>
      match e with
      | some e =>
        let n := truncated (← ev e).toNumber
        modify fun s => { s with status := (n.emod 256).toNat }
      | none => pure ()
      throw .exit
    | .return_ e =>
      let v ← match e with
        | some e => ev e
        | none => pure .unset
      throw (.return_ v)
    | .delete p subscripts =>
      let a ← arrayAt p
      if subscripts.isEmpty then setTable a {}
      else
        let key ← keyOf ev subscripts
        setTable a ((← table a).erase key)
    | .print args d =>
      let texts ← args.mapM fun e => do printed (← ev e)
      let line ← if args.isEmpty then record else pure ((← specialText ofs).intercalate texts)
      let ending ← specialText ors
      let outlet ← outletOf ev d
      Run.write outlet (line ++ ending)
    | .printf args d =>
      let vs ← args.mapM ev
      let outlet ← outletOf ev d
      Run.write outlet (← formatted "printf" (Run.write outlet) vs)
    | .expr e =>
      let _ ← ev e

/-- Does statements in turn. -/
def execAll : (bound : Nat) → List Stmt → Run Unit
  | 0, _ => fail "too many steps"
  | _, [] => return
  | bound + 1, s :: rest => do
    exec bound s
    execAll bound rest

/-- Calls a function. -/
def call : (bound : Nat) → (f : Nat) → List Expr → Run Value
  | 0, _, _ => fail "too many steps"
  | bound + 1, f, args => do
    match (← get).functions[f]? with
    | none => fail "function never defined"
    | some function =>
      let given ← args.mapM (argument (eval (call bound) bound))
      let s ← get
      let lack := function.params - given.length
      let fresh := (List.range lack).map fun n => Slot.array (s.freeTable + n)
      set { s with locals := (given ++ fresh).toArray, freeTable := s.freeTable + lack }
      let result ← ExceptT.mk do return .ok (← (exec bound function.body).run)
      let own := (List.range ((← get).freeTable - s.freeTable)).map (s.freeTable + ·)
      modify fun t => { t with
        locals := s.locals, freeTable := s.freeTable, tables := own.foldl (·.erase) t.tables }
      match result with
      | .ok _ => return .unset
      | .error (.return_ v) => return v
      | .error e => throw e

end

/-- Does a statement. -/
def perform (s : Stmt) : Run Unit := exec Tool.rounds s

/-- The value of an expression. -/
def evaluate : Ev := eval (call Tool.rounds) Tool.rounds

/-! ### Programs -/

/-- Whether a rule is about the record. `n` is the number of the rule. -/
def applies (n : Nat) : Pattern → Run Bool
  | .always => return true
  | .when e => return (← evaluate e).isTrue
  | .range first last => do
    let isActive := (← get).active.contains n
    let begins ← if isActive then pure true else do pure (← evaluate first).isTrue
    if begins then
      let ends := (← evaluate last).isTrue
      modify fun s => { s with
        active := if ends then s.active.filter (· != n)
          else if isActive then s.active else n :: s.active }
      return true
    else return false

/-- Does what the rules say about the record. -/
def applyRules : (n : Nat) → List Rule → Run Unit
  | _, [] => return
  | n, r :: rules => do
    let isMeant ← applies n r.pattern
    if isMeant then perform r.action
    applyRules (n + 1) rules

/-- Goes through the input. -/
def scan (rules : List Rule) : (bound : Nat) → Run Unit
  | 0 => return
  | bound + 1 => do
    match ← nextMain Tool.rounds with
    | none => return
    | some text =>
      setRecord text
      let whole : Run Unit := applyRules 0 rules
      let result ← ExceptT.mk do return .ok (← whole.run)
      match result with
      | .ok _ | .error .next => pure ()
      | .error .nextFile => leaveFile
      | .error e => throw e
      scan rules bound

/-- Runs a program up to its end. -/
def wholeRun (p : Program) : Run Unit := do
  let before : Run Unit := do
    p.begins.forM perform
    if !p.rules.isEmpty || !p.ends.isEmpty then scan p.rules Tool.rounds
  let result ← ExceptT.mk do return .ok (← before.run)
  match result with
  | .ok _ | .error .exit => p.ends.forM perform
  | .error e => throw e

/-- What a program starts with. -/
def Machine.start (p : Program) (args env : List Bytes) (separator : Bytes) : Machine :=
  let initial : List (Nat × Value) := [(nf, .number 0.0), (nr, .number 0.0), (fnr, .number 0.0),
    (fs, .text separator), (ofs, .text " "), (ors, .text "\n"), (rs, .text "\n"),
    (filename, .unset), (subsep, .text "\x1C"), (rstart, .number 0.0), (rlength, .number (-1.0)),
    (convfmt, .text "%.6g"), (ofmt, .text "%.6g"), (argc, Value.ofInt args.length)]
  let slots := (List.range p.names.size).map fun n => match initial.lookup n with
    | some v => Slot.value v
    | none => Slot.array n
  let put (t : Table) (key : Table.Key) (v : Bytes) : Table :=
    ((t.find key true).2).set key (.input v)
  let entries := env.foldl (fun t e =>
    let name := (e.takeWhile (· != '=')).toString
    put t (.text name) (e.drop (name.length + 1)).toString) ({} : Table)
  let arguments := ((List.range args.length).zip args).foldl
    (fun t (n, a) => put t (.number n) a) ({} : Table)
  { functions := p.functions, names := p.names, globals := slots.toArray
    tables := .ofList [(environ, entries), (argv, arguments)], freeTable := p.names.size }

/-- Runs a program, and ends all that it has begun. -/
def runProgram (p : Program) (args : List Bytes) (separator : Bytes) (assignments : List Bytes) :
    Tool Unit := do
  let whole : Run Unit := do
    assignments.forM assign
    wholeRun p
  let env := (← get).env
  let (result, s) ← whole.run.run (Machine.start p args env separator)
  let (ended, s) ← closeAll.run.run s
  let broken ← Tool.tryFlush
  if let some e := broken then
    Tool.writeErr ("awk: close failed on file \"/dev/stdout\" (" ++ e.text ++ ")\n")
    Tool.stop 2
  let status := match result with
    | .error .stop => 2
    | _ => s.status
  match ended with
  | .ok _ => Tool.stop status
  | .error _ => Tool.stop 2

/-! ### The command -/

/-- What the command is told. -/
structure Style where
  separator : Bytes := " "
  assignments : List Bytes := []
  files : List Bytes := []

/-- Reads the options. -/
def readOptions : (bound : Nat) → Style → List Bytes → Tool (Style × List Bytes)
  | 0, s, args => return (s, args)
  | _, s, [] => return (s, [])
  | bound + 1, s, arg :: args => do
    match arg.toList with
    | ['-', '-'] => return (s, args)
    | '-' :: letter :: more =>
      if !(['F', 'v', 'f', 'W'].contains letter) then Tool.die 2 ("not an option: " ++ arg)
      let (value, args) ← match more, args with
        | [], value :: args => pure (value, args)
        | [], [] => Tool.die 2 ("option -" ++ String.singleton letter ++ " lacks argument")
        | more, args => pure (String.ofList more, args)
      match letter with
      | 'F' => readOptions bound { s with separator := unescaped value } args
      | 'v' =>
        if !isAssignment value then Tool.die 2 ("improper assignment: -v " ++ value)
        readOptions bound { s with assignments := s.assignments ++ [value] } args
      | 'f' => readOptions bound { s with files := s.files ++ [value] } args
      | _ =>
        Tool.say ("vacuous option: -W \"" ++ value ++ "\"")
        readOptions bound s args
    | _ => return (s, arg :: args)

/-- The text of a file with a program. -/
def sourceOf (path : Bytes) : Tool Bytes := do
  match ← Tool.openInput path with
  | .error e => Tool.die 2 ("cannot open \"" ++ path ++ "\" (" ++ e.text ++ ")")
  | .ok fd =>
    let text ← Tool.readAll fd
    Tool.closeInput fd
    match text with
    | .ok text => return text
    | .error e => Tool.die 2 ("read error (" ++ e.text ++ ")")

/-- How the command is used. -/
def usage : Bytes :=
  "Usage: mawk [Options] [Program] [file ...]\n" ++
  "\n" ++
  "Program:\n" ++
  "    The -f option value is the name of a file containing program text.\n" ++
  "    If no -f option is given, a \"--\" ends option processing; the following\n" ++
  "    parameters are the program text.\n" ++
  "\n" ++
  "Options:\n" ++
  "    -f program-file  Program  text is read from file instead of from the\n" ++
  "                     command-line.  Multiple -f options are accepted.\n" ++
  "    -F value         sets the field separator, FS, to value.\n" ++
  "    -v var=value     assigns value to program variable var.\n" ++
  "    --               unambiguous end of options.\n" ++
  "\n" ++
  "    Implementation-specific options are prefixed with \"-W\".  They can be\n" ++
  "    abbreviated:\n" ++
  "\n" ++
  "    -W version       show version information and exit.\n" ++
  "    -W compat        pre-POSIX 2001.\n" ++
  "    -W dump          show assembler-like listing of program and exit.\n" ++
  "    -W help          show this message and exit.\n" ++
  "    -W interactive   set unbuffered output, line-buffered input.\n" ++
  "    -W exec file     use file as program as well as last option.\n" ++
  "    -W posix         stricter POSIX checking.\n" ++
  "    -W random=number set initial random seed.\n" ++
  "    -W sprintf=number adjust size of sprintf buffer.\n" ++
  "    -W usage         show this message and exit.\n"

/-- Reads a program and runs it. -/
def command (args : List Bytes) : Tool Unit := do
  let name := (← get).name
  let (s, operands) ← readOptions (args.length + 1) {} args
  let texts ← s.files.mapM sourceOf
  let (source, operands) ← match s.files, operands with
    | [], source :: operands => pure (source, operands)
    | [], [] =>
      Tool.writeErr usage
      Tool.stop 0
    | _, operands => pure (String.join texts, operands)
  match parse source with
  | .ok p => runProgram p (name :: operands) s.separator s.assignments
  | .error fault =>
    let word := if fault.isStrange then "" else "line "
    Tool.writeErr ("awk: " ++ word ++ toString fault.line ++ ": " ++ fault.message ++ "\n")
    Tool.stop 2

end Tilde.Utility.Awk
