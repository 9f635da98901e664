import Tilde.Utility.Awk.Expression

/-!
# Reading awk programs

How the tokens of a program make statements, rules and functions.
-/

namespace Tilde.Utility.Awk

open Unix (Bytes)

open Read

/-- Whether a statement may end here without a sign. -/
def endsHere : Token → Bool
  | .newline | .eof => true
  | .op s => s == ";" || s == "\x7d"
  | _ => false

/-- Uses the end of a statement. -/
def statementEnd : Read Unit := do
  match ← peek with
  | .newline | .op ";" => drop
  | .op "\x7d" | .eof => return
  | _ => unexpected

/-- An expression, unless the statement ends here. -/
def optionalExpr : Read (Option Expr) := do
  if endsHere (← peek) then return none else return some (← expr {})

/-- Where output goes. -/
def destination : Read Dest := do
  match ← peek with
  | .op ">" =>
    drop
    return .file (← expr {})
  | .op ">>" =>
    drop
    return .append (← expr {})
  | .op "|" =>
    drop
    return .command (← expr {})
  | _ => return .main

/-- What is written, and where it goes. -/
def output : Read (List Expr × Dest) := do
  let isBare := match ← peek with
    | .op s => s == ">" || s == ">>" || s == "|" || s == ";" || s == "\x7d"
    | .newline | .eof => true
    | _ => false
  let args ← if isBare then pure [] else commas (fun m => expr m) { inPrint := true } (← size)
  let args := match args with
    | [.group es] => es
    | args => args
  return (args, ← destination)

/-- A statement that others do not stand in. -/
def simple : Read Stmt := do
  match ← peek with
  | .keyword "print" =>
    drop
    let (args, dest) ← output
    return .print args dest
  | .keyword "printf" =>
    drop
    let (args, dest) ← output
    if args.isEmpty then unexpected
    return .printf args dest
  | .keyword "delete" =>
    drop
    match ← peek with
    | .name s =>
      drop
      let p ← place s .array
      if ← acceptOp "[" then
        let subscripts ← commas (fun m => expr m) {} (← size)
        expectOp "]"
        return .delete p subscripts
      else return .delete p []
    | _ => unexpected
  | _ => return .expr (← expr {})

/-- Does something within a loop. -/
def inLoop {α : Type} (m : Read α) : Read α := do
  modify fun s => { s with loops := s.loops + 1 }
  let a ← m
  modify fun s => { s with loops := s.loops - 1 }
  return a

/-- The condition of a statement, in parentheses. -/
def condition : Read Expr := do
  expectOp "("
  let e ← expr {}
  expectOp ")"
  skipLines
  return e

/-- Whether a loop goes through an array: its variable and the array. -/
def overArray? : Read (Option (Bytes × Bytes)) := do
  let tokens : List Token := ((← get).rest.take 4).map (·.token)
  match tokens with
  | [.name k, .keyword "in", .name a, .op ")"] => return some (k, a)
  | _ => return none

/-- A statement that leaves a loop or goes on with it. -/
def jump (s : Stmt) (message : Bytes) : Read Stmt := do
  if (← get).loops == 0 then fail message
  drop
  statementEnd
  return s

/-- A statement that goes on with the next record. -/
def skipping (s : Stmt) (message : Bytes) : Read Stmt := do
  if !(← get).inRule then fail message
  drop
  statementEnd
  return s

mutual

/-- A statement. -/
def statement : (bound : Nat) → Read Stmt
  | 0 => unexpected
  | bound + 1 => do
    match ← peek with
    | .op "\x7b" => blockOf bound
    | .op ";" =>
      drop
      return .block []
    | .keyword "if" =>
      drop
      let c ← condition
      let yes ← statement bound
      let before ← get
      skipEnds
      if ← acceptWord "else" then
        skipLines
        return .ifElse c yes (← statement bound)
      else
        set before
        return .ifElse c yes (.block [])
    | .keyword "while" =>
      drop
      let c ← condition
      return .while_ c (← inLoop (statement bound))
    | .keyword "do" =>
      drop
      skipLines
      let body ← inLoop (statement bound)
      skipEnds
      if !(← acceptWord "while") then unexpected
      expectOp "("
      let c ← expr {}
      expectOp ")"
      statementEnd
      return .doWhile body c
    | .keyword "for" =>
      drop
      expectOp "("
      match ← overArray? with
      | some (k, a) =>
        let target := Expr.var (← place k .scalar)
        let array ← place a .array
        drop
        drop
        drop
        drop
        skipLines
        return .forIn target array (← inLoop (statement bound))
      | none =>
        let first ← isOp ";"
        let start ← if first then pure (Stmt.block []) else simple
        expectOp ";"
        let isFree ← isOp ";"
        let c ← if isFree then pure none else some <$> expr {}
        expectOp ";"
        let isLast ← isOp ")"
        let after ← if isLast then pure (Stmt.block []) else simple
        expectOp ")"
        skipLines
        return .for_ start c after (← inLoop (statement bound))
    | .keyword "break" => jump .break_ "break statement outside of loop"
    | .keyword "continue" => jump .continue_ "continue statement outside of loop"
    | .keyword "next" => skipping .next "improper use of next"
    | .keyword "nextfile" => skipping .nextFile "improper use of nextfile"
    | .keyword "exit" =>
      drop
      let e ← optionalExpr
      statementEnd
      return .exit e
    | .keyword "return" =>
      if (← get).params.isNone then fail "return outside function body"
      drop
      let e ← optionalExpr
      statementEnd
      return .return_ e
    | _ =>
      let s ← simple
      statementEnd
      return s

/-- Statements in braces. -/
def blockOf : (bound : Nat) → Read Stmt
  | 0 => unexpected
  | bound + 1 => do
    expectOp "\x7b"
    return .block (← statements bound)

/-- Statements up to the closing brace. -/
def statements : (bound : Nat) → Read (List Stmt)
  | 0 => unexpected
  | bound + 1 => do
    skipEnds
    if ← acceptOp "\x7d" then return []
    let s ← statement bound
    return s :: (← statements bound)

end
/-! ### Programs -/

/-- The action of a rule, or what is done without one. -/
def action? : Read (Option Stmt) := do
  if ← isOp "\x7b" then return some (← blockOf (2 * (← size))) else return none

/-- The parameters of a function. -/
def parameters : (bound : Nat) → Read (List Bytes)
  | 0 => unexpected
  | bound + 1 => do
    match ← peek with
    | .name s =>
      drop
      if ← acceptOp "," then
        skipLines
        return s :: (← parameters bound)
      else return [s]
    | _ => unexpected

/-- A function. -/
def definition : Read Unit := do
  let name ← match ← peek with
    | .name s | .called s => pure s
    | _ => unexpected
  drop
  expectOp "("
  let closes ← isOp ")"
  let params ← if closes then pure [] else parameters (← size)
  expectOp ")"
  skipLines
  if params.contains name then fail "function parameter cannot be the function"
  let repeated := (List.range params.length).find? fun n =>
    (params.take n).contains (params.getD n "")
  if let some n := repeated then
    fail (params.getD n "" ++ " is duplicated in argument list")
  let _ ← function name
  modify fun s => { s with params := some params, inRule := false }
  let body ← blockOf (2 * (← size))
  modify fun s => { s with
    params := none, functions := (name, ⟨params.length, body⟩) :: s.functions }

/-- A rule or a function. -/
def item : Read Unit := do
  match ← peek with
  | .keyword "function" | .keyword "func" =>
    drop
    definition
  | .keyword "BEGIN" =>
    drop
    match ← action? with
    | some body => modify fun s => { s with
        program := { s.program with begins := s.program.begins ++ [body] } }
    | none => unexpected
  | .keyword "END" =>
    drop
    match ← action? with
    | some body => modify fun s => { s with
        program := { s.program with ends := s.program.ends ++ [body] } }
    | none => unexpected
  | _ =>
    modify fun s => { s with inRule := true }
    let direct ← isOp "\x7b"
    let pattern ← if direct then pure Pattern.always
      else do
        let first ← expr {}
        if ← acceptOp "," then
          skipLines
          pure (Pattern.range first (← expr {}))
        else pure (Pattern.when first)
    let action := (← action?).getD (.print [] .main)
    modify fun s => { s with
      inRule := false
      program := { s.program with rules := s.program.rules ++ [⟨pattern, action⟩] } }

/-- Rules and functions. -/
def items : (bound : Nat) → Read Unit
  | 0 => return
  | bound + 1 => do
    skipEnds
    match ← peek with
    | .eof => return
    | _ =>
      item
      match ← peek with
      | .newline | .eof | .op ";" | .op "\x7b" | .op "!" | .op "(" | .op "$" | .op "-" => pure ()
      | .op _ | .bad _ | .strange _ => unexpected
      | _ => pure ()
      items bound

/-- A program with all functions that it calls. -/
def wholeProgram : Read Program := do
  items (← size)
  let s ← get
  let missing := s.functionNames.find? fun f => (s.functions.lookup f).isNone
  if let some f := missing then fail ("function " ++ f ++ " never defined")
  let functions := s.functionNames.map fun f =>
    (s.functions.lookup f).getD ⟨0, .block []⟩
  return { s.program with functions := functions.toArray, names := s.names }

/-- Reads a program. -/
def parse (source : Bytes) : Except Fault Program := do
  let (p, _) ← wholeProgram.run { rest := tokensOf source }
  return p

end Tilde.Utility.Awk
