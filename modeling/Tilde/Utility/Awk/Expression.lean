import Std.Data.HashMap
import Tilde.Utility.Awk.Lexer
import Tilde.Utility.Awk.Matching

/-!
# Reading awk expressions

How the tokens of a program make expressions. A name stands for a variable or for an array,
whichever it is used as first.
-/

namespace Tilde.Utility.Awk

open Unix (Bytes)

/-- What is wrong with a program: messages, and the lines they are about. -/
structure Fault where
  line : Nat
  message : Bytes
  /-- A character that begins nothing. -/
  isStrange : Bool := false

/-- What is said about a text that is no regular expression. -/
def Fault.ofRegex (e s : Bytes) : Bytes := "regular expression compile failed (" ++ e ++ ")\n" ++ s

/-- What a name has been used as. -/
inductive Use where
  | unknown
  | scalar
  | array
  deriving DecidableEq

/-- A program that is being read. -/
structure Reading where
  rest : List Located
  line : Nat := 1
  names : Array Bytes := specialNames.toArray
  uses : Std.HashMap Bytes Use := .ofList [("ENVIRON", .array), ("ARGV", .array)]
  /-- The parameters of the function that is being read. -/
  params : Option (List Bytes) := none
  loops : Nat := 0
  /-- Whether the action is one for records. -/
  inRule : Bool := false
  functionNames : List Bytes := []
  functions : List (Bytes × Function) := []
  program : Program := {}

/-- Reads a part of a program. -/
abbrev Read := StateT Reading (Except Fault)

namespace Read

variable {α : Type}

/-- The next token. -/
def peek : Read Token := return ((← get).rest.head?.map (·.token)).getD .eof

/-- The token after the next one. -/
def peekSecond : Read Token := return (((← get).rest.drop 1).head?.map (·.token)).getD .eof

/-- Fails with a message. -/
def fail (message : Bytes) : Read α := do
  let s ← get
  throw { line := (s.rest.head?.map (·.line)).getD s.line, message }

/-- Fails because of the next token. -/
def unexpected : Read α := do
  match ← peek with
  | .bad message => fail message
  | .strange c =>
    let line := ((← get).rest.head?.map (·.line)).getD 1
    let message := "unexpected character '" ++ String.singleton c ++ "'"
    throw { line, message, isStrange := true }
  | t => fail ("syntax error at or near " ++ t.shown)

/-- Goes on behind the next token. -/
def drop : Read Unit :=
  modify fun s => match s.rest with
    | t :: rest => { s with rest, line := t.line }
    | [] => s

/-- Whether the next token is some operator. -/
def isOp (s : Bytes) : Read Bool := do
  match ← peek with
  | .op t => return s == t
  | _ => return false

/-- Whether the next token is some word. -/
def isWord (s : Bytes) : Read Bool := do
  match ← peek with
  | .keyword t => return s == t
  | _ => return false

/-- Fails if a text is no regular expression. -/
def checkRegex (s : Bytes) : Read Unit := do
  if let .error e := searcherOf s then fail (Fault.ofRegex e s)

/-- Uses an operator if it is next. -/
def acceptOp (s : Bytes) : Read Bool := do
  let found ← isOp s
  if found then drop
  return found

/-- Uses a word if it is next. -/
def acceptWord (s : Bytes) : Read Bool := do
  let found ← isWord s
  if found then drop
  return found

/-- Uses an operator, which must be next. -/
def expectOp (s : Bytes) : Read Unit := do
  if !(← acceptOp s) then unexpected

/-- Goes over ends of lines. -/
def skipLines : Read Unit :=
  modify fun s => { s with rest := s.rest.dropWhile fun t => match t.token with
    | .newline => true
    | _ => false }

/-- Goes over ends of lines and semicolons. -/
def skipEnds : Read Unit :=
  modify fun s => { s with rest := s.rest.dropWhile fun t => match t.token with
    | .newline | .op ";" => true
    | _ => false }

/-- A bound on what may follow. -/
def size : Read Nat := return (← get).rest.length + 1

/-- Takes note of how a name is used. -/
def use (name : Bytes) (u : Use) : Read Unit := do
  let s ← get
  let known := (s.uses[name]?).getD .unknown
  if known == .unknown then set { s with uses := s.uses.insert name u }
  else if known != u && u != .unknown then
    let kind := if known == .array then "array" else "variable"
    throw { line := s.line, message := "illegal reference to " ++ kind ++ " " ++ name }

/-- Where the variable of a name is kept. -/
def place (name : Bytes) (u : Use) : Read Place := do
  let s ← get
  match (s.params.getD []).idxOf? name with
  | some n => return .inCall n
  | none =>
    use name u
    let s ← get
    match s.names.idxOf? name with
    | some n => return .everywhere n
    | none =>
      set { s with names := s.names.push name }
      return .everywhere s.names.size

/-- The number of the function of a name. -/
def function (name : Bytes) : Read Nat := do
  let s ← get
  match s.functionNames.idxOf? name with
  | some n => return n
  | none =>
    set { s with functionNames := s.functionNames ++ [name] }
    return s.functionNames.length

end Read

open Read

/-! ### Expressions -/

/-- Where an expression stands: a greater sign may begin a destination, and `in` may belong to a
loop. -/
structure Mode where
  inPrint : Bool := false
  inFor : Bool := false

/-- Reads an expression. -/
abbrev Inner := Mode → Read Expr

/-- Joins operands from the left as long as there are operators. -/
def joined (operator : Read (Option (Expr → Expr → Expr))) (operand : Read Expr) :
    (bound : Nat) → Expr → Read Expr
  | 0, a => return a
  | bound + 1, a => do
    match ← operator with
    | none => return a
    | some f =>
      let b ← operand
      joined operator operand bound (f a b)

/-- Expressions with commas between them. -/
def commas (inner : Inner) (m : Mode) : (bound : Nat) → Read (List Expr)
  | 0 => unexpected
  | bound + 1 => do
    let e ← inner m
    if ← acceptOp "," then
      skipLines
      return e :: (← commas inner m bound)
    else return [e]

/-- Expressions in parentheses that are open, up to the closing one. -/
def arguments (inner : Inner) : Read (List Expr) := do
  if ← acceptOp ")" then return []
  let es ← commas inner {} (← size)
  expectOp ")"
  return es

/-- The operators that assign and reckon. -/
def updates : List (Bytes × ArithOp) := [("+=", .add), ("-=", .sub), ("*=", .mul), ("/=", .div),
  ("%=", .mod), ("^=", .pow)]

/-- Whether something can be assigned to an expression. -/
def isTarget : Expr → Bool
  | .var _ | .field _ | .element .. => true
  | _ => false

/-- Goes on after something that can be assigned to. -/
def afterTarget (inner : Inner) (m : Mode) (e : Expr) : Read Expr := do
  match ← peek with
  | .op "=" =>
    drop
    skipLines
    return .assign e (← inner m)
  | .op "++" =>
    drop
    return .step false false e
  | .op "--" =>
    drop
    return .step false true e
  | .op s =>
    match updates.lookup s with
    | some op =>
      drop
      return .update op e (← inner m)
    | none => return e
  | _ => return e

/-- A bare name, or one with subscripts. -/
def variable_ (inner : Inner) (name : Bytes) : Read Expr := do
  if ← acceptOp "[" then
    let p ← place name .array
    let subscripts ← commas inner {} (← size)
    expectOp "]"
    return .element p subscripts
  else return .var (← place name .scalar)

/-- A name as an argument of a function, where it may be an array. -/
def argumentOr (inner : Inner) : Read Expr := do
  match ← peek, ← peekSecond with
  | .name s, .op t =>
    if t == "," || t == ")" then
      drop
      return .var (← place s .unknown)
    else inner {}
  | _, _ => inner {}

/-- The arguments of a call, up to the closing parenthesis. -/
def callArguments (inner : Inner) : Read (List Expr) := do
  if ← acceptOp ")" then return []
  let es ← commas (fun _ => argumentOr inner) {} (← size)
  expectOp ")"
  return es

/-- The call of a function that is always there. -/
def builtinCall (inner : Inner) (b : Builtin) : Read Expr := do
  let opened ← acceptOp "("
  if !opened then
    if b == .length then return .builtin b [] else unexpected
  match b with
  | .length => return .builtin b (← callArguments inner)
  | .split =>
    let e ← inner {}
    expectOp ","
    skipLines
    match ← peek with
    | .name s =>
      drop
      let array := Expr.var (← place s .array)
      if ← acceptOp ")" then return .builtin b [e, array]
      expectOp ","
      skipLines
      let separator ← inner {}
      expectOp ")"
      return .builtin b [e, array, separator]
    | _ => unexpected
  | _ => return .builtin b (← arguments inner)

mutual

/-- A single operand. `m` says what may follow it. -/
def operand (inner : Inner) (m : Mode) (assigns : Bool) : (bound : Nat) → Read Expr
  | 0 => unexpected
  | bound + 1 => do
    let finish (e : Expr) : Read Expr := if assigns then afterTarget inner m e else return e
    match ← peek with
    | .number x _ =>
      drop
      return .number x
    | .text s =>
      drop
      return .text s
    | .regex s =>
      drop
      checkRegex s
      return .regex s
    | .name s =>
      drop
      finish (← variable_ inner s)
    | .called s =>
      drop
      let f ← function s
      drop
      return .call f (← callArguments inner)
    | .builtin b _ =>
      drop
      builtinCall inner b
    | .keyword "getline" =>
      drop
      let target ← getlineTarget inner m bound
      if ← acceptOp "<" then
        return .getline .file (some (← operand inner m false bound)) target
      else return .getline .main none target
    | .op "$" =>
      drop
      match ← peek with
      | .op "++" | .op "--" | .op "-" | .op "+" | .op "!" =>
        finish (.field (← signed inner m bound))
      | _ => finish (.field (← operand inner m false bound))
    | .op "++" =>
      drop
      let e ← operand inner m false bound
      if isTarget e then return .step true false e else unexpected
    | .op "--" =>
      drop
      let e ← operand inner m false bound
      if isTarget e then return .step true true e else unexpected
    | .op "(" =>
      drop
      let es ← commas inner {} (← size)
      expectOp ")"
      match es with
      | [e] => return .group [e]
      | es =>
        if ← isWord "in" then
          drop
          match ← peek with
          | .name s =>
            drop
            return .member es (← place s .array)
          | _ => unexpected
        else return .group es
    | .op "-" | .op "+" | .op "!" => signed inner m bound
    | _ => unexpected

/-- What a record that is read is put into. -/
def getlineTarget (inner : Inner) (m : Mode) : (bound : Nat) → Read (Option Expr)
  | 0 => return none
  | bound + 1 => do
    match ← peek with
    | .name _ | .op "$" => return some (← operand inner m false bound)
    | _ => return none

/-- A power, whose exponent may have a sign. -/
def power (inner : Inner) (m : Mode) : (bound : Nat) → Read Expr
  | 0 => unexpected
  | bound + 1 => do
    let a ← operand inner m true bound
    if ← acceptOp "^" then return .arith .pow a (← signed inner m bound) else return a

/-- Output of commands that is read by records. -/
def piped (inner : Inner) (m : Mode) : (bound : Nat) → Expr → Read Expr
  | 0, e => return e
  | bound + 1, e => do
    match ← peek, ← peekSecond with
    | .op "|", .keyword "getline" =>
      drop
      drop
      let target ← getlineTarget inner m bound
      piped inner m bound (.getline .command (some e) target)
    | _, _ => return e

/-- An operand with signs before it. -/
def signed (inner : Inner) (m : Mode) : (bound : Nat) → Read Expr
  | 0 => unexpected
  | bound + 1 => do
    match ← peek with
    | .op "!" =>
      drop
      return .not (← signed inner m bound)
    | .op "-" =>
      drop
      return .negate (← signed inner m bound)
    | .op "+" =>
      drop
      return .plus (← signed inner m bound)
    | _ => piped inner m bound (← power inner m bound)

end

/-- Looks for an operator among some. -/
def among (ops : List (Bytes × (Expr → Expr → Expr))) : Read (Option (Expr → Expr → Expr)) := do
  match ← peek with
  | .op s =>
    match ops.lookup s with
    | some f =>
      drop
      return some f
    | none => return none
  | _ => return none

/-- Products. -/
def product (inner : Inner) (m : Mode) : Read Expr := do
  let one : Read Expr := do signed inner m (2 * (← size))
  joined (among [("*", .arith .mul), ("/", .arith .div), ("%", .arith .mod)]) one (← size) (← one)

/-- Sums. -/
def sum (inner : Inner) (m : Mode) : Read Expr := do
  let one := product inner m
  joined (among [("+", .arith .add), ("-", .arith .sub)]) one (← size) (← one)

/-- Whether a token may begin an operand that is joined to the one before. -/
def beginsOperand : Token → Bool
  | .number .. | .text _ | .regex _ | .name _ | .called _ | .builtin .. => true
  | .op s => ["$", "!", "(", "++", "--"].contains s
  | _ => false

/-- Texts that are joined. -/
def concatenation (inner : Inner) (m : Mode) : Read Expr := do
  let one := sum inner m
  let operator : Read (Option (Expr → Expr → Expr)) := do
    return if beginsOperand (← peek) then some .concat else none
  joined operator one (← size) (← one)

/-- Comparisons. -/
def comparison (inner : Inner) (m : Mode) : Read Expr := do
  let one := concatenation inner m
  let ops : List (Bytes × (Expr → Expr → Expr)) := [("<", .compare .lt), ("<=", .compare .le),
    ("==", .compare .eq), ("!=", .compare .ne), (">=", .compare .ge)]
  let ops := if m.inPrint then ops else (">", .compare .gt) :: ops
  joined (among ops) one (← size) (← one)

/-- Matches. -/
def matching (inner : Inner) (m : Mode) : Read Expr := do
  let one := comparison inner m
  let pattern : Read Expr := do
    let e ← one
    if let .text s := e then checkRegex s
    return e
  joined (among [("~", .isMatch true), ("!~", .isMatch false)]) pattern (← size) (← one)

/-- Goes on with the arrays that something may be in. -/
def memberships : (bound : Nat) → Expr → Read Expr
  | 0, e => return e
  | bound + 1, e => do
    if ← acceptWord "in" then
      match ← peek with
      | .name s =>
        drop
        memberships bound (.member [e] (← place s .array))
      | _ => unexpected
    else return e

/-- Memberships, unless `in` belongs to a loop. -/
def membership (inner : Inner) (m : Mode) : Read Expr := do
  let e ← matching inner m
  if m.inFor then return e else memberships (← size) e

/-- Expressions that must all hold. -/
def conjunction (inner : Inner) (m : Mode) : Read Expr := do
  let one := membership inner m
  let operator : Read (Option (Expr → Expr → Expr)) := do
    let found ← acceptOp "&&"
    if found then skipLines
    return if found then some .both else none
  joined operator one (← size) (← one)

/-- Expressions of which one must hold. -/
def disjunction (inner : Inner) (m : Mode) : Read Expr := do
  let one := conjunction inner m
  let operator : Read (Option (Expr → Expr → Expr)) := do
    let found ← acceptOp "||"
    if found then skipLines
    return if found then some .either else none
  joined operator one (← size) (← one)

/-- Expressions of all kinds. -/
def expression : (bound : Nat) → Inner
  | 0, _ => unexpected
  | bound + 1, m => do
    let c ← disjunction (expression bound) m
    if ← acceptOp "?" then
      let a ← expression bound m
      expectOp ":"
      return .choice c a (← expression bound m)
    else return c

/-- An expression. -/
def expr (m : Mode) : Read Expr := do
  expression (← size) m

end Tilde.Utility.Awk
