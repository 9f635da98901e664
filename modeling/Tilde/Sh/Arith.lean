import Tilde.Sh.State

/-!
# Arithmetic

Expressions over 64-bit numbers that wrap around. A name stands for the number that its variable
holds, or for zero; an assignment gives the variable a new one. An operand that does not count,
such as the second one of `0 && x`, is read but not worked out.
-/

namespace Tilde.Sh.Arith

open Unix (Bytes)

/-- A token of an expression. -/
inductive Tok where
  | num (n : Int)
  | name (s : Bytes)
  | op (s : Bytes)
  | eof
  /-- A character that starts no token. -/
  | bad
  deriving DecidableEq, Repr

/-- The operators, the longer ones first. -/
def operators : List Bytes :=
  ["<<=", ">>=", "<<", ">>", "<=", ">=", "==", "!=", "&&", "||", "+=", "-=", "*=", "/=", "%=",
    "&=", "|=", "^=", "+", "-", "*", "/", "%", "<", ">", "!", "~", "&", "|", "^", "(", ")", "?",
    ":", "=", ","]

/-- The operators that assign, and what they do first. -/
def assigning : List (Bytes × Option Bytes) :=
  [("=", none), ("+=", some "+"), ("-=", some "-"), ("*=", some "*"), ("/=", some "/"),
    ("%=", some "%"), ("&=", some "&"), ("|=", some "|"), ("^=", some "^"), ("<<=", some "<<"),
    (">>=", some ">>")]

/-- How tightly an operator between two numbers binds; the tighter, the lower. -/
def looseness? : Bytes → Option Nat
  | "*" | "/" | "%" => some 0
  | "+" | "-" => some 1
  | "<<" | ">>" => some 2
  | "<" | ">" | "<=" | ">=" => some 3
  | "==" | "!=" => some 4
  | "&" => some 5
  | "^" => some 6
  | "|" => some 7
  | _ => none

/-- The operators that only the extended shell has. -/
def extendedOperators : List Bytes := ["++", "--", "**"]

/-- The first token of a text, and the text after it. -/
def lex (extended : Bool) (cs : List Char) : Tok × List Char :=
  match cs.dropWhile fun c => c == ' ' || c == '\t' || c == '\n' with
  | [] => (.eof, [])
  | c :: cs =>
    if isDigit c then
      let r := readNumber 0 (c :: cs)
      let base := readNumber 10 (c :: cs)
      match extended, base.rest with
      | true, '#' :: rest =>
        let digits := readDigits base.value.toNat false rest
        (.num digits.value, digits.rest)
      | _, _ => (.num r.value, r.rest)
    else if isNameStart c then
      (.name (String.ofList ((c :: cs).takeWhile isNameChar)), (c :: cs).dropWhile isNameChar)
    else match (if extended then extendedOperators ++ operators else operators).find? fun op =>
        op.toList.isPrefixOf (c :: cs) with
      | some op => (.op op, (c :: cs).drop op.length)
      | none => (.bad, c :: cs)

/-- A reader of an expression: the token at its front, the text
after that, and the whole text. -/
structure Reader where
  tok : Tok
  rest : List Char
  whole : Bytes
  extended : Bool

/-- A reader of an expression that works out its value. -/
abbrev M := StateT Reader ShM

/-- Fails. -/
def fault {α : Type} (message : Bytes) : M α := do
  let r ← get
  let rest := String.ofList r.rest
  let token := match r.tok with
    | .num n => toString n ++ rest
    | .name s | .op s => s ++ rest
    | _ => rest
  let extended := if message == "division by zero" then "division by 0 (error token is \"" ++
      lastNumber r.whole ++ "\")"
    else if message == "expecting EOF" then
      "syntax error in expression (error token is \"" ++ token ++ "\")"
    else "syntax error: operand expected (error token is \"" ++
      (if token.isEmpty then lastSign r.whole else token) ++ "\")"
  (ShM.failAs ("arithmetic expression: " ++ message ++ ": \"" ++ r.whole ++ "\"")
    (r.whole ++ ": " ++ extended) : ShM α)
where
  /-- The number at the end of a text. -/
  lastNumber (s : Bytes) : Bytes :=
    String.ofList ((s.toList.reverse.takeWhile isNameChar).reverse)
  /-- What stands at the end of a text and is no number. -/
  lastSign (s : Bytes) : Bytes :=
    String.ofList ((s.toList.reverse.takeWhile (!isNameChar ·)).reverse)

/-- Goes on to the next token. -/
def advance : M Unit := do
  let r ← get
  let (tok, rest) := lex r.extended r.rest
  set { r with tok, rest }

/-- Whether an operator is at the front. -/
def atOp (op : Bytes) : M Bool := return (← get).tok == .op op

/-- The truth of a condition as a number. -/
def truth (b : Bool) : Int := if b then 1 else 0

/-- A number that wraps around. -/
def wrap (i : Int) : Int := (Int64.ofInt i).toInt

/-- An operator between two numbers. -/
def apply (op : Bytes) (a b : Int) : M Int := do
  let bits (f : UInt64 → UInt64 → UInt64) : Int :=
    wrap (f (UInt64.ofInt a) (UInt64.ofInt b)).toNat
  match op with
  | "|" => return bits (· ||| ·)
  | "^" => return bits (· ^^^ ·)
  | "&" => return bits (· &&& ·)
  | "==" => return truth (a == b)
  | "!=" => return truth (a != b)
  | "<=" => return truth (a ≤ b)
  | ">=" => return truth (a ≥ b)
  | "<" => return truth (a < b)
  | ">" => return truth (a > b)
  | "<<" => return (Int64.ofInt a <<< Int64.ofInt b).toInt
  | ">>" => return (Int64.ofInt a >>> Int64.ofInt b).toInt
  | "+" => return wrap (a + b)
  | "-" => return wrap (a - b)
  | "*" => return wrap (a * b)
  | "**" => return (List.replicate b.toNat a).foldl (fun x y => wrap (x * y)) 1
  | "/" => if b == 0 then fault "division by zero" else return wrap (a.tdiv b)
  | _ => if b == 0 then fault "division by zero" else return a.tmod b

/-- The number that a variable holds. In the extended shell it may hold the name of another one. -/
def valueWithin : (bound : Nat) → (name : Bytes) → M Int
  | 0, _ => return 0
  | bound + 1, name => do
    match ← (ShM.lookup name : ShM (Option Bytes)) with
    | none => return 0
    | some text =>
      if (← get).extended && isName text then valueWithin bound text
      else (ShM.toNumber 0 text : ShM Int)

/-- The number that a variable holds. -/
def valueOf (name : Bytes) : M Int := valueWithin 100 name

/-- The functions that others go back to. -/
structure Levels where
  assignment : (skipped : Bool) → M Int
  choice : (skipped : Bool) → M Int
  anyOf : (skipped : Bool) → M Int
  allOf : (skipped : Bool) → M Int
  binary : (skipped : Bool) → Int → Bytes → (limit : Nat) → M Int
  primary : (skipped : Bool) → M Int

/-- Reads an assignment, or a choice. -/
def assignment (l : Levels) (skipped : Bool) : M Int := do
  let r ← get
  match r.tok, lex r.extended r.rest with
  | .name x, (.op op, _) =>
    match assigning.lookup op with
    | some first =>
      advance
      advance
      let v ← l.assignment skipped
      if skipped then return v
      let v ← match first with
        | none => pure v
        | some op => apply op (← valueOf x) v
      (ShM.setVar x (toString v) : ShM Unit)
      return v
    | none => l.choice skipped
  | _, _ => l.choice skipped

/-- Reads a choice between two values. -/
def choice (l : Levels) (skipped : Bool) : M Int := do
  let test ← l.anyOf skipped
  if ← atOp "?" then
    advance
    let a ← l.assignment (skipped || test == 0)
    if !(← atOp ":") then fault "expecting ':'"
    advance
    let b ← l.choice (skipped || test != 0)
    return if test != 0 then a else b
  else return test

/-- Reads operands of which one has to be true. -/
def anyOf (l : Levels) (skipped : Bool) : M Int := do
  let a ← l.allOf skipped
  if ← atOp "||" then
    advance
    let b ← l.anyOf (skipped || a != 0)
    return truth (a != 0 || b != 0)
  else return a

/-- Reads operands that all have to be true. -/
def allOf (l : Levels) (skipped : Bool) : M Int := do
  let a ← l.primary skipped
  let a ← match (← get).tok with
    | .op op => if (looseness? op).isSome then l.binary skipped a op 8 else pure a
    | _ => pure a
  if ← atOp "&&" then
    advance
    let b ← l.allOf (skipped || a == 0)
    return truth (a != 0 && b != 0)
  else return a

/-- Goes on after an operand and an operator, up to one that binds no tighter than `limit`. -/
def binary (l : Levels) (skipped : Bool) (a : Int) (op : Bytes) (limit : Nat) : M Int := do
  advance
  let b ← l.primary skipped
  let here := (looseness? op).getD 0
  let looseness : Tok → Option Nat
    | .op o => looseness? o
    | _ => none
  let name : Tok → Bytes
    | .op o => o
    | _ => ""
  let t := (← get).tok
  let b ← if (looseness t).any (· < here) then l.binary skipped b (name t) here else pure b
  let v ← if skipped then pure b else apply op a b
  let t := (← get).tok
  match looseness t with
  | some n => if limit ≤ n then return v else l.binary skipped v (name t) limit
  | none => return v

/-- Adds to a variable. The result is its value before and after that. -/
def stepBy (d : Int) (skipped : Bool) (name : Bytes) : M (Int × Int) := do
  if skipped then return (0, 0)
  let v ← valueOf name
  let w := wrap (v + d)
  (ShM.setVar name (toString w) : ShM Unit)
  return (v, w)

/-- Reads a number, a name, or something in brackets, with the operators in front of it. -/
def operand (l : Levels) (skipped : Bool) : M Int := do
  match (← get).tok with
  | .op "(" =>
    advance
    let v ← l.assignment skipped
    if !(← atOp ")") then fault "expecting ')'"
    advance
    return v
  | .num n =>
    advance
    return n
  | .name x =>
    advance
    match (← get).tok with
    | .op "++" =>
      advance
      return (← stepBy 1 skipped x).1
    | .op "--" =>
      advance
      return (← stepBy (-1) skipped x).1
    | _ => if skipped then return 0 else valueOf x
  | .op "++" | .op "--" =>
    let d : Int := if (← get).tok == .op "++" then 1 else -1
    advance
    match (← get).tok with
    | .name x =>
      advance
      return (← stepBy d skipped x).2
    | _ => fault "expecting primary"
  | .op "+" =>
    advance
    l.primary skipped
  | .op "-" =>
    advance
    return wrap (-(← l.primary skipped))
  | .op "!" =>
    advance
    return truth ((← l.primary skipped) == 0)
  | .op "~" =>
    advance
    return -(← l.primary skipped) - 1
  | _ => fault "expecting primary"

/-- Reads an operand, which may be raised to a power. -/
def primary (l : Levels) (skipped : Bool) : M Int := do
  let a ← operand l skipped
  if ← atOp "**" then
    advance
    let b ← l.primary skipped
    if skipped then return 0 else apply "**" a b
  else return a

/-- The readers, down to a depth of nesting. -/
def levels : (depth : Nat) → Levels
  | 0 => {
      assignment := fun _ => fault "", choice := fun _ => fault "", anyOf := fun _ => fault ""
      allOf := fun _ => fault "", binary := fun _ _ _ _ => fault "", primary := fun _ => fault "" }
  | depth + 1 => {
      assignment := fun skipped r => assignment (levels depth) skipped r
      choice := fun skipped r => choice (levels depth) skipped r
      anyOf := fun skipped r => anyOf (levels depth) skipped r
      allOf := fun skipped r => allOf (levels depth) skipped r
      binary := fun skipped a op limit r => binary (levels depth) skipped a op limit r
      primary := fun skipped r => primary (levels depth) skipped r }

/-- Goes on with the expressions behind commas, of which the last one counts. -/
def afterComma : (bound : Nat) → Int → M Int
  | 0, v => return v
  | bound + 1, v => do
    let goesOn ← atOp ","
    if (← get).extended && goesOn then
      advance
      afterComma bound (← assignment (levels Unix.Act.rounds) false)
    else return v

/-- The value of an expression. -/
def eval (text : Bytes) : ShM Int := do
  let extended := (← get).extended
  if extended && text.toList.all isSpace then return 0
  let start : Reader := { tok := .eof, rest := text.toList, whole := text, extended }
  let whole : M Int := do
    advance
    let v ← afterComma text.length (← assignment (levels Unix.Act.rounds) false)
    if (← get).tok != .eof then fault "expecting EOF"
    return v
  return (← whole.run start).1

end Tilde.Sh.Arith
