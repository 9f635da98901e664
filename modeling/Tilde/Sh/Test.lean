import Tilde.Sh.State

/-!
# Conditions of a shell

The command `test`: comparisons of texts and numbers and questions about files, joined by `-a` and
`-o`, negated by an exclamation mark, and grouped by brackets. How an argument is read depends on
the ones after it: an operator without an operand is a text like any other.
-/

namespace Tilde.Sh.Test

open Unix (Bytes Act)

/-- What an argument is. -/
inductive Kind where
  | operand
  | unary
  | binary
  | negation
  | both
  | either
  | opening
  | closing
  /-- There is no argument. -/
  | none
  deriving DecidableEq, Repr

/-- What an argument is by itself. -/
def kindOf (s : Bytes) : Kind :=
  if ["-r", "-w", "-x", "-e", "-f", "-d", "-c", "-b", "-p", "-u", "-g", "-k", "-s", "-t", "-z",
    "-n", "-h", "-O", "-G", "-L", "-S"].contains s then .unary
  else if ["=", "!=", "<", ">", "-eq", "-ne", "-ge", "-gt", "-le", "-lt", "-nt", "-ot",
    "-ef"].contains s then .binary
  else match s with
    | "!" => .negation
    | "-a" => .both
    | "-o" => .either
    | "(" => .opening
    | ")" => .closing
    | _ => .operand

/-- What the first of some arguments is. -/
def kind (args : List Bytes) : Kind :=
  match args with
  | [] => .none
  | s :: rest =>
    match kindOf s, rest with
    | .unary, [] | .opening, [] => .operand
    | .unary, [_] => .unary
    | .unary, b :: _ :: _ => if kindOf b == .binary then .operand else .unary
    | k, _ => k

/-- A reader of conditions, over the arguments left. -/
abbrev Reader := StateT (List Bytes) ShM

/-- Fails because of an argument. -/
def fault {α : Type} (about message : Bytes) : Reader α := do
  let plain := if about.isEmpty then message else about ++ ": " ++ message
  let extended := match message with
    | "unexpected operator" => about ++ ": binary operator expected"
    | "argument expected" => about ++ ": unary operator expected"
    | _ => plain
  (ShM.failWith 2 (if (← (get : ShM State)).extended then extended else plain) : ShM α)

/-- The number that an argument is. -/
def number (s : Bytes) : Reader Int := do
  let r := readNumber 10 s.toList
  if (← (get : ShM State)).extended && (!r.found || !(r.rest.all isSpace)) then
    (ShM.failWith 2 (s ++ ": integer expression expected") : ShM Unit)
  (ShM.toNumber 10 s : ShM Int)

/-- What the system tells about a file. -/
def info (path : Bytes) (follow : Bool) : Reader (Option Unix.FileInfo) := do
  let i ← (ShM.act (Act.info (.info path follow)) : ShM (Except Unix.Errno Unix.FileInfo))
  return i.toOption

/-- Answers a question about one argument. -/
def unary (op arg : Bytes) : Reader Bool := do
  let file (p : Unix.FileInfo → Bool) : Reader Bool := do
    return (← info arg (!(op == "-h" || op == "-L"))).any p
  let bit (n : Nat) : Reader Bool := file fun i => i.mode &&& n != 0
  match op with
  | "-n" => return !arg.isEmpty
  | "-z" => return arg.isEmpty
  | "-f" => file (·.kind == .regular)
  | "-d" => file (·.kind == .directory)
  | "-h" | "-L" => file (·.kind == .link)
  | "-p" => file (·.kind == .pipe)
  | "-c" => file (·.kind == .characterDevice)
  | "-b" | "-S" => file fun _ => false
  | "-s" => file (0 < ·.size)
  | "-x" => file fun i => i.kind == .directory || i.mode &&& 0o111 != 0
  | "-u" => bit 0o4000
  | "-g" => bit 0o2000
  | "-k" => bit 0o1000
  | "-t" =>
    let _ ← number arg
    return false
  | _ => file fun _ => true

/-- Compares two arguments. -/
def binary (op a b : Bytes) : Reader Bool := do
  let numbers (f : Int → Int → Bool) : Reader Bool := do
    let m ← number a
    return f m (← number b)
  let times (f : Nat → Nat → Bool) : Reader Bool := do
    match ← info a true, ← info b true with
    | some i, some j => return f i.modified j.modified
    | _, _ => return false
  match op with
  | "=" => return a == b
  | "!=" => return a != b
  | "<" => return a < b
  | ">" => return b < a
  | "-eq" => numbers (· == ·)
  | "-ne" => numbers (· != ·)
  | "-ge" => numbers (· ≥ ·)
  | "-gt" => numbers (· > ·)
  | "-le" => numbers (· ≤ ·)
  | "-lt" => numbers (· < ·)
  | "-nt" => times (· > ·)
  | "-ot" => times (· < ·)
  | _ =>
    match ← info a true, ← info b true with
    | some i, some j => return i.number == j.number
    | _, _ => return false

/-- Drops the first argument. -/
def drop : Reader Unit := modify List.tail

/-- Judges a condition with two operands whose first one is at the front. The last argument of a
condition stays at the front. -/
def comparison : Reader Bool := do
  match ← get with
  | a :: op :: rest =>
    match rest with
    | [] => fault op "argument expected"
    | b :: _ =>
      set rest
      binary op a b
  | _ => return false

mutual

/-- Judges alternatives. -/
def either : (bound : Nat) → Kind → Reader Bool
  | 0, _ => return false
  | bound + 1, k => do
    let a ← both bound k
    if kind (← get).tail == .either then
      drop
      drop
      let b ← either bound (kind (← get))
      return a || b
    else return a

/-- Judges conditions that all have to hold. -/
def both : (bound : Nat) → Kind → Reader Bool
  | 0, _ => return false
  | bound + 1, k => do
    let a ← negated bound k
    if kind (← get).tail == .both then
      drop
      drop
      let b ← both bound (kind (← get))
      return a && b
    else return a

/-- Judges a condition that may be negated. -/
def negated : (bound : Nat) → Kind → Reader Bool
  | 0, _ => return false
  | bound + 1, k => do
    if k == .negation then
      let k := kind (← get).tail
      if k != .none then drop
      return !(← negated bound k)
    else primary bound k

/-- Judges a single condition. -/
def primary : (bound : Nat) → Kind → Reader Bool
  | 0, _ => return false
  | bound + 1, k => do
    match k, ← get with
    | .none, _ | _, [] => return false
    | .opening, _ :: rest =>
      set rest
      if kind rest == .closing then return false
      let v ← either bound (kind rest)
      drop
      if kind (← get) != .closing then fault "" "closing paren expected"
      return v
    | .unary, op :: rest =>
      set rest
      match rest with
      | [] => fault op "argument expected"
      | arg :: _ => unary op arg
    | _, a :: rest =>
      if kind rest == .binary then comparison else return !a.isEmpty

end

/-- Judges a whole condition. One of three arguments is a comparison if its second one says so,
whatever the first one is. -/
def judge (args : List Bytes) : ShM Bool := do
  let extended := (← get).extended
  if extended && args.length == 2 && args.head? == some "-v" then
    return (← ShM.lookup (args.getD 1 "")).isSome
  let args := if extended then args.map fun a => if a == "==" then "=" else a else args
  let bound := 8 * args.length + 8
  let whole : Reader Bool := do
    let v ← match args with
      | [_, op, _] => if kindOf op == .binary then comparison else general bound
      | _ => general bound
    match ← get with
    | left@(_ :: _ :: _) =>
      if extended && args.length == 3 then fault (args.getD 1 "") "unexpected operator"
      fault (left.headD "") "unexpected operator"
    | _ => return v
  if args.isEmpty then return false
  return (← whole.run args).1
where
  general (bound : Nat) : Reader Bool := do
    let args ← get
    let count := args.length
    if (count == 3 || count == 4) && args.head? == some "(" && args.getLast? == some ")" then
      set (args.drop 1).dropLast
      either bound (kind (← get))
    else if (count == 3 || count == 4) && args.head? == some "!" then
      drop
      return !(← either bound (kind (← get)))
    else either bound (kind args)

end Tilde.Sh.Test
