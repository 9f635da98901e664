import Tilde.Utility.Tool

/-!
# Conditions

The tool whose status says whether a condition holds: comparisons of texts and numbers and questions
about files, joined by `-a` and `-o`, negated by an exclamation mark, and grouped by brackets. What
the arguments mean depends on how many they are: of up to four each number has a rule of its own.
-/

namespace Tilde.Utility.Condition

open Unix (Bytes FileInfo)

/-- The arguments left, and the last one of all. -/
structure Place where
  rest : List Bytes
  last : Bytes

/-- A reader of conditions. -/
abbrev Reader := StateT Place Tool

/-- Ends the tool because of its arguments. -/
def fault {α : Type} (message : Bytes) : Reader α := (Tool.die 2 message : Tool α)

/-- Ends the tool because there are too few arguments. -/
def missing {α : Type} : Reader α := do
  fault ("missing argument after " ++ Quoting.plain (← get).last)

/-- The arguments left. -/
def rest : Reader (List Bytes) := return (← get).rest

/-- Goes past some arguments. -/
def skip (count : Nat) : Reader Unit := modify fun p => { p with rest := p.rest.drop count }

/-- Goes past an argument that another one has to follow. -/
def advance : Reader Unit := do
  skip 1
  if (← rest).isEmpty then missing

/-- The operators between two operands. -/
def operators : List Bytes :=
  ["=", "==", "!=", "-nt", "-ot", "-ef", "-eq", "-ne", "-lt", "-le", "-gt", "-ge"]

/-- Whether an argument is an operator between two operands. -/
def isOperator (arg : Option Bytes) : Bool := arg.any operators.contains

/-- Whether an argument is a dash and a letter. -/
def isQuestion (arg : Bytes) : Bool := arg.length == 2 && arg.startsWith "-"

/-- Whether a character is white space. -/
def isSpace (c : Char) : Bool := c == ' ' || ('\t' ≤ c && c ≤ '\r')

/-- The whole number that an argument is. -/
def number (arg : Bytes) : Reader Int := do
  let cs := arg.toList.dropWhile isSpace
  let (negative, cs) := match cs with
    | '-' :: cs => (true, cs)
    | '+' :: cs => (false, cs)
    | cs => (false, cs)
  let digits := cs.takeWhile Char.isDigit
  if digits.isEmpty || !((cs.drop digits.length).all isSpace) then
    fault ("invalid integer " ++ Quoting.plain arg)
  let n : Nat := digits.foldl (fun n c => 10 * n + (c.toNat - 48)) 0
  return if negative then -n else n

/-- What the system tells about a file. -/
def info (path : Bytes) (follow : Bool) : Reader (Option FileInfo) := do
  return (← (Tool.info path follow : Tool (Except Unix.Errno FileInfo))).toOption

/-- Answers the question that a letter asks about an argument. -/
def answer (letter : Char) (arg : Bytes) : Reader Bool := do
  let file (p : FileInfo → Bool) : Reader Bool := do
    return (← info arg (letter != 'h' && letter != 'L')).any p
  let bit (n : Nat) : Reader Bool := file fun i => i.mode &&& n != 0
  match letter with
  | 'n' => return !arg.isEmpty
  | 'z' => return arg.isEmpty
  | 'f' => file (·.kind == .regular)
  | 'd' => file (·.kind == .directory)
  | 'h' | 'L' => file (·.kind == .link)
  | 'p' => file (·.kind == .pipe)
  | 'c' => file (·.kind == .characterDevice)
  | 'b' | 'S' => file fun _ => false
  | 's' => file (0 < ·.size)
  | 'x' => file fun i => i.kind == .directory || i.mode &&& 0o111 != 0
  | 'u' => bit 0o4000
  | 'g' => bit 0o2000
  | 'k' => bit 0o1000
  | 'N' => file fun _ => false
  | 't' =>
    let _ ← number arg
    return false
  | _ => file fun _ => true

/-- The letters of questions. -/
def letters : List Char := "bcdefghknprstuwxzGLNOS".toList

/-- Judges a question at the front. -/
def question : Reader Bool := do
  let op := (← rest).headD ""
  let letter := op.toList.getD 1 ' '
  if !(letters.contains letter) then fault (Quoting.plain op ++ ": unary operator expected")
  advance
  let arg := (← rest).headD ""
  skip 1
  answer letter arg

/-- Judges a comparison at the front. An operand that `-l` stands before is compared by its
length. -/
def comparison (byLength : Bool) : Reader Bool := do
  if byLength then skip 1
  let left := (← rest).headD ""
  let op := (← rest).getD 1 ""
  let also := 3 < (← rest).length && (← rest).getD 2 "" == "-l"
  if also then skip 1
  let right := (← rest).getD 2 ""
  skip 3
  let size (byLength : Bool) (arg : Bytes) : Reader Int := do
    if byLength then return arg.length else number arg
  let numbers (f : Int → Int → Bool) : Reader Bool := do
    let m ← size byLength left
    let n ← size also right
    return f m n
  let files (f : Option FileInfo → Option FileInfo → Bool) : Reader Bool := do
    if byLength || also then fault (op ++ " does not accept -l")
    let m ← info left true
    let n ← info right true
    return f m n
  let isNewer : Option FileInfo → Option FileInfo → Bool
    | some i, some j => j.modified < i.modified
    | i, _ => i.isSome
  match op with
  | "=" | "==" => return left == right
  | "!=" => return left != right
  | "-eq" => numbers (· == ·)
  | "-ne" => numbers (· != ·)
  | "-ge" => numbers (· ≥ ·)
  | "-gt" => numbers (· > ·)
  | "-le" => numbers (· ≤ ·)
  | "-lt" => numbers (· < ·)
  | "-nt" => files isNewer
  | "-ot" => files fun m n => isNewer n m
  | _ => files fun
    | some i, some j => i.number == j.number
    | _, _ => false

/-- Judges one argument: it must not be empty. -/
def single : Reader Bool := do
  let arg := (← rest).headD ""
  skip 1
  return !arg.isEmpty

/-- Judges two arguments. -/
def double : Reader Bool := do
  let arg := (← rest).headD ""
  if arg == "!" then
    skip 1
    return !(← single)
  else if isQuestion arg then question
  else missing

mutual

/-- Judges a number of arguments. -/
def judge : (bound : Nat) → (count : Nat) → Reader Bool
  | 0, _ => return false
  | bound + 1, count => do
    let args ← rest
    match count with
    | 1 => single
    | 2 => double
    | 3 => triple bound
    | 4 =>
      if args.head? == some "!" then
        advance
        return !(← triple bound)
      else if args.head? == some "(" && args[3]? == some ")" then
        skip 1
        let v ← double
        skip 1
        return v
      else either bound
    | _ => either bound

/-- Judges three arguments. -/
def triple : (bound : Nat) → Reader Bool
  | 0 => return false
  | bound + 1 => do
    let args ← rest
    let middle := args.getD 1 ""
    if isOperator args[1]? then comparison false
    else if args.head? == some "!" then
      advance
      return !(← double)
    else if args.head? == some "(" && args[2]? == some ")" then
      skip 1
      let v ← single
      skip 1
      return v
    else if middle == "-a" || middle == "-o" then either bound
    else fault (Quoting.plain middle ++ ": binary operator expected")

/-- Judges alternatives. All of them are judged. -/
def either : (bound : Nat) → Reader Bool
  | 0 => return false
  | bound + 1 => do
    if (← rest).isEmpty then missing
    let a ← both bound
    if (← rest).head? == some "-o" then
      skip 1
      let b ← either bound
      return a || b
    else return a

/-- Judges conditions that all have to hold. All of them are judged. -/
def both : (bound : Nat) → Reader Bool
  | 0 => return false
  | bound + 1 => do
    let a ← negated bound
    if (← rest).head? == some "-a" then
      skip 1
      let b ← both bound
      return a && b
    else return a

/-- Judges a condition that may be negated. -/
def negated : (bound : Nat) → Reader Bool
  | 0 => return false
  | bound + 1 => do
    match ← rest with
    | "!" :: _ =>
      advance
      return !(← negated bound)
    | [] => missing
    | _ => primary bound

/-- Judges a condition that is not joined to others. -/
def primary : (bound : Nat) → Reader Bool
  | 0 => return false
  | bound + 1 => do
    let args ← rest
    let front := args.headD ""
    if front == "(" then
      advance
      let inner ← rest
      let count := (inner.takeWhile (· != ")")).length
      let v ← judge bound (if 4 ≤ count then inner.length else max 1 count)
      match ← rest with
      | [] => fault (Quoting.plain ")" ++ " expected")
      | arg :: _ =>
        if arg != ")" then
          fault (Quoting.plain ")" ++ " expected, found " ++ Quoting.plain arg)
        skip 1
        return v
    else if 4 ≤ args.length && front == "-l" && isOperator args[2]? then comparison true
    else if 3 ≤ args.length && isOperator args[1]? then comparison false
    else if isQuestion front then question
    else single

end

/-- Judges a condition. -/
def run (args : List Bytes) : Tool Unit := do
  match args with
  | [] => Tool.setStatus 1
  | args =>
    let (v, p) ← (judge (8 * args.length + 8) args.length).run ⟨args, args.getLastD ""⟩
    match p.rest with
    | [] => if !v then Tool.setStatus 1
    | arg :: _ => Tool.die 2 ("extra argument " ++ Quoting.plain arg)

/-- Judges a condition before a closing bracket. -/
def runBracketed (args : List Bytes) : Tool Unit := do
  if args.getLast? == some "]" then run args.dropLast
  else Tool.die 2 ("missing " ++ Quoting.plain "]")

end Tilde.Utility.Condition
