import Tilde.Regex.Search
import Tilde.Utility.Options
import Tilde.Utility.Order
import Tilde.Utility.Tool

/-!
# Expressions

The tool that evaluates an expression whose parts are its arguments: numbers and texts, compared,
reckoned with and matched.
-/

namespace Tilde.Utility.Expression

open Unix (Bytes)

/-- What is left of the arguments, and the last one that was used. -/
structure Place where
  rest : List Bytes
  last : Bytes := ""

/-- Reads and evaluates; the error is a message. -/
abbrev Reader := StateT Place (Except Bytes)

/-- Fails. -/
def fail {α : Type} (message : Bytes) : Reader α := throw message

/-- A whole number in a text. -/
def integer? (s : Bytes) : Option Int :=
  match s.toList with
  | '-' :: cs => (natOf? (String.ofList cs)).map fun n => -(n : Int)
  | _ => (natOf? s).map fun n => (n : Int)

/-- The number that a text is. -/
def number (s : Bytes) : Reader Int :=
  match integer? s with
  | some n => pure n
  | none => fail "non-integer argument"

/-- Whether a text is empty or zero. -/
def isNull (s : Bytes) : Bool :=
  let digits := if s.startsWith "-" then (s.drop 1).toString else s
  s.isEmpty || (!digits.isEmpty && digits.toList.all (· == '0'))

/-- Uses the next argument if it is one of some words. -/
def accept? (words : List Bytes) : Reader (Option Bytes) := do
  match (← get).rest with
  | arg :: rest =>
    if words.contains arg then
      set ({ rest, last := arg } : Place)
      return some arg
    else return none
  | [] => return none

/-- Uses the next argument, which must be there. -/
def next : Reader Bytes := do
  let s ← get
  match s.rest with
  | arg :: rest =>
    set ({ rest, last := arg } : Place)
    return arg
  | [] => fail ("syntax error: missing argument after " ++ Quoting.plain s.last)

/-- Compares two values, as numbers if they are. -/
def compare (op a b : Bytes) : Bytes :=
  let order := match integer? a, integer? b with
    | some m, some n => Ord.compare m n
    | _, _ => Order.bytes a.toList b.toList
  let holds : Bool := match op with
    | "<" => order == .lt
    | "<=" => order != .gt
    | "=" | "==" => order == .eq
    | "!=" => order != .eq
    | ">=" => order != .lt
    | _ => order == .gt
  if holds then "1" else "0"

/-- What a pattern matches at the front of a text: its first group, or how long it is. -/
def matchFront (text pattern : Bytes) : Reader Bytes := do
  match Regex.parse {} pattern with
  | .error e => fail e.message
  | .ok p =>
    let found := (p.searcher false).find? text.toList.toArray 0 true
    match found with
    | none => return if p.groups == 0 then "0" else ""
    | some m =>
      if p.groups == 0 then return toString (m.stop - m.start)
      else match m.group? 1 with
        | some (start, stop) => return ((text.drop start).take (stop - start)).toString
        | none => return ""

/-- Reckons with two values. -/
def reckon (op a b : Bytes) : Reader Bytes := do
  let m ← number a
  let n ← number b
  match op with
  | "+" => return toString (m + n)
  | "-" => return toString (m - n)
  | "*" => return toString (m * n)
  | _ =>
    if n == 0 then fail "division by zero"
    else if op == "/" then return toString (Int.tdiv m n)
    else return toString (Int.tmod m n)

/-- The part of a text that begins at a place and has a length. -/
def part (text place length : Bytes) : Bytes :=
  match integer? place, integer? length with
  | some p, some n =>
    if p ≤ 0 || n ≤ 0 then "" else ((text.drop (p.toNat - 1)).take n.toNat).toString
  | _, _ => ""

/-- The first place in a text of one of some characters. -/
def placeOf (text chars : Bytes) : Bytes :=
  match text.toList.findIdx? chars.toList.contains with
  | some n => toString (n + 1)
  | none => "0"

/-- Operands with operators between them, which are joined from the left. -/
def joined (operand : Reader Bytes) (words : List Bytes)
    (join : Bytes → Bytes → Bytes → Reader Bytes) :
    (bound : Nat) → Bytes → Reader Bytes
  | 0, value => return value
  | bound + 1, value => do
    match ← accept? words with
    | none => return value
    | some op =>
      let other ← operand
      joined operand words join bound (← join op value other)

/-- What a value is evaluated to, unless it is not to be. -/
def evaluated (skip : Bool) (f : Reader Bytes) : Reader Bytes := if skip then pure "" else f

/-- A single value: an argument, an expression in parentheses, or a word with its operands. `inner`
reads an expression. -/
def single (inner : Bool → Reader Bytes) (skip : Bool) : (bound : Nat) → Reader Bytes
  | 0 => fail "syntax error"
  | bound + 1 => do
    let operand := single inner skip bound
    match ← accept? ["+", "length", "match", "index", "substr", "(", ")"] with
    | none => next
    | some "+" => next
    | some "length" => return toString (← operand).length
    | some "match" =>
      let text ← operand
      let pattern ← operand
      evaluated skip (matchFront text pattern)
    | some "index" =>
      let text ← operand
      return placeOf text (← operand)
    | some "substr" =>
      let text ← operand
      let place ← operand
      return part text place (← operand)
    | some "(" =>
      if (← get).rest.isEmpty then
        let _ ← next
      let value ← inner skip
      match (← get).rest with
      | [] => fail ("syntax error: expecting ')' after " ++ Quoting.plain (← get).last)
      | arg :: _ =>
        if (← accept? [")"]).isSome then return value
        else fail ("syntax error: expecting ')' instead of " ++ Quoting.plain arg)
    | some _ => fail "syntax error: unexpected ')'"

/-- Values that are matched, reckoned with and compared. -/
def comparison (inner : Bool → Reader Bytes) (skip : Bool) (bound : Nat) : Reader Bytes := do
  let level (operand : Reader Bytes) (words : List Bytes)
      (join : Bytes → Bytes → Bytes → Reader Bytes) : Reader Bytes := do
    joined operand words (fun op a b => evaluated skip (join op a b)) bound (← operand)
  let value := single inner skip bound
  let matched := level value [":"] fun _ a b => matchFront a b
  let product := level matched ["*", "/", "%"] reckon
  let sum := level product ["+", "-"] reckon
  level sum ["<", "<=", "=", "==", "!=", ">=", ">"] fun op a b => return compare op a b

/-- Goes on with what stands behind `&`. What follows a value that is nothing is not evaluated. -/
def both (operand : Bool → Reader Bytes) (skip : Bool) : (bound : Nat) → Bytes → Reader Bytes
  | 0, value => return value
  | bound + 1, value => do
    match ← accept? ["&"] with
    | none => return value
    | some _ =>
      let other ← operand (skip || isNull value)
      both operand skip bound (if isNull value || isNull other then "0" else value)

/-- Goes on with what stands behind `|`. What follows a value that is something is not evaluated. -/
def either (operand : Bool → Reader Bytes) (skip : Bool) : (bound : Nat) → Bytes → Reader Bytes
  | 0, value => return value
  | bound + 1, value => do
    match ← accept? ["|"] with
    | none => return value
    | some _ =>
      let other ← operand (skip || !isNull value)
      either operand skip bound
        (if !isNull value then value else if isNull other then "0" else other)

/-- An expression. -/
def expression : (bound : Nat) → (skip : Bool) → Reader Bytes
  | 0, _ => fail "syntax error"
  | bound + 1, skip => do
    let compared (skip : Bool) : Reader Bytes := comparison (expression bound) skip (bound + 1)
    let conjoined (skip : Bool) : Reader Bytes := do
      both compared skip (bound + 1) (← compared skip)
    either conjoined skip (bound + 1) (← conjoined skip)

/-- The value of an expression. -/
def evaluate (args : List Bytes) : Except Bytes Bytes := do
  let (value, s) ← (expression (args.length + 1) false).run { rest := args }
  match s.rest with
  | [] => return value
  | ")" :: _ => throw "syntax error: unexpected argument ')'"
  | arg :: _ => throw ("syntax error: unexpected argument " ++ Quoting.plain arg)

/-- Shows the value of an expression. -/
def run (args : List Bytes) : Tool Unit := do
  let args := match args with
    | "--" :: rest => rest
    | args => args
  if args.isEmpty then Tool.missingOperand 2
  match evaluate args with
  | .error message => Tool.die 2 message
  | .ok value =>
    Tool.putLine value
    if isNull value then Tool.setStatus 1

end Tilde.Utility.Expression
