import Tilde.Eval.Basic

/-!
# Built-in functions
-/

namespace Tilde.Builtin

variable {ω : Type}

/-- Reads a number: white space around it is left out, a sign may come first, and the digits are
those of ASCII. -/
def readInt? (s : String) : Option Int64 := do
  let (negative, digits) := match (Text.trim s).toList with
    | '-' :: cs => (true, cs)
    | '+' :: cs => (false, cs)
    | cs => (false, cs)
  if digits.isEmpty || !digits.all (fun c => '0' ≤ c && c ≤ '9') then none
  else
    let n := digits.foldl (fun n c => 10 * n + (c.toNat - '0'.toNat)) 0
    Value.int64? (if negative then -n else n)

/-- A length as a number of the language: the greatest one where it is greater. -/
def count (length : Nat) : Int64 := (Value.int64? length).getD Int64.maxValue

/-- The number of things in a value. -/
def lengthOf : Value → Except Fault Value
  | .str s => .ok (.int (count s.length))
  | .tuple items | .list items => .ok (.int (count items.length))
  | v => .error (.noLength v.type)

/-- A value as a number. -/
def toInt (v : Value) : Except Fault Value :=
  match v with
  | .str s =>
    match readInt? s with
    | some i => .ok (.int i)
    | none => .error (.badInteger s)
  | v =>
    match v.asInt? with
    | some i => .ok (.int i)
    | none => .error (.notInteger v.type)

/-- The numbers of a progression that come before its end. -/
def progression (start stop step : Int) : List Int :=
  let count := if step > 0 then (stop - start + step - 1) / step
    else (start - stop - step - 1) / -step
  (List.range count.toNat).map fun (k : Nat) => start + k * step

/-- The numbers given as bounds. -/
def bounds : List Value → Except Fault (List Int)
  | [] => .ok []
  | v :: vs =>
    match v.asInt? with
    | some i => return i.toInt :: (← bounds vs)
    | none => .error (.notBound v.type)

/-- The list of numbers between two bounds. -/
def rangeOf (args : Args) : Except Fault Value := do
  let (start, stop, step) ← match ← bounds (← args.between range.name 1 3) with
    | [stop] => pure (0, stop, 1)
    | [start, stop] => pure (start, stop, 1)
    | [start, stop, step] => pure (start, stop, step)
    | bs => throw (.argumentCount range.name (.exactly 3) bs.length)
  if step = 0 then throw .zeroStep
  else return .list ((progression start stop step).map fun i => .int (Int64.ofInt i))

/-- The status that a request to exit names. -/
def exitStatus (args : Args) : Except Fault Int32 := do
  match ← args.atMostOne exit.name with
  | none | some .none => return 0
  | some v =>
    match v.asInt? with
    | none => throw (.notStatus v.type)
    | some i =>
      if Int32.minValue.toInt ≤ i.toInt ∧ i.toInt ≤ Int32.maxValue.toInt then
        return Int32.ofInt i.toInt
      else throw (.statusOutOfRange i)

/-- Writes values to the output, with a separator between and a text at the end. -/
def printValues (host : Host ω) (args : Args) : EvalM ω Value := do
  let (sep, args) ← .ofExcept (args.takeText "sep" " ")
  let (last, args) ← .ofExcept (args.takeText "end" "\n")
  .ofExcept (args.rejectKeywords print.name)
  .write host [sep.intercalate (args.positional.map Value.text), last]
  return .none

/-- Runs a command and gives the value of its delivery. -/
def runCommand (host : Host ω) (d : Shell.Delivery) (command : String) : EvalM ω Value := do
  match d with
  | .stream =>
    .ofRun (Shell.stream host command)
    return .none
  | .single => return .str (← .ofRun (Shell.capture host command))
  | .triple =>
    let c ← .ofRun (Shell.captureTriple host command)
    return .tuple [.str c.out, .str c.err, .int c.code.toInt64]

/-- Runs the command that an argument gives. -/
def runGiven (host : Host ω) (d : Shell.Delivery) (args : Args) : EvalM ω Value := do
  match ← .ofExcept (args.one d.runner) with
  | .str command =>
    .note (.running d command)
    runCommand host d command
  | v => .fail (.notCommand d.runner v.type)

/-- Quotes the text of a value for a command. -/
def quoteValue (v : Value) : Except Fault Value :=
  match Shell.quote v.text with
  | .ok s => .ok (.str s)
  | .error e => .error (.unquotable e)

/-- Calls a built-in function. -/
def call (host : Host ω) (f : Builtin) (args : Args) : EvalM ω Value :=
  match f with
  | .print => printValues host args
  | .len => .ofExcept (args.one f.name >>= lengthOf)
  | .str => .ofExcept ((args.atMostOne f.name).map fun v => .str ((v.map Value.text).getD ""))
  | .int => .ofExcept (args.one f.name >>= toInt)
  | .repr => .ofExcept ((args.one f.name).map fun v => .str v.repr)
  | .range => .ofExcept (rangeOf args)
  | .exit => do throw (.exit (← .ofExcept (exitStatus args)))
  | .run d => runGiven host d args
  | .quote => .ofExcept (args.one f.name >>= quoteValue)

end Tilde.Builtin
