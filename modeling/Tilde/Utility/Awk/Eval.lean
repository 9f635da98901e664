import Tilde.Unix.Conversion
import Tilde.Utility.Awk.Machine
import Tilde.Utility.Awk.Streams
import Tilde.Utility.Calendar

/-!
# Values of awk expressions

What expressions come to in a running program. How functions of the program are called is given from
outside. A format has values in its fields; what comes before something that goes wrong is written.
-/

namespace Tilde.Utility.Awk

/-! ## Formats -/

open Unix (Bytes Conversion)

/-- A format that is being filled in. -/
structure Filling where
  /-- What has been filled in, the last piece first. -/
  out : List Bytes := []
  values : List Value
  /-- How many conversions there have been. -/
  count : Nat := 0

/-- A width or a precision, which may be taken from the values. -/
def fieldSize (f : Filling) (cs : List Char) : Option (Option Int × Filling × List Char) :=
  match cs with
  | '*' :: cs =>
    match f.values with
    | v :: values => some (some (truncated v.toNumber), { f with values }, cs)
    | [] => none
  | cs =>
    let digits := cs.takeWhile Char.isDigit
    let n : Nat := digits.foldl (fun n c => 10 * n + (c.toNat - 48)) 0
    some (if digits.isEmpty then none else some n, f, cs.drop digits.length)

/-- A value in a field. -/
def converted (c : Conversion) (letter : Char) (v : Value) (text : Bytes) : Option Bytes :=
  match letter with
  | 's' => some (c.text text)
  | 'c' =>
    let number := match v with
      | .number x => some x
      | .input s => Value.numeric? s
      | _ => none
    let one := match number with
      | some x => String.singleton (Char.ofNat ((truncated x).emod 256).toNat)
      | none => match text.toList with
        | d :: _ => String.singleton d
        | [] => "\x00"
    some ({ c with precision := none }.text one)
  | 'd' | 'i' | 'o' | 'x' | 'X' | 'u' => some (c.integer letter (truncated v.toNumber))
  | 'e' | 'E' | 'f' | 'F' | 'g' | 'G' | 'a' | 'A' => some (c.float letter v.toNumber)
  | _ => none

/-- Fills in a format. The result is what was filled in, and what went wrong. -/
def fill (numbers : Bytes) : (bound : Nat) → Filling → List Char → Filling × Option Bytes
  | 0, f, _ | _, f, [] => (f, none)
  | bound + 1, f, '%' :: '%' :: cs => fill numbers bound { f with out := "%" :: f.out } cs
  | bound + 1, f, '%' :: cs =>
    let f := { f with count := f.count + 1 }
    let few := some "not enough arguments passed to"
    let (c, cs) := Conversion.flags {} cs
    match fieldSize f cs with
    | none => (f, few)
    | some (width, f, cs) =>
      let c := match width with
        | some n => c.withWidth n
        | none => c
      let sized := match cs with
        | '.' :: cs => match fieldSize f cs with
          | some (n, f, cs) => some (some (n.getD 0), f, cs)
          | none => none
        | cs => some (none, f, cs)
      match sized with
      | none => (f, few)
      | some (precision, f, cs) =>
        let c := match precision with
          | some n => c.withPrecision n
          | none => c
        let cs := cs.dropWhile fun d => d == 'l' || d == 'h'
        let improper := some ("improper conversion(number " ++ toString f.count ++ ") in")
        match cs with
        | [] => (f, improper)
        | letter :: cs =>
          match f.values with
          | [] => (f, few)
          | v :: values =>
            match converted c letter v (v.toText numbers) with
            | some text => fill numbers bound { f with values, out := text :: f.out } cs
            | none => (f, improper)
  | bound + 1, f, c :: cs =>
    let plain := (c :: cs).takeWhile (· != '%')
    fill numbers bound { f with out := String.ofList plain :: f.out } ((c :: cs).drop plain.length)

/-! ## Expressions -/

open Unix (Bytes)
open Run
open Calendar (dayNumber Moment)

/-- Something that is assigned to. -/
inductive Target where
  | variable_ (p : Place)
  | field (n : Nat)
  | element (array : Nat) (key : Table.Key)

/-- The value of a target. -/
def Target.get : Target → Run Value
  | variable_ p => Run.variable_ p
  | field n => Run.field n
  | element a key => Run.element a key

/-- Sets a target. -/
def Target.set (t : Target) (v : Value) : Run Unit :=
  match t with
  | variable_ p => setVariable p v
  | field n => setField n v
  | element a key => setElement a key v

/-- A truth as a value. -/
def truth (b : Bool) : Value := .number (if b then 1.0 else 0.0)

/-- A whole number as a value. -/
def Value.ofInt (n : Int) : Value := .number (Float.ofInt n)

/-- What is left of a number when another one has been taken away as often as it goes. -/
def remainder (x y : Float) : Float :=
  if y == 0.0 || y.isNaN || x.isNaN || x.isInf then 0.0 / 0.0
  else if y.isInf then x
  else
    let small (z : Float) : Bool := z.floor == z && z.abs < 9007199254740992.0
    if small x && small y then Float.ofInt ((truncated x).tmod (truncated y))
    else
      let q := x / y
      x - y * (if q < 0.0 then q.ceil else q.floor)

/-- The value of an operator. -/
def ArithOp.apply (op : ArithOp) (x y : Float) : Float :=
  match op with
  | .add => x + y
  | .sub => x - y
  | .mul => x * y
  | .div => x / y
  | .mod => remainder x y
  | .pow => Float.pow x y

/-- Whether a comparison holds of numbers. What is no number is equal to all numbers. -/
def CompareOp.ofNumbers (op : CompareOp) (x y : Float) : Bool :=
  match op with
  | .lt => x < y
  | .le => !decide (y < x)
  | .eq => !decide (x < y) && !decide (y < x)
  | .ne => decide (x < y) || decide (y < x)
  | .gt => y < x
  | .ge => !decide (x < y)

/-- Whether a comparison holds of texts. -/
def CompareOp.ofTexts (op : CompareOp) (s t : Bytes) : Bool :=
  match op with
  | .lt => s < t
  | .le => !decide (t < s)
  | .eq => s == t
  | .ne => s != t
  | .gt => t < s
  | .ge => !decide (s < t)

/-- Whether a comparison holds: of numbers if both values are numbers, otherwise of texts. -/
def compareValues (op : CompareOp) (a b : Value) : Run Bool := do
  match a.comparable?, b.comparable? with
  | some x, some y => return op.ofNumbers x y
  | _, _ => return op.ofTexts (← textOf a) (← textOf b)

/-- A part of a text. Where it would begin before the text, it is the longer for it. -/
def part (s : Bytes) (start : Int) (length : Option Int) : Bytes :=
  let length := if start < 1 then length.map (· - start) else length
  let rest := s.toList.drop (start - 1).toNat
  String.ofList (match length with
    | some n => rest.take n.toNat
    | none => rest)

/-- Where a text stands in another one, counted from one. -/
def placeIn (part : List Char) : (n : Nat) → List Char → Nat
  | n, [] => if part.isEmpty then n else 0
  | n, c :: cs => if part.isPrefixOf (c :: cs) then n else placeIn part (n + 1) cs

/-- Evaluates an expression. -/
abbrev Ev := Expr → Run Value

/-- The values of subscripts as a key. -/
def keyOf (ev : Ev) (subscripts : List Expr) : Run Table.Key := do
  keyFrom (← subscripts.mapM ev)

/-- What is assigned to. An element that is not there is made. -/
def target (ev : Ev) (e : Expr) : Run Target := do
  match e with
  | .var p => return .variable_ p
  | .field e => return .field (← fieldNumber (← ev e))
  | .element p subscripts =>
    let key ← keyOf ev subscripts
    let a ← arrayAt p
    let _ ← findKey a key true
    return .element a key
  | _ => fail "assignment to a value"

/-- The expression that a pattern is. -/
def patternOf (ev : Ev) (e : Expr) : Run Regex.Searcher := do
  match e with
  | .regex s => searcher s
  | e => searcher (← textOf (← ev e))

/-- Whether an expression matches somewhere in a text. -/
def found (r : Regex.Searcher) (s : Bytes) : Bool := r.matches s.toList.toArray

/-- A format filled in with values. What comes before something that goes wrong is handed to
`before`. -/
def formatted (name : Bytes) (before : Bytes → Run Unit) (vs : List Value) : Run Bytes := do
  match vs with
  | [] => return ""
  | format :: values =>
    let format ← textOf format
    let numbers ← specialText convfmt
    let (f, wrong) := fill numbers (2 * format.length + 2) { values } format.toList
    let text := String.join f.out.reverse
    match wrong with
    | none => return text
    | some message =>
      before text
      fail (message ++ " " ++ name ++ "(\"" ++ format ++ "\")")

/-- Replaces matches in a target. -/
def substitute (ev : Ev) (all : Bool) (pattern by_ : Expr) (place : Option Expr) : Run Value := do
  let r ← patternOf ev pattern
  let by_ ← textOf (← ev by_)
  let e := place.getD (.field (.number 0.0))
  let (t, v) ← if isAssignable e then do
      let t ← target ev e
      pure (some t, ← t.get)
    else pure (none, ← ev e)
  let text ← textOf v
  let (count, result) := if all then replaceAll r by_ text
    else match replaceFirst r by_ text with
      | some s => (1, s)
      | none => (0, text)
  match t with
  | some t => if 0 < count then t.set (.text result)
  | none => pure ()
  return .number (Float.ofNat count)
where
  /-- Whether something can be assigned to an expression. -/
  isAssignable : Expr → Bool
    | .var _ | .field _ | .element .. => true
    | _ => false

/-- Splits a text into the elements of an array. -/
def splitInto (ev : Ev) (e : Expr) (p : Place) (separator : Option Expr) : Run Value := do
  let text ← textOf (← ev e)
  let way ← match separator with
    | none => splitter (← specialText fs)
    | some (.regex s) => pure (.pattern (← searcher s))
    | some e => splitter (← textOf (← ev e))
  let a ← arrayAt p
  let parts := way.split text
  setTable a (Table.ofList (parts.map Value.input))
  return .number (Float.ofNat parts.length)

/-- The number of seconds that a text with the parts of a date is about. -/
def secondsOf (s : Bytes) : Int :=
  match (words (s.length + 1) s.toList).map fun w => (w.toInt?).getD 0 with
  | year :: month :: day :: hour :: minute :: second :: _ =>
    ((dayNumber year month day * 24 + hour) * 60 + minute) * 60 + second
  | _ => -1

/-- The number of seconds since the beginning of 1970. -/
def seconds : Run Int := return ((← tool Tool.now) / 1000000 : Nat)

/-- The value of a function of one number. -/
def ofNumber? : Builtin → Option (Float → Float)
  | .sin => some Float.sin
  | .cos => some Float.cos
  | .exp => some Float.exp
  | .log => some Float.log
  | .sqrt => some Float.sqrt
  | .int => some fun x => if x < 0.0 then x.ceil else x.floor
  | _ => none

/-- The value of a function that is always there. -/
def builtin (ev : Ev) (b : Builtin) (args : List Expr) : Run Value := do
  let text (e : Expr) : Run Bytes := do textOf (← ev e)
  let number (e : Expr) : Run Float := return (← ev e).toNumber
  match b, args with
  | .length, [] => return Value.ofInt (← record).length
  | .length, [.var p] =>
    let s ← if p == .everywhere nf then pure (Slot.value (← ev (.var p))) else slot p
    match s with
    | .array n => return Value.ofInt (← table n).size
    | .value v => return Value.ofInt (← textOf v).length
  | .length, e :: _ => return Value.ofInt (← text e).length
  | .substr, [s, start] => return .text (part (← text s) (truncated (← number start)) none)
  | .substr, s :: start :: size :: _ =>
    let s ← text s
    let start ← number start
    let size ← number size
    return .text (part s (truncated start) (some (truncated size)))
  | .index, s :: t :: _ =>
    let s ← text s
    let t ← text t
    return Value.ofInt (if t.isEmpty && s.isEmpty then 0 else placeIn t.toList 1 s.toList)
  | .split, [e, .var p] => splitInto ev e p none
  | .split, e :: .var p :: separator :: _ => splitInto ev e p (some separator)
  | .sub, [pattern, by_] => substitute ev false pattern by_ none
  | .sub, pattern :: by_ :: place :: _ => substitute ev false pattern by_ (some place)
  | .gsub, [pattern, by_] => substitute ev true pattern by_ none
  | .gsub, pattern :: by_ :: place :: _ => substitute ev true pattern by_ (some place)
  | .match_, s :: pattern :: _ =>
    let s ← text s
    let r ← patternOf ev pattern
    let (start, size) : Int × Int := match r.find? s.toList.toArray 0 false with
      | some m => (m.start + 1, m.stop - m.start)
      | none => (0, -1)
    setSpecial rstart (Value.ofInt start)
    setSpecial rlength (Value.ofInt size)
    return Value.ofInt start
  | .sprintf, args => return .text (← formatted "sprintf" (fun _ => return) (← args.mapM ev))
  | .atan2, y :: x :: _ =>
    let y ← number y
    return .number (Float.atan2 y (← number x))
  | .rand, _ =>
    let n := (← get).random * 6364136223846793005 + 1442695040888963407
    modify fun s => { s with random := n }
    return .number (Float.ofNat (n >>> 11).toNat / 9007199254740992.0)
  | .srand, args =>
    let seed ← match args with
      | e :: _ => ev e
      | [] => pure (Value.ofInt (← seconds))
    let before := (← get).seed
    let n := (truncated seed.toNumber).toNat.toUInt64
    modify fun s => { s with seed, random := n * 2862933555777941757 + 3037000493 }
    return before
  | .tolower, e :: _ => return .text (← text e).toLower
  | .toupper, e :: _ => return .text (← text e).toUpper
  | .system, e :: _ => return Value.ofInt (← Run.system (← text e))
  | .close, e :: _ => return Value.ofInt (← Run.close (← text e))
  | .fflush, [] =>
    flushAll
    return .number 0.0
  | .fflush, e :: _ =>
    let name ← text e
    flushAll
    let isOpen := ((← get).outputs.lookup name).isSome
    return Value.ofInt (if isOpen || name == "/dev/stdout" then 0 else -1)
  | .strftime, args =>
    let format ← match args with
      | e :: _ => text e
      | [] => pure "%c"
    let time ← match args with
      | _ :: e :: _ => pure (truncated (← number e))
      | _ => seconds
    return .text ((Moment.ofNanos (time * 1000000000)).show_ format)
  | .mktime, e :: _ => return Value.ofInt (secondsOf (← text e))
  | .systime, _ => return Value.ofInt (← seconds)
  | b, e :: _ =>
    match ofNumber? b with
    | some f => return .number (f (← number e))
    | none => return .unset
  | _, [] => return .unset

/-- Reads a record. The value says whether there was one. -/
def readInto (place : Option Target) (m : Run (Except Unix.Errno (Option Bytes))) : Run Value := do
  match ← m with
  | .error _ => return .number (-1.0)
  | .ok none => return .number 0.0
  | .ok (some text) =>
    match place with
    | some t => t.set (.input text)
    | none => setRecord text
    return .number 1.0

/-- The value of an expression. `call` calls the functions of the program. -/
def eval (call : Nat → List Expr → Run Value) : (bound : Nat) → Ev
  | 0, _ => fail "too many steps"
  | bound + 1, e => do
    let ev := eval call bound
    let isTrue (e : Expr) : Run Bool := return (← ev e).isTrue
    match e with
    | .number x => return .number x
    | .text s => return .text s
    | .regex s => return truth (found (← searcher s) (← record))
    | .var p => Run.variable_ p
    | .field e => Run.field (← fieldNumber (← ev e))
    | .element p subscripts =>
      let key ← keyOf ev subscripts
      element (← arrayAt p) key
    | .assign t e =>
      let t ← target ev t
      let v ← ev e
      t.set v
      return v
    | .update op t e =>
      let t ← target ev t
      let y ← ev e
      let v := Value.number (op.apply (← t.get).toNumber y.toNumber)
      t.set v
      return v
    | .step isAfter down t =>
      let t ← target ev t
      let x := (← t.get).toNumber
      let y := if down then x - 1.0 else x + 1.0
      t.set (.number y)
      return .number (if isAfter then y else x)
    | .choice c a b =>
      let c ← isTrue c
      if c then ev a else ev b
    | .both a b =>
      let a ← isTrue a
      if a then return truth (← isTrue b) else return truth false
    | .either a b =>
      let a ← isTrue a
      if a then return truth true else return truth (← isTrue b)
    | .not e => return truth (!(← isTrue e))
    | .negate e => return .number (-(← ev e).toNumber)
    | .plus e => return .number (← ev e).toNumber
    | .arith op a b =>
      let x := (← ev a).toNumber
      let y := (← ev b).toNumber
      return .number (op.apply x y)
    | .compare op a b =>
      let a ← ev a
      let b ← ev b
      return truth (← compareValues op a b)
    | .isMatch wanted a pattern =>
      let text ← textOf (← ev a)
      let r ← patternOf ev pattern
      return truth (found r text == wanted)
    | .member subscripts p =>
      let key ← keyOf ev subscripts
      return truth (← findKey (← arrayAt p) key false)
    | .concat a b =>
      let s ← textOf (← ev a)
      return .text (s ++ (← textOf (← ev b)))
    | .call f args => call f args
    | .builtin b args => builtin ev b args
    | .getline feed source place =>
      let place ← match place with
        | some e => some <$> target ev e
        | none => pure none
      match feed, source with
      | .file, some e => do
        let name ← textOf (← ev e)
        readInto place (readFile name)
      | .command, some e => do
        let command ← textOf (← ev e)
        readInto place (readCommand command)
      | _, _ => readInto place (return .ok (← nextMain Tool.rounds))
    | .group [e] => ev e
    | .group es => do
      let key ← keyOf ev es
      return .text key.toText

end Tilde.Utility.Awk
