import Tilde.Regex.Basic
import Tilde.Unix.Conversion
import Tilde.Utility.Input
import Tilde.Utility.Options
import Tilde.Utility.Tool

/-!
# Sequences of numbers

The tool that counts from a number to another, and the one that takes numbers apart into primes.
-/

namespace Tilde.Utility

open Unix (Bytes Act Errno Fraction Conversion)

namespace Seq

/-- A number as it is given: its value in units of a power of ten, the places behind its point, and
how long its text is. -/
structure Number where
  digits : Int
  exponent : Int
  /-- The places behind the point; none where the text does not show them. -/
  places : Option Nat
  width : Nat
  /-- The number is beyond all others. -/
  infinite : Bool := false
  /-- The text begins with a minus. -/
  negative : Bool := false

/-- Reads a number. -/
def number (text : Bytes) : Tool Number := do
  let r := Unix.readDecimal text.toList
  let shown := Quoting.plain text
  if !r.found || !r.rest.isEmpty then
    Tool.misused 1 ("invalid floating point argument: " ++ shown)
  if r.notANumber then Tool.misused 1 ("invalid 'not-a-number' argument: " ++ shown)
  let plain := ((text.dropWhile Regex.isSpaceByte).dropWhile (· == '+')).toString
  let value (n : Nat) : Int := if r.negative then -(n : Int) else n
  let points := plain.toList.contains '.'
  if r.infinite || r.binary then
    let f := r.fraction
    let isWhole := r.binary && !points
    return { digits := value (if r.binary then f.num / f.den else r.digits), exponent := 0
             places := if isWhole then some 0 else none
             width := if isWhole then (toString (value (f.num / f.den))).length else plain.length
             infinite := r.infinite, negative := r.negative }
  let mantissa := (plain.takeWhile fun c => c != 'e' && c != 'E').toString
  let written := ((mantissa.splitOn ".").getD 1 "").length
  let shift := r.exponent + written
  let places := (written - shift).toNat
  let width := mantissa.length + (if mantissa.startsWith "." || mantissa.startsWith "-." then 1
    else 0)
  let width := if points && places == 0 then width - 1 - written else width - written + places
  let width := if !points && 0 < places then width + 1 else width
  let width := if 0 < shift then width + (shift.toNat - min shift.toNat written) else width
  return { digits := value r.digits, exponent := r.exponent, places := some places, width
           negative := r.negative }

/-- The value of a number in units of a negative power of ten. -/
def Number.inUnits (n : Number) (places : Nat) : Int :=
  let e := n.exponent + places
  if e < 0 then n.digits / Fraction.tens e.natAbs else n.digits * Fraction.tens e.toNat

/-- How the numbers are written. -/
structure Format where
  front : Bytes := ""
  back : Bytes := ""
  conversion : Conversion := {}
  letter : Char := 'f'

/-- The text of a number. -/
def Format.shown (f : Format) (value : Int) (places : Nat) (negative : Bool) : Bytes :=
  let fraction : Fraction := ⟨value.natAbs, Fraction.tens places⟩
  f.front ++ f.conversion.fraction f.letter negative fraction ++ f.back

/-- The text before a conversion, where two percent signs stand for one, and what comes behind the
sign of the conversion. -/
def untilConversion : List Char → List Char × Option (List Char)
  | [] => ([], none)
  | '%' :: '%' :: cs =>
    let (front, rest) := untilConversion cs
    ('%' :: front, rest)
  | '%' :: cs => ([], some cs)
  | c :: cs =>
    let (front, rest) := untilConversion cs
    (c :: front, rest)

/-- Reads a format. -/
def readFormat (text : Bytes) : Tool Format := do
  let wrong (m : Bytes) : Tool Format := Tool.die 1 ("format " ++ Quoting.plain text ++ m)
  match untilConversion text.toList with
  | (_, none) => wrong " has no % directive"
  | (front, some cs) =>
    let (c, cs) := Conversion.flags {} (cs.map fun c => if c == '\'' then '#' else c)
    let width := cs.takeWhile Char.isDigit
    let cs := cs.drop width.length
    let (precision, cs) := match cs with
      | '.' :: cs =>
        let digits := cs.takeWhile Char.isDigit
        (some (digitsValue digits), cs.drop digits.length)
      | cs => (none, cs)
    let cs := match cs with
      | 'L' :: cs => cs
      | cs => cs
    match cs with
    | [] => wrong " ends in %"
    | letter :: rest =>
      if !(['a', 'e', 'f', 'g', 'A', 'E', 'F', 'G'].contains letter) then
        wrong (" has unknown %" ++ String.singleton letter ++ " directive")
      else match untilConversion rest with
        | (_, some _) => wrong " has too many % directives"
        | (back, none) =>
          return { front := String.ofList front, back := String.ofList back, letter
                   conversion := { c with width := digitsValue width, precision } }

/-- How a sequence is shown. -/
structure Style where
  format : Option Bytes := none
  separator : Bytes := "\n"
  sameWidth : Bool := false

/-- The options of the tool. -/
def table : OptionTable where
  letters := OptionTable.ofLetters "w" "fs"
  words := [("equal-width", 'w', .none), ("format", 'f', .required),
    ("separator", 's', .required)]
  mixes := false

/-- Whether a value has not yet passed the last one. -/
def isWithin (step last value : Int) : Bool := if 0 ≤ step then value ≤ last else last ≤ value

/-- Writes the numbers. -/
def count (f : Format) (separator : Bytes) (places : Nat) (step : Int) (last : Option Int) :
    (bound : Nat) → (value : Int) → (negative : Bool) → Tool Unit
  | 0, _, _ => return
  | bound + 1, value, negative => do
    Tool.put (f.shown value places negative)
    let next := value + step
    if last.all (isWithin step · next) then
      Tool.put separator
      count f separator places step last bound next (next < 0)
    else Tool.put "\n"

/-- The options, in front of the first number. -/
def splitNumbers (args : List Bytes) : List Bytes :=
  match args.span fun a => match a.toList with
    | '-' :: c :: _ => !(c.isDigit || c == '.')
    | _ => false with
  | (front, rest) =>
    if front.contains "--" then args
    else match front.getLast? with
      | some "-f" | some "-s" => front ++ rest.take 1 ++ splitMore (rest.drop 1)
      | _ => splitMore' front rest
where
  splitMore (args : List Bytes) : List Bytes :=
    match args with
    | a :: _ => if a.startsWith "-" && 1 < a.length && (a.toList.getD 1 ' ').isDigit
        then "--" :: args else args
    | [] => []
  splitMore' (front rest : List Bytes) : List Bytes := front ++ splitMore rest

/-- Counts from a number to another. -/
def run (args : List Bytes) : Tool Unit := do
  let (s, operands) ← Tool.options table (splitNumbers args) ({} : Style) fun s g =>
    return match g.letter with
      | 'f' => { s with format := g.value }
      | 's' => { s with separator := g.value.getD "" }
      | _ => { s with sameWidth := true }
  if operands.isEmpty then Tool.missingOperand 1
  match operands.drop 3 with
  | extra :: _ => Tool.extraOperand 1 extra
  | [] => pure ()
  let given ← match s.format with
    | some text => pure (some (← readFormat text))
    | none => pure none
  if given.isSome && s.sameWidth then
    Tool.misused 1 "format string may not be specified when printing equal width strings"
  let numbers ← operands.mapM number
  let one : Number := { digits := 1, exponent := 0, places := some 0, width := 1 }
  let (first, step, last) := match numbers with
    | [last] => (one, one, last)
    | [first, last] => (first, one, last)
    | [first, step, last] => (first, step, last)
    | _ => (one, one, one)
  if step.digits == 0 && !step.infinite then
    let shown := Quoting.plain (operands.getD 1 "")
    Tool.misused 1 ("invalid Zero increment value: " ++ shown)
  let shownPlaces := max (first.places.getD 0) (step.places.getD 0)
  let places := max shownPlaces (last.places.getD 0)
  let fit (n : Number) : Nat :=
    let p := n.places.getD 0
    let w := n.width - p + shownPlaces
    if p == 0 && 0 < shownPlaces then w + 1
    else if 0 < p && shownPlaces == 0 then w - 1 else w
  let width := if s.sameWidth then max (fit first) (fit last) else 0
  let format := given.getD
    { conversion := { zero := s.sameWidth, width, precision := some shownPlaces } }
  let from_ := first.inUnits places
  let by_ := step.inUnits places
  let upTo := last.inUnits places
  let limit := if last.infinite then none else some upTo
  if limit.all (isWithin by_ · from_) then
    count format s.separator places by_ limit Tool.rounds from_ first.negative

end Seq

namespace Factor

/-- The least divisor of a number from a candidate on. -/
def leastDivisor (n : Nat) : (bound : Nat) → (candidate : Nat) → Nat
  | 0, _ => n
  | bound + 1, d =>
    if n < d * d then n
    else if n % d == 0 then d
    else leastDivisor n bound (if d == 2 then 3 else d + 2)

/-- The primes of a number, from a candidate on. -/
def primes : (bound : Nat) → (n candidate : Nat) → List Nat
  | 0, _, _ => []
  | bound + 1, n, d =>
    if n < 2 then []
    else
      let p := leastDivisor n n d
      p :: primes bound (n / p) p

/-- Takes numbers apart. -/
def run (args : List Bytes) : Tool Unit := do
  let (_, words) ← Tool.options {} args () fun _ _ => return ()
  let words ← if words.isEmpty then do
      let text ← Tool.readFile "-"
      pure (((text.getD "").splitToList Regex.isSpaceByte).filter (· != ""))
    else pure words
  words.forM fun w => do
    match natOf? (if w.startsWith "+" then (w.drop 1).toString else w) with
    | some n =>
      let shown := (primes 200 n 2).map fun p => " " ++ toString p
      Tool.putLine (toString n ++ ":" ++ String.join shown)
    | none => Tool.warn (Quoting.plain w ++ " is not a valid positive integer")

end Factor

end Tilde.Utility
