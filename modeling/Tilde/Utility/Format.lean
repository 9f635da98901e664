import Tilde.Unix.Conversion
import Tilde.Utility.Tool

/-!
# Formatted output

The tool that writes its arguments in the form that a format gives. The format is gone through
again as long as it takes arguments and there are some left. Numbers that are not whole have 64
binary digits.
-/

namespace Tilde.Utility.Format

open Unix (Bytes Conversion Fraction ReadDecimal)

/-! ### Numbers of 64 binary digits -/

/-- A fraction times a power of two. -/
def shifted (f : Fraction) (places : Int) : Fraction :=
  if places < 0 then { f with den := f.den * Nat.pow 2 places.natAbs }
  else { f with num := f.num * Nat.pow 2 places.toNat }

/-- A number of 64 binary digits, and the power of two that it is multiplied by. -/
structure Binary where
  digits : Nat
  exponent : Int

/-- The least number of 64 binary digits. -/
def leastDigits : Nat := Nat.pow 2 63

/-- The nearest number of 64 binary digits. -/
def Binary.ofFraction (f : Fraction) : Binary :=
  if f.num == 0 then ⟨0, 0⟩
  else
    let places : Int := 63 - ((f.num.log2 : Int) - f.den.log2)
    let floor (places : Int) : Nat := let g := shifted f places; g.num / g.den
    let places := if floor places < leastDigits then places + 1 else places
    let n := (shifted f places).rounded
    if 2 * leastDigits ≤ n then ⟨n / 2, 1 - places⟩ else ⟨n, -places⟩

/-- The number as a fraction. -/
def Binary.fraction (b : Binary) : Fraction := shifted ⟨b.digits, 1⟩ b.exponent

/-- The hexadecimal text of a number: one digit, a point if others follow, and a power of two. -/
def Binary.hexadecimal (b : Binary) (c : Conversion) (upper negative : Bool) : Bytes :=
  let base := Nat.pow 16 15
  let places := min 15 (c.precision.getD 15)
  let n := Fraction.rounded ⟨b.digits, Nat.pow 16 (15 - places)⟩
  let unit := Nat.pow 16 places
  let lead := n / unit
  let (lead, power) := if lead == 16 then (1, b.exponent + 64) else (lead, b.exponent + 60)
  let power := if b.digits == 0 then 0 else power
  let digits := ((Conversion.digitsIn 16 (base + n % unit * Nat.pow 16 (15 - places))).drop 1)
  let digits := match c.precision with
    | none => (digits.dropEndWhile (· == '0')).toString
    | some p => (digits.take p).toString.pushn '0' (p - 15)
  let body := Conversion.digitsIn 16 lead ++
    (if digits.isEmpty && !c.alternate then "" else "." ++ digits)
  let text := body ++ (if power < 0 then "p-" else "p+") ++ toString power.natAbs
  let text := if upper then text.toUpper else text
  c.signed true (c.sign negative ++ (if upper then "0X" else "0x")) text

/-- The greatest power of two of a number, and one that no number reaches. -/
def exponentLimit : Int := 16384

/-- Whether a number is too great for 64 binary digits and their powers of two. -/
def isTooGreat (r : ReadDecimal) : Bool :=
  let size : Int := if r.binary then r.exponent else 3 * r.exponent
  r.digits != 0 && (exponentLimit < size ||
    (-exponentLimit < size && exponentLimit ≤ (Binary.ofFraction r.fraction).exponent + 64))

/-- Whether a number is too small for 64 binary digits and their powers of two. -/
def isTooSmall (r : ReadDecimal) : Bool :=
  let size : Int := if r.binary then r.exponent else 4 * r.exponent
  r.digits != 0 && size + (Nat.log2 r.digits : Int) < -2 * exponentLimit

/-- The text of a number that is not whole. -/
def decimalText (c : Conversion) (letter : Char) (r : ReadDecimal) : Bytes :=
  if r.infinite || r.notANumber then
    let word := if r.infinite then "inf" else "nan"
    let upper := 'A' ≤ letter && letter ≤ 'Z'
    { c with zero := false }.signed true (c.sign r.negative) (if upper then word.toUpper else word)
  else
    let b := Binary.ofFraction r.fraction
    if letter == 'a' then b.hexadecimal c false r.negative
    else if letter == 'A' then b.hexadecimal c true r.negative
    else c.fraction letter r.negative b.fraction

/-! ### Escapes -/

/-- Whether a character is an octal digit. -/
def isOctal (c : Char) : Bool := '0' ≤ c && c ≤ '7'

/-- Whether a character is a hexadecimal digit. -/
def isHexadecimal (c : Char) : Bool := Unix.hexValue c < 16

/-- The number that digits in a base stand for. -/
def valueOf (base : Nat) (digits : List Char) : Nat :=
  digits.foldl (fun n c => base * n + Unix.hexValue c) 0

/-- A number in hexadecimal digits, at least a number of them. -/
def hexText (count n : Nat) : Bytes :=
  let digits := Conversion.digitsIn 16 n
  "".pushn '0' (count - digits.length) ++ digits

/-- Ends the tool because an escape has no digits. -/
def missingDigits {α : Type} : Tool α := Tool.die 1 "missing hexadecimal number in escape"

/-- The character that a letter stands for after a backslash. -/
def letterEscape? : Char → Option Char
  | '"' => some '"'
  | '\\' => some '\\'
  | 'a' => some '\x07'
  | 'b' => some '\x08'
  | 'e' => some '\x1B'
  | 'f' => some '\x0C'
  | 'n' => some '\n'
  | 'r' => some '\r'
  | 't' => some '\t'
  | 'v' => some '\x0B'
  | _ => none

/-- Writes a character that is given by its number, after `u` with four digits or `U` with eight.
One beyond the first 128 is written as it would be given. -/
def putNumbered (letter : Char) (cs : List Char) : Tool (List Char) := do
  let count := if letter == 'u' then 4 else 8
  let digits := (cs.take count).takeWhile isHexadecimal
  if digits.length < count then missingDigits
  let n := valueOf 16 digits
  if 0xD800 ≤ n && n ≤ 0xDFFF then
    Tool.die 1 ("invalid universal character name \\" ++ String.singleton letter ++ hexText count n)
  if n < 128 then Tool.put (String.singleton (Char.ofNat n))
  else if n < 0x10000 then Tool.put ("\\u" ++ (hexText 4 n).toUpper)
  else Tool.put ("\\U" ++ (hexText 8 n).toUpper)
  return cs.drop count

/-- Writes what an escape stands for, which is given without its backslash, and gives the text after
it. `skips` says that a zero may come before octal digits. -/
def putEscape (skips : Bool) (cs : List Char) : Tool (List Char) := do
  match cs with
  | [] =>
    Tool.put "\\"
    return []
  | 'x' :: cs =>
    let digits := (cs.take 2).takeWhile isHexadecimal
    if digits.isEmpty then missingDigits
    Tool.put (String.singleton (Char.ofNat (valueOf 16 digits)))
    return cs.drop digits.length
  | 'c' :: _ => Tool.stop 0
  | c :: rest =>
    if isOctal c then
      let cs := if skips && c == '0' then rest else cs
      let digits := (cs.take 3).takeWhile isOctal
      Tool.put (String.singleton (Char.ofNat (valueOf 8 digits % 256)))
      return cs.drop digits.length
    else if c == 'u' || c == 'U' then putNumbered c rest
    else
      match letterEscape? c with
      | some e => Tool.put (String.singleton e)
      | none => Tool.put ("\\" ++ String.singleton c)
      return rest

/-- Writes a text with what its escapes stand for. -/
def putEscaped : (bound : Nat) → List Char → Tool Unit
  | 0, _ => return
  | _, [] => return
  | bound + 1, '\\' :: cs => do
    let rest ← putEscape true cs
    putEscaped bound rest
  | bound + 1, c :: cs => do
    Tool.put (String.singleton c)
    putEscaped bound cs

/-! ### Conversions -/

/-- The arguments left, and whether a conversion has taken one. -/
structure Printing where
  args : List Bytes
  used : Bool := false

/-- Acts of the tool, which take arguments. -/
abbrev Printer := StateT Printing Tool

/-- Takes the next argument. -/
def next? : Printer (Option Bytes) := do
  match (← get).args with
  | [] => return none
  | arg :: args =>
    set ({ args, used := true } : Printing)
    return some arg

/-- Takes the next argument, or an empty text if there is none. -/
def next : Printer Bytes := return (← next?).getD ""

/-- Says that an argument is no number, or not all of it, or one out of range, if it is. -/
def check (arg : Bytes) (rest : List Char) (outOfRange : Bool) : Tool Unit := do
  let shown := Quoting.plain arg
  if outOfRange then Tool.warn (shown ++ ": Numerical result out of range")
  else if !rest.isEmpty then
    if rest.length == arg.length then Tool.warn (shown ++ ": expected a numeric value")
    else Tool.warn (shown ++ ": value not completely converted")

/-- The number of the character after a quote, if there is one. -/
def quoted? (arg : Bytes) : Tool (Option Nat) := do
  match arg.toList with
  | q :: c :: rest =>
    if q != '\'' && q != '"' then return none
    if !rest.isEmpty then
      Tool.say ("warning: " ++ String.ofList rest ++
        ": character(s) following character constant have been ignored")
    return some c.toNat
  | _ => return none

/-- The sign and the size of a whole number at the front of a text, and the text after it. The
number itself says its base. -/
def readWhole (text : List Char) : Bool × Nat × List Char :=
  let cs := text.dropWhile fun c => c == ' ' || ('\t' ≤ c && c ≤ '\r')
  let (negative, cs) := match cs with
    | '-' :: cs => (true, cs)
    | '+' :: cs => (false, cs)
    | cs => (false, cs)
  let (base, cs) := match cs with
    | '0' :: x :: c :: rest =>
      if (x == 'x' || x == 'X') && isHexadecimal c then (16, c :: rest) else (8, cs)
    | '0' :: _ => (8, cs)
    | _ => (10, cs)
  let digits := cs.takeWhile (Unix.hexValue · < base)
  if digits.isEmpty then (false, 0, text)
  else (negative, valueOf base digits, cs.drop digits.length)

/-- Reads an argument as a whole number with a sign. -/
def signed (arg : Bytes) : Tool Int := do
  match ← quoted? arg with
  | some n => return n
  | none =>
    let (negative, n, rest) := readWhole arg.toList
    let value : Int := if negative then -n else n
    let least : Int := -9223372036854775808
    let most : Int := 9223372036854775807
    check arg rest (value < least || most < value)
    return max least (min most value)

/-- Reads an argument as a whole number without a sign; a minus takes it from the end of the
range. -/
def unsigned (arg : Bytes) : Tool Int := do
  match ← quoted? arg with
  | some n => return n
  | none =>
    let (negative, n, rest) := readWhole arg.toList
    let most : Nat := 18446744073709551615
    check arg rest (most < n)
    if most < n then return most
    else return if negative then -n else n

/-- Reads an argument as a number that may not be whole. -/
def decimal (arg : Bytes) : Tool ReadDecimal := do
  match ← quoted? arg with
  | some n => return { negative := false, digits := n, rest := [] }
  | none =>
    let r := Unix.readDecimal arg.toList
    let great := isTooGreat r
    let small := isTooSmall r
    check arg (if r.found then r.rest else arg.toList) (great || small)
    if great then return { r with infinite := true }
    else if small then return { r with digits := 0, exponent := 0 }
    else return r

/-- Reads a width or a precision, which may be the next argument. `kind` names it. -/
def takeCount (kind : Bytes) (cs : List Char) : Printer (Int × List Char) := do
  match cs with
  | '*' :: rest =>
    match ← next? with
    | none => return (0, rest)
    | some arg =>
      let n ← (signed arg : Tool Int)
      if 2147483647 < n || (n < -2147483648 && kind != "precision") then
        (Tool.die 1 ("invalid " ++ kind ++ ": " ++ Quoting.plain arg) : Tool Unit)
      return (n, rest)
  | cs =>
    let digits := cs.takeWhile Char.isDigit
    return (digitsValue digits, cs.drop digits.length)

/-- The letters of conversions that go with some flags. -/
def lettersWith (flags : List Char) (precise : Bool) : List Char :=
  let without (present : Bool) (excluded : String) (letters : List Char) : List Char :=
    if present then letters.filter fun c => !(excluded.toList.contains c) else letters
  "aAcdeEfFgGiosuxX".toList
    |> without (flags.contains 'I' || flags.contains '\'') "aAceEosxX"
    |> without (flags.contains '#') "cdisu"
    |> without (flags.contains '0') "cs"
    |> without precise "c"

/-- Carries out the conversion of a letter. -/
def convert (c : Conversion) (letter : Char) : Printer Unit := do
  let arg ← next
  let text : Bytes ← match letter with
    | 's' => pure (c.text arg)
    | 'c' =>
      pure ({ c with precision := none }.text (String.singleton (arg.toList.headD '\x00')))
    | 'd' | 'i' => do
      let n ← (signed arg : Tool Int)
      pure (c.integer letter n)
    | 'o' | 'u' | 'x' | 'X' => do
      let n ← (unsigned arg : Tool Int)
      pure (c.integer letter n)
    | _ => do
      let r ← (decimal arg : Tool ReadDecimal)
      pure (decimalText c letter r)
  (Tool.put text : Tool Unit)

/-- Reads and carries out a conversion after its percent sign. -/
def conversion (cs : List Char) : Printer (List Char) := do
  let flags := cs.takeWhile "I'-+ #0".toList.contains
  let (c, _) := Conversion.flags {} (flags.filter fun c => c != 'I' && c != '\'')
  let (width, after) ← takeCount "field width" (cs.drop flags.length)
  let c := c.withWidth width
  let (c, after, precise) ← match after with
    | '.' :: after =>
      let (n, after) ← takeCount "precision" after
      pure (c.withPrecision n, after, true)
    | after => pure (c, after, false)
  let after := after.dropWhile "lLhjtz".toList.contains
  let letter := after.headD '\x00'
  if !( (lettersWith flags precise).contains letter) then
    let text := String.ofList (cs.take (cs.length + 1 - after.length))
    (Tool.die 1 ("%" ++ text ++ ": invalid conversion specification") : Tool Unit)
  convert c letter
  return after.drop 1

/-- Goes through a format once. -/
def once : (bound : Nat) → List Char → Printer Unit
  | 0, _ => return
  | _, [] => return
  | bound + 1, '%' :: '%' :: cs => do
    (Tool.put "%" : Tool Unit)
    once bound cs
  | bound + 1, '%' :: 'b' :: cs => do
    let arg ← next
    (putEscaped (arg.length + 1) arg.toList : Tool Unit)
    once bound cs
  | bound + 1, '%' :: 'q' :: cs => do
    match ← next? with
    | some arg => (Tool.put (Quoting.name arg) : Tool Unit)
    | none => pure ()
    once bound cs
  | bound + 1, '%' :: cs => do
    let rest ← conversion cs
    once bound rest
  | bound + 1, '\\' :: cs => do
    let rest ← (putEscape false cs : Tool (List Char))
    once bound rest
  | bound + 1, c :: cs => do
    (Tool.put (String.singleton c) : Tool Unit)
    once bound cs

/-- Goes through a format as often as it takes to use up the arguments. -/
def repeated (format : Bytes) : (bound : Nat) → Printer Unit
  | 0 => return
  | bound + 1 => do
    modify fun p => { p with used := false }
    once (format.length + 1) format.toList
    let p ← get
    if p.used && !p.args.isEmpty then repeated format bound
    else match p.args with
      | [] => return
      | arg :: _ =>
        (Tool.say ("warning: ignoring excess arguments, starting with " ++ Quoting.plain arg) :
          Tool Unit)

/-- Writes arguments as the first of them says. -/
def run (args : List Bytes) : Tool Unit := do
  let args := if args.head? == some "--" then args.drop 1 else args
  match args with
  | [] => Tool.missingOperand 1
  | format :: args =>
    let _ ← (repeated format (args.length + 1)).run { args }

end Tilde.Utility.Format
