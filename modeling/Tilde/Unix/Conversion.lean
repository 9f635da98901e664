import Tilde.Unix.Decimal

/-!
# Conversions of formats

How the conversions of a format write texts and numbers into fields: on which side they are filled
up, how signs are shown, and how many digits there are.
-/

namespace Tilde.Unix

/-- A conversion of a format: its flags, width and precision. -/
structure Conversion where
  left : Bool := false
  zero : Bool := false
  plus : Bool := false
  blank : Bool := false
  alternate : Bool := false
  width : Nat := 0
  precision : Option Nat := none
  deriving Repr

namespace Conversion

/-- A text in a field of the conversion's width. -/
def pad (c : Conversion) (s : String) : String :=
  let n := c.width - s.length
  if c.left then s.pushn ' ' n else "".pushn ' ' n ++ s

/-- A text, or as much of its front as the precision allows. -/
def text (c : Conversion) (s : String) : String :=
  c.pad (match c.precision with
    | some n => (s.take n).toString
    | none => s)

/-- The sign of a number. -/
def sign (c : Conversion) (negative : Bool) : String :=
  if negative then "-" else if c.plus then "+" else if c.blank then " " else ""

/-- A sign and digits, with zeros between them up to the width if `fills`. -/
def signed (c : Conversion) (fills : Bool) (sign digits : String) : String :=
  let zeros := if fills && c.zero && !c.left then c.width - sign.length - digits.length else 0
  c.pad (sign ++ "".pushn '0' zeros ++ digits)

/-- A whole number from its sign and digits, which the precision makes longer. -/
def whole (c : Conversion) (sign digits : String) : String :=
  match c.precision with
  | some p =>
    let digits := if p == 0 && digits == "0" then "" else digits
    c.signed false sign ("".pushn '0' (p - digits.length) ++ digits)
  | none => c.signed true sign digits

/-- The digits of a number in a base. -/
def digitsIn (base n : Nat) : String := String.ofList (Nat.toDigits base n)

/-- A whole number of 64 bits in the form that a letter asks for. -/
def integer (c : Conversion) (letter : Char) (n : Int) : String :=
  let unsigned : Nat := (UInt64.ofInt n).toNat
  match letter with
  | 'o' =>
    let digits := digitsIn 8 unsigned
    let c := if c.alternate && !digits.startsWith "0" then
      { c with precision := some (max (digits.length + 1) (c.precision.getD 0)) } else c
    if c.alternate && n == 0 then c.whole "" "0" else c.whole "" digits
  | 'u' => c.whole "" (digitsIn 10 unsigned)
  | 'x' => c.whole (if c.alternate && unsigned != 0 then "0x" else "") (digitsIn 16 unsigned)
  | 'X' =>
    c.whole (if c.alternate && unsigned != 0 then "0X" else "") (digitsIn 16 unsigned).toUpper
  | _ => c.whole (c.sign (n < 0)) (digitsIn 10 n.natAbs)

/-- A finite number with a point, in the form that a letter asks for. -/
def fraction (c : Conversion) (letter : Char) (negative : Bool) (f : Fraction) : String :=
  let places := c.precision.getD 6
  let text := match letter with
    | 'f' | 'F' => f.fixed places c.alternate
    | 'e' => f.scientific places c.alternate 'e'
    | 'E' => f.scientific places c.alternate 'E'
    | 'g' => f.general places c.alternate 'e'
    | _ => f.general places c.alternate 'E'
  c.signed true (c.sign negative) text

/-- The hexadecimal text of a finite number: one digit, a point if others follow, and a power of
two. -/
def hexadecimal (c : Conversion) (upper : Bool) (x : Float) : String :=
  let bits := x.toBits.toNat
  let e := bits / 4503599627370496 % 2048
  let m := bits % 4503599627370496
  let lead := if e == 0 then 0 else 1
  let power : Int := if e == 0 then (if m == 0 then 0 else -1022) else (e : Int) - 1023
  let (lead, digits) := match c.precision with
    | none =>
      let ds := digitsIn 16 (4503599627370496 + m)
      (lead, ((ds.drop 1).toString.dropEndWhile (· == '0')).toString)
    | some p =>
      if 13 ≤ p then
        (lead, ((digitsIn 16 (4503599627370496 + m)).drop 1).toString.pushn '0' (p - 13))
      else
        let n := Fraction.rounded ⟨lead * 4503599627370496 + m, Nat.pow 16 (13 - p)⟩
        let lead := n / Nat.pow 16 p
        (lead, ((digitsIn 16 (Nat.pow 16 p + n % Nat.pow 16 p)).drop 1).toString)
  let body := toString lead ++ (if digits.isEmpty && !c.alternate then "" else "." ++ digits)
  let mark := if power < 0 then "p-" else "p+"
  let text := body ++ mark ++ toString power.natAbs
  let text := if upper then text.toUpper else text
  let sign := c.sign (isNegativeFloat x) ++ (if upper then "0X" else "0x")
  c.signed true sign text

/-- A floating-point number in the form that a letter asks for. -/
def float (c : Conversion) (letter : Char) (x : Float) : String :=
  let isUpper := 'A' ≤ letter && letter ≤ 'Z'
  let word (s : String) : String :=
    { c with zero := false }.signed true (c.sign (isNegativeFloat x))
      (if isUpper then s.toUpper else s)
  if x.isNaN then word "nan"
  else if x.isInf then word "inf"
  else if letter == 'a' || letter == 'A' then c.hexadecimal isUpper x
  else c.fraction letter (isNegativeFloat x) (Fraction.ofFloat x)

/-- Reads the flags at the front of a conversion. -/
def flags (c : Conversion) : List Char → Conversion × List Char
  | '-' :: cs => flags { c with left := true } cs
  | '0' :: cs => flags { c with zero := true } cs
  | '+' :: cs => flags { c with plus := true } cs
  | ' ' :: cs => flags { c with blank := true } cs
  | '#' :: cs => flags { c with alternate := true } cs
  | cs => (c, cs)

/-- The conversion with a width, which a minus puts on the other side. -/
def withWidth (c : Conversion) (n : Int) : Conversion :=
  { c with width := n.natAbs, left := c.left || n < 0 }

/-- The conversion with a precision, unless that is negative. -/
def withPrecision (c : Conversion) (n : Int) : Conversion :=
  { c with precision := if n < 0 then none else some n.toNat }

end Conversion

end Tilde.Unix
