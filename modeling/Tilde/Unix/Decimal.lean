/-!
# Decimal text of numbers

Exact decimal text of fractions, rounded to a number of places or digits with a half going to the
even neighbour, and the numbers that decimal and hexadecimal texts stand for.
-/

namespace Tilde.Unix

/-- A fraction that is not negative. The denominator is not zero. -/
structure Fraction where
  num : Nat
  den : Nat
  deriving Repr

namespace Fraction

/-- The quotient rounded to a whole number, a half to the even neighbour. -/
def rounded (f : Fraction) : Nat :=
  let q := f.num / f.den
  let r := 2 * (f.num % f.den)
  if r < f.den || (r == f.den && q % 2 == 0) then q else q + 1

/-- A power of ten. -/
def tens (n : Nat) : Nat := Nat.pow 10 n

/-- The fraction times a power of ten. -/
def scaled (f : Fraction) (places : Int) : Fraction :=
  if places < 0 then { f with den := f.den * tens places.natAbs }
  else { f with num := f.num * tens places.toNat }

/-- The decimal digits of a number. -/
def digits (n : Nat) : List Char := Nat.toDigits 10 n

/-- The text with a point before the last places. `point` asks for a point without places too. -/
def withPoint (n places : Nat) (point : Bool) : String :=
  let ds := digits n
  let ds := List.replicate (places + 1 - ds.length) '0' ++ ds
  let whole := String.ofList (ds.take (ds.length - places))
  if places == 0 then (if point then whole ++ "." else whole)
  else whole ++ "." ++ String.ofList (ds.drop (ds.length - places))

/-- The text with a fixed number of places. -/
def fixed (f : Fraction) (places : Nat) (point : Bool) : String :=
  withPoint (f.scaled places).rounded places point

/-- The exponent of the first digit, rounded down; zero for zero. -/
def exponent (f : Fraction) : Int :=
  if f.num == 0 then 0
  else
    let guess : Int := (digits f.num).length - (digits f.den).length
    -- The guess is right or one too high.
    if f.num * tens (-guess).toNat < f.den * tens guess.toNat then guess - 1 else guess

/-- The digits of the fraction rounded to a number of them, and the exponent of the first. -/
def leading (f : Fraction) (count : Nat) : List Char × Int :=
  let e := f.exponent
  let n := (f.scaled (count - 1 - e)).rounded
  let ds := digits n
  if count < ds.length then (ds.take count, e + 1)
  else (List.replicate (count - ds.length) '0' ++ ds, e)

/-- The text of an exponent, with at least two digits. -/
def exponentText (mark : Char) (e : Int) : String :=
  let ds := digits e.natAbs
  String.ofList (mark :: (if e < 0 then '-' else '+') ::
    (if ds.length < 2 then '0' :: ds else ds))

/-- The text with one digit before the point. -/
def scientific (f : Fraction) (places : Nat) (point : Bool) (mark : Char) : String :=
  let (ds, e) := f.leading (places + 1)
  let front := String.ofList (ds.take 1)
  let back := String.ofList (ds.drop 1)
  let text := if back.isEmpty then (if point then front ++ "." else front)
    else front ++ "." ++ back
  text ++ exponentText mark e

/-- The text without the zeros at the end of its places. -/
def trimmed (s : String) : String :=
  if s.toList.contains '.' then
    ((s.dropEndWhile (· == '0')).toString.dropEndWhile (· == '.')).toString
  else s

/-- The shorter one of the two texts, with a number of digits in all. Zeros at the end are left out
unless `keeps`. -/
def general (f : Fraction) (count : Nat) (keeps : Bool) (mark : Char) : String :=
  let count := if count == 0 then 1 else count
  let e := (f.leading count).2
  if e < -4 || (count : Int) ≤ e then
    let (ds, e) := f.leading count
    let front := String.ofList (ds.take 1)
    let back := String.ofList (ds.drop 1)
    let text := if back.isEmpty then (if keeps then front ++ "." else front)
      else front ++ "." ++ back
    (if keeps then text else trimmed text) ++ exponentText mark e
  else
    let text := f.fixed (count - 1 - e).toNat keeps
    if keeps then text else trimmed text

end Fraction

/-- The fraction that a finite floating-point number is, without its sign. -/
def Fraction.ofFloat (x : Float) : Fraction :=
  let bits := x.toBits.toNat
  let fraction := bits % 4503599627370496
  let e := bits / 4503599627370496 % 2048
  let m := if e == 0 then fraction else fraction + 4503599627370496
  let e := if e == 0 then 1 else e
  if e < 1075 then ⟨m, Nat.pow 2 (1075 - e)⟩ else ⟨m * Nat.pow 2 (e - 1075), 1⟩

/-- Whether the sign of a floating-point number is a minus. -/
def isNegativeFloat (x : Float) : Bool := 9223372036854775808 ≤ x.toBits.toNat

/-- The value of a digit in base sixteen, or a number beyond them. -/
def hexValue (c : Char) : Nat :=
  if '0' ≤ c && c ≤ '9' then c.toNat - 48
  else if 'a' ≤ c && c ≤ 'f' then c.toNat - 87
  else if 'A' ≤ c && c ≤ 'F' then c.toNat - 55
  else 99

/-- A text read as a number: the sign, the number if it is finite, and the text after it. -/
structure ReadDecimal where
  negative : Bool
  /-- Digits, and the power of ten, or of two if `binary`, that they are multiplied by. -/
  digits : Nat := 0
  exponent : Int := 0
  binary : Bool := false
  infinite : Bool := false
  notANumber : Bool := false
  found : Bool := true
  rest : List Char

/-- Reads the exponent after a mark. Without digits there is none. -/
def readExponent (marks : List Char) (cs : List Char) : Int × List Char :=
  match cs with
  | m :: rest =>
    if !(marks.contains m) then (0, cs)
    else
      let (negative, ds) := match rest with
        | '-' :: ds => (true, ds)
        | '+' :: ds => (false, ds)
        | ds => (false, ds)
      let digits := ds.takeWhile fun c => '0' ≤ c && c ≤ '9'
      if digits.isEmpty then (0, cs)
      else
        let n : Nat := digits.foldl (fun n c => min 1000000 (10 * n + (c.toNat - 48))) 0
        (if negative then -n else n, ds.drop digits.length)
  | [] => (0, [])

/-- Reads digits with a point among them. -/
def readMantissa (base : Nat) (cs : List Char) : Nat × Int × Bool × List Char :=
  let whole := cs.takeWhile (hexValue · < base)
  let after := cs.drop whole.length
  let places := match after with
    | '.' :: ds => ds.takeWhile (hexValue · < base)
    | _ => []
  let found := !(whole.isEmpty && places.isEmpty)
  let after := match after with
    | '.' :: ds => if found then ds.drop places.length else after
    | _ => after
  let n := (whole ++ places).foldl (fun n c => base * n + hexValue c) 0
  (n, -places.length, found, after)

/-- Reads a number at the front of a text, after white space. -/
def readDecimal (cs : List Char) : ReadDecimal :=
  let text := cs.dropWhile fun c => c == ' ' || ('\t' ≤ c && c ≤ '\r')
  let (negative, text) := match text with
    | '-' :: text => (true, text)
    | '+' :: text => (false, text)
    | text => (false, text)
  let word (n : Nat) : String := (String.ofList (text.take n)).toLower
  if word 3 == "inf" then
    { negative, infinite := true
      rest := text.drop (if word 8 == "infinity" then 8 else 3) }
  else if word 3 == "nan" then { negative, notANumber := true, rest := text.drop 3 }
  else
    let decimal : Unit → ReadDecimal := fun _ =>
      let (n, e, found, rest) := readMantissa 10 text
      if !found then { negative := false, found := false, rest := cs }
      else
        let (e', rest) := readExponent ['e', 'E'] rest
        { negative, digits := n, exponent := e + e', rest }
    match text with
    | '0' :: x :: hex =>
      if x == 'x' || x == 'X' then
        let (n, e, found, rest) := readMantissa 16 hex
        if found then
          let (e', rest) := readExponent ['p', 'P'] rest
          { negative, digits := n, exponent := 4 * e + e', binary := true, rest }
        else { negative, rest := x :: hex }
      else decimal ()
    | _ => decimal ()

/-- The floating-point number read. -/
def ReadDecimal.toFloat (r : ReadDecimal) : Float :=
  let size : Float :=
    if r.infinite then 1.0 / 0.0
    else if r.notANumber then Float.ofBits 0x7FF8000000000000
    else if r.digits == 0 then 0.0
    else if r.binary then (Float.ofNat r.digits).scaleB r.exponent
    else if r.exponent < 0 then Float.ofScientific r.digits true r.exponent.natAbs
    else Float.ofScientific r.digits false r.exponent.natAbs
  if !r.negative then size
  else if r.notANumber then Float.ofBits 0xFFF8000000000000
  else -size

/-- The fraction read, without its sign. -/
def ReadDecimal.fraction (r : ReadDecimal) : Fraction :=
  if r.binary then
    if r.exponent < 0 then ⟨r.digits, Nat.pow 2 r.exponent.natAbs⟩
    else ⟨r.digits * Nat.pow 2 r.exponent.natAbs, 1⟩
  else Fraction.scaled ⟨r.digits, 1⟩ r.exponent

end Tilde.Unix
