import Tilde.Regex.Basic
import Tilde.Unix.Decimal
import Tilde.Utility.Tool

/-!
# Orders of texts

The orders in which lines can be sorted: by bytes, by the number or the month that they begin with,
and by versions, where runs of digits count as numbers.
-/

namespace Tilde.Utility

open Unix (Bytes)

namespace Order

/-- The order of bytes. -/
def bytes (a b : List Char) : Ordering :=
  match a, b with
  | [], [] => .eq
  | [], _ => .lt
  | _, [] => .gt
  | c :: cs, d :: ds => if c == d then bytes cs ds else compare c d

/-- Whether a character is a blank. -/
def isBlank (c : Char) : Bool := c == ' ' || c == '\t' || c == '\n'

/-- A decimal number at the front of a text: whether it is negative, its digits before and behind
the point, without zeros that do not count, and the rest. -/
structure Numeral where
  negative : Bool
  whole : List Char
  places : List Char
  rest : List Char

/-- Reads a decimal number. -/
def numeral (cs : List Char) : Numeral :=
  let cs := cs.dropWhile isBlank
  let (negative, cs) := match cs with
    | '-' :: cs => (true, cs)
    | cs => (false, cs)
  let whole := cs.takeWhile Char.isDigit
  let rest := cs.drop whole.length
  let (places, rest) := match rest with
    | '.' :: more =>
      let places := more.takeWhile Char.isDigit
      (places, more.drop places.length)
    | rest => ([], rest)
  { negative, whole := whole.dropWhile (· == '0')
    places := (places.reverse.dropWhile (· == '0')).reverse, rest }

/-- Whether a number is zero. -/
def Numeral.isZero (n : Numeral) : Bool := n.whole.isEmpty && n.places.isEmpty

/-- The order of sizes. -/
def Numeral.compareSize (a b : Numeral) : Ordering :=
  (compare a.whole.length b.whole.length).then
    ((bytes a.whole b.whole).then (bytes a.places b.places))

/-- The order of numbers. -/
def Numeral.order (a b : Numeral) : Ordering :=
  match a.negative && !a.isZero, b.negative && !b.isZero with
  | true, false => .lt
  | false, true => .gt
  | true, true => b.compareSize a
  | false, false => a.compareSize b

/-- The order of the numbers that texts begin with. -/
def numbers (a b : List Char) : Ordering := (numeral a).order (numeral b)

/-- The place of a letter behind a number; negative for negative numbers. -/
def unitPlace (n : Numeral) : Int :=
  if n.isZero then 0
  else
    let place : Nat := match n.rest with
      | c :: _ =>
        let letters := ['K', 'M', 'G', 'T', 'P', 'E', 'Z', 'Y', 'R', 'Q']
        match letters.idxOf? (if c == 'k' then 'K' else c) with
        | some i => i + 1
        | none => 0
      | [] => 0
    if n.negative then -place else place

/-- The order of numbers with letters for their size. -/
def sizes (a b : List Char) : Ordering :=
  let m := numeral a
  let n := numeral b
  (compare (unitPlace m) (unitPlace n)).then (m.order n)

/-- The number of the month that a text begins with. -/
def month (cs : List Char) : Nat :=
  let names := ["JAN", "FEB", "MAR", "APR", "MAY", "JUN", "JUL", "AUG", "SEP", "OCT", "NOV", "DEC"]
  let name := (String.ofList ((cs.dropWhile isBlank).take 3)).toUpper
  match names.idxOf? name with
  | some i => i + 1
  | none => 0

/-- The order of months. -/
def months (a b : List Char) : Ordering := compare (month a) (month b)

/-- The order of floating-point numbers. What is no number comes first. -/
def floats (a b : List Char) : Ordering :=
  let x := Unix.readDecimal a
  let y := Unix.readDecimal b
  match x.found, y.found with
  | false, false => .eq
  | false, true => .lt
  | true, false => .gt
  | true, true =>
    match x.notANumber, y.notANumber with
    | true, true => .eq
    | true, false => .lt
    | false, true => .gt
    | false, false =>
      let u := x.toFloat
      let v := y.toFloat
      if u < v then .lt else if v < u then .gt else .eq

/-! ### Versions -/

/-- The place of a character among those that are no digits. -/
def weight (cs : List Char) : Int :=
  match cs with
  | [] => -1
  | c :: _ =>
    if c.isDigit then 0
    else if c.isAlpha then c.toNat
    else if c == '~' then -2
    else c.toNat + 256

/-- Compares the parts of versions in turn: first what are no digits, then a number. -/
def versionParts : (bound : Nat) → List Char → List Char → Ordering
  | 0, _, _ => .eq
  | bound + 1, a, b =>
    if a.isEmpty && b.isEmpty then .eq
    else
      let isText : List Char → Bool
        | c :: _ => !c.isDigit
        | [] => false
      if isText a || isText b then
        if weight a != weight b then compare (weight a) (weight b)
        else versionParts bound (a.drop 1) (b.drop 1)
      else
        let digitsOf (cs : List Char) : List Char := (cs.takeWhile Char.isDigit)
        let m := (digitsOf a).dropWhile (· == '0')
        let n := (digitsOf b).dropWhile (· == '0')
        match (compare m.length n.length).then (bytes m n) with
        | .eq => versionParts bound (a.drop (digitsOf a).length) (b.drop (digitsOf b).length)
        | o => o

/-- The order of versions. -/
def versionText (a b : List Char) : Ordering := versionParts (a.length + b.length + 2) a b

/-- Whether a text is a suffix of a file name: parts that begin with a point and a letter. -/
def isSuffix (cs : List Char) : Bool :=
  match (String.ofList cs).splitOn "." with
  | "" :: parts => parts.all fun p => match p.toList with
      | c :: more => (c.isAlpha || c == '~') && more.all fun d => d.isAlphanum || d == '~'
      | [] => false
  | _ => false

/-- The length of a name without its suffixes. -/
def stemLength (cs : List Char) : Nat :=
  let n := cs.length
  let starts := (List.range n).filter fun i => 0 < i && isSuffix (cs.drop i)
  starts.headD n

/-- The order of names with versions in them. -/
def versions (a b : List Char) : Ordering :=
  if a == b then .eq
  else match a, b with
    | [], _ => .lt
    | _, [] => .gt
    | a, b =>
      let rank (cs : List Char) : Nat :=
        if cs == ['.'] then 0 else if cs == ['.', '.'] then 1
        else if cs.head? == some '.' then 2 else 3
      (compare (rank a) (rank b)).then
        ((versionText (a.take (stemLength a)) (b.take (stemLength b))).then (versionText a b))

end Order

end Tilde.Utility
