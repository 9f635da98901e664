import Std.Data.HashMap
import Tilde.Text.Utf8
import Tilde.Unix.Conversion

/-!
# Values and arrays of awk programs

A value is a number or a text; a text that comes from the input counts as a number where it looks
like one. An array goes through its keys in an order of its own: keys stand in lists by their hash,
and one that was looked for comes to the front of its list.
-/

namespace Tilde.Utility.Awk

open Unix (Bytes Conversion)

/-- A value. -/
inductive Value where
  | unset
  | number (x : Float)
  | text (s : Bytes)
  /-- A text from the input. -/
  | input (s : Bytes)
  deriving Inhabited

namespace Value

/-- Whether a character is white space around numbers. -/
def isSpace (c : Char) : Bool := c == ' ' || ('\t' ≤ c && c ≤ '\r')

/-- The number that a text begins with. -/
def numberOf (s : Bytes) : Float :=
  if !s.isEmpty && s.length < 16 && s.all Char.isDigit then
    Float.ofNat (s.foldl (fun n c => 10 * n + (c.toNat - 48)) 0)
  else
    let r := Unix.readDecimal s.toList
    if r.found then r.toFloat else 0.0

/-- The number that a text looks like. -/
def numeric? (s : Bytes) : Option Float :=
  let r := Unix.readDecimal s.toList
  if r.found && r.rest.all isSpace then some r.toFloat else none

/-- The value as a number. -/
def toNumber : Value → Float
  | unset => 0.0
  | number x => x
  | text s | input s => numberOf s

/-- Whether the value counts as true. -/
def isTrue : Value → Bool
  | unset => false
  | number x => x != 0.0
  | text s => !s.isEmpty
  | input s =>
    match numeric? s with
    | some x => x != 0.0
    | none => !s.isEmpty

/-- The value as a number, if it is not a text. -/
def comparable? : Value → Option Float
  | unset => some 0.0
  | number x => some x
  | text _ => none
  | input s => numeric? s

end Value

/-- The whole number that a floating-point number is, if it is one that is written without a
point. -/
def whole? (x : Float) : Option Int :=
  if x.isNaN || x.isInf || x.floor != x || x < -9223372036854775808.0 ||
      18446744073709551616.0 < x then none
  else
    let f := Unix.Fraction.ofFloat x
    let n : Int := f.num / f.den
    some (if x < 0.0 then -n else min n 18446744073709551615)

/-- The whole number towards zero, within 64 bits. -/
def truncated (x : Float) : Int :=
  if x.isNaN then -9223372036854775808
  else if 18446744073709551615.0 ≤ x then 18446744073709551615
  else if x ≤ -9223372036854775807.0 then -9223372036854775807
  else
    let f := Unix.Fraction.ofFloat x
    let n : Int := f.num / f.den
    if x < 0.0 then -n else n

/-- A number in the form that a format gives, which has one conversion. -/
def formatNumber (format : Bytes) (x : Float) : Bytes :=
  let cs := format.toList
  let front := cs.takeWhile (· != '%')
  let (c, rest) := Conversion.flags {} (cs.drop (front.length + 1))
  let width := rest.takeWhile Char.isDigit
  let rest := rest.drop width.length
  let value (ds : List Char) : Nat := ds.foldl (fun n c => 10 * n + (c.toNat - 48)) 0
  let c := { c with width := value width }
  let (c, rest) := match rest with
    | '.' :: rest =>
      let digits := rest.takeWhile Char.isDigit
      ({ c with precision := some (value digits) }, rest.drop digits.length)
    | rest => (c, rest)
  match rest with
  | letter :: back =>
    let text := if ['d', 'i', 'o', 'x', 'X', 'u'].contains letter then
        c.integer letter (truncated x)
      else c.float letter x
    String.ofList front ++ text ++ String.ofList back
  | [] => format

/-- The value as a text, where numbers that are not whole have a format. -/
def Value.toText (format : Bytes) : Value → Bytes
  | .unset => ""
  | .text s | .input s => s
  | .number x =>
    match whole? x with
    | some n => toString n
    | none => if x.isNaN then "-nan" else formatNumber format x

/-! ### Arrays -/

/-- An array. -/
structure Table where
  values : Std.HashMap Bytes Value := {}
  /-- The keys by their hash, once they have been looked for as texts. -/
  texts : Array (List Bytes) := #[]
  /-- The keys that have been looked for as numbers. -/
  numbers : Array (List Int) := #[]
  hasTexts : Bool := false
  /-- The keys are the numbers from one on, and none has been looked for. -/
  isList : Bool := false
  deriving Inhabited

namespace Table

/-- How many lists a new array has. -/
def listCount : Nat := 64

/-- How long the lists may be before there are more of them. -/
def listLength : Nat := 12

/-- The hash of a text. -/
def hash (s : Bytes) : Nat :=
  (s.foldl (fun (h : UInt32) c => (h ^^^ c.toNat.toUInt32) * 16777619) 2166136261).toNat

/-- The list that a number is in. -/
def placeOf (n : Int) (count : Nat) : Nat := (n.emod count).toNat

/-- An array of the values of a list. -/
def ofList (values : List Value) : Table :=
  if values.isEmpty then {}
  else
    let keys := (List.range values.length).map fun n => toString (n + 1)
    { values := .ofList (keys.zip values), isList := true }

/-- How many keys there are. -/
def size (t : Table) : Nat := t.values.size

/-- The array with lists of the numbers from one on. -/
def withNumbers (t : Table) : Table :=
  if !t.isList then
    if t.numbers.isEmpty then { t with
      texts := .replicate listCount [], numbers := .replicate listCount [] } else t
  else
    let rec grow : (bound : Nat) → Nat → Nat
      | 0, n => n
      | bound + 1, n => if n * listLength < t.size then grow bound (2 * n) else n
    let count := grow 64 listCount
    let add (lists : Array (List Int)) (n : Nat) : Array (List Int) :=
      lists.modify ((n + 1) % count) (((n + 1 : Nat) : Int) :: ·)
    { t with
      isList := false
      texts := .replicate count []
      numbers := (List.range t.size).foldl add (.replicate count []) }

/-- The array with lists of all keys as texts. -/
def withTexts (t : Table) : Table :=
  if t.hasTexts then t
  else
    let t := t.withNumbers
    let count := t.texts.size
    let add (lists : Array (List Bytes)) (n : Int) : Array (List Bytes) :=
      let key := toString n
      lists.modify (hash key % count) (key :: ·)
    let addAll (lists : Array (List Bytes)) (ns : List Int) : Array (List Bytes) :=
      ns.foldl add lists
    { t with hasTexts := true, texts := t.numbers.foldl addAll t.texts }

/-- The array with twice as many lists, if they have become too long. -/
def spread (t : Table) : Table :=
  let count := t.texts.size
  if t.size ≤ count * listLength then t
  else
    let split {α : Type} (place : α → Nat) (lists : Array (List α)) : Array (List α) :=
      let stays (n : Nat) (a : α) : Bool := place a % (2 * count) == n
      let low := (List.range count).map fun n => (lists[n]?.getD []).filter (stays n)
      let high := (List.range count).map fun n => (lists[n]?.getD []).filter (!stays n ·)
      (low ++ high).toArray
    { t with
      texts := split hash t.texts
      numbers := split (fun n => placeOf n (2 * count)) t.numbers }

/-- Looks for a key as a text; if it is not there, it may be made. -/
def findText (t : Table) (key : Bytes) (makes : Bool) : Bool × Table :=
  if t.size == 0 && !makes then (false, t)
  else
    let t := t.withTexts
    let front (t : Table) : Table :=
      { t with texts := t.texts.modify (hash key % t.texts.size) fun keys =>
          if keys.head? == some key then keys else key :: keys.filter (· != key) }
    if t.values.contains key then (true, front t)
    else if makes then (true, front ({ t with values := t.values.insert key .unset }.spread))
    else (false, t)

/-- Looks for a key as a number; if it is not there, it may be made. -/
def findNumber (t : Table) (n : Int) (makes : Bool) : Bool × Table :=
  let isThere := t.values.contains (toString n)
  if t.size == 0 && !makes then (false, t)
  else if t.isList && isThere then (true, t)
  else if t.isList && !makes then (false, t)
  else
    let t := t.withNumbers
    let front (t : Table) : Table :=
      { t with numbers := t.numbers.modify (placeOf n t.numbers.size) fun ns =>
          if ns.head? == some n then ns else n :: ns.filter (· != n) }
    if ((t.numbers[placeOf n t.numbers.size]?).getD []).contains n then (true, front t)
    else if t.hasTexts then
      let (found, t) := t.findText (toString n) makes
      (found, if found then front t else t)
    else if makes then
      (true, front ({ t with values := t.values.insert (toString n) .unset }.spread))
    else (false, t)

/-- A key: a number or a text. -/
inductive Key where
  | number (n : Int)
  | text (s : Bytes)

/-- The key as a text. -/
def Key.toText : Key → Bytes
  | number n => toString n
  | text s => s

/-- The key that a value is. -/
def keyOf (format : Bytes) : Value → Key
  | .number x =>
    match whole? x with
    | some n => if n.natAbs < 2147483648 then .number n else .text (toString n)
    | none => .text (Value.toText format (.number x))
  | v => .text (v.toText format)

/-- Looks for a key. -/
def find (t : Table) (key : Key) (makes : Bool) : Bool × Table :=
  match key with
  | .number n => t.findNumber n makes
  | .text s => t.findText s makes

/-- Sets the value of a key that is there. -/
def set (t : Table) (key : Key) (v : Value) : Table :=
  { t with values := t.values.insert key.toText v }

/-- Takes a key away. -/
def erase (t : Table) (key : Key) : Table :=
  let (found, t) := t.find key false
  if !found then t
  else
    let t := t.withNumbers
    let name := key.toText
    let values := t.values.erase name
    if values.isEmpty then {}
    else
      let numbers := match name.toInt? with
        | some n => t.numbers.modify (placeOf n t.numbers.size) (·.filter (· != n))
        | none => t.numbers
      { t with
        values, numbers
        texts := t.texts.modify (hash name % t.texts.size) (·.filter (· != name)) }

/-- The keys in the order of the array, and the array after it has been asked for them. -/
def keys (t : Table) : List Bytes × Table :=
  if t.size == 0 then ([], t)
  else
    let t := t.withTexts
    (t.texts.toList.flatten, t)

end Table

end Tilde.Utility.Awk
