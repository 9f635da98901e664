import Tilde.Utility.Tool

/-!
# The calendar

Days, months and years, how a number of seconds since the beginning of 1970 is told as a date and a
time of day, and how both are written as a format asks for. All times are in the zone of Greenwich.
-/

namespace Tilde.Utility.Calendar

open Unix (Bytes)

/-- The names of the months. -/
def monthNames : List String := ["January", "February", "March", "April", "May", "June", "July",
  "August", "September", "October", "November", "December"]

/-- The names of the days of the week. -/
def dayNames : List String :=
  ["Sunday", "Monday", "Tuesday", "Wednesday", "Thursday", "Friday", "Saturday"]

/-- The number of a day, counted from the first of 1970. Months beyond the twelfth are those of
later years, and days beyond the end of a month those of later months. -/
def dayNumber (year month day : Int) : Int :=
  let year := year + (month - 1).fdiv 12
  let month := (month - 1).fmod 12 + 1
  let y := if month ≤ 2 then year - 1 else year
  let era := y.fdiv 400
  let yearOfEra := y - era * 400
  let m := (month + 9).fmod 12
  let dayOfYear := (153 * m + 2) / 5 + day - 1
  era * 146097 + yearOfEra * 365 + yearOfEra / 4 - yearOfEra / 100 + dayOfYear - 719468

/-- The year, the month and the day of a number of a day. -/
def dateOf (number : Int) : Int × Int × Int :=
  let z := number + 719468
  let era := z.fdiv 146097
  let d := z - era * 146097
  let yearOfEra := (d - d / 1460 + d / 36524 - d / 146096) / 365
  let dayOfYear := d - (365 * yearOfEra + yearOfEra / 4 - yearOfEra / 100)
  let m := (5 * dayOfYear + 2) / 153
  let day := dayOfYear - (153 * m + 2) / 5 + 1
  let month := if m < 10 then m + 3 else m - 9
  (yearOfEra + era * 400 + (if month ≤ 2 then 1 else 0), month, day)

/-- The day of the week, from Sunday on, of a number of a day. -/
def weekdayOf (number : Int) : Nat := ((number + 4).fmod 7).toNat

/-- A moment as a date and a time of day. -/
structure Moment where
  /-- Seconds since the beginning of 1970. -/
  seconds : Int
  nanos : Nat
  year : Int
  month : Nat
  day : Nat
  hour : Nat
  minute : Nat
  second : Nat
  weekday : Nat
  /-- The day of the year, from zero on. -/
  yearDay : Nat

/-- The moment at some nanoseconds since the beginning of 1970. -/
def Moment.ofNanos (total : Int) : Moment :=
  let seconds := total.fdiv 1000000000
  let number := seconds.fdiv 86400
  let (year, month, day) := dateOf number
  let rest := (seconds.fmod 86400).toNat
  { seconds, nanos := (total.fmod 1000000000).toNat, year, month := month.toNat, day := day.toNat
    hour := rest / 3600, minute := rest / 60 % 60, second := rest % 60
    weekday := weekdayOf number, yearDay := (number - dayNumber year 1 1).toNat }

/-- The moment at some microseconds since the beginning of 1970. -/
def Moment.ofMicros (micros : Nat) : Moment := .ofNanos (micros * 1000)

/-- The year and the number of the week, where a week is in the year in which most of it lies. -/
def Moment.isoWeek (t : Moment) : Int × Nat :=
  let number := t.seconds.fdiv 86400
  let fromMonday := (t.weekday + 6) % 7
  let thursday := number - fromMonday + 3
  let (year, _, _) := dateOf thursday
  (year, ((thursday - dayNumber year 1 1) / 7).toNat + 1)

/-! ### Formats -/

/-- What stands between the percent sign and the letter of a conversion. -/
structure Spec where
  /-- What fields are filled up with, if the format says so. -/
  fill : Option Char := none
  /-- Nothing is filled up. -/
  bare : Bool := false
  upper : Bool := false
  /-- Upper and lower case change places. -/
  swaps : Bool := false
  width : Nat := 0
  colons : Nat := 0

namespace Spec

/-- A number in a field of at least `digits` places. -/
def number (s : Spec) (fill : Char) (digits : Nat) (n : Int) : String :=
  let sign := if n < 0 then "-" else ""
  let text := toString n.natAbs
  if s.bare then sign ++ text
  else
    let c := s.fill.getD fill
    let room := max digits s.width - sign.length - text.length
    if c == '0' then sign ++ "".pushn '0' room ++ text else "".pushn c room ++ sign ++ text

/-- A text in a field. -/
def text (s : Spec) (t : String) : String :=
  let t := if s.upper then t.toUpper else t
  if s.bare then t else "".pushn (s.fill.getD ' ') (s.width - t.length) ++ t

/-- The text of a name, in capitals if cases change places. -/
def name (s : Spec) (t : String) : String := s.text (if s.swaps then t.toUpper else t)

end Spec

/-- Three letters of a name. -/
def short (names : List String) (n : Nat) : String := ((names.getD n "").take 3).toString

/-- The hour as clocks show it. -/
def Moment.clockHour (t : Moment) : Nat := if t.hour % 12 == 0 then 12 else t.hour % 12

/-- The fraction of a second, in as many places as are asked for. -/
def Moment.fraction (t : Moment) (s : Spec) : String :=
  let digits := toString t.nanos
  let all := "".pushn '0' (9 - digits.length) ++ digits
  if s.width == 0 then all
  else if s.width ≤ 9 then (all.take s.width).toString
  else all ++ "".pushn '0' (s.width - 9)

/-- The text of a conversion that is no other format; none for other letters. -/
def Moment.field? (t : Moment) (s : Spec) (c : Char) : Option String :=
  let two (n : Nat) : String := s.number '0' 2 n
  match c with
  | '%' => some "%"
  | 'n' => some "\n"
  | 't' => some "\t"
  | 'a' => some (s.name (short dayNames t.weekday))
  | 'A' => some (s.name (dayNames.getD t.weekday ""))
  | 'b' | 'h' => some (s.name (short monthNames (t.month - 1)))
  | 'B' => some (s.name (monthNames.getD (t.month - 1) ""))
  | 'C' => some (s.number '0' 2 (t.year.fdiv 100))
  | 'd' => some (two t.day)
  | 'e' => some (s.number ' ' 2 t.day)
  | 'g' => some (s.number '0' 2 (t.isoWeek.1.fmod 100))
  | 'G' => some (s.number '0' 4 t.isoWeek.1)
  | 'H' => some (two t.hour)
  | 'I' => some (two t.clockHour)
  | 'j' => some (s.number '0' 3 (t.yearDay + 1))
  | 'k' => some (s.number ' ' 2 t.hour)
  | 'l' => some (s.number ' ' 2 t.clockHour)
  | 'm' => some (two t.month)
  | 'M' => some (two t.minute)
  | 'N' => some (t.fraction s)
  | 'p' =>
    let half := if t.hour < 12 then "AM" else "PM"
    some (s.text (if s.swaps then half.toLower else half))
  | 'P' => some (s.text (if t.hour < 12 then "am" else "pm"))
  | 'q' => some (s.number '0' 1 ((t.month - 1) / 3 + 1))
  | 's' => some (s.number '0' 1 t.seconds)
  | 'S' => some (two t.second)
  | 'u' => some (s.number '0' 1 (if t.weekday == 0 then 7 else t.weekday))
  | 'U' => some (two ((t.yearDay + 7 - t.weekday) / 7))
  | 'V' => some (two t.isoWeek.2)
  | 'w' => some (s.number '0' 1 t.weekday)
  | 'W' => some (two ((t.yearDay + 7 - (t.weekday + 6) % 7) / 7))
  | 'y' => some (s.number '0' 2 (t.year.fmod 100))
  | 'Y' => some (s.number '0' 4 t.year)
  | 'z' => match s.colons with
    | 0 => some (s.text "+0000")
    | 1 => some (s.text "+00:00")
    | 2 => some (s.text "+00:00:00")
    | 3 => some (s.text "+00")
    | _ => none
  | 'Z' => some (s.text (if s.swaps then "utc" else "UTC"))
  | _ => none

/-- The format that a letter stands for. -/
def longFormat? : Char → Option String
  | 'c' => some "%a %b %e %H:%M:%S %Y"
  | 'D' | 'x' => some "%m/%d/%y"
  | 'F' => some "%Y-%m-%d"
  | 'r' => some "%I:%M:%S %p"
  | 'R' => some "%H:%M"
  | 'T' | 'X' => some "%H:%M:%S"
  | _ => none

/-- Reads what stands before the letter of a conversion. -/
def readSpec (s : Spec) : List Char → Spec × List Char
  | '-' :: cs => readSpec { s with bare := true, fill := none } cs
  | '_' :: cs => readSpec { s with fill := some ' ', bare := false } cs
  | '0' :: cs => readSpec { s with fill := some '0', bare := false } cs
  | '+' :: cs => readSpec { s with fill := some '0', bare := false } cs
  | '^' :: cs => readSpec { s with upper := true } cs
  | '#' :: cs => readSpec { s with swaps := true } cs
  | cs =>
    let digits := cs.takeWhile Char.isDigit
    let rest := cs.drop digits.length
    let rest := match rest with
      | 'E' :: c :: more | 'O' :: c :: more => if c.isAlpha then c :: more else rest
      | rest => rest
    let colons := rest.takeWhile (· == ':')
    ({ s with width := digitsValue digits, colons := colons.length }, rest.drop colons.length)

/-- A moment as a format asks for. `depth` bounds the formats that stand for others. -/
def Moment.format (t : Moment) : (depth bound : Nat) → List Char → String
  | 0, _, _ | _, 0, _ => ""
  | _, _, [] => ""
  | depth + 1, bound + 1, '%' :: cs =>
    let (s, rest) := readSpec {} cs
    let asWritten (n : Nat) (rest : List Char) : String :=
      "%" ++ String.ofList (cs.take n) ++ t.format (depth + 1) bound rest
    match rest with
    | [] => "%" ++ String.ofList cs
    | c :: rest =>
      match longFormat? c with
      | some f =>
        s.text (t.format depth (f.length + 1) f.toList) ++ t.format (depth + 1) bound rest
      | none =>
        if s.colons != 0 && c != 'z' then asWritten (cs.length - rest.length) rest
        else match t.field? s c with
          | some text => text ++ t.format (depth + 1) bound rest
          | none => asWritten (cs.length - rest.length) rest
  | depth + 1, bound + 1, c :: cs => String.singleton c ++ t.format (depth + 1) bound cs

/-- A moment as a format asks for. -/
def Moment.show_ (t : Moment) (format : Bytes) : Bytes :=
  t.format 3 (format.length + 1) format.toList

end Tilde.Utility.Calendar
