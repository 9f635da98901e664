import Tilde.Utility.Calendar

/-!
# Dates in words

The moments that people write: a date, a time of day, a zone, a day of the week, and steps from
there such as `3 days ago`, in any order.
-/

namespace Tilde.Utility.DateText

open Unix (Bytes)

/-- A piece of a text. -/
inductive Piece where
  /-- Digits, with their value and how many there are. -/
  | number (value count : Nat)
  | word (text : String)
  | mark (c : Char)
  | blank
  deriving DecidableEq, Repr

/-- Takes a text into pieces. -/
def pieces : (bound : Nat) → List Char → List Piece
  | 0, _ => []
  | _, [] => []
  | bound + 1, c :: cs =>
    if c.isDigit then
      let digits := (c :: cs).takeWhile Char.isDigit
      .number (digitsValue digits) digits.length :: pieces bound ((c :: cs).drop digits.length)
    else if c.isAlpha then
      let letters := (c :: cs).takeWhile fun c => c.isAlpha || c == '.'
      .word (String.ofList (letters.filter (· != '.'))).toLower ::
        pieces bound ((c :: cs).drop letters.length)
    else if c.isWhitespace then .blank :: pieces bound (cs.dropWhile Char.isWhitespace)
    else .mark c :: pieces bound cs

/-- Steps from a moment. -/
structure Steps where
  years : Int := 0
  months : Int := 0
  days : Int := 0
  seconds : Int := 0
  nanos : Int := 0

/-- What a text says of a moment. -/
structure Wish where
  date : Option (Int × Int × Int) := none
  /-- Seconds of the day, and nanoseconds. -/
  time : Option (Nat × Nat) := none
  /-- Seconds by which the zone is ahead. -/
  zone : Option Int := none
  /-- A day of the week, and how many of them to go on. -/
  weekday : Option (Int × Nat) := none
  /-- The nanoseconds since the beginning of 1970. -/
  absolute : Option Int := none
  steps : Steps := {}
  /-- Whether there are steps. -/
  hasSteps : Bool := false

/-- The place of a name of which at least three letters stand there. -/
def placeOf? (names : List String) (word : String) : Option Nat :=
  names.findIdx? fun name =>
    let name := name.toLower
    name == word || (name.take 3).toString == word

/-- The number of a month by its name. -/
def monthOf? (word : String) : Option Nat :=
  if word == "sept" then some 9 else (placeOf? Calendar.monthNames word).map (· + 1)

/-- The number of a day of the week by its name. -/
def weekdayOf? (word : String) : Option Nat :=
  match word with
  | "tues" => some 2
  | "wednes" => some 3
  | "thur" | "thurs" => some 4
  | word => placeOf? Calendar.dayNames word

/-- The hours by which a zone is ahead. -/
def zoneOf? (word : String) : Option Int :=
  match word.toList with
  | [c] =>
    if 'a' ≤ c && c ≤ 'i' then some (c.toNat - 96)
    else if 'k' ≤ c && c ≤ 'm' then some (c.toNat - 97)
    else if 'n' ≤ c && c ≤ 'y' then some (109 - (c.toNat : Int))
    else if c == 'z' then some 0 else none
  | _ => [("utc", 0), ("gmt", 0), ("z", 0), ("ut", 0), ("wet", 0), ("est", -5), ("edt", -4),
    ("cst", -6), ("cdt", -5), ("mst", -7), ("mdt", -6), ("pst", -8), ("pdt", -7), ("cet", 1),
    ("cest", 2), ("met", 1), ("eet", 2), ("eest", 3), ("bst", 1), ("west", 1), ("msk", 3),
    ("ist", 5), ("jst", 9)].lookup word

/-- The numbers that stand for words. -/
def ordinalOf? (word : String) : Option Int :=
  [("last", -1), ("this", 0), ("next", 1), ("first", 1), ("third", 3), ("fourth", 4), ("fifth", 5),
    ("sixth", 6), ("seventh", 7), ("eighth", 8), ("ninth", 9), ("tenth", 10), ("eleventh", 11),
    ("twelfth", 12)].lookup word

/-- A number of units of time. -/
def stepOf? (n : Int) (word : String) : Option Steps :=
  let one := if word.endsWith "s" && word != "s" then (word.dropEnd 1).toString else word
  match one with
  | "year" => some { years := n }
  | "month" => some { months := n }
  | "fortnight" => some { days := 14 * n }
  | "week" => some { days := 7 * n }
  | "day" => some { days := n }
  | "hour" => some { seconds := 3600 * n }
  | "minute" | "min" => some { seconds := 60 * n }
  | "second" | "sec" => some { seconds := n }
  | _ => none

/-- Steps after steps. -/
def Steps.add (a b : Steps) : Steps where
  years := a.years + b.years
  months := a.months + b.months
  days := a.days + b.days
  seconds := a.seconds + b.seconds
  nanos := a.nanos + b.nanos

/-- Steps the other way. -/
def Steps.back (a : Steps) : Steps where
  years := -a.years
  months := -a.months
  days := -a.days
  seconds := -a.seconds
  nanos := -a.nanos

/-- A year of which the last two digits stand there. -/
def fullYear (value count : Nat) : Int :=
  if count ≤ 2 then (if value < 69 then 2000 + value else 1900 + value) else value

namespace Wish

/-- Sets the date, which may be said once. -/
def withDate (w : Wish) (year month day : Int) : Option Wish :=
  if w.date.isSome then none else some { w with date := some (year, month, day) }

/-- Sets the time of day, which may be said once. -/
def withTime (w : Wish) (hour minute second nanos : Nat)
    (afternoon : Option Bool) : Option Wish := do
  let hour ← match afternoon with
    | none => some hour
    | some later =>
      if hour == 0 || 12 < hour then none else some (hour % 12 + (if later then 12 else 0))
  if w.time.isSome || 24 ≤ hour || 60 ≤ minute || 61 ≤ second then none
  else some { w with time := some (hour * 3600 + minute * 60 + second, nanos) }

/-- Sets the zone. -/
def withZone (w : Wish) (seconds : Int) : Option Wish :=
  if w.zone.isSome then none else some { w with zone := some seconds }

/-- Adds steps. -/
def withSteps (w : Wish) (s : Steps) : Wish := { w with steps := w.steps.add s, hasSteps := true }

end Wish

/-- Whether a word is that of the first or of the second half of the day. -/
def halfOf? : String → Option Bool
  | "am" => some false
  | "pm" => some true
  | _ => none

/-- Leaves out blanks. -/
def skip : List Piece → List Piece
  | .blank :: rest => rest
  | rest => rest

/-- Reads a half of the day. -/
def readHalf (ps : List Piece) : Option Bool × List Piece :=
  match skip ps with
  | .word w :: rest =>
    match halfOf? w with
    | some later => (some later, rest)
    | none => (none, ps)
  | _ => (none, ps)

/-- The nanoseconds that digits after the point make. -/
def nanosOf (value count : Nat) : Nat :=
  if count ≤ 9 then value * Nat.pow 10 (9 - count) else value / Nat.pow 10 (count - 9)

/-- Reads a zone as a distance, after its sign. -/
def readDistance (sign : Int) : List Piece → Option (Int × List Piece)
  | .number h _ :: .mark ':' :: .number m _ :: rest =>
    if h ≤ 24 && m < 60 then some (sign * (h * 3600 + m * 60 : Nat), rest) else none
  | .number n count :: rest =>
    let (h, m) := if count ≤ 2 then (n, 0) else (n / 100, n % 100)
    if h ≤ 24 && m < 60 then some (sign * (h * 3600 + m * 60 : Nat), rest) else none
  | _ => none

/-- Reads a zone right after a time of day. -/
def readZone (w : Wish) (ps : List Piece) : Option (Wish × List Piece) :=
  let signed (sign : Int) (rest : List Piece) : Option (Wish × List Piece) :=
    match skip rest with
    | .number n count :: more =>
      let rest := .number n count :: more
      if 4 < count then some (w, ps)
      else do
        let (z, rest) ← readDistance sign rest
        return (← w.withZone z, rest)
    | _ => some (w, ps)
  match skip ps with
  | .mark '+' :: rest => signed 1 rest
  | .mark '-' :: rest => signed (-1) rest
  | _ => some (w, ps)

/-- Reads the rest of a time of day after its hour and the colon. -/
def readTime (w : Wish) (hour : Nat) : List Piece → Option (Wish × List Piece)
  | .number minute _ :: .mark ':' :: .number second _ :: .mark '.' :: .number f count :: rest => do
    let (half, rest) := readHalf rest
    readZone (← w.withTime hour minute second (nanosOf f count) half) rest
  | .number minute _ :: .mark ':' :: .number second _ :: .mark ',' :: .number f count :: rest => do
    let (half, rest) := readHalf rest
    readZone (← w.withTime hour minute second (nanosOf f count) half) rest
  | .number minute _ :: .mark ':' :: .number second _ :: rest => do
    let (half, rest) := readHalf rest
    readZone (← w.withTime hour minute second 0 half) rest
  | .number minute _ :: rest => do
    let (half, rest) := readHalf rest
    readZone (← w.withTime hour minute 0 0 half) rest
  | _ => none

/-- Adds steps that stand at the front, backwards if the text says so. -/
def readSteps (w : Wish) (s : Steps) (rest : List Piece) : Wish × List Piece :=
  match skip rest with
  | .word "ago" :: rest => (w.withSteps s.back, rest)
  | _ => (w.withSteps s, rest)

/-- Reads a number with a sign, which counts units. -/
def readSigned (w : Wish) (sign : Int) (ps : List Piece) : Option (Wish × List Piece) :=
  match skip ps with
  | .number n count :: rest =>
    match skip rest with
    | .word u :: after =>
      match stepOf? (sign * n) u with
      | some s => some (readSteps w s after)
      | none => none
    | _ =>
      if w.time.isSome && count ≤ 4 then do
        let (z, rest) ← readDistance sign (.number n count :: rest)
        return (← w.withZone z, rest)
      else none
  | _ => none

/-- Reads a number without a sign, which may begin a date, a time or steps. -/
def readNumber (w : Wish) (n count : Nat) (rest : List Piece) : Option (Wish × List Piece) :=
  match rest with
  | .mark '-' :: .number m _ :: .mark '-' :: .number d _ :: rest => do
    return (← w.withDate (fullYear n count) m d, rest)
  | .mark '-' :: .word m :: .mark '-' :: .number y yc :: rest => do
    return (← w.withDate (fullYear y yc) (← monthOf? m) n, rest)
  | .mark '/' :: .number a _ :: .mark '/' :: .number b bc :: rest =>
    if 4 ≤ count then do return (← w.withDate n a b, rest)
    else do return (← w.withDate (fullYear b bc) n a, rest)
  | .mark '/' :: .number d _ :: rest => do return (← w.withDate (-1) n d, rest)
  | .mark ':' :: rest => readTime w n rest
  | rest =>
    match skip rest with
    | .word u :: after =>
      match stepOf? n u, monthOf? u, halfOf? u with
      | some s, _, _ => some (readSteps w s after)
      | _, some m, _ =>
        match skip after with
        | .number y yc :: .mark ':' :: more =>
          do return (← w.withDate (-1) m n, .number y yc :: .mark ':' :: more)
        | .number y yc :: more => do return (← w.withDate (fullYear y yc) m n, more)
        | _ => do return (← w.withDate (-1) m n, after)
      | _, _, some later => do return (← w.withTime n 0 0 0 (some later), after)
      | _, _, _ =>
        match weekdayOf? u with
        | some d => some ({ w with weekday := some (n, d) }, after)
        | none => bare
    | _ => bare
where
  /-- The number by itself. -/
  bare : Option (Wish × List Piece) :=
    match w.date.filter (·.1 < 0) with
    | some (_, m, d) =>
      if !w.hasSteps && (w.time.isSome || 2 < count) then
        some ({ w with date := some (fullYear n count, m, d) }, rest)
      else other
    | none => other
  /-- The number as a date or a time of day. -/
  other : Option (Wish × List Piece) :=
    if 4 < count then do
      return (← w.withDate (fullYear (n / 10000) (count - 4)) (n / 100 % 100 : Nat) (n % 100 : Nat),
        rest)
    else do return (← timeOf, rest)
  /-- The number as a time of day. -/
  timeOf : Option Wish :=
    if count ≤ 2 then w.withTime n 0 0 0 none else w.withTime (n / 100) (n % 100) 0 0 none

/-- Reads a word. -/
def readWord (w : Wish) (word : String) (rest : List Piece) : Option (Wish × List Piece) :=
  match word with
  | "t" =>
    match w.date, w.time, rest with
    | some _, none, .number .. :: .mark ':' :: _ => some (w, rest)
    | _, _, _ => do return (← w.withZone (-7 * 3600), rest)
  | "now" | "today" => some (w.withSteps {}, rest)
  | "tomorrow" => some (w.withSteps { days := 1 }, rest)
  | "yesterday" => some (w.withSteps { days := -1 }, rest)
  | "noon" => none
  | "dst" => some (w, rest)
  | word =>
    match monthOf? word, weekdayOf? word, zoneOf? word, ordinalOf? word, stepOf? 1 word with
    | some m, _, _, _, _ =>
      let rest := match skip rest with
        | .mark '-' :: rest => rest
        | rest => rest
      match rest with
      | .number d _ :: more =>
        match skip more with
        | .mark ',' :: more =>
          match skip more with
          | .number y yc :: more => do return (← w.withDate (fullYear y yc) m d, more)
          | _ => none
        | .mark '-' :: .number y yc :: more => do return (← w.withDate (fullYear y yc) m d, more)
        | _ => do return (← w.withDate (-1) m d, more)
      | _ => none
    | _, some d, _, _, _ =>
      let rest := match skip rest with
        | .mark ',' :: rest => rest
        | _ => rest
      if w.weekday.isSome then none else some ({ w with weekday := some (0, d) }, rest)
    | _, _, some z, _, _ => do
      let w ← w.withZone (z * 3600)
      match skip rest with
      | .word "dst" :: rest => some ({ w with zone := some (z * 3600 + 3600) }, rest)
      | _ => some (w, rest)
    | _, _, _, some n, _ =>
      match skip rest with
      | .word u :: rest =>
        match stepOf? n u, weekdayOf? u with
        | some s, _ => some (readSteps w s rest)
        | none, some d => some ({ w with weekday := some (n, d) }, rest)
        | none, none => none
      | _ => none
    | _, _, _, _, some s => some (readSteps w s rest)
    | _, _, _, _, _ => none

/-- Reads all pieces. -/
def readAll : (bound : Nat) → Wish → List Piece → Option Wish
  | 0, _, _ => none
  | _, w, [] => some w
  | bound + 1, w, p :: rest => do
    let (w, rest) ← match p with
      | .blank => some (w, rest)
      | .number n count => readNumber w n count rest
      | .mark '+' => readSigned w 1 rest
      | .mark '-' => readSigned w (-1) rest
      | .mark _ => none
      | .word word => readWord w word rest
    readAll bound w rest

/-- The nanoseconds that a count of seconds with a fraction stands for. -/
def readAbsolute (ps : List Piece) : Option Int :=
  let (sign, ps) : Int × List Piece := match ps with
    | .mark '-' :: ps => (-1, ps)
    | .mark '+' :: ps => (1, ps)
    | ps => (1, ps)
  match ps with
  | [.number n _] => some (sign * n * 1000000000)
  | [.number n _, .mark '.', .number f count] | [.number n _, .mark ',', .number f count] =>
    some (sign * (n * 1000000000 + nanosOf f count : Nat))
  | _ => none

/-- The nanoseconds since the beginning of 1970 that a wish made at some moment is about; none if
there is no such date. -/
def Wish.resolve (w : Wish) (now : Int) : Option Int := do
  if let some n := w.absolute then return n
  let today := Calendar.Moment.ofNanos now
  let (year, month, day) := match w.date with
    | some (y, m, d) => (if y < 0 then today.year else y, m, d)
    | none => (today.year, (today.month : Int), (today.day : Int))
  let number := Calendar.dayNumber year month day
  if Calendar.dateOf number != (year, month, day) then none
  let fresh := w.date.isSome || (w.weekday.isSome && !w.hasSteps) || w.zone.isSome
  let (seconds, nanos) := match w.time with
    | some t => t
    | none =>
      if fresh || !w.hasSteps then (0, 0)
      else (today.hour * 3600 + today.minute * 60 + today.second, today.nanos)
  let number := match w.weekday, w.date with
    | some (n, d), none =>
      let ahead := ((d : Int) - Calendar.weekdayOf number).fmod 7
      let isToday := ahead == 0
      number + ahead + 7 * (if 0 < n && !isToday then n - 1 else n)
    | _, _ => number
  let (year, month, day) := Calendar.dateOf number
  let number := Calendar.dayNumber (year + w.steps.years) (month + w.steps.months)
    (day + w.steps.days)
  let total := number * 86400 + seconds - w.zone.getD 0 + w.steps.seconds
  return total * 1000000000 + nanos + w.steps.nanos

/-- The nanoseconds since the beginning of 1970 that a text stands for when it is said at some
moment. -/
def resolve? (now : Int) (text : Bytes) : Option Int := do
  let all := pieces (text.length + 1) text.toList
  let all := all.dropWhile (· == .blank)
  let all := (all.reverse.dropWhile (· == .blank)).reverse
  match all with
  | .mark '@' :: rest => readAbsolute (skip rest)
  | all => (← readAll (2 * all.length + 1) {} all).resolve now

end Tilde.Utility.DateText
