import Tilde.Regex.Basic

/-!
# Reading regular expressions

The two ways to write regular expressions: the basic one, in which most operators need a backslash,
and the extended one, in which they lose their meaning by it. Where an operator has nothing to work
on it is an error, an ordinary character or without effect, as the dialect says.
-/

namespace Tilde.Regex

/-- Why a text is no regular expression. -/
inductive Error where
  | unmatchedBracket
  | unmatchedOpen
  | unmatchedClose
  | unmatchedBrace
  | badInterval
  | badPreceding
  | trailingBackslash
  | badReference
  | badRange
  | badClass
  | badCollation
  | classOutside
  | tooBig
  deriving DecidableEq, Repr

/-- The text of an error. -/
def Error.message : Error → String
  | unmatchedBracket => "Unmatched [, [^, [:, [., or [="
  | unmatchedOpen => "Unmatched ( or \\("
  | unmatchedClose => "Unmatched ) or \\)"
  | unmatchedBrace => "Unmatched \\\x7b"
  | badInterval => "Invalid content of \\\x7b\\\x7d"
  | badPreceding => "Invalid preceding regular expression"
  | trailingBackslash => "Trailing backslash"
  | badReference => "Invalid back reference"
  | badRange => "Invalid range end"
  | badClass => "Invalid character class name"
  | badCollation => "Invalid collation character"
  | classOutside => "character class syntax is [[:space:]], not [:space:]"
  | tooBig => "Regular expression too big"

/-- How regular expressions are written. -/
structure Dialect where
  extended : Bool := false
  ignoresCase : Bool := false
  /-- An operator with nothing before it has no effect, and braces that hold no interval are
  ordinary characters. -/
  lenient : Bool := false
  /-- A backslash counts within brackets. -/
  escapesInBrackets : Bool := false
  /-- Backslashes stand before letters of words, places and groups. -/
  letters : Bool := true

/-- The parts that a text is made of. -/
inductive Part where
  | set (s : ByteSet)
  | place (p : Place)
  | again (n : Nat)
  | repeats (least : Nat) (most : Option Nat) (sign : String)
  | opening
  | closing
  | bar

/-! ### Brackets -/

/-- An element of a set in brackets. -/
inductive Element where
  | one (c : Char)
  | several (p : Char → Bool)

/-- Reads up to a mark and a closing bracket. -/
def upToMark (mark : Char) : List Char → Option (List Char × List Char)
  | [] => none
  | c :: cs =>
    if c == mark && cs.head? == some ']' then some ([], cs.tail)
    else (upToMark mark cs).map fun (name, rest) => (c :: name, rest)

/-- The letter after a backslash that stands for a control character. -/
def controlOf? : Char → Option Char
  | 'n' => some '\n'
  | 't' => some '\t'
  | 'r' => some '\r'
  | 'f' => some '\x0C'
  | 'v' => some '\x0B'
  | 'a' => some '\x07'
  | 'b' => some '\x08'
  | _ => none

/-- Reads an element of a set in brackets. -/
def element (d : Dialect) : List Char → Except Error (Element × List Char)
  | [] => .error .unmatchedBracket
  | '[' :: ':' :: cs =>
    match upToMark ':' cs with
    | none => .error .unmatchedBracket
    | some (name, rest) =>
      let name := String.ofList name
      let name := if d.ignoresCase && (name == "upper" || name == "lower") then "alpha" else name
      match classOf? name with
      | some p => .ok (.several p, rest)
      | none => .error .badClass
  | '[' :: '=' :: cs => single '=' cs
  | '[' :: '.' :: cs => single '.' cs
  | '\\' :: c :: cs =>
    if d.escapesInBrackets then .ok (.one ((controlOf? c).getD c), cs)
    else .ok (.one '\\', c :: cs)
  | c :: cs => .ok (.one c, cs)
where
  single (mark : Char) (cs : List Char) : Except Error (Element × List Char) :=
    match upToMark mark cs with
    | none => .error .unmatchedBracket
    | some ([c], rest) => .ok (.one c, rest)
    | some _ => .error .badCollation

/-- Reads the elements of a set in brackets up to the closing one. -/
def elements (d : Dialect) : (bound : Nat) → (p : Char → Bool) → List Char →
    Except Error ((Char → Bool) × List Char)
  | 0, _, _ => .error .unmatchedBracket
  | _ + 1, p, ']' :: rest => .ok (p, rest)
  | bound + 1, p, cs => do
    match ← element d cs with
    | (.several q, rest) => elements d bound (fun c => p c || q c) rest
    | (.one a, '-' :: rest) =>
      if rest.head? == some ']' then
        elements d bound (fun c => p c || c == a) ('-' :: rest)
      else match ← element d rest with
        | (.one b, rest) =>
          if b < a then throw .badRange
          elements d bound (fun c => p c || (a ≤ c && c ≤ b)) rest
        | (.several _, _) => throw .badRange
    | (.one a, rest) => elements d bound (fun c => p c || c == a) rest

/-- A set with the cases that the dialect tells apart. -/
def Dialect.cased (d : Dialect) (s : ByteSet) : ByteSet :=
  if d.ignoresCase then s.ignoringCase else s

/-- Reads a set in brackets, of which the opening one has been read. -/
def brackets (d : Dialect) (cs : List Char) : Except Error (Part × List Char) := do
  let (negated, inner) := match cs with
    | '^' :: inner => (true, inner)
    | inner => (false, inner)
  let bound := cs.length + 1
  let (p, rest) ← match inner with
    | ']' :: '-' :: more =>
      if more.head? == some ']' then elements d bound (fun c => c == ']') ('-' :: more)
      else match ← element d more with
        | (.one b, more) =>
          if b < ']' then throw .badRange
          elements d bound (fun c => ']' ≤ c && c ≤ b) more
        | (.several _, _) => throw .badRange
    | ']' :: more => elements d bound (fun c => c == ']') more
    | inner => elements d bound (fun _ => false) inner
  let text := cs.take (cs.length - rest.length - 1)
  if 1 < text.length && text.head? == some ':' && text.getLast? == some ':' then
    throw .classOutside
  let set := d.cased (.ofPredicate p)
  return (.set (if negated then set.complement else set), rest)

/-! ### Intervals -/

/-- A number in an interval. -/
inductive Bound where
  | missing
  | number (n : Nat)
  | wrong
  deriving DecidableEq

/-- Reads a number of an interval, up to a comma or the closing brace. -/
def numberIn (d : Dialect) (b : Bound) : List Char → Option (Bound × Bool × List Char)
  | [] => none
  | '\x7d' :: cs =>
    if d.extended then some (b, true, cs) else numberIn d .wrong cs
  | '\\' :: '\x7d' :: cs => if d.extended then numberIn d .wrong cs else some (b, true, cs)
  | ',' :: cs => some (b, false, cs)
  | c :: cs =>
    let next : Bound :=
      if !c.isDigit then .wrong
      else match b with
        | .missing => .number (c.toNat - 48)
        | .number n => .number (min 32768 (10 * n + (c.toNat - 48)))
        | .wrong => .wrong
    numberIn d next cs

/-- What stands in braces. -/
inductive Interval where
  | ok (least : Nat) (most : Option Nat) (rest : List Char)
  /-- No interval; it may be ordinary text. The flag says that the text has come to its end. -/
  | none (atEnd : Bool)
  | wrong (e : Error)

/-- Reads an interval, of which the opening brace has been read. -/
def interval (d : Dialect) (cs : List Char) : Interval :=
  let checked (least : Nat) (most : Option Nat) (rest : List Char) : Interval :=
    if most.any (· < least) then .wrong .badInterval
    else if 32767 < least || most.any (32767 < ·) then .wrong .tooBig
    else .ok least most rest
  match numberIn d .missing cs with
  | none => .none true
  | some (.wrong, _, _) => .none false
  | some (.missing, true, _) => .wrong .badInterval
  | some (.number n, true, rest) => checked n (some n) rest
  | some (first, false, rest) =>
    let least := match first with
      | .number n => n
      | _ => 0
    match numberIn d .missing rest with
    | none => .none true
    | some (.wrong, _, _) => .none false
    | some (_, false, _) => .wrong .badInterval
    | some (.missing, true, rest) => checked least none rest
    | some (.number m, true, rest) => checked least (some m) rest

/-! ### Parts -/

/-- What stands before a part in its branch. -/
structure Before where
  /-- Nothing, or only the start of the line. -/
  nothing : Bool
  /-- Nothing at all. -/
  start : Bool

/-- An ordinary character. -/
def Dialect.ordinary (d : Dialect) (c : Char) : Part := .set (d.cased (.one c))

/-- The part that an opening brace begins. -/
def brace (d : Dialect) (before : Before) (cs : List Char) : Except Error (Part × List Char) :=
  match interval d cs with
  | .ok least most rest => .ok (.repeats least most "\x7b...\x7d", rest)
  | .wrong e => if before.nothing && !d.lenient then .error .badPreceding else .error e
  | .none atEnd =>
    if d.extended && d.lenient then .ok (d.ordinary '\x7b', cs)
    else if before.nothing then .error .badPreceding
    else .error (if atEnd then .unmatchedBrace else .badInterval)

/-- The part that a character after a backslash makes. -/
def escaped (d : Dialect) (before : Before) (c : Char) (cs : List Char) :
    Except Error (Part × List Char) :=
  let place (p : Place) : Except Error (Part × List Char) := .ok (.place p, cs)
  let set (p : Char → Bool) : Except Error (Part × List Char) := .ok (.set (.ofPredicate p), cs)
  if !d.extended && c == '(' then .ok (.opening, cs)
  else if !d.extended && c == ')' then .ok (.closing, cs)
  else if !d.extended && c == '|' then .ok (.bar, cs)
  else if !d.extended && c == '\x7b' then brace d before cs
  else if !d.extended && (c == '+' || c == '?') then
    if before.nothing then .ok (d.ordinary c, cs)
    else if c == '+' then .ok (.repeats 1 none "+", cs)
    else .ok (.repeats 0 (some 1) "?", cs)
  else if !d.letters then .ok (d.ordinary ((controlOf? c).getD c), cs)
  else match c with
    | 'w' => set isWordByte
    | 'W' => set (!isWordByte ·)
    | 's' => set isSpaceByte
    | 'S' => set (!isSpaceByte ·)
    | 'b' => place .wordEdge
    | 'B' => place .noWordEdge
    | '<' => place .wordStart
    | '>' => place .wordEnd
    | '\x60' => place .textStart
    | '\'' => place .textEnd
    | c =>
      if '1' ≤ c && c ≤ '9' then .ok (.again (c.toNat - 48), cs)
      else .ok (d.ordinary c, cs)

/-- Reads a part. -/
def part (d : Dialect) (before : Before) : Char → List Char → Except Error (Part × List Char)
  | '[', cs => brackets d cs
  | '.', cs => .ok (.set .all, cs)
  | '\\', [] => .error .trailingBackslash
  | '\\', c :: cs => escaped d before c cs
  | '*', cs =>
    if !d.extended && before.nothing then .ok (d.ordinary '*', cs)
    else .ok (.repeats 0 none "*", cs)
  | '^', cs =>
    if d.extended || before.start then .ok (.place .lineStart, cs)
    else .ok (d.ordinary '^', cs)
  | '$', cs =>
    let isEnd := match cs with
      | [] => true
      | '\\' :: c :: _ => c == ')' || c == '|'
      | _ => false
    if d.extended || isEnd then .ok (.place .lineEnd, cs) else .ok (d.ordinary '$', cs)
  | c, cs =>
    if !d.extended then .ok (d.ordinary c, cs)
    else match c with
      | '(' => .ok (.opening, cs)
      | ')' => .ok (.closing, cs)
      | '|' => .ok (.bar, cs)
      | '+' => .ok (.repeats 1 none "+", cs)
      | '?' => .ok (.repeats 0 (some 1) "?", cs)
      | '\x7b' => brace d before cs
      | c => .ok (d.ordinary c, cs)

/-! ### Expressions -/

/-- A group that is being read: its number, the branches before the running one, and the running
one, the last parts first. -/
structure Frame where
  number : Nat
  branches : List Regex := []
  branch : List Regex := []

/-- The expression of a group. -/
def Frame.regex (f : Frame) : Regex :=
  let last := ofList f.branch.reverse
  match f.branches with
  | [] => last
  | b :: bs => .choice (bs.foldl (fun r b => .choice b r) b) last

/-- What has been read of a text. -/
structure Reading where
  inner : Frame := ⟨0, [], []⟩
  outer : List Frame := []
  groups : Nat := 0
  /-- The groups that have been closed. -/
  closed : List Nat := []
  /-- The operators that have no effect. -/
  idle : List String := []

/-- Whether an expression is the start of a line. -/
def isLineStart : Regex → Bool
  | .place .lineStart => true
  | _ => false

/-- Whether an expression is a repetition. -/
def isTimes : Regex → Bool
  | .times .. => true
  | _ => false

/-- What stands before the next part. -/
def Reading.before (r : Reading) : Before where
  nothing := r.inner.branch.all isLineStart
  start := r.inner.branch.isEmpty

/-- Adds an expression. -/
def Reading.add (r : Reading) (e : Regex) : Reading :=
  { r with inner := { r.inner with branch := e :: r.inner.branch } }

/-- Adds a part. -/
def Reading.addPart (d : Dialect) (r : Reading) : Part → Except Error Reading
  | .set s => .ok (r.add (.byte s))
  | .place p => .ok (r.add (.place p))
  | .again n => if r.closed.contains n then .ok (r.add (.again n)) else .error .badReference
  | .bar =>
    .ok { r with inner :=
      { r.inner with branches := ofList r.inner.branch.reverse :: r.inner.branches, branch := [] } }
  | .opening =>
    .ok { r with
      inner := { number := r.groups + 1 }, outer := r.inner :: r.outer, groups := r.groups + 1 }
  | .closing =>
    match r.outer with
    | [] => .error .unmatchedClose
    | f :: outer =>
      let group := Regex.group r.inner.number r.inner.regex
      .ok { r with
        inner := { f with branch := group :: f.branch }, outer
        closed := r.inner.number :: r.closed }
  | .repeats least most sign =>
    if r.before.nothing then
      if d.lenient && d.extended then .ok { r with idle := r.idle ++ [sign] }
      else .error .badPreceding
    else match r.inner.branch with
      | [] => .error .badPreceding
      | e :: es =>
        if !d.extended && !d.lenient && isTimes e then .error .badPreceding
        else .ok { r with inner := { r.inner with branch := .times e least most :: es } }

/-- A text read as a regular expression. -/
structure Parsed where
  regex : Regex
  groups : Nat
  /-- The operators that have no effect. -/
  idle : List String

/-- Reads the parts of a text. -/
def readParts (d : Dialect) : (bound : Nat) → Reading → List Char → Except Error Parsed
  | 0, _, _ => .error .tooBig
  | _ + 1, r, [] =>
    if r.outer.isEmpty then .ok ⟨r.inner.regex, r.groups, r.idle⟩ else .error .unmatchedOpen
  | bound + 1, r, c :: cs => do
    let (p, rest) ← part d r.before c cs
    readParts d bound (← r.addPart d p) rest

/-- Reads a text as a regular expression. -/
def parse (d : Dialect) (text : String) : Except Error Parsed :=
  let cs := text.toList
  readParts d (cs.length + 1) {} cs

end Tilde.Regex
