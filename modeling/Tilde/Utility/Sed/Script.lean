import Tilde.Regex.Search
import Tilde.Text.Utf8

/-!
# Editing scripts

The commands of the stream editor: which lines each of them is for, and what it does to them.
-/

namespace Tilde.Utility.Sed

open Unix (Bytes)

/-- A pattern; none for the one that was used last. -/
abbrev Pattern := Option Regex.Searcher

/-- A line, or lines, that a command is for. -/
inductive Address where
  | line (n : Nat)
  /-- Each so many lines from one on. -/
  | every (first step : Nat)
  | last
  | matching (p : Pattern)
  /-- So many lines after the first address. -/
  | after (n : Nat)
  /-- Up to a line whose number is a multiple. -/
  | multiple (n : Nat)

/-- How letters are changed in a replacement. -/
inductive CaseChange where
  | upper
  | lower
  | upperNext
  | lowerNext
  | stop
  deriving DecidableEq

/-- A part of a replacement. -/
inductive Piece where
  | text (s : Bytes)
  /-- What a group has matched; group zero is the whole match. -/
  | group (n : Nat)
  | case_ (c : CaseChange)

/-- A substitution. -/
structure Substitution where
  pattern : Pattern
  pieces : List Piece
  all : Bool := false
  /-- Which match is replaced first. -/
  which : Nat := 1
  prints : Bool := false
  file : Option Bytes := none

/-- What a command does. -/
inductive Action where
  /-- Goes on behind the matching end if the command is not for the line. -/
  | block (stop : Nat)
  | nothing
  | append (text : Bytes)
  | insert (text : Bytes)
  | change (text : Bytes)
  /-- Goes to a command; to the end of the script if there is no label. -/
  | jump (label : Option Bytes)
  | jumpIfChanged (label : Option Bytes)
  | jumpIfUnchanged (label : Option Bytes)
  | label (name : Bytes)
  | delete
  | deleteLine
  | fileName
  | getHold
  | appendHold
  | hold
  | holdMore
  | list (width : Option Nat)
  | next
  | appendNext
  | print
  | printLine
  | quit (status : Nat)
  | quitQuietly (status : Nat)
  | readFile (path : Bytes)
  | readLine (path : Bytes)
  | substitute (s : Substitution)
  | write (path : Bytes)
  | writeLine (path : Bytes)
  | exchange
  | translate (pairs : List (Char × Char))
  | zap
  | number

/-- A command. -/
structure Command where
  first : Option Address := none
  second : Option Address := none
  negated : Bool := false
  action : Action

/-- How a script is written. -/
structure Dialect where
  extended : Bool := false
  /-- The script begins with a request not to show lines. -/
  quiet : Bool := false

/-- Where the reading of a script has come to. -/
structure Cursor where
  rest : List Char
  used : Nat := 0
  commands : Array Command := #[]
  /-- The blocks that have been opened and not closed. -/
  open_ : List Nat := []
  quiet : Bool := false

/-- Acts of reading a script, which may fail with a message. -/
abbrev Read := ExceptT Bytes (StateM Cursor)

namespace Read

/-- The next character; none at the end. -/
def next : Read (Option Char) := do
  let s ← get
  match s.rest with
  | [] => return none
  | c :: cs =>
    set { s with rest := cs, used := s.used + 1 }
    return some c

/-- Puts a character back. -/
def back (c : Option Char) : Read Unit := do
  match c with
  | none => return
  | some c => modify fun s => { s with rest := c :: s.rest, used := s.used - 1 }

/-- The characters at the front of which a predicate holds. -/
def takeWhile (p : Char → Bool) : Read (List Char) := do
  let s ← get
  let front := s.rest.takeWhile p
  set { s with rest := s.rest.drop front.length, used := s.used + front.length }
  return front

/-- Whether a character is a blank. -/
def isBlank (c : Char) : Bool := c == ' ' || c == '\t'

/-- The next character that is no blank. -/
def nonBlank : Read (Option Char) := do
  let _ ← takeWhile isBlank
  next

/-- The number that begins with a digit. -/
def number (first : Char) : Read Nat := do
  let more ← takeWhile Char.isDigit
  return (first :: more).foldl (fun n c => 10 * n + (c.toNat - 48)) 0

/-- Checks that a command has come to its end. -/
def endOfCommand : Read Unit := do
  match ← nonBlank with
  | none | some '\n' | some ';' => return
  | some '\r' => return
  | some c =>
    if c == '\x7d' || c == '#' then back (some c)
    else throw "extra characters after command"

/-! ### Texts -/

/-- Reads up to a delimiter. A line feed behind a backslash belongs to the text, and the delimiter
behind one stands for itself. -/
def delimited (mark : Char) (isRegex : Bool) : (bound : Nat) → List Char → Read (Option (List Char))
  | 0, _ => return none
  | bound + 1, done => do
    match ← next with
    | none => return none
    | some '\n' =>
      if mark == '\n' then return some done.reverse
      back (some '\n')
      return none
    | some '\\' =>
      match ← next with
      | none => return none
      | some c =>
        if c == mark then
          delimited mark isRegex bound
            (if !isRegex && c == '&' then '&' :: '\\' :: done else c :: done)
        else if c == 'n' && isRegex then delimited mark isRegex bound ('\n' :: done)
        else if c == '\n' && isRegex then delimited mark isRegex bound ('\n' :: done)
        else delimited mark isRegex bound (c :: '\\' :: done)
    | some c =>
      if c == mark then return some done.reverse
      delimited mark isRegex bound (c :: done)

/-- The value of a digit. -/
def digit? (base : Nat) (c : Char) : Option Nat :=
  let n := if c.isDigit then c.toNat - 48
    else if 'a' ≤ c && c ≤ 'f' then c.toNat - 87
    else if 'A' ≤ c && c ≤ 'F' then c.toNat - 55 else 99
  if n < base then some n else none

/-- The byte of a number of digits, and the text behind them. -/
def byteOf (base count : Nat) (cs : List Char) : Option (Char × List Char) :=
  let digits := (cs.take count).takeWhile fun c => (digit? base c).isSome
  if digits.isEmpty then none
  else
    let n := digits.foldl (fun n c => base * n + (digit? base c).getD 0) 0
    some (Char.ofNat (n % 256), cs.drop digits.length)

/-- The character that an escape stands for, and the text behind it. -/
def escape? : List Char → Option (Char × List Char)
  | 'a' :: cs => some ('\x07', cs)
  | 'f' :: cs => some ('\x0C', cs)
  | 'v' :: cs => some ('\x0B', cs)
  | 't' :: cs => some ('\t', cs)
  | 'r' :: cs => some ('\r', cs)
  | 'd' :: cs => byteOf 10 3 cs
  | 'o' :: cs => byteOf 8 3 cs
  | 'x' :: cs => byteOf 16 2 cs
  | 'c' :: c :: cs => some (Char.ofNat (c.toUpper.toNat ^^^ 64), cs)
  | _ => none

/-- The text with what its escapes stand for. A character that would have a meaning of its own keeps
a backslash. -/
def withEscapes (isRegex : Bool) : (bound : Nat) → List Char → List Char
  | 0, cs => cs
  | _, [] => []
  | bound + 1, '\\' :: cs =>
    match escape? cs with
    | some (c, rest) =>
      let isNumber := ['d', 'o', 'x'].contains (cs.headD ' ')
      let special := if isRegex then "*.[]^$\\/+?(){}|" else "&\\"
      if isNumber && special.toList.contains c then '\\' :: c :: withEscapes isRegex bound rest
      else c :: withEscapes isRegex bound rest
    | none =>
      match cs with
      | c :: rest => '\\' :: c :: withEscapes isRegex bound rest
      | [] => ['\\']
  | bound + 1, c :: cs => c :: withEscapes isRegex bound cs

/-- A pattern of a text. -/
def pattern (d : Dialect) (cs : List Char) (ignoresCase manyLines : Bool) :
    Read (Pattern × Nat) := do
  if cs.isEmpty then
    if ignoresCase || manyLines then throw "cannot specify modifiers on empty regexp"
    return (none, 9)
  let text := String.ofList (withEscapes true (cs.length + 1) cs)
  match Regex.parse { extended := d.extended, ignoresCase } text with
  | .ok p => return (some (p.searcher manyLines), p.groups)
  | .error e => throw e.message

/-- The pieces of a replacement. -/
def pieces : (bound : Nat) → (done : List Char) → List Char → List Piece
  | 0, done, _ | _, done, [] => flushed done []
  | bound + 1, done, '\\' :: c :: cs =>
    let put (p : Piece) : List Piece := flushed done (p :: pieces bound [] cs)
    if c.isDigit then put (.group (c.toNat - 48))
    else match c with
      | 'U' => put (.case_ .upper)
      | 'L' => put (.case_ .lower)
      | 'u' => put (.case_ .upperNext)
      | 'l' => put (.case_ .lowerNext)
      | 'E' => put (.case_ .stop)
      | 'n' => pieces bound ('\n' :: done) cs
      | c => pieces bound (c :: done) cs
  | bound + 1, done, '&' :: cs => flushed done (.group 0 :: pieces bound [] cs)
  | bound + 1, done, c :: cs => pieces bound (c :: done) cs
where
  flushed (done : List Char) (rest : List Piece) : List Piece :=
    if done.isEmpty then rest else .text (String.ofList done.reverse) :: rest

/-- The name of a file: the rest of the line. -/
def filePath : Read Bytes := do
  let _ ← takeWhile isBlank
  let name ← takeWhile (· != '\n')
  let _ ← next
  if name.isEmpty then throw "missing filename in r/R/w/W commands"
  return String.ofList name

/-- The name of a label. -/
def labelName : Read Bytes := do
  let _ ← takeWhile isBlank
  let name ← takeWhile fun c => !(isBlank c || c == '\n' || c == ';' || c == '\x7d')
  return String.ofList name

/-! ### Commands -/

/-- Reads the letters behind a pattern of an address. -/
def addressFlags : (bound : Nat) → (ignoresCase manyLines : Bool) → Read (Bool × Bool)
  | 0, i, m => return (i, m)
  | bound + 1, i, m => do
    match ← nonBlank with
    | some 'I' => addressFlags bound true m
    | some 'M' => addressFlags bound i true
    | c =>
      back c
      return (i, m)

/-- Reads an address that begins with a character; none if none does. -/
def address (d : Dialect) (c : Option Char) : Read (Option Address) := do
  let bound := (← get).rest.length + 1
  let regex (mark : Option Char) : Read (Option Address) := do
    match mark with
    | none => throw "unterminated address regex"
    | some mark =>
      match ← delimited mark true bound [] with
      | none => throw "unterminated address regex"
      | some cs =>
        let (i, m) ← addressFlags bound false false
        return some (.matching (← pattern d cs i m).1)
  let count : Read Nat := do
    match ← nonBlank with
    | some c =>
      if c.isDigit then number c
      else
        back (some c)
        return 0
    | none => return 0
  match c with
  | some '/' => regex (some '/')
  | some '\\' => regex (← next)
  | some '$' => return some .last
  | some '+' => return some (.after (← count))
  | some '~' => return some (.multiple (← count))
  | some c =>
    if !c.isDigit then return none
    let n ← number c
    match ← nonBlank with
    | some '~' =>
      let step ← count
      return some (if step == 0 then .line n else .every n step)
    | c =>
      back c
      return some (.line n)
  | none => return none

/-- Reads the text of a command that adds lines. -/
def addedText : Read Bytes := do
  let first ← nonBlank
  match first with
  | none => throw "expected \\ after \x60a', \x60c' or \x60i'"
  | some '\\' =>
    let blanks ← takeWhile isBlank
    match ← next with
    | some '\n' => pure ()
    | c =>
      back c
      blanks.reverse.forM fun b => back (some b)
  | c => back c
  let s ← get
  let (text, rest) := body (s.rest.length + 1) s.rest
  let used := s.rest.length - rest.length
  set { s with rest, used := s.used + used }
  return String.ofList text ++ "\n"
where
  body : Nat → List Char → List Char × List Char
    | 0, cs => ([], cs)
    | _, [] => ([], [])
    | _, '\n' :: cs => ([], cs)
    | bound + 1, '\\' :: cs =>
      match escape? cs, cs with
      | some (c, rest), _ => add c (body bound rest)
      | none, 'n' :: rest => add '\n' (body bound rest)
      | none, c :: rest => add c (body bound rest)
      | none, [] => ([], [])
    | bound + 1, c :: cs => add c (body bound cs)
  add (c : Char) : List Char × List Char → List Char × List Char
    | (text, rest) => (c :: text, rest)

/-- What stands behind a substitution. -/
structure Flags where
  all : Bool := false
  which : Option Nat := none
  prints : Bool := false
  ignoresCase : Bool := false
  manyLines : Bool := false
  file : Option Bytes := none

/-- Reads what stands behind a substitution. -/
def flags : (bound : Nat) → Flags → Read Flags
  | 0, f => return f
  | bound + 1, f => do
    match ← next with
    | none | some '\n' | some ';' | some '\r' => return f
    | some c =>
      if isBlank c then flags bound f
      else if c == '\x7d' || c == '#' then
        back (some c)
        return f
      else if c.isDigit then
        if f.which.isSome then throw "multiple number options to \x60s' command"
        let n ← number c
        if n == 0 then throw "number option to \x60s' command may not be zero"
        flags bound { f with which := some n }
      else match c with
        | 'g' =>
          if f.all then throw "multiple \x60g' options to \x60s' command"
          flags bound { f with all := true }
        | 'p' =>
          if f.prints then throw "multiple \x60p' options to \x60s' command"
          flags bound { f with prints := true }
        | 'i' | 'I' => flags bound { f with ignoresCase := true }
        | 'm' | 'M' => flags bound { f with manyLines := true }
        | 'e' => flags bound f
        | 'w' => return { f with file := some (← filePath) }
        | _ => throw "unknown option to \x60s'"

/-- Reads a substitution. -/
def substitution (d : Dialect) : Read Action := do
  let wrong : Bytes := "unterminated \x60s' command"
  let bound := (← get).rest.length + 1
  match ← next with
  | none => throw wrong
  | some mark =>
    match ← delimited mark true bound [] with
    | none => throw wrong
    | some regex =>
      match ← delimited mark false bound [] with
      | none => throw wrong
      | some text =>
        let f ← flags bound {}
        let (p, groups) ← pattern d regex f.ignoresCase f.manyLines
        let text := withEscapes false (text.length + 1) text
        let parts := pieces (text.length + 1) [] text
        let used := parts.foldl (fun n p => match p with
          | .group k => max n k
          | _ => n) 0
        if groups < used then
          throw ("invalid reference \\" ++ toString used ++ " on \x60s' command's RHS")
        return .substitute
          { pattern := p, pieces := parts, all := f.all, which := f.which.getD 1
            prints := f.prints, file := f.file }

/-- The characters of a translation, without the backslashes that protect them. -/
def translated : List Char → List Char
  | '\\' :: '\\' :: cs => '\\' :: translated cs
  | '\\' :: 'n' :: cs => '\n' :: translated cs
  | '\\' :: '\n' :: cs => '\n' :: translated cs
  | c :: cs => c :: translated cs
  | [] => []

/-- Reads a translation of characters. -/
def translation : Read Action := do
  let wrong : Bytes := "unterminated \x60y' command"
  let bound := (← get).rest.length + 1
  match ← next with
  | none => throw wrong
  | some mark =>
    match ← delimited mark false bound [] with
    | none => throw wrong
    | some from_ =>
      match ← delimited mark false bound [] with
      | none => throw wrong
      | some into =>
        let clean (cs : List Char) : List Char :=
          translated (withEscapes false (cs.length + 1) cs)
        let a := clean from_
        let b := clean into
        if a.length != b.length then
          throw "strings for \x60y' command are different lengths"
        endOfCommand
        return .translate (a.zip b)

/-- A number that may stand behind a command. -/
def argument : Read (Option Nat) := do
  match ← nonBlank with
  | some c =>
    if c.isDigit then
      let n ← number c
      endOfCommand
      return some n
    else
      back (some c)
      endOfCommand
      return none
  | none => return none

/-- Adds a command. -/
def push (c : Command) : Read Unit :=
  modify fun s => { s with commands := s.commands.push c }

/-- The action without arguments that a letter stands for. -/
def plainAction? : Char → Option Action
  | '=' => some .number
  | 'd' => some .delete
  | 'D' => some .deleteLine
  | 'F' => some .fileName
  | 'g' => some .getHold
  | 'G' => some .appendHold
  | 'h' => some .hold
  | 'H' => some .holdMore
  | 'n' => some .next
  | 'N' => some .appendNext
  | 'p' => some .print
  | 'P' => some .printLine
  | 'x' => some .exchange
  | 'z' => some .zap
  | _ => none

/-- The label of a jump. -/
def jumpLabel : Read (Option Bytes) := do
  let name ← labelName
  endOfCommand
  return if name.isEmpty then none else some name

/-- Reads the action of a letter. -/
def action (d : Dialect) (c : Command) (letter : Char) : Read Unit := do
  let add (a : Action) : Read Unit := push { c with action := a }
  match letter with
  | 'a' => add (.append (← addedText))
  | 'i' => add (.insert (← addedText))
  | 'c' => add (.change (← addedText))
  | ':' =>
    if c.first.isSome then throw ": doesn't want any addresses"
    let name ← labelName
    if name.isEmpty then throw "\":\" lacks a label"
    add (.label name)
  | 'b' => add (.jump (← jumpLabel))
  | 't' => add (.jumpIfChanged (← jumpLabel))
  | 'T' => add (.jumpIfUnchanged (← jumpLabel))
  | 'q' | 'Q' =>
    if c.second.isSome then throw "command only uses one address"
    let n := (← argument).getD 0
    add (if letter == 'q' then .quit n else .quitQuietly n)
  | 'l' | 'L' => add (.list (← argument))
  | 'r' => add (.readFile (← filePath))
  | 'R' => add (.readLine (← filePath))
  | 'w' => add (.write (← filePath))
  | 'W' => add (.writeLine (← filePath))
  | 's' => add (← substitution d)
  | 'y' => add (← translation)
  | 'v' =>
    let version ← labelName
    if "4.9" < version then throw "expected newer version of sed"
    add .nothing
  | letter =>
    if letter == '\x7b' then
      modify fun s => { s with open_ := s.commands.size :: s.open_ }
      add (.block 0)
    else if letter == '\x7d' then
      match (← get).open_ with
      | [] => throw "unexpected \x60\x7d'"
      | start :: outer =>
        if c.first.isSome then throw "\x7d doesn't want any addresses"
        endOfCommand
        modify fun s => { s with
          open_ := outer
          commands := s.commands.modify start fun b =>
            { b with action := .block s.commands.size } }
        add .nothing
    else match plainAction? letter with
      | some a =>
        endOfCommand
        add a
      | none =>
        throw ("unknown command: \x60" ++ String.singleton letter ++ "'")

/-- Reads a command that begins with a character. -/
def command (d : Dialect) (c : Char) : Read Unit := do
  let first ← address d (some c)
  let after ← if first.isSome then nonBlank else pure (some c)
  match first with
  | some (.after _) | some (.multiple _) =>
    back after
    throw "invalid usage of +N or ~N as first address"
  | _ => pure ()
  let (second, after) ← match first, after with
    | some _, some ',' =>
      match ← address d (← nonBlank) with
      | none => throw "unexpected \x60,'"
      | some a => pure (some a, ← nonBlank)
    | _, after => pure (none, after)
  match first, second with
  | some (.line 0), some (.matching _) => pure ()
  | some (.line 0), _ => throw "invalid usage of line address 0"
  | _, _ => pure ()
  let (negated, after) ← match after with
    | some '!' =>
      let after ← nonBlank
      if after == some '!' then throw "multiple \x60!'s"
      pure (true, after)
    | after => pure (false, after)
  match after with
  | none => throw "missing command"
  | some '#' =>
    if first.isSome then throw "comments don't accept any addresses"
    let text ← takeWhile (· != '\n')
    let s ← get
    if s.used == 2 && text == ['n'] then set { s with quiet := true }
  | some letter => action d { first, second, negated, action := .nothing } letter

/-- Reads all commands. -/
def commands (d : Dialect) : (bound : Nat) → Read Unit
  | 0 => return
  | bound + 1 => do
    let _ ← takeWhile fun c => c == ';' || Regex.isSpaceByte c
    match ← next with
    | none => return
    | some c =>
      command d c
      commands d bound

end Read

end Tilde.Utility.Sed
