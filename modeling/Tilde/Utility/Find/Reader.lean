import Tilde.Utility.DateText
import Tilde.Utility.Facts
import Tilde.Utility.Find.Expression
import Tilde.Utility.Input

/-!
# How a search is written

The arguments of a search name the places it begins at, and then an expression: tests and actions by
their names, each with its own arguments, and operators between them. An operator that is left out
stands for `and`. An expression without an action shows the files that it holds of.
-/

namespace Tilde.Utility.Find

open Unix (Bytes Conversion Errno FileInfo)

/-- Which links are followed. -/
inductive Following where
  | never
  /-- Those among the places the search begins at. -/
  | atStart
  | always
  deriving DecidableEq, Repr

/-- What holds for the whole search. -/
structure Settings where
  following : Following := .never
  /-- Directories come after what is in them. -/
  insideFirst : Bool := false
  /-- That was asked for, and does not only follow from something else. -/
  saidSo : Bool := false
  least : Nat := 0
  most : Option Nat := none
  dialect : Regex.Dialect := { extended := true, lenient := true }
  /-- Operators of regular expressions have backslashes where they would not have them. -/
  swapsBackslashes : Bool := true
  /-- Ages are counted from the end of the day. -/
  fromDayEnd : Bool := false
  /-- When the search began, in microseconds. -/
  now : Nat := 0
  /-- How many actions gather files. -/
  gathering : Nat := 0

/-- Operators between expressions, the loosest first. -/
inductive Joint where
  | both
  | or
  | and
  deriving DecidableEq, Repr

/-- How tightly an operator binds. -/
def Joint.strength : Joint → Nat
  | .both => 1
  | .or => 2
  | .and => 3

/-- A part of an expression, with the text it was written as. Parentheses may be there though nobody
wrote them. -/
inductive Token where
  | leaf (name : Bytes) (e : Expr)
  | not (name : Bytes)
  | joint (name : Bytes) (j : Joint)
  | opening (own : Bool)
  | closing (own : Bool)

/-- How a token is written. -/
def Token.name : Token → Bytes
  | .leaf name _ | .not name | .joint name _ => name
  | .opening _ => "("
  | .closing _ => ")"

/-- What has been read, and what is to be read. -/
structure Reading where
  args : List Bytes
  settings : Settings := {}
  /-- The name of what is being read. -/
  current : Bytes := ""

/-- Acts of a reader of arguments. -/
abbrev Reader := StateT Reading Tool

namespace Reader

variable {α : Type}

/-- Says what is wrong with the arguments. -/
def fail (message : Bytes) : Reader α := Tool.die 1 message

/-- Says that an argument is not right. -/
def wrong (arg : Bytes) : Reader α := do
  fail ("invalid argument \x60" ++ arg ++ "' to \x60" ++ (← get).current ++ "'")

/-- Says that an argument is missing. -/
def missing : Reader α := do fail ("missing argument to \x60" ++ (← get).current ++ "'")

/-- The next argument, if there is one. -/
def next? : Reader (Option Bytes) := do
  let r ← get
  match r.args with
  | [] => return none
  | arg :: args =>
    set { r with args }
    return some arg

/-- The argument of what is being read. -/
def value : Reader Bytes := do
  match ← next? with
  | some arg => return arg
  | none => missing

/-- Changes what holds for the whole search. -/
def modifySettings (f : Settings → Settings) : Reader Unit :=
  modify fun r => { r with settings := f r.settings }

/-! ### Arguments of tests -/

/-- The number that a text wants. -/
def wanted? (text : Bytes) : Option Wanted :=
  match text.toList with
  | '+' :: cs => (natOf? (String.ofList cs)).map ({ order := .gt, number := · })
  | '-' :: cs => (natOf? (String.ofList cs)).map ({ order := .lt, number := · })
  | _ => (natOf? text).map ({ number := · })

/-- A number that is wanted. -/
def wanted : Reader Wanted := do
  let arg ← value
  match wanted? arg with
  | some w => return w
  | none => wrong arg

/-- A number that is wanted, where the name itself is blamed if there is none. -/
def plainWanted : Reader Wanted := do
  if (← get).args.isEmpty then wrong (← get).current
  wanted

/-- A form that names may have. -/
def form : Reader Sh.Pattern := return .ofText (← value)

/-- What the system tells about a file that is an argument. -/
def fileOf (path : Bytes) : Reader FileInfo := do
  let follows := (← get).settings.following != .never
  match ← Tool.info path follows with
  | .ok i => return i
  | .error e => fail (Quoting.always path ++ ": " ++ e.text)

/-- Letters of kinds between commas. -/
def kinds (text : Bytes) : Reader (List Char) := do
  let name := (← get).current
  if text.isEmpty then fail ("Arguments to " ++ name ++ " should contain at least one letter")
  let rec go : (bound : Nat) → List Char → Reader (List Char)
    | 0, _ => return []
    | bound + 1, c :: cs => do
      if !( ['b', 'c', 'd', 'f', 'l', 'p', 's'].contains c) then
        fail ("Unknown argument to " ++ name ++ ": " ++ String.singleton c)
      match cs with
      | [] => return [c]
      | [','] =>
        fail ("Last file type in list argument to " ++ name ++
          " is missing, i.e., list is ending on: ','")
      | ',' :: cs => return c :: (← go bound cs)
      | _ => fail ("Must separate multiple arguments to " ++ name ++ " using: ','")
    | _, [] => return []
  go (text.length + 1) text.toList

/-- The units that sizes are counted in, by their letters. -/
def units : List (Char × Nat) :=
  [('b', 512), ('c', 1), ('w', 2), ('k', 1024), ('M', 1048576), ('G', 1073741824)]

/-- A test of the size. -/
def sizeTest : Reader Test := do
  let arg ← value
  match arg.toList.getLast? with
  | none => fail "invalid null argument to -size"
  | some last =>
    let (unit, text) ← match units.lookup last with
      | some unit => pure (unit, (arg.dropEnd 1).toString)
      | none =>
        if last.isDigit then pure (512, arg)
        else fail ("invalid -size type \x60" ++ String.singleton last ++ "'")
    match wanted? text with
    | some w => return .size unit w
    | none => fail ("Invalid argument \x60" ++ arg ++ "' to -size")

/-- A test of the permissions. -/
def modeTest : Reader Test := do
  let arg ← value
  let (rule, text) := match arg.toList with
    | '-' :: cs => (ModeRule.atLeast, String.ofList cs)
    | '/' :: cs => (ModeRule.any, String.ofList cs)
    | _ => (ModeRule.exactly, arg)
  let isOld := text.startsWith "+" && ((text.drop 1).toString.toList.head?.any Char.isDigit)
  match if isOld then none else Permissions.parse? text with
  | none => fail ("invalid mode " ++ Quoting.always arg)
  | some changes =>
    let file := Permissions.apply changes false 0 0
    if rule == .any && file == 0 then
      Tool.say ("warning: you have specified a mode pattern " ++ arg ++
        " (which is equivalent to /000). The meaning of -perm /000 has now been changed to be " ++
        "consistent with -perm -000; that is, while it used to match no files, it now matches " ++
        "all files.")
    return .mode rule file (Permissions.apply changes true 0 0)

/-- Seconds in a day. -/
def daySeconds : Nat := 86400

/-- The time that ages in days are counted from, in microseconds. -/
def dayStart : Reader Int := do
  let s := (← get).settings
  let day := daySeconds * 1000000
  return if s.fromDayEnd then ((s.now / day + 1) * day : Nat) else (s.now : Int)

/-- A regular expression with the backslashes of its operators put in or taken away. -/
def withoutBackslashes : (bound : Nat) → List Char → List Char
  | 0, cs => cs
  | _, [] => []
  | bound + 1, '\\' :: c :: cs =>
    if ['(', ')', '|'].contains c then c :: withoutBackslashes bound cs
    else '\\' :: c :: withoutBackslashes bound cs
  | bound + 1, '[' :: cs =>
    let front := cs.takeWhile (· == '^')
    let first := (cs.drop front.length).take 1
    let body := (cs.drop (front.length + first.length)).takeWhile (· != ']')
    let size := front.length + first.length + body.length
    '[' :: cs.take size ++ withoutBackslashes bound (cs.drop size)
  | bound + 1, c :: cs =>
    if ['(', ')', '|', '\x7b', '\x7d'].contains c then
      '\\' :: c :: withoutBackslashes bound cs
    else c :: withoutBackslashes bound cs

/-- A test of the whole path by a regular expression. -/
def regexTest (folds : Bool) : Reader Test := do
  let arg ← value
  let s := (← get).settings
  let text := if s.swapsBackslashes then
    String.ofList (withoutBackslashes (arg.length + 1) arg.toList) else arg
  match Regex.parse { s.dialect with ignoresCase := folds } text with
  | .error e =>
    fail ("failed to compile regular expression '" ++ arg ++ "': " ++ e.message)
  | .ok parsed =>
    let regex := Regex.ofList [.place .textStart, parsed.regex, .place .textEnd]
    return .regex (Regex.Parsed.searcher { parsed with regex } false)

/-- The ways in which regular expressions are written: their names, and whether operators stand
without backslashes; none for the usual way. -/
def regexKinds : List (Bytes × Option Bool) := [("findutils-default", none), ("ed", some false),
  ("emacs", none), ("gnu-awk", some true), ("grep", some false), ("posix-awk", some true),
  ("awk", some true), ("posix-basic", some false), ("posix-egrep", some true),
  ("egrep", some true), ("posix-extended", some true), ("posix-minimal-basic", some false),
  ("sed", some false)]

/-- Reads how regular expressions are written. -/
def regexKind : Reader Unit := do
  let arg ← value
  match regexKinds.lookup arg with
  | some kind =>
    modifySettings fun s => { s with
      swapsBackslashes := kind.isNone
      dialect := { s.dialect with extended := kind.getD true } }
  | none =>
    fail ("Unknown regular expression type " ++ Quoting.always arg ++ "; valid types are " ++
      ", ".intercalate (regexKinds.map fun k => Quoting.always k.1) ++ ".")

/-- A number of levels. -/
def level : Reader Nat := do
  let arg ← value
  match natOf? arg with
  | some n => return n
  | none =>
    fail ("Expected a positive decimal integer argument to " ++ (← get).current ++ ", but got " ++
      Quoting.always arg)

/-- A test of the owner. -/
def ownerTest (message : Bytes) (number : Id.User → Nat) (name : Id.User → Bytes) :
    Reader Test := do
  let arg ← value
  match Id.users.find? fun u => name u == arg, natOf? arg with
  | some u, _ => return .owner { number := number u }
  | none, some n => return .owner { number := n }
  | none, none => fail (Quoting.always arg ++ " is not the name of " ++ message)

/-- A test against the time of a file or a date, which the letters of its name choose. -/
def newerTest : Reader Test := do
  let name := (← get).current
  match (name.drop 6).toString.toList with
  | [a, b] =>
    if !( ['a', 'B', 'c', 'm'].contains a) || !( ['a', 'B', 'c', 'm', 't'].contains b) then
      fail ("invalid predicate \x60" ++ name ++ "'")
    match ← next? with
    | none => fail ("The " ++ Quoting.always name ++ " test needs an argument")
    | some arg =>
      if b == 't' then
        match DateText.resolve? ((← get).settings.now * 1000) arg with
        | some nanos => return .newer (nanos.fdiv 1000)
        | none =>
          fail ("I cannot figure out how to interpret " ++ Quoting.always arg ++
            " as a date or time")
      else return .newer (← fileOf arg).modified
  | _ => fail ("invalid predicate \x60" ++ name ++ "'")

/-! ### Arguments of actions -/

/-- Opens the file that an action writes to. -/
def outlet : Reader Outlet := do
  let path ← value
  if path == "/dev/stdout" then return none
  if path == "/dev/stderr" then return some 2
  match ← Tool.act (Unix.Act.number
      (.open_ path { writes := true, creates := true, truncates := true } 0o666)) with
  | .ok fd => return some fd
  | .error e => fail (Quoting.always path ++ ": " ++ e.text)

/-- The character that a letter after a backslash stands for. -/
def escapes : List (Char × Char) := [('a', '\x07'), ('b', '\x08'), ('f', '\x0C'), ('n', '\n'),
  ('r', '\r'), ('t', '\t'), ('v', '\x0B'), ('\\', '\\')]

/-- The letters of formats for what is noted about a file. -/
def fieldLetters : List Char := "abcdDfFgGhHiklmMnpPsStuUyYZ".toList

/-- Reads a format. -/
def pieces : (bound : Nat) → List Char → Reader (List Piece)
  | 0, _ | _, [] => return []
  | _, ['\\'] => do
    Tool.say "warning: escape \x60\\' followed by nothing at all"
    return [.text "\\"]
  | bound + 1, '\\' :: c :: cs => do
    if c == 'c' then return [.stop]
    else if '0' ≤ c && c ≤ '7' then
      let digits := ((c :: cs).take 3).takeWhile fun d => '0' ≤ d && d ≤ '7'
      let n := digits.foldl (fun n d => 8 * n + (d.toNat - 48)) 0
      let rest ← pieces bound ((c :: cs).drop digits.length)
      return .text (String.singleton (Char.ofNat (n % 256))) :: rest
    else match escapes.lookup c with
      | some e => return .text (String.singleton e) :: (← pieces bound cs)
      | none =>
        Tool.say ("warning: unrecognized escape \x60\\" ++ String.singleton c ++ "'")
        return .text ("\\" ++ String.singleton c) :: (← pieces bound cs)
  | bound + 1, '%' :: cs => do
    match cs with
    | [] => fail "error: % at end of format string"
    | '%' :: cs => return .text "%" :: (← pieces bound cs)
    | _ =>
      let (c, rest) := Conversion.flags {} cs
      let width := rest.takeWhile Char.isDigit
      let rest := rest.drop width.length
      let c := { c with width := digitsValue width }
      let (c, rest) := match rest with
        | '.' :: rest =>
          let digits := rest.takeWhile Char.isDigit
          ({ c with precision := some (digitsValue digits) }, rest.drop digits.length)
        | rest => (c, rest)
      match rest with
      | [] => fail "error: % at end of format string"
      | letter :: rest =>
        if ['A', 'B', 'C', 'T'].contains letter then
          match rest with
          | [] =>
            fail ("error: %" ++ String.singleton letter ++ " at end of format string")
          | time :: rest => return .time c time :: (← pieces bound rest)
        else if fieldLetters.contains letter then
          return .field c letter :: (← pieces bound rest)
        else
          Tool.say ("warning: unrecognized format directive \x60%" ++ String.singleton letter ++
            "'")
          let text := "%" ++ String.ofList (cs.take (cs.length - rest.length))
          return .text text :: (← pieces bound rest)
  | bound + 1, c :: cs => do
    let front := (c :: cs).takeWhile fun d => d != '\\' && d != '%'
    return .text (String.ofList front) :: (← pieces bound ((c :: cs).drop front.length))

/-- The pieces of the format that is the next argument. -/
def format : Reader (List Piece) := do
  let arg ← value
  pieces (arg.length + 1) arg.toList

/-- The braces that stand for files in commands. -/
def braces : Bytes := "\x7b\x7d"

/-- Whether a word of a command holds the braces. -/
def hasBraces (word : Bytes) : Bool := 1 < (word.splitOn braces).length

/-- Reads a command up to its end. Whether it is run for many files at once is in the end. -/
def command (inDirectory asks : Bool) : Reader Action := do
  let r ← get
  let rec split (before : List Bytes) : List Bytes → Option (List Bytes × Bool × List Bytes)
    | [] => none
    | ";" :: rest => some (before.reverse, false, rest)
    | arg :: rest =>
      if arg == "+" && !asks && before.head?.any hasBraces then
        some (before.reverse, true, rest)
      else split (arg :: before) rest
  match split [] r.args with
  | none => missing
  | some ([], _, _) => wrong (r.args.headD "")
  | some (words, many, args) =>
    set { r with args }
    if !many then return .run words inDirectory asks
    let front := words.dropLast
    if front.any hasBraces then
      fail ("Only one instance of \x7b\x7d is supported with " ++ r.current ++ " ... +")
    if let some word := words.getLast?.filter (· != braces) then
      fail ("In '" ++ r.current ++
        " ... \x7b\x7d +' the '\x7b\x7d' must appear by itself, but you specified " ++
        Quoting.always word)
    let number := r.settings.gathering
    modifySettings fun s => { s with gathering := number + 1 }
    return .gather number front inDirectory

/-! ### Expressions -/

/-- The test or action of a name, which has been read; none if there is none. -/
def leaf? (name : Bytes) : Reader (Option Expr) := do
  let test (t : Test) : Reader (Option Expr) := return some (.test t)
  let done : Reader (Option Expr) := test (.always true)
  let act (a : Action) : Reader (Option Expr) := return some (.act a)
  let now : Int := (← get).settings.now
  match (name.drop 1).toString with
  | "true" => done
  | "false" => test (.always false)
  | "name" => test (.name (← form) false)
  | "iname" => test (.name (← form) true)
  | "path" | "wholename" => test (.path (← form) false)
  | "ipath" | "iwholename" => test (.path (← form) true)
  | "lname" => test (.target (← form) false)
  | "ilname" => test (.target (← form) true)
  | "regex" => test (← regexTest false)
  | "iregex" => test (← regexTest true)
  | "type" => test (.kind (← kinds (← value)) false)
  | "xtype" => test (.kind (← kinds (← value)) true)
  | "size" => test (← sizeTest)
  | "empty" => test .empty
  | "perm" => test (← modeTest)
  | "newer" | "anewer" | "cnewer" => test (.newer (← fileOf (← value)).modified)
  | "mtime" | "atime" | "ctime" => test (.age daySeconds (← dayStart) (← wanted))
  | "mmin" | "amin" | "cmin" => test (.ageUp 60 now (← wanted))
  | "used" => test (.age daySeconds now (← wanted))
  | "links" => test (.links (← plainWanted))
  | "inum" => test (.number (← plainWanted))
  | "uid" | "gid" => test (.owner (← plainWanted))
  | "user" => test (← ownerTest "a known user" (·.number) (·.name))
  | "group" => test (← ownerTest "an existing group" (·.groupNumber) (·.group))
  | "nouser" | "nogroup" => test (.always false)
  | "fstype" | "context" =>
    let _ ← value
    test (.always false)
  | "samefile" => test (.same (← fileOf (← value)).number)
  | "readable" | "writable" => done
  | "executable" => test .runs
  | "depth" | "d" =>
    modifySettings fun s => { s with insideFirst := true, saidSo := true }
    done
  | "maxdepth" =>
    let n ← level
    modifySettings fun s => { s with most := some n }
    done
  | "mindepth" =>
    let n ← level
    modifySettings fun s => { s with least := n }
    done
  | "daystart" =>
    modifySettings fun s => { s with fromDayEnd := true }
    done
  | "follow" =>
    modifySettings fun s => { s with following := .always }
    done
  | "regextype" =>
    regexKind
    done
  | "mount" | "xdev" | "noleaf" | "warn" | "nowarn" | "ignore_readdir_race"
  | "noignore_readdir_race" => done
  | "print" => act (.print none "\n")
  | "print0" => act (.print none "\x00")
  | "fprint" => act (.print (← outlet) "\n")
  | "fprint0" => act (.print (← outlet) "\x00")
  | "printf" => act (.format none (← format))
  | "fprintf" =>
    let args := (← get).args
    if args.length == 1 then wrong (args.headD "")
    let outlet ← outlet
    act (.format outlet (← format))
  | "ls" => act (.describe none)
  | "fls" => act (.describe (← outlet))
  | "exec" => act (← command false false)
  | "execdir" => act (← command true false)
  | "ok" => act (← command false true)
  | "okdir" => act (← command true true)
  | "delete" =>
    modifySettings fun s => { s with insideFirst := true }
    act .delete
  | "prune" => act .prune
  | "quit" => act .quit
  | rest => if rest.startsWith "newer" then test (← newerTest) else return none

/-- Whether an argument belongs to the expression. `leading` says that none has belonged to it so
far. -/
def isOfExpression (leading : Bool) (arg : Bytes) : Bool :=
  if arg.startsWith "-" then arg != "-"
  else if arg == "(" || arg == "!" then true
  else !leading && (arg == ")" || arg == ",")

/-- Reads the token of an argument. -/
def token (arg : Bytes) : Reader Token := do
  match arg with
  | "(" => return .opening true
  | ")" => return .closing true
  | "!" | "-not" => return .not arg
  | "," => return .joint arg .both
  | "-o" | "-or" => return .joint arg .or
  | "-a" | "-and" => return .joint arg .and
  | _ =>
    modify fun r => { r with current := arg }
    match ← leaf? arg with
    | some e => return .leaf arg e
    | none => fail ("unknown predicate \x60" ++ arg ++ "'")

/-- Whether something stands complete before a token, and the token begins something. -/
def isJoined (before : Option Token) (t : Token) : Bool :=
  let ends := match before with
    | some (.leaf ..) | some (.closing _) => true
    | _ => false
  match t with
  | .leaf .. | .not _ | .opening _ => ends
  | _ => false

/-- Reads the tokens of the expression, the last ones first. -/
def tokens : (bound : Nat) → List Token → Reader (List Token)
  | 0, acc => return acc
  | bound + 1, acc => do
    match ← next? with
    | none => return acc
    | some arg =>
      if !isOfExpression false arg then
        Tool.say ("paths must precede expression: \x60" ++ arg ++ "'")
        if let some last := acc.head? then
          if let .ok _ ← Tool.info arg true then
            Tool.say ("possible unquoted pattern after predicate \x60" ++ last.name ++ "'?")
        throw 1
      let t ← token arg
      let acc := if isJoined acc.head? t then .joint "-a" .and :: acc else acc
      tokens bound (t :: acc)

end Reader

/-! ### Structure -/

/-- Whether a token is an action that shows or does something. -/
def Token.acts : Token → Bool
  | .leaf _ (.act a) => a.shows
  | _ => false

/-- Whether a token is an action that keeps the search out of a directory. -/
def Token.prunes : Token → Bool
  | .leaf _ (.act .prune) => true
  | _ => false

/-- Whether a token removes files. -/
def Token.deletes : Token → Bool
  | .leaf _ (.act .delete) => true
  | _ => false

/-- The tokens of an expression, with the action that shows files if there is no other one. -/
def withPrint (tokens : List Token) : List Token :=
  let print : Token := .leaf "-print" (.act (.print none "\n"))
  if tokens.isEmpty then [print]
  else if tokens.any Token.acts then tokens
  else .opening false :: tokens ++ [.closing false, .joint "-a" .and, print]

mutual

/-- Reads an expression whose operators bind more tightly than some strength. -/
def readExpr (strength : Nat) (before : Option Token) : (bound : Nat) → List Token →
    Except Bytes (Expr × List Token)
  | 0, _ | _, [] => .error "invalid expression"
  | bound + 1, t :: ts =>
    match t with
    | .joint name _ =>
      .error ("invalid expression; you have used a binary operator '" ++ name ++
        "' with nothing before it.")
    | .closing own =>
      let name := (before.map (·.name)).getD ""
      let isOperator := match before with
        | some (.not _) | some (.joint ..) => true
        | _ => false
      if isOperator && own then .error ("expected an expression between '" ++ name ++ "' and ')'")
      else if !own then .error ("expected an expression after '" ++ name ++ "'")
      else .error "invalid expression; you have too many ')'"
    | .leaf _ e => joinRest strength bound e ts
    | .not _ => do
      let (e, ts) ← readExpr 4 (some t) bound ts
      joinRest strength bound (.not e) ts
    | .opening own =>
      match ts with
      | [] | .closing false :: _ =>
        .error ("invalid expression; expected to find a ')' but didn't see one. Perhaps you " ++
          "need an extra predicate after '('")
      | .closing true :: _ =>
        if own then .error "invalid expression; empty parentheses are not allowed."
        else .error "invalid expression: expected expression before closing parentheses ')'."
      | _ => do
        let (e, ts) ← readExpr 0 (some t) bound ts
        match ts with
        | .closing _ :: ts => joinRest strength bound e ts
        | _ => .error ("invalid expression; I was expecting to find a ')' somewhere but did " ++
            "not see one.")

/-- Reads the operators that bind more tightly than some strength, and what they join. -/
def joinRest (strength : Nat) : (bound : Nat) → Expr → List Token →
    Except Bytes (Expr × List Token)
  | bound + 1, a, t :: ts =>
    match t with
    | .joint _ j =>
      if j.strength ≤ strength then .ok (a, t :: ts)
      else do
        let (b, ts) ← readExpr j.strength (some t) bound ts
        let e := match j with
          | .both => .both a b
          | .or => .or a b
          | .and => .and a b
        joinRest strength bound e ts
    | _ => .ok (a, t :: ts)
  | _, a, ts => .ok (a, ts)

end

/-- The expression of some tokens. -/
def exprOf (tokens : List Token) : Except Bytes Expr := do
  let (e, rest) ← readExpr 0 none (2 * tokens.length + 2) tokens
  match rest with
  | [] => .ok e
  | .closing _ :: _ => .error "you have too many ')'"
  | t :: _ => .error ("unexpected extra predicate '" ++ t.name ++ "'")

/-! ### All arguments -/

/-- A search: the places it begins at, what holds for all of it, and what is asked of files. -/
structure Request where
  places : List Bytes
  settings : Settings
  expr : Expr

/-- Reads the options before the places. -/
def readOptions (following : Following) : List Bytes → Tool (Following × List Bytes)
  | "-H" :: args => readOptions .atStart args
  | "-L" :: args => readOptions .always args
  | "-P" :: args => readOptions .never args
  | "--" :: args => return (following, args)
  | ["-D"] => do
    Tool.say "Missing argument after the -D option."
    Tool.writeErr (← Tool.hint)
    Tool.stop 1
  | "-D" :: _ :: args => readOptions following args
  | arg :: args => do
    if arg.startsWith "-O" then
      match (arg.drop 2).toString.toList with
      | [] => Tool.die 1 "The -O option must be immediately followed by a decimal integer"
      | c :: _ =>
        if !c.isDigit then Tool.die 1 "Please specify a decimal number immediately after -O"
        readOptions following args
    else return (following, arg :: args)
  | [] => return (following, [])

/-- Reads the arguments of a search. -/
def readRequest (args : List Bytes) : Tool Request := do
  let (following, args) ← readOptions .never args
  let places := args.takeWhile (!Reader.isOfExpression true ·)
  let settings : Settings := { following, now := ← Tool.now }
  let (tokens, r) ← (Reader.tokens (args.length + 1) []).run
    { args := args.drop places.length, settings }
  let tokens := tokens.reverse
  if tokens.any Token.deletes && tokens.any Token.prunes && !r.settings.saidSo then
    Tool.die 1 ("The -delete action automatically turns on -depth, but -prune does nothing when " ++
      "-depth is in effect.  If you want to carry on anyway, just explicitly use the -depth " ++
      "option.")
  match exprOf (withPrint tokens) with
  | .error message => Tool.die 1 message
  | .ok expr =>
    return { places := if places.isEmpty then ["."] else places, settings := r.settings, expr }

end Tilde.Utility.Find
