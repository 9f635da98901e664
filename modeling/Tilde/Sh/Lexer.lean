import Tilde.Sh.Command

/-!
# Reading the tokens of a command text

A command text is read one token at a time, since what has been read so far decides how the next
token is read: whether a word may be a reserved one or an alias. The commands in a word are parsed
as the word is read, by the parser that is handed to the functions here.

Quotes and expansions may be nested in each other. What is open is a stack of frames; each frame
says which characters are special in it.
-/

namespace Tilde.Sh

/-- Why a command text cannot be read, and where. -/
structure Problem where
  message : String
  line : Nat
  /-- The token that is not expected; none at the end of the text. -/
  token : Option String := none
  /-- The quote that is not closed. -/
  quote : Option String := none

/-- An alias whose text is being read: the number of characters left when it was put in front. -/
structure ActiveAlias where
  name : String
  left : Nat
  endsBlank : Bool

/-- A text announced by a redirection: its number, the line that ends it, whether expansions count
in it, and whether tabs at the front of its lines are left out. -/
structure Announced where
  number : Nat
  ending : List Char
  expands : Bool
  withoutTabs : Bool

/-- A token of a command text. -/
inductive Token where
  /-- A word, and whether there are quotes in it. -/
  | word (w : Word) (quoted : Bool)
  /-- A reserved word. -/
  | keyword (s : String)
  /-- An operator, among them the line end. -/
  | op (s : String)
  /-- A redirection whose word follows. -/
  | redir (fd : Nat) (op : String)
  | eof

/-- How far a command text has been read. -/
structure Reader where
  rest : List Char
  left : Nat
  /-- The text is one of the extended shell. -/
  extended : Bool := false
  line : Nat := 1
  aliases : List (String × String) := []
  active : List ActiveAlias := []
  /-- An alias that ends in a blank has ended, so the next word may be an alias too. -/
  blankEnded : Bool := false
  /-- A token that is read once more. -/
  back : Option Token := none
  /-- The word of the last token that was a word. -/
  lastWord : Word := []
  announced : List Announced := []
  /-- The texts read for redirections, by number. -/
  texts : List (Nat × Word) := []
  nextText : Nat := 0

/-- A reader of command texts. -/
abbrev Parser := StateT Reader (Except Problem)

/-- The reader of a text. -/
def Reader.ofText (text : String) : Reader := { rest := text.toList, left := text.length }

namespace Parser

/-- Fails where the text has been read to. -/
def fail {α : Type} (message : String) : Parser α := do
  throw { message, line := (← get).line }

/-- The next character, which stays. -/
def peek : Parser (Option Char) := return (← get).rest.head?

/-- Reads a character. -/
def next : Parser (Option Char) := do
  let r ← get
  match r.rest with
  | [] => return none
  | c :: cs =>
    let left := r.left - 1
    match r.active with
    | [] => set { r with rest := cs, left }
    | active =>
      let (gone, active) := active.partition (left < ·.left)
      set { r with
        rest := cs, left, active, blankEnded := r.blankEnded || gone.any (·.endsBlank) }
    return some c

/-- Counts a line end. -/
def countLine : Parser Unit := modify fun r => { r with line := r.line + 1 }

/-- Reads the line ends that are escaped. -/
def skipEscapedEnds : (bound : Nat) → Parser Unit
  | 0 => return ()
  | bound + 1 => do
    match (← get).rest with
    | '\\' :: '\n' :: _ =>
      let _ ← next
      let _ ← next
      countLine
      skipEscapedEnds bound
    | _ => return ()

/-- Reads the escaped line ends in front of a character. -/
def toNext : Parser (Option Char) := do
  skipEscapedEnds (← get).left
  peek

/-- Reads a character that stands after escaped line ends. -/
def nextJoined : Parser (Option Char) := do
  let _ ← toNext
  next

/-- Reads a character if it is the one given, after escaped line ends. -/
def acceptChar (c : Char) : Parser Bool := do
  if (← toNext) == some c then
    let _ ← next
    return true
  else return false

end Parser

/-- What is open around a character. -/
inductive Quoting where
  | bare
  | single
  | double
  | arith
  deriving DecidableEq, Repr

/-- What a character is to the reader of a word. -/
inductive CharClass where
  | word
  | newline
  | backslash
  | singleQuote
  | doubleQuote
  | endQuote
  | backquote
  | dollar
  | closeBrace
  /-- A character with a meaning in patterns, which is quoted. -/
  | pattern
  | openParen
  | closeParen
  /-- A character that ends a word. -/
  | special
  deriving DecidableEq, Repr

/-- The characters that have a meaning in patterns and expansions. -/
def isPatternChar (c : Char) : Bool := "!*?[=~:/-]".toList.contains c

/-- The class of a character. -/
def classOf (q : Quoting) (c : Char) : CharClass :=
  if c == '\n' then .newline
  else match q with
    | .single => if c == '\'' then .endQuote
      else if isPatternChar c || c == '\\' then .pattern else .word
    | q =>
      if c == '\\' then .backslash
      else if c == '\x60' then .backquote
      else if c == '$' then .dollar
      else if c == '\x7d' then .closeBrace
      else match q with
        | .bare =>
          if c == '\'' then .singleQuote
          else if c == '"' then .doubleQuote
          else if "<>();&| \t".toList.contains c then .special else .word
        | .arith =>
          if c == '(' then .openParen else if c == ')' then .closeParen else .word
        | _ => if c == '"' then .endQuote else if isPatternChar c then .pattern else .word

/-- What is open at one level of nesting. -/
structure Frame where
  quoting : Quoting
  /-- A quote inside an expansion inside quotes is open. -/
  innerQuote : Bool := false
  /-- The frame was opened for an expansion. -/
  forParam : Bool := false
  doubled : Bool := false
  /-- How many expansions are open, and how many of them in quotes. -/
  params : Nat := 0
  quotedParams : Nat := 0
  parens : Nat := 0

/-- A word being read: what is open, and the atoms, the last of them first. -/
structure Reading where
  frame : Frame
  outer : List Frame := []
  atoms : Word := []
  quoted : Bool := false

namespace Reading

/-- Adds an atom. -/
def add (w : Reading) (a : Atom) : Reading := { w with atoms := a :: w.atoms }

/-- Adds a character. -/
def char (w : Reading) (c : Char) (escaped : Bool) : Reading := w.add (.char c escaped)

/-- Adds a quote, unless the text is one of lines. -/
def quote (w : Reading) (inLines : Bool) : Reading := if inLines then w else w.add .quote

/-- Opens a frame. -/
def push (w : Reading) (f : Frame) : Reading := { w with frame := f, outer := w.frame :: w.outer }

/-- Closes a frame. -/
def pop (w : Reading) : Reading :=
  match w.outer with
  | f :: outer => { w with frame := f, outer }
  | [] => w

/-- Reads a double quote that opens or closes inside or outside an expansion. -/
def toggle (w : Reading) (inLines : Bool) : Reading :=
  let f := w.frame
  let f := if f.params != 0 then { f with innerQuote := !f.innerQuote } else f
  { w with frame := f }.quote inLines

/-- Reads a quote that closes. -/
def endQuote (w : Reading) (inLines : Bool) (c : Char) : Reading :=
  if inLines && w.frame.params == 0 then w.char c false
  else
    let f := w.frame
    let f := if f.quotedParams == 0 then { f with quoting := .bare, doubled := false } else f
    let w := { w with frame := f, quoted := true }
    if c == '"' then w.toggle inLines else w.quote inLines

/-- Reads a closing brace. -/
def closeBrace (w : Reading) : Reading :=
  let f := w.frame
  if !f.innerQuote && f.params != 0 then
    let params := f.params - 1
    let w := if params == 0 && f.forParam then w.pop
      else { w with frame := { f with
        params, quotedParams := f.quotedParams - 1 } }
    w.add .paramEnd
  else w.char '\x7d' false

/-- Opens an expansion. -/
def openParam (w : Reading) (name : String) (op : ParamOp) (colon : Bool) : Reading :=
  let f := w.frame
  let w := w.add (.param name op colon)
  if op == .plain then w
  else
    let isCut := match op with
      | .cutBack _ | .cutFront _ | .slice | .replace _ | .changeCase _ _ => true
      | _ => false
    let quoting := if isCut then .bare else f.quoting
    let quoting := if quoting == .arith then .double else quoting
    let w := if quoting != f.quoting || f.innerQuote then
        w.push { quoting, forParam := true, doubled := quoting != .bare }
      else w
    let f := w.frame
    { w with frame := { f with
      params := f.params + 1
      quotedParams := if f.doubled then f.quotedParams + 1 else f.quotedParams } }

end Reading

namespace Parser

/-- Reads the rest of a name whose characters satisfy a condition. -/
def nameRest (p : Char → Bool) (acc : List Char) : (bound : Nat) → Parser String
  | 0 => return String.ofList acc.reverse
  | bound + 1 => do
    match ← toNext with
    | some c =>
      if p c then
        let _ ← next
        nameRest p (c :: acc) bound
      else return String.ofList acc.reverse
    | none => return String.ofList acc.reverse

/-- Reads an operator that only the extended shell has. -/
def extendedOp? : Parser (Option ParamOp) := do
  if !(← get).extended then return none
  let changing (c : Char) (up : Bool) : Parser (Option ParamOp) := do
    let _ ← next
    return some (.changeCase up (← acceptChar c))
  match ← toNext with
  | some ':' =>
    let before ← get
    let _ ← next
    match ← toNext with
    | some c =>
      if ['-', '+', '?', '=', '\x7d'].contains c then
        set before
        return none
      else return some .slice
    | none => return none
  | some '/' =>
    let _ ← next
    if ← acceptChar '/' then return some (.replace .all)
    else if ← acceptChar '#' then return some (.replace .atFront)
    else if ← acceptChar '%' then return some (.replace .atBack)
    else return some (.replace .first)
  | some '^' => changing '^' true
  | some ',' => changing ',' false
  | _ => return none

/-- Reads the operator after the name in braces. The result says whether a colon counts. -/
def paramOp : Parser (ParamOp × Bool) := do
  if let some op ← extendedOp? then return (op, false)
  let ofChar? : Char → Option ParamOp
    | '\x7d' => some .plain
    | '-' => some .orElse
    | '+' => some .ifSet
    | '?' => some .orFail
    | '=' => some .orAssign
    | _ => none
  let longest (c : Char) : Parser Bool := acceptChar c
  match ← toNext with
  | some ':' =>
    let _ ← next
    match (← nextJoined).bind ofChar? with
    | some op => return (op, true)
    | none => return (.bad, true)
  | some '%' =>
    let _ ← next
    return (.cutBack (← longest '%'), false)
  | some '#' =>
    let _ ← next
    return (.cutFront (← longest '#'), false)
  | c =>
    let _ ← next
    return ((c.bind ofChar?).getD .bad, false)

/-- Reads a subscript behind a name, if there is one. -/
def withSubscript (name : String) : Parser String := do
  let r ← get
  match r.rest with
  | '[' :: _ =>
    let inside := r.rest.takeWhile fun c => c != ']' && c != '\x7d'
    if r.extended && (r.rest.drop inside.length).head? == some ']' then
      set { r with rest := r.rest.drop (inside.length + 1), left := r.left - inside.length - 1 }
      return name ++ String.ofList inside ++ "]"
    else return name
  | _ => return name

/-- Reads the name in braces, or after a dollar sign. -/
def paramName (braced : Bool) : Parser (Option String) := do
  let left := (← get).left
  match ← toNext with
  | some c =>
    if isNameStart c then
      let name ← nameRest isNameChar [] left
      if braced then return some (← withSubscript name) else return some name
    else if isDigit c then
      if braced then return some (← nameRest isDigit [] left)
      else
        let _ ← next
        return some (String.singleton c)
    else if isSpecial c then
      let _ ← next
      return some (String.singleton c)
    else return none
  | none => return none

/-- Reads what follows the number sign at the front of an expansion in braces: the parameter whose
length is asked for, or the operator behind the number of the arguments. -/
def lengthParam : Parser (String × ParamOp × Bool) := do
  match ← toNext with
  | some c =>
    if isNameChar c then
      let name := (← paramName true).getD ""
      return (name, if (← toNext) == some '\x7d' then .length else .bad, false)
    else
      let before ← get
      let _ ← next
      if c != '\x7d' && (← toNext) == some '\x7d' then
        return if isSpecial c then (String.singleton c, .length, false) else ("", .bad, false)
      else
        set before
        let (op, colon) ← paramOp
        return ("#", op, colon)
  | none => return ("#", .bad, false)

/-- Reads the name and the operator of an expansion in braces. -/
def bracedParam : Parser (String × ParamOp × Bool) := do
  match ← toNext with
  | some c =>
    if c == '#' then
      let _ ← next
      lengthParam
    else if c == '!' && (← get).extended &&
        ((← get).rest.drop 1).head?.any (fun d => isNameStart d || d == '#') then
      let _ ← next
      let name := "!" ++ ((← paramName true).getD "")
      let (op, colon) ← paramOp
      return (name, op, colon)
    else match ← paramName true with
      | some name =>
        let (op, colon) ← paramOp
        return (name, op, colon)
      | none =>
        -- A character that names no parameter is read, unless it closes the braces.
        if c != '\x7d' then let _ ← next
        return ("", .bad, false)
  | none => return ("", .bad, false)

/-- Collects the text of a command in backquotes. -/
def backquoted (doubled : Bool) (acc : List Char) : (bound : Nat) → Parser (List Char)
  | 0 => fail "EOF in backquote substitution"
  | bound + 1 => do
    match ← nextJoined with
    | none => fail "EOF in backquote substitution"
    | some '\x60' => return acc.reverse
    | some '\\' =>
      match ← next with
      | none => fail "EOF in backquote substitution"
      | some c =>
        if c == '\n' then countLine
        let isEscaped := ['\\', '\x60', '$'].contains c || (doubled && c == '"')
        backquoted doubled (if isEscaped then c :: acc else c :: '\\' :: acc) bound
    | some c =>
      if c == '\n' then countLine
      backquoted doubled (c :: acc) bound

/-- Parses a command that stands in another text, such as one in backquotes. -/
def within (text : List Char) (p : Parser Command) : Parser Command := do
  let outer ← get
  set { outer with
    rest := text, left := text.length, line := 1, active := [], back := none, announced := [] }
  let c ← p
  let inner ← get
  set { outer with texts := inner.texts, nextText := inner.nextText }
  return c

end Parser

/-- Lines that are read as if they stood in quotes, up to a line of their own if there is one. -/
structure Lines where
  ending : Option (List Char)
  withoutTabs : Bool

/-- What the reader of a word has to know: how the commands in it are parsed, and what the word is
for. -/
structure WordContext where
  /-- Parses commands up to the closing parenthesis. -/
  group : Parser Command
  /-- Parses the commands of a whole text. -/
  whole : Parser Command
  lines : Option Lines := none
  /-- Expansions do not count. -/
  literal : Bool := false

namespace Parser

/-- Reads characters. -/
def skip : Nat → Parser Unit
  | 0 => return ()
  | n + 1 => do
    let _ ← next
    skip n

/-- Reads the line that ends a text, if it is there. -/
def endOfLines (lines : Lines) : Parser Bool := do
  if lines.withoutTabs then skip ((← get).rest.takeWhile (· == '\t')).length
  match lines.ending with
  | none => return false
  | some ending =>
    let rest := (← get).rest
    let after := rest.drop ending.length
    if ending.isPrefixOf rest && (after.isEmpty || after.head? == some '\n') then
      skip (ending.length + 1)
      countLine
      return true
    else return false

/-- Reads what there is to read at the start of a line. The result says whether the text ends. -/
def startLine (cx : WordContext) (quoting : Quoting) : Parser Bool := do
  match cx.lines with
  | none => return false
  | some lines =>
    if quoting != .single then skipEscapedEnds (← get).left
    endOfLines lines

/-- Reads a text in which backslashes stand before letters and numbers, up to its quote. -/
def spelled (acc : List Char) : (bound : Nat) → Parser (List Char)
  | 0 => return acc.reverse
  | bound + 1 => do
    match ← next with
    | none => fail "Unterminated quoted string"
    | some '\'' => return acc.reverse
    | some '\\' =>
      let rest := (← get).rest
      let number (base skipped : Nat) (digits : List Char) : Parser (List Char) := do
        let value (c : Char) : Nat := if isDigit c then c.toNat - 48 else c.toLower.toNat - 87
        let n := digits.foldl (fun n c => base * n + value c) 0
        modify fun r => { r with
          rest := r.rest.drop (skipped + digits.length), left := r.left - skipped - digits.length }
        spelled (Char.ofNat (n % 256) :: acc) bound
      let octal := (rest.take 3).takeWhile fun c => '0' ≤ c && c ≤ '7'
      let hex := ((rest.drop 1).take 2).takeWhile
        fun c => isDigit c || ('a' ≤ c.toLower && c.toLower ≤ 'f')
      if !octal.isEmpty then number 8 0 octal
      else if rest.head? == some 'x' && !hex.isEmpty then number 16 1 hex
      else
        let c := (← next).getD '\\'
        let table := [('n', '\n'), ('t', '\t'), ('r', '\r'), ('a', '\x07'), ('b', '\x08'),
          ('e', '\x1B'), ('E', '\x1B'), ('f', '\x0C'), ('v', '\x0B')]
        match table.lookup c with
        | some d => spelled (d :: acc) bound
        | none =>
          let plain := ['\\', '\'', '"', '?'].contains c
          spelled (if plain then c :: acc else c :: '\\' :: acc) bound
    | some c =>
      if c == '\n' then countLine
      spelled (c :: acc) bound

/-- Reads an expansion after its dollar sign. -/
def dollar (cx : WordContext) (w : Reading) : Parser Reading := do
  if cx.literal then return w.char '$' false
  let extended := (← get).extended && w.frame.quoting == .bare
  if extended && (← peek) == some '"' then return w
  if extended && (← peek) == some '\'' then
    let _ ← next
    let cs ← spelled [] ((← get).left + 1)
    let w := cs.foldl (fun w c => w.char c true) (w.add .quote)
    return { w.add .quote with quoted := true }
  match ← toNext with
  | some '(' =>
    let _ ← next
    if ← acceptChar '(' then
      return (w.add .arith).push { quoting := .arith, doubled := true }
    else return w.add (.output (← cx.group))
  | some '\x7b' =>
    let _ ← next
    let (name, op, colon) ← bracedParam
    return w.openParam name op colon
  | some _ =>
    match ← paramName false with
    | some name => return w.openParam name .plain false
    | none => return w.char '$' false
  | none => return w.char '$' false

/-- Reads what a backslash escapes. -/
def escaped (inLines : Bool) (w : Reading) : Parser Reading := do
  match ← next with
  | none => return w.char '\\' true
  | some c =>
    let f := w.frame
    let stays := f.doubled && !(['\\', '\x60', '$'].contains c) &&
      (c != '"' || (inLines && f.params == 0)) && (c != '\x7d' || f.params == 0)
    let w := if stays then w.char '\\' true else w
    return { w.char c true with quoted := true }

/-- Reads a character of a word that belongs to it. -/
def wordChar (cx : WordContext) (w : Reading) (c : Char) (kind : CharClass) : Parser Reading := do
  let _ ← next
  let inLines := cx.lines.isSome
  let f := w.frame
  match kind with
  | .backslash => escaped inLines w
  | .singleQuote => return { w with frame := { f with quoting := .single } }.quote inLines
  | .doubleQuote =>
    return { w with frame := { f with quoting := .double, doubled := true } }.toggle inLines
  | .endQuote => return w.endQuote inLines c
  | .backquote =>
    if cx.literal then return w.char c false
    else
      let text ← backquoted f.doubled [] ((← get).left + 1)
      return w.add (.output (← within text cx.whole))
  | .dollar => dollar cx w
  | .closeBrace => return w.closeBrace
  | .openParen => return { w with frame := { f with parens := f.parens + 1 } }.char c false
  | .closeParen =>
    if f.parens != 0 then
      return { w with frame := { f with parens := f.parens - 1 } }.char c false
    else if ← acceptChar ')' then return (w.add .arithEnd).pop
    else return w.char c false
  | .pattern => return w.char c (!inLines || f.doubled || f.params != 0)
  | _ => return w.char c false

/-- Reads a word, up to a character that does not belong to it. -/
def wordFrom (cx : WordContext) : (bound : Nat) → Reading → Parser Reading
  | 0, w => return w
  | bound + 1, w => do
    let f := w.frame
    if f.quoting != .single then skipEscapedEnds (← get).left
    match (← get).rest.head? with
    | none => return w
    | some c =>
      let kind := classOf f.quoting c
      if kind == .newline then
        if f.quoting == .bare && f.params == 0 then return w
        else
          let _ ← next
          countLine
          if ← startLine cx f.quoting then return w.char c false
          else wordFrom cx bound (w.char c false)
      else if kind == .special && f.params == 0 then
        let r ← get
        match r.extended && cx.lines.isNone, r.rest with
        | true, '<' :: '(' :: _ =>
          skip 2
          wordFrom cx bound (w.add (.process true (← cx.group)))
        | true, '>' :: '(' :: _ =>
          skip 2
          wordFrom cx bound (w.add (.process false (← cx.group)))
        | _, _ => return w
      else wordFrom cx bound (← wordChar cx w c kind)

/-- A bound on the rounds of a reader, which no text reaches. -/
def rounds : Nat := 1000000000000

/-- Reads a word whose first frame is given. -/
def readWord (cx : WordContext) (f : Frame) : Parser Reading := do
  let w ← wordFrom cx rounds { frame := f }
  if w.frame.quoting == .arith then fail "Missing '))'"
  if w.frame.quoting != .bare && cx.lines.isNone then
    throw {
      message := "Unterminated quoted string", line := (← get).line
      quote := some (if w.frame.quoting == .single then "'" else "\"") }
  if w.frame.params != 0 then fail "Missing '\x7d'"
  return { w with atoms := w.atoms.reverse }

/-- Reads the text of the lines that a redirection announces. -/
def readLines (cx : WordContext) (a : Announced) : Parser Unit := do
  let cx := { cx with lines := some ⟨some a.ending, a.withoutTabs⟩, literal := false }
  let f : Frame := if a.expands then { quoting := .double, doubled := true }
    else { quoting := .single }
  let text ← if ← startLine cx f.quoting then pure [] else pure (← readWord cx f).atoms
  modify fun r => { r with texts := (a.number, text) :: r.texts }

/-- Reads the texts announced. -/
def readAnnounced (cx : WordContext) : Parser Unit := do
  let announced := (← get).announced
  modify fun r => { r with announced := [] }
  announced.forM (readLines cx)

/-- Reads the operator of a redirection. -/
def redirOp (c : Char) : Parser String := do
  if c == '>' then
    if ← acceptChar '>' then return ">>"
    else if ← acceptChar '|' then return ">|"
    else if ← acceptChar '&' then return ">&"
    else return ">"
  else
    if ← acceptChar '<' then
      if (← get).extended && (← peek) == some '<' then
        let _ ← next
        return "<<<"
      return if ← acceptChar '-' then "<<-" else "<<"
    else if ← acceptChar '&' then return "<&"
    else if ← acceptChar '>' then return "<>"
    else return "<"

/-- Reads a word or the start of a redirection. -/
def wordToken (cx : WordContext) : Parser Token := do
  let w ← readWord cx { quoting := .bare }
  let fd? : Option (Option Nat) := match w.atoms with
    | [] => some none
    | [.char c false] => if isDigit c then some (some (c.toNat - 48)) else none
    | _ => none
  let c := (← get).rest.headD ' '
  match fd? with
  | some fd =>
    if (c == '>' || c == '<') && !w.quoted then
      let _ ← next
      return .redir (fd.getD (if c == '>' then 1 else 0)) (← redirOp c)
    else pure ()
  | none => pure ()
  modify fun r => { r with lastWord := w.atoms }
  return .word w.atoms w.quoted

/-- Reads a token from the text. -/
def freshToken (cx : WordContext) : (bound : Nat) → Parser Token
  | 0 => return .eof
  | bound + 1 => do
    let orTwice (c : Char) : Parser Token := do
      let _ ← next
      return .op (String.ofList (if ← acceptChar c then [c, c] else [c]))
    match ← toNext with
    | none => return .eof
    | some ' ' | some '\t' =>
      let _ ← next
      freshToken cx bound
    | some '#' =>
      skip ((← get).rest.takeWhile (· != '\n')).length
      freshToken cx bound
    | some '\n' =>
      let _ ← next
      countLine
      return .op "\n"
    | some '&' =>
      let r ← get
      match r.extended, r.rest with
      | true, '&' :: '>' :: '>' :: _ =>
        skip 3
        return .redir 1 "&>>"
      | true, '&' :: '>' :: _ =>
        skip 2
        return .redir 1 "&>"
      | _, _ => orTwice '&'
    | some '|' =>
      let r ← get
      match r.extended, r.rest with
      | true, '|' :: '&' :: _ =>
        skip 2
        return .op "|&"
      | _, _ => orTwice '|'
    | some ';' => orTwice ';'
    | some '(' | some ')' => return .op (String.ofList (← next).toList)
    | some _ => wordToken cx

/-- Reads a token, which may be one to be read once more. -/
def nextToken (cx : WordContext) : Parser Token := do
  match (← get).back with
  | some t =>
    modify fun r => { r with back := none }
    return t
  | none => freshToken cx rounds

/-- Lets a token be read once more. -/
def pushBack (t : Token) : Parser Unit := modify fun r => { r with back := some t }

end Parser

/-- How the next token is read. -/
structure Want where
  /-- Line ends are left out. -/
  newlines : Bool := false
  keywords : Bool := false
  aliases : Bool := false
  /-- The word ends a text, so expansions do not count. -/
  literal : Bool := false

/-- The reserved words that only the extended shell has. -/
def extendedKeywords : List String := ["[[", "function"]

/-- The reserved words. -/
def keywords : List String :=
  ["!", "case", "do", "done", "elif", "else", "esac", "fi", "for", "if", "in", "then", "until",
    "while", "\x7b", "\x7d"]

namespace Parser

/-- Reads a token that is no line end. -/
def pastLines (cx : WordContext) : (bound : Nat) → Parser Token
  | 0 => return .eof
  | bound + 1 => do
    match ← nextToken cx with
    | .op "\n" =>
      readAnnounced cx
      pastLines cx bound
    | t => return t

/-- Puts the text of an alias in front. -/
def pushAlias (name value : String) : Parser Unit := do
  if value.isEmpty then return
  modify fun r => { r with
    rest := value.toList ++ r.rest
    left := value.length + r.left
    active := ⟨name, r.left, value.endsWith " " || value.endsWith "\t"⟩ :: r.active }

/-- The text of an alias that is not being read. -/
def alias? (r : Reader) (name : String) : Option String :=
  if r.active.any (·.name == name) then none else r.aliases.lookup name

/-- Reads a token. -/
def tokenWithin (cx : WordContext) : (bound : Nat) → Want → Parser Token
  | 0, _ => return .eof
  | bound + 1, want => do
    modify fun r => { r with blankEnded := false }
    let cx' := { cx with literal := want.literal }
    let t ← if want.newlines then pastLines cx' rounds else nextToken cx'
    let r ← get
    let want := { want with aliases := want.aliases || r.blankEnded }
    match t with
    | .word w false =>
      match plainText? w with
      | none => return t
      | some s =>
        if want.keywords && (keywords.contains s ||
            (r.extended && extendedKeywords.contains s)) then
          return .keyword s
        else if !want.aliases then return t
        else match alias? r s with
          | some value =>
            pushAlias s value
            tokenWithin cx bound want
          | none => return t
    | t => return t

/-- Reads a token. -/
def token (cx : WordContext) (want : Want) : Parser Token := tokenWithin cx rounds want

end Parser

/-- The text of a token; none at the end of the text. -/
def Token.shown? : Token → Option String
  | .word w _ => some (bareText w)
  | .keyword s => some s
  | .op "\n" => some "newline"
  | .op s => some s
  | .redir _ sign => some sign
  | .eof => none

/-- The name of a token in messages. -/
def Token.describe : Token → String
  | .word .. => "word"
  | .keyword s => s!"\"{s}\""
  | .op "\n" => "newline"
  | .op s => s!"\"{s}\""
  | .redir .. => "redirection"
  | .eof => "end of file"

end Tilde.Sh
