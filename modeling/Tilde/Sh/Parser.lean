import Tilde.Sh.Lexer

/-!
# Parsing commands

The grammar of commands. A text is parsed one complete line at a time, since a command may change
how the lines after it are read.
-/

namespace Tilde.Sh

/-- Where a list of commands stands. -/
inductive ListKind where
  /-- Between reserved words, with at least one command. -/
  | inner
  /-- Up to the end of a line. -/
  | line
  /-- In brackets, possibly without any command. -/
  | group
  deriving DecidableEq, Repr

/-- The parsers that others go back to. -/
structure Grammar where
  list : ListKind → Parser Command
  /-- Parses a command whose first token is read in a given way. -/
  command : Want → Parser Command
  /-- Parses commands up to the closing parenthesis. -/
  group : Parser Command

namespace Parser

/-- How a token is read where a command may start. -/
def atCommand : Want := { newlines := true, keywords := true, aliases := true }

/-- Fails with a token that is not expected. -/
def unexpected {α : Type} (t : Token) : Parser α := do
  let found := t.describe
  throw { message := s!"{found} unexpected", line := (← get).line, token := t.shown? }

/-- Fails with a token where another one is expected. -/
def expecting {α : Type} (t : Token) (wanted : String) : Parser α := do
  let found := t.describe
  throw {
    message := s!"{found} unexpected (expecting {wanted})",
    line := (← get).line, token := t.shown? }

/-- Reads a reserved word. -/
def expectKeyword (cx : WordContext) (want : Want) (s : String) : Parser Unit := do
  match ← token cx want with
  | .keyword k => if k != s then expecting (.keyword k) s!"\"{s}\""
  | t => expecting t s!"\"{s}\""

/-- The tokens that end a list in brackets. -/
def endsList : Token → Bool
  | .eof | .op ")" | .op ";;" => true
  | .keyword s => ["do", "done", "elif", "else", "esac", "fi", "then", "\x7d"].contains s
  | _ => false

/-- The tokens that join or end pipelines. -/
def isOp (t : Token) (s : String) : Bool :=
  match t with
  | .op o => o == s
  | _ => false

/-- Reads the word of a redirection. -/
def redirection (cx : WordContext) (fd : Nat) (op : String) : Parser Redirection := do
  let isText := op == "<<<"
  let isHere := op.startsWith "<<" && !isText
  match ← token cx { literal := isHere } with
  | .word w quoted =>
    if isHere then
      let r ← get
      let a : Announced := {
        number := r.nextText, ending := (bareText w).toList
        expands := !quoted, withoutTabs := op == "<<-" }
      set { r with nextText := r.nextText + 1, announced := r.announced ++ [a] }
      return .here fd a.number
    else if isText then
      let r ← get
      let text := w ++ [.char '\n' true]
      set { r with nextText := r.nextText + 1, texts := (r.nextText, text) :: r.texts }
      return .here fd r.nextText
    else return match op with
      | "<&" | ">&" => .copy fd w
      | "<" => .file fd .read w
      | ">" => .file fd .write w
      | ">|" => .file fd .overwrite w
      | ">>" => .file fd .append w
      | _ => .file fd .readWrite w
  | t => unexpected t

/-- Reads the word of a redirection, which may stand for that of both outputs. -/
def redirectionPair (cx : WordContext) (fd : Nat) (op : String) : Parser (List Redirection) := do
  let errors : Redirection := .copy 2 [.char '1' false]
  match op with
  | "&>" => return [← redirection cx 1 ">", errors]
  | "&>>" => return [← redirection cx 1 ">>", errors]
  | op =>
    let r ← redirection cx fd op
    match r, (← get).extended with
    | .copy 1 w, true =>
      let isNumber := match plainText? w with
        | some s => s == "-" || s.toList.all isDigit
        | none => true
      return if op == ">&" && !isNumber then [.file 1 .write w, errors] else [r]
    | r, _ => return [r]

/-- Reads the redirections after a command. -/
def redirections (cx : WordContext) : (bound : Nat) → Parser (List Redirection)
  | 0 => return []
  | bound + 1 => do
    match ← token cx { keywords := true, aliases := true } with
    | .redir fd op =>
      let rs ← redirectionPair cx fd op
      return rs ++ (← redirections cx bound)
    | t =>
      pushBack t
      return []

/-- The names of the commands of the shell that no function may have. -/
def specialNames : List String :=
  [".", ":", "break", "continue", "eval", "exec", "exit", "export", "readonly", "return", "set",
    "shift", "times", "trap", "unset"]

/-- A simple command while it is read. -/
structure Simple where
  assigns : List Word := []
  words : List Word := []
  redirs : List Redirection := []

/-- Reads the words of an array, up to the closing parenthesis. -/
def elements (cx : WordContext) : (bound : Nat) → Parser (List Word)
  | 0 => return []
  | bound + 1 => do
    match ← token cx { newlines := true } with
    | .word w _ => return w :: (← elements cx bound)
    | t => if isOp t ")" then return [] else unexpected t

/-- Whether a word ends where the elements of an array may follow. -/
def opensArray (w : Word) : Bool :=
  match (assignment? w).map (·.value) with
  | some [] => true
  | _ => false

/-- Reads the parts of a simple command, or the body of a function. -/
def simpleFrom (g : Grammar) (cx : WordContext) (line : Nat) :
    (bound : Nat) → Simple → Parser Command
  | 0, _ => return .nothing
  | bound + 1, s => do
    match ← token cx { aliases := s.words.isEmpty } with
    | .word w _ =>
      let r ← get
      let isAssigned := isAssignment w || (r.extended && (assignment? w).isSome)
      let w ← if r.extended && opensArray w && r.rest.head? == some '(' then
          let _ ← token cx {}
          pure (w ++ [.elements (← elements cx rounds)])
        else pure w
      simpleFrom g cx line bound (if s.words.isEmpty && isAssigned
        then { s with assigns := w :: s.assigns } else { s with words := w :: s.words })
    | .redir fd op =>
      let rs ← redirectionPair cx fd op
      simpleFrom g cx line bound { s with redirs := rs.reverse ++ s.redirs }
    | t =>
      match t, s with
      | .op "(", { assigns := [], words := [w], redirs := [] } =>
        let close ← token cx {}
        if !isOp close ")" then
          let extended := (← get).extended
          if extended then
            let found := close.shown?.getD "newline"
            throw { message := "", line := (← get).line, token := some found }
          expecting close "\")\""
        let name := (plainText? w).getD ""
        if !(← get).extended && (!isName name || specialNames.contains name) then
          fail "Bad function name"
        let line := (← get).line
        return .define line name (← g.command atCommand)
      | _, _ =>
        pushBack t
        return .simple line s.assigns.reverse s.words.reverse s.redirs.reverse

/-- Reads the words of a loop over words. -/
def forWords (cx : WordContext) : (bound : Nat) → Parser (List Word)
  | 0 => return []
  | bound + 1 => do
    match ← token cx {} with
    | .word w _ => return w :: (← forWords cx bound)
    | t =>
      if isOp t "\n" || isOp t ";" then return [] else unexpected t

/-- The word that stands for all arguments. -/
def allArguments : Word := [.quote, .param "@" .plain false, .quote]

/-- Reads a loop over words after its reserved word. -/
def forLoop (g : Grammar) (cx : WordContext) (line : Nat) : Parser Command := do
  match ← token cx {} with
  | .word w false =>
    let name := (plainText? w).getD ""
    if !isName name then fail "Bad for loop variable"
    let words ← match ← token cx atCommand with
      | .keyword "in" => forWords cx rounds
      | t =>
        if !isOp t ";" then pushBack t
        pure [allArguments]
    expectKeyword cx atCommand "do"
    let body ← g.list .inner
    expectKeyword cx {} "done"
    return .forIn line name words body
  | _ => fail "Bad for loop variable"

/-- Reads the patterns of an arm after the first token. A token that is no word stands for the last
word read. -/
def armPatterns (cx : WordContext) : (bound : Nat) → Parser (List Word)
  | 0 => return []
  | bound + 1 => do
    let w := (← get).lastWord
    let t ← token cx {}
    if isOp t "|" then
      let _ ← token cx {}
      return w :: (← armPatterns cx bound)
    else if isOp t ")" then return [w]
    else expecting t "\")\""

/-- Reads the arms of a choice. -/
def arms (g : Grammar) (cx : WordContext) : (bound : Nat) →
    Parser (List (List Word × Command))
  | 0 => return []
  | bound + 1 => do
    match ← token cx { newlines := true, keywords := true } with
    | .keyword "esac" => return []
    | t =>
      if isOp t "(" then let _ ← token cx {}
      let patterns ← armPatterns cx rounds
      let body ← g.list .group
      match ← token cx { newlines := true, keywords := true } with
      | .keyword "esac" => return [(patterns, body)]
      | t =>
        if !isOp t ";;" then expecting t "\";;\""
        return (patterns, body) :: (← arms g cx bound)

/-- Reads a choice by patterns after its reserved word. -/
def caseOf (g : Grammar) (cx : WordContext) (line : Nat) : Parser Command := do
  match ← token cx {} with
  | .word w _ =>
    expectKeyword cx atCommand "in"
    return .caseOf line w (← arms g cx rounds)
  | t => expecting t "word"

/-- Reads what follows the condition of a choice. -/
def ifRest (g : Grammar) (cx : WordContext) : (bound : Nat) → Parser Command
  | 0 => return .nothing
  | bound + 1 => do
    let test ← g.list .inner
    expectKeyword cx {} "then"
    let body ← g.list .inner
    match ← token cx {} with
    | .keyword "elif" => return .ifElse test body (← ifRest g cx bound)
    | .keyword "else" =>
      let orelse ← g.list .inner
      expectKeyword cx {} "fi"
      return .ifElse test body orelse
    | .keyword "fi" => return .ifElse test body .nothing
    | t => expecting t "\"fi\""

/-- Reads a loop with a condition after its reserved word. -/
def conditionLoop (g : Grammar) (cx : WordContext) (whileTrue : Bool) : Parser Command := do
  let test ← g.list .inner
  expectKeyword cx {} "do"
  let body ← g.list .inner
  expectKeyword cx {} "done"
  return .loop whileTrue test body

/-! ### Commands of the extended shell -/

/-- The questions about one word. -/
def unaryNames : List String := ["-a", "-b", "-c", "-d", "-e", "-f", "-g", "-h", "-k", "-n", "-p",
  "-r", "-s", "-t", "-u", "-v", "-w", "-x", "-z", "-G", "-L", "-N", "-O", "-S"]

/-- The comparisons of two words. -/
def binaryNames : List String :=
  ["=", "==", "!=", "=~", "<", ">", "-eq", "-ne", "-lt", "-le", "-gt",
  "-ge", "-nt", "-ot", "-ef"]

/-- Reads a regular expression, in which the characters of operators stand for themselves. -/
def regexWord (cx : WordContext) : (bound : Nat) → Parser Word
  | 0 => return []
  | bound + 1 => do
    let w ← readWord cx { quoting := .bare }
    match ← peek with
    | some c =>
      if ['(', ')', '|', '<', '>', '&', ';'].contains c then
        let _ ← next
        return w.atoms ++ .char c false :: (← regexWord cx bound)
      else return w.atoms
    | none => return w.atoms

/-- Leaves out blanks. -/
def skipBlanks : Parser Unit := do
  skip ((← get).rest.takeWhile fun c => c == ' ' || c == '\t').length

mutual

/-- Reads conditions of which one has to hold. -/
def anyCondition (cx : WordContext) : (bound : Nat) → Parser Condition
  | 0 => fail ""
  | bound + 1 => do
    let c ← allConditions cx bound
    let t ← token cx { newlines := true }
    if isOp t "||" then return .either c (← anyCondition cx bound)
    else
      pushBack t
      return c

/-- Reads conditions that all have to hold. -/
def allConditions (cx : WordContext) : (bound : Nat) → Parser Condition
  | 0 => fail ""
  | bound + 1 => do
    let c ← oneCondition cx bound
    let t ← token cx { newlines := true }
    if isOp t "&&" then return .both c (← allConditions cx bound)
    else
      pushBack t
      return c

/-- Reads a single condition. -/
def oneCondition (cx : WordContext) : (bound : Nat) → Parser Condition
  | 0 => fail ""
  | bound + 1 => do
    match ← token cx { newlines := true } with
    | .op "(" =>
      let c ← anyCondition cx bound
      let close ← token cx { newlines := true }
      if !isOp close ")" then unexpected close
      return c
    | .word a quoted =>
      let name := if quoted then "" else (plainText? a).getD ""
      if name == "!" then return .negated (← oneCondition cx bound)
      if name == "]]" then unexpected (.word a quoted)
      let t ← token cx { newlines := true }
      match t with
      | .redir _ op =>
        match ← token cx {} with
        | .word b _ => return .binary op a b
        | t => unexpected t
      | .word b _ =>
        let op := (plainText? b).getD ""
        if op == "=~" then
          skipBlanks
          return .binary op a (← regexWord cx rounds)
        else if binaryNames.contains op then
          match ← token cx {} with
          | .word b _ => return .binary op a b
          | t => unexpected t
        else if unaryNames.contains name && op != "]]" then return .unary name b
        else
          pushBack t
          return .unary "-n" a
      | t =>
        pushBack t
        return .unary "-n" a
    | t => unexpected t

end

/-- Reads an expression between double parentheses, the first of which has been read. -/
def doubleParens (cx : WordContext) : Parser Word := do
  let _ ← next
  let start : Reading := { frame := { quoting := .bare } }
  let w ← wordFrom cx rounds ((start.add .arith).push { quoting := .arith, doubled := true })
  if w.frame.quoting == .arith then fail "Missing '))'"
  return w.atoms.reverse

/-- The parts of a word between semicolons. -/
def splitAtSemicolons : Word → List Word
  | [] => [[]]
  | a :: w =>
    match a, splitAtSemicolons w with
    | .char ';' false, parts => [] :: parts
    | a, part :: parts => (a :: part) :: parts
    | a, [] => [[a]]

/-- Reads a loop with expressions after its reserved word. -/
def countLoop (g : Grammar) (cx : WordContext) (line : Nat) : Parser Command := do
  let _ ← token cx {}
  let inside := (← doubleParens cx).filter fun
    | .arith | .arithEnd => false
    | _ => true
  match splitAtSemicolons inside with
  | [start, test, after] =>
    let t ← token cx atCommand
    let closing := if isOp t ";" then none else some t
    let t ← match closing with
      | some t => pure t
      | none => token cx atCommand
    let stop ← match t with
      | .keyword "do" => pure "done"
      | .keyword "\x7b" => pure "\x7d"
      | t => unexpected t
    let body ← g.list .inner
    expectKeyword cx {} stop
    return .count line start test after body
  | _ => fail "Bad for loop variable"

/-- Reads a function after its reserved word. -/
def namedFunction (g : Grammar) (cx : WordContext) : Parser Command := do
  match ← token cx {} with
  | .word w _ =>
    let t ← token cx atCommand
    if isOp t "(" then
      let close ← token cx {}
      if !isOp close ")" then unexpected close
    else pushBack t
    let line := (← get).line
    return .define line (bareText w) (← g.command atCommand)
  | t => unexpected t

/-- Adds the redirections that follow a command. -/
def withRedirections (cx : WordContext) (line : Nat) (c : Command) : Parser Command := do
  let redirs ← redirections cx rounds
  if redirs.isEmpty then return c
  else return match c with
    | .subshell line body _ => .subshell line body redirs
    | c => .redirected line c redirs

/-- Reads a command. -/
def command (g : Grammar) (cx : WordContext) (want : Want) : Parser Command := do
  let line := (← get).line
  match ← token cx want with
  | .keyword "if" => withRedirections cx line (← ifRest g cx rounds)
  | .keyword "while" => withRedirections cx line (← conditionLoop g cx true)
  | .keyword "until" => withRedirections cx line (← conditionLoop g cx false)
  | .keyword "for" =>
    let isCount ← do
      let r ← get
      pure (r.extended && (r.rest.dropWhile (· == ' ')).take 2 == ['(', '('])
    withRedirections cx line (← if isCount then countLoop g cx line else forLoop g cx line)
  | .keyword "[[" =>
    let c ← anyCondition cx rounds
    match ← token cx { newlines := true } with
    | .word w false =>
      if plainText? w != some "]]" then unexpected (.word w false)
      withRedirections cx line (.condition line c)
    | t => unexpected t
  | .keyword "function" => namedFunction g cx
  | .keyword "case" => withRedirections cx line (← caseOf g cx line)
  | .keyword "\x7b" =>
    let body ← g.list .inner
    expectKeyword cx {} "\x7d"
    withRedirections cx line body
  | .op "(" =>
    let r ← get
    if r.extended && r.rest.head? == some '(' then
      return ← withRedirections cx line (.arithmetic line (← doubleParens cx))
    let body ← g.list .inner
    let close ← token cx {}
    if !isOp close ")" then expecting close "\")\""
    withRedirections cx line (.subshell line body [])
  | t@(.word ..) | t@(.redir ..) =>
    pushBack t
    simpleFrom g cx (← get).line rounds {}
  | t => unexpected t

/-- Reads the stages of a pipeline after the first, where one may hand on both of its outputs. -/
def stagesAfter (g : Grammar) (cx : WordContext) (first : Command) : (bound : Nat) →
    Parser (List Command)
  | 0 => return [first]
  | bound + 1 => do
    let t ← token cx {}
    if isOp t "|" then
      return first :: (← stagesAfter g cx (← g.command atCommand) bound)
    else if isOp t "|&" then
      let both : Command := .redirected 0 first [.copy 2 [.char '1' false]]
      return both :: (← stagesAfter g cx (← g.command atCommand) bound)
    else
      pushBack t
      return [first]

/-- Reads a pipeline. -/
def pipeline (g : Grammar) (cx : WordContext) : Parser Command := do
  let t ← token cx {}
  let negated := match t with
    | .keyword "!" => true
    | _ => false
  if !negated then pushBack t
  let first ← g.command (if negated then { keywords := true, aliases := true } else {})
  let all ← stagesAfter g cx first rounds
  let c : Command := match all with
    | [c] => c
    | all => .pipeline false all
  return if negated then .negated c else c

/-- Reads the pipelines that are joined to the first. -/
def andOrFrom (g : Grammar) (cx : WordContext) : (bound : Nat) → Command → Parser Command
  | 0, c => return c
  | bound + 1, c => do
    let t ← token cx {}
    if isOp t "&&" || isOp t "||" then
      let next ← token cx atCommand
      pushBack next
      let d ← pipeline g cx
      andOrFrom g cx bound (if isOp t "&&" then .both c d else .either c d)
    else
      pushBack t
      return c

/-- A command that runs in the background. -/
def inBackground : Command → Command
  | .pipeline _ stages => .pipeline true stages
  | .redirected line body redirs => .background line body redirs
  | c => .background 0 c []

/-- Reads the commands of a list, after those that are given. -/
def listFrom (g : Grammar) (cx : WordContext) (kind : ListKind) :
    (bound : Nat) → (needsOne : Bool) → Option Command → Parser (Option Command)
  | 0, _, found => return found
  | bound + 1, needsOne, found => do
    let onLine := kind == .line
    match ← token cx { newlines := !onLine, keywords := true, aliases := true } with
    | .op "\n" =>
      readAnnounced cx
      return some (found.getD .nothing)
    | .eof =>
      readAnnounced cx
      pushBack .eof
      return if onLine then found else some (found.getD .nothing)
    | t =>
      pushBack t
      if !needsOne && !onLine && endsList t then return some (found.getD .nothing)
      let c ← andOrFrom g cx rounds (← pipeline g cx)
      let t ← token cx {}
      let c := if isOp t "&" then inBackground c else c
      let found := match found with
        | none => c
        | some before => .sequence before c
      match t with
      | .eof =>
        readAnnounced cx
        pushBack .eof
        return some found
      | .op "&" | .op ";" => listFrom g cx kind bound false (some found)
      | .op "\n" =>
        pushBack t
        listFrom g cx kind bound false (some found)
      | t =>
        if onLine then unexpected t
        pushBack t
        return some found

/-- Reads a list of commands. -/
def list (g : Grammar) (cx : WordContext) (kind : ListKind) : Parser Command := do
  return (← listFrom g cx kind rounds (kind == .inner) none).getD .nothing

/-- Reads commands up to the closing parenthesis. The texts that they announce have no lines. -/
def group (g : Grammar) (cx : WordContext) : Parser Command := do
  let outer := (← get).announced
  modify fun r => { r with announced := [] }
  let c ← g.list .group
  let close ← token cx {}
  if !isOp close ")" then expecting close "\")\""
  modify fun r => { r with
    texts := r.announced.map (fun a => (a.number, [])) ++ r.texts, announced := outer }
  return c

/-- What the readers of words have to know. -/
def contextOf (g : Grammar) : WordContext where
  group := g.group
  whole := g.list .group

/-- The grammar, down to a depth of nesting. -/
def grammar : (depth : Nat) → Grammar
  | 0 => { list := fun _ => fail "", command := fun _ => fail "", group := fail "" }
  | depth + 1 => {
      list := fun kind r => list (grammar depth) (contextOf (grammar depth)) kind r
      command := fun want r => command (grammar depth) (contextOf (grammar depth)) want r
      group := fun r => group (grammar depth) (contextOf (grammar depth)) r }

/-- A depth of nesting that no text reaches. -/
def depthLimit : Nat := 1000000000000

/-- Reads the commands up to the end of a line; none at the end of the text. -/
def line : Parser (Option Command) := fun r =>
  let g := grammar depthLimit
  listFrom g (contextOf g) .line rounds false none { r with back := none, announced := [] }

/-- Reads a whole text as if it stood in quotes, where line ends count like other characters. -/
def promptWord : Parser Word := do
  let cx := contextOf (grammar depthLimit)
  let cx := { cx with lines := some ⟨none, false⟩ }
  return (← readWord cx { quoting := .double, doubled := true }).atoms

end Parser

end Tilde.Sh
