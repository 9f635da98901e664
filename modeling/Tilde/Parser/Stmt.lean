import Tilde.Parser.Expr

/-!
# Parsing statements

A statement ends at a line end or owns a block, which is either one simple statement on the same
line or an indented run of statements. What is assigned to is read as an expression first and then
turned into a target, so that a text which is no target is told by what it is.
-/

namespace Tilde.Parser

/-- Whether the expression has a star in front. -/
def isStar : Expr → Bool
  | .star _ => true
  | _ => false

mutual

/-- The target that an expression denotes. -/
def toTarget : Expr → Except ParseFault Target
  | .name name => .ok (.name name)
  | .star (.name name) => .ok (.star name)
  | .star _ => .error (.invalidTarget .starred)
  | .tuple items | .list items =>
    if 1 < items.countP isStar then .error .multipleStarred
    else (toTargets items).map .sequence
  | .call .. => .error (.invalidTarget .call)
  | .attribute .. => .error (.invalidTarget .attribute)
  | .subscript .. => .error (.invalidTarget .subscript)
  | .int _ | .str _ | .template _ | .bool _ | .none => .error (.invalidTarget .literal)
  | .unary .. | .binary .. | .compare .. | .logical .. => .error (.invalidTarget .expression)

/-- The targets that a list of expressions denotes. -/
def toTargets : List Expr → Except ParseFault (List Target)
  | [] => .ok []
  | e :: es => return (← toTarget e) :: (← toTargets es)

end

/-- Refuses a star at the top of what is no target. -/
def rejectStar (e : Expr) : Parser Unit :=
  let starred := match e with
    | .tuple items | .list items => items.any isStar
    | e => isStar e
  if starred then failHere .misplacedStar else return ()

/-- The end of a line, or of the text. -/
def lineEnd : Parser Unit := do
  match ← peek with
  | .newline => advance
  | .eof => return ()
  | _ => unexpected "end of line"

/-- A statement without a block. -/
def simple (expr : Inner) : Parser Stmt := do
  let start ← peekToken
  let line := start.pos.line
  match start.lexeme with
  | .word "pass" => do advance; return .pass line
  | .word "break" => do advance; return .breakLoop line
  | .word "continue" => do advance; return .continueLoop line
  | .word "assert" =>
    advance
    let test ← expr .full
    if ← acceptSymbol .comma then return .assert line test (some (← expr .full))
    else return .assert line test none
  | _ =>
    let e ← exprList expr
    if ← acceptSymbol .assign then
      match toTarget e with
      | .error fault => throw ⟨fault, start.pos⟩
      | .ok target =>
        let value ← exprList expr
        rejectStar value
        return .assign line target value
    else
      rejectStar e
      return .evaluate line e

/-- A block: a colon, and then a simple statement on the same line or indented statements. -/
def block (expr : Inner) (stmt : Parser Stmt) : Parser (List Stmt) := do
  expect (.symbol .colon) "':'"
  if ← accept .newline then
    expect .indent "an indented block"
    repeatFrom [] fun body => do
      match ← peek with
      | .dedent => do advance; return .inr body.reverse
      | .eof => unexpected "a statement"
      | .newline => do advance; return .inl body
      | _ => return .inl ((← stmt) :: body)
  else
    let s ← simple expr
    lineEnd
    return [s]

/-- A condition after its keyword, which stands on the given line. -/
def branch (expr : Inner) (stmt : Parser Stmt) : (bound : Nat) → (line : Nat) → Parser Stmt
  | 0, _ => failHere .tooDeep
  | bound + 1, line => do
    let test ← expr .full
    let body ← block expr stmt
    let next ← peekToken
    match next.lexeme with
    | .word "elif" =>
      advance
      return .branch line test body [← branch expr stmt bound next.pos.line]
    | .word "else" =>
      advance
      return .branch line test body (← block expr stmt)
    | _ => return .branch line test body []

/-- What a loop binds, or a part of it: a name, a starred name, or such in brackets. -/
def targetAtom : (bound : Nat) → Parser Expr
  | 0 => failHere .tooDeep
  | bound + 1 => do
    match ← peek with
    | .symbol .star => do advance; return .star (.name (← name))
    | .symbol .openParen => do advance; bracketed .closeParen (targetAtom bound)
    | .symbol .openBracket => do advance; bracketed .closeBracket (targetAtom bound)
    | _ => return .name (← name)
where
  /-- The items up to the closing bracket. -/
  bracketed (close : Symbol) (item : Parser Expr) : Parser Expr := do
    let items ← repeatFrom [] fun items => do
      if (← peek) = .symbol close then return .inr items.reverse
      else
        let items := (← item) :: items
        if ← acceptSymbol .comma then return .inl items else return .inr items.reverse
    expect (.symbol close) "a closing bracket"
    return .tuple items

/-- What a loop binds, up to the word `in`. -/
def loopTarget : Parser Expr := do
  let bound ← read
  let items ← repeatFrom [← targetAtom bound] fun items => do
    if ← acceptSymbol .comma then
      if (← peek) = .word "in" then return .inr items.reverse
      else return .inl ((← targetAtom bound) :: items)
    else return .inr items.reverse
  match items with
  | [e] => return if isStar e then .tuple [e] else e
  | items => return .tuple items

/-- A loop over items, from its keyword on. -/
def forEach (expr : Inner) (stmt : Parser Stmt) (line : Nat) : Parser Stmt := do
  advance
  let start ← peekToken
  match toTarget (← loopTarget) with
  | .error fault => throw ⟨fault, start.pos⟩
  | .ok target =>
    if ← acceptWord "in" then
      let items ← exprList expr
      return .forEach line target items (← block expr stmt)
    else unexpected "'in'"

/-- The kind of fault that a handler asks for, if it names one. -/
def handlerKind : Parser (Option String) := do
  match ← peek with
  | .word text => if isKeyword text then return none else do advance; return some text
  | _ => return none

/-- The handlers after a guarded block. -/
def handlers (expr : Inner) (stmt : Parser Stmt) : Parser (List Handler) :=
  repeatFrom [] fun handlers => do
    if ← acceptWord "except" then
      let kind ← handlerKind
      let binding ← if ← acceptWord "as" then pure (some (← name)) else pure none
      return .inl (.mk kind binding (← block expr stmt) :: handlers)
    else return .inr handlers.reverse

/-- A guarded block with its handlers, from its keyword on. -/
def attempt (expr : Inner) (stmt : Parser Stmt) (line : Nat) : Parser Stmt := do
  advance
  let body ← block expr stmt
  let handlers ← handlers expr stmt
  if handlers.isEmpty then unexpected "'except'" else return .attempt line body handlers

/-- A statement, from the parsers for expressions and for the statements of its blocks. -/
def statement (expr : Inner) (stmt : Parser Stmt) : Parser Stmt := do
  let start ← peekToken
  let line := start.pos.line
  match start.lexeme with
  | .word "if" => do advance; branch expr stmt (← read) line
  | .word "while" =>
    advance
    let test ← expr .full
    return .whileLoop line test (← block expr stmt)
  | .word "for" => forEach expr stmt line
  | .word "try" => attempt expr stmt line
  | _ =>
    let s ← simple expr
    lineEnd
    return s

/-- Parses a statement whose blocks nest less deep than the bound. -/
def stmtAt (expr : Inner) : (bound : Nat) → Parser Stmt
  | 0 => failHere .tooDeep
  | bound + 1 => statement expr (stmtAt expr bound)

/-- All statements up to the end of the text. -/
def statements (stmt : Parser Stmt) : Parser (List Stmt) :=
  repeatFrom [] fun body => do
    match ← peek with
    | .eof => return .inr body.reverse
    | .newline => do advance; return .inl body
    | _ => return .inl ((← stmt) :: body)

/-- Parses the tokens of a whole text, in which interpolated strings nest less deep than
`nesting`. -/
def programTokens (nesting : Nat) (tokens : List Token) : Except ParseError (List Stmt) :=
  let expr := exprAt (fieldExpr nesting) tokens.length
  parseTokens tokens (statements (stmtAt expr tokens.length))

end Tilde.Parser

namespace Tilde

/-- Parses a source text. -/
def parse (source : String) (mode : Mode) : Except SyntaxError Program :=
  match tokenize source with
  | .error e => .error (.lex e)
  | .ok tokens =>
    match Parser.programTokens source.length tokens with
    | .error e => .error (.parse e)
    | .ok body => .ok ⟨body, mode⟩

end Tilde
