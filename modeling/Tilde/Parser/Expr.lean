import Tilde.Parser.Basic

/-!
# Parsing expressions

From loosest to tightest: `or`, `and`, `not`, one comparison, `+ -`, `* // %`, the operators in
front of an operand, and calls, attributes and subscripts. Operators between operands group to the
left; comparisons do not chain.

Every level is a parser made from the parsers for what stands inside brackets (`Inner`). The
recursion is closed once, in `Parser.exprAt`, on a bound for the depth of brackets, which the number
of tokens exceeds. The text of a field of an interpolated string is cut into tokens and parsed by
the same grammar; that recursion is closed in `Parser.fieldExpr` on a bound for the nesting of
interpolated strings, which the length of the text exceeds.
-/

namespace Tilde.Parser

/-- What may stand inside brackets: a whole expression, or only an operand, as after a star. -/
inductive Level where
  | full
  | operand
  deriving DecidableEq, Repr

/-- Parsers for what stands inside brackets. -/
abbrev Inner := Level → Parser Expr

/-- A parser for the text of a field. -/
abbrev FieldParser := String → Except ParseFault Expr

/-- The parts of an interpolated string, its fields parsed. -/
def parts (field : FieldParser) : List Template.Piece → Except ParseFault (List Part)
  | [] => .ok []
  | .literal text :: pieces => return .literal text :: (← parts field pieces)
  | .field source spec :: pieces => do
    let e ← field source
    return .field e spec :: (← parts field pieces)

/-- An expression, or a starred operand. -/
def starOrExpr (inner : Inner) : Parser Expr := do
  if ← acceptSymbol .star then return .star (← inner .operand) else inner .full

/-- Whether a list of expressions ends before this token. -/
def endsList : Lexeme → Bool
  | .symbol .assign | .newline | .eof | .symbol .closeParen | .symbol .closeBracket
  | .symbol .colon => true
  | _ => false

/-- One or more expressions with commas between. A comma makes a tuple, and one may follow the
last item. -/
def exprList (inner : Inner) : Parser Expr := do
  let first ← starOrExpr inner
  if (← peek) ≠ .symbol .comma then return first
  else
    repeatFrom [first] fun items => do
      if ← acceptSymbol .comma then
        if endsList (← peek) then return .inr (.tuple items.reverse)
        else return .inl ((← starOrExpr inner) :: items)
      else return .inr (.tuple items.reverse)

/-- The items of a list, up to its closing bracket. -/
def listItems (inner : Inner) : Parser (List Expr) :=
  repeatFrom [] fun items => do
    if (← peek) = .symbol .closeBracket then return .inr items.reverse
    else
      let items := (← starOrExpr inner) :: items
      if ← acceptSymbol .comma then return .inl items else return .inr items.reverse

/-- The string literals that follow a string literal, joined to it. -/
def adjacentStrings (text : String) : Parser String :=
  repeatFrom text fun text => do
    match ← peek with
    | .str more =>
      advance
      return .inl (text ++ more)
    | _ => return .inr text

/-- A name, a constant, a literal, or something in brackets. -/
def atom (field : FieldParser) (inner : Inner) : Parser Expr := do
  let token ← peekToken
  match token.lexeme with
  | .word "True" => do advance; return .bool true
  | .word "False" => do advance; return .bool false
  | .word "None" => do advance; return .none
  | .word text =>
    if isKeyword text then unexpected "an expression"
    else do advance; return .name text
  | .str text => do advance; return .str (← adjacentStrings text)
  | .template pieces =>
    advance
    match parts field pieces with
    | .ok parts => return .template parts
    | .error fault => throw ⟨fault, token.pos⟩
  | .symbol .openParen =>
    advance
    if ← acceptSymbol .closeParen then return .tuple []
    else
      let e ← exprList inner
      expect (.symbol .closeParen) "')'"
      return e
  | .symbol .openBracket =>
    advance
    let items ← listItems inner
    expect (.symbol .closeBracket) "']'"
    return .list items
  | .int value => do advance; return .int value
  | _ => unexpected "an expression"

/-- Whether a keyword argument is at the front. -/
def atKeyword : Parser Bool := do
  match ← peek with
  | .word text => return !isKeyword text && (← peekSecond) = .symbol .assign
  | _ => return false

/-- The arguments of a call, up to the closing bracket: first those given by position, then those
given by name. -/
def arguments (inner : Inner) : Parser (List Expr × List Keyword) :=
  repeatFrom ([], []) fun (args, keywords) => do
    let done : Parser ((List Expr × List Keyword) ⊕ (List Expr × List Keyword)) :=
      return .inr (args.reverse, keywords.reverse)
    if (← peek) = .symbol .closeParen then done
    else
      let next ←
        if ← atKeyword then do
          let key ← name
          advance
          pure (args, .mk key (← inner .full) :: keywords)
        else if !keywords.isEmpty then failHere .positionalAfterKeyword
        else pure ((← inner .full) :: args, keywords)
      if ← acceptSymbol .comma then return .inl next
      else return .inr (next.1.reverse, next.2.reverse)

/-- An atom with the calls, attributes and subscripts that follow it. -/
def operand (field : FieldParser) (inner : Inner) : Parser Expr := do
  repeatFrom (← atom field inner) fun e => do
    match ← peek with
    | .symbol .openParen =>
      advance
      let (args, keywords) ← arguments inner
      expect (.symbol .closeParen) "')'"
      return .inl (.call e args keywords)
    | .symbol .dot =>
      advance
      match ← peek with
      | .word text =>
        advance
        return .inl (.attribute e text)
      | _ => unexpected "an attribute name"
    | .symbol .openBracket =>
      advance
      let index ← inner .full
      expect (.symbol .closeBracket) "']'"
      return .inl (.subscript e index)
    | _ => return .inr e

/-- Operators in front of an operand; the last one applies first. -/
def unaryLevel (op? : Lexeme → Option UnaryOp) (next : Parser Expr) : Parser Expr := do
  let ops ← repeatFrom [] fun ops => do
    match op? (← peek) with
    | some op =>
      advance
      return .inl (op :: ops)
    | none => return .inr ops
  return ops.foldl (fun e op => .unary op e) (← next)

/-- Operands with operators between, grouped to the left. -/
def leftLevel (op? : Lexeme → Option (Expr → Expr → Expr)) (next : Parser Expr) :
    Parser Expr := do
  repeatFrom (← next) fun left => do
    match op? (← peek) with
    | some op =>
      advance
      return .inl (op left (← next))
    | none => return .inr left

/-- The operators that stand in front of an operand. -/
def signOp? : Lexeme → Option UnaryOp
  | .symbol .minus => some .neg
  | .symbol .tilde => some .invert
  | _ => none

/-- The operators that bind like a product. -/
def termOp? : Lexeme → Option (Expr → Expr → Expr)
  | .symbol .star => some (.binary .mul)
  | .symbol .doubleSlash => some (.binary .floorDiv)
  | .symbol .percent => some (.binary .mod)
  | _ => none

/-- The operators that bind like a sum. -/
def sumOp? : Lexeme → Option (Expr → Expr → Expr)
  | .symbol .plus => some (.binary .add)
  | .symbol .minus => some (.binary .sub)
  | _ => none

/-- The negation of a condition. -/
def notOp? : Lexeme → Option UnaryOp
  | .word "not" => some .not
  | _ => none

/-- The connective `and`. -/
def andOp? : Lexeme → Option (Expr → Expr → Expr)
  | .word "and" => some (.logical .and)
  | _ => none

/-- The connective `or`. -/
def orOp? : Lexeme → Option (Expr → Expr → Expr)
  | .word "or" => some (.logical .or)
  | _ => none

/-- The comparison that two tokens start, and how many of them it takes. -/
def comparison? : Lexeme → Lexeme → Option (Comparison × Nat)
  | .symbol .equal, _ => some (.eq, 1)
  | .symbol .notEqual, _ => some (.ne, 1)
  | .symbol .less, _ => some (.lt, 1)
  | .symbol .lessEqual, _ => some (.le, 1)
  | .symbol .greater, _ => some (.gt, 1)
  | .symbol .greaterEqual, _ => some (.ge, 1)
  | .word "in", _ => some (.isIn, 1)
  | .word "not", .word "in" => some (.notIn, 2)
  | _, _ => none

/-- One operand, or two with a comparison between. -/
def comparisonLevel (next : Parser Expr) : Parser Expr := do
  let left ← next
  match comparison? (← peek) (← peekSecond) with
  | some (op, width) =>
    modify (·.drop width)
    return .compare op left (← next)
  | none => return left

/-- A whole expression, from the parsers for what stands inside brackets. -/
def expression (field : FieldParser) (inner : Inner) : Parser Expr :=
  operand field inner |> unaryLevel signOp? |> leftLevel termOp? |> leftLevel sumOp?
    |> comparisonLevel |> unaryLevel notOp? |> leftLevel andOp? |> leftLevel orOp?

/-- Parses an expression or an operand whose brackets nest less deep than the bound. -/
def exprAt (field : FieldParser) : Nat → Level → Parser Expr
  | 0, _ => failHere .tooDeep
  | bound + 1, .full => expression field (exprAt field bound)
  | bound + 1, .operand => operand field (exprAt field bound)

/-- Parses the tokens of a field, all of which have to be used up. -/
def fieldTokens (field : FieldParser) (tokens : List Token) : Except ParseError Expr :=
  parseTokens tokens do
    let e ← exprList (exprAt field tokens.length)
    let _ ← accept .newline
    if (← peek) = .eof then return e else unexpected "'\x7d'"

/-- Parses the text of a field in which interpolated strings nest less deep than the bound. -/
def fieldExpr : Nat → FieldParser
  | 0, _ => .error .tooDeep
  | bound + 1, source =>
    match tokenize (Text.trim source) with
    | .error e => .error (.fieldTokens e.fault)
    | .ok tokens =>
      match fieldTokens (fieldExpr bound) tokens with
      | .error e => .error (.field e.fault)
      | .ok e => .ok e

end Tilde.Parser
