import Tilde.Program
import Tilde.Token.Lexer

/-!
# Parsers

A parser reads from the front of a list of tokens and either fails at a place or gives a result and
the tokens left. Every repetition of the grammar goes through one loop, `Parser.repeatFrom`, whose
bound is the number of tokens of the whole text: rounds that read a token each cannot run it out.
-/

namespace Tilde

/-- The words that cannot name a variable. -/
def keywords : List String :=
  ["if", "elif", "else", "for", "in", "while", "try", "except", "as", "pass", "break",
    "continue", "assert", "and", "or", "not", "True", "False", "None"]

/-- Whether the word is a keyword. -/
def isKeyword (word : String) : Bool := keywords.contains word

/-- How a message names a token. -/
def Lexeme.describe : Lexeme → String
  | word text => if isKeyword text then s!"keyword '{text}'" else s!"name '{text}'"
  | int value => s!"integer {value.toInt}"
  | str _ => "string literal"
  | template _ => "f-string"
  | symbol s => s!"'{s.text}'"
  | newline => "end of line"
  | indent => "indent"
  | dedent => "dedent"
  | eof => "end of input"

/-- What an expression that cannot be assigned to is. -/
inductive Unassignable where
  | starred
  | call
  | attribute
  | subscript
  | literal
  | expression
  deriving DecidableEq, Repr

/-- How a message names it. -/
def Unassignable.text : Unassignable → String
  | starred => "starred expression"
  | call => "function call"
  | .attribute => "attribute"
  | subscript => "subscript"
  | literal => "literal"
  | expression => "expression"

/-- Why tokens make no program. -/
inductive ParseFault where
  | unexpectedToken (found : Lexeme) (expected : String)
  | unexpectedEnd
  | invalidTarget (what : Unassignable)
  | multipleStarred
  | misplacedStar
  | positionalAfterKeyword
  /-- The text of a field cannot be cut into tokens. -/
  | fieldTokens (fault : LexFault)
  /-- The text of a field is no expression. -/
  | field (fault : ParseFault)
  /-- The bound on nesting or on repetition was reached. It exceeds what the text can hold. -/
  | tooDeep
  deriving DecidableEq, Repr

/-- The message of a fault. -/
def ParseFault.message : ParseFault → String
  | unexpectedToken found expected => s!"unexpected {found.describe}, expected {expected}"
  | unexpectedEnd => "unexpected end of input"
  | invalidTarget what => s!"cannot assign to {what.text}"
  | multipleStarred => "multiple starred expressions in assignment"
  | misplacedStar => "starred expression is only allowed as an assignment target"
  | positionalAfterKeyword => "positional argument follows keyword argument"
  | fieldTokens fault => s!"f-string: {fault.message}"
  | field fault => s!"f-string: {fault.message}"
  | tooDeep => "nesting is too deep"

/-- A fault and the place it is reported at. -/
structure ParseError where
  fault : ParseFault
  pos : Pos
  deriving DecidableEq, Repr

/-- Why a source text is no program. -/
inductive SyntaxError where
  | lex (error : LexError)
  | parse (error : ParseError)
  deriving DecidableEq, Repr

namespace SyntaxError

/-- The place an error is reported at. -/
def pos : SyntaxError → Pos
  | lex e => e.pos
  | parse e => e.pos

/-- The message of an error, with its place. -/
def message : SyntaxError → String
  | lex e => e.message
  | parse e => s!"{e.fault.message} {e.pos.text}"

/-- Whether the text ended before a construct was complete, so that more text could mend it. -/
def isIncomplete : SyntaxError → Bool
  | lex e => e.isIncomplete
  | parse e => e.fault == .unexpectedEnd

end SyntaxError

/-- A parser: from tokens to a result and the tokens left, or to an error. It knows how many tokens
the whole text has. -/
abbrev Parser := ReaderT Nat (StateT (List Token) (Except ParseError))

namespace Parser

/-- The token at the front. A list that is used up reads as the end of the text. -/
def frontToken (tokens : List Token) : Token :=
  tokens.headD ⟨.eof, ⟨0, 0⟩⟩

/-- The token at the front. -/
def peekToken : Parser Token := return frontToken (← get)

/-- What the token at the front is. -/
def peek : Parser Lexeme := return (← peekToken).lexeme

/-- What the token after the front one is. -/
def peekSecond : Parser Lexeme := return (frontToken ((← get).drop 1)).lexeme

/-- Reads the front token. -/
def advance : Parser Unit := modify (·.drop 1)

/-- Fails at the front token. -/
def failHere {α : Type} (fault : ParseFault) : Parser α := do
  throw ⟨fault, (← peekToken).pos⟩

/-- Fails because the front token is not what was expected. -/
def unexpected {α : Type} (expected : String) : Parser α := do
  let found ← peek
  if found = .eof then failHere .unexpectedEnd else failHere (.unexpectedToken found expected)

/-- Reads the front token if it is this one, and says whether it was. -/
def accept (lexeme : Lexeme) : Parser Bool := do
  if (← peek) = lexeme then
    advance
    return true
  else return false

/-- Reads this symbol if it is at the front. -/
def acceptSymbol (s : Symbol) : Parser Bool := accept (.symbol s)

/-- Reads this word if it is at the front. -/
def acceptWord (word : String) : Parser Bool := accept (.word word)

/-- Reads this token, or fails. -/
def expect (lexeme : Lexeme) (expected : String) : Parser Unit := do
  if ← accept lexeme then return () else unexpected expected

/-- Reads a name, or fails. -/
def name : Parser String := do
  match ← peek with
  | .word text => if isKeyword text then unexpected "a name" else do advance; return text
  | _ => unexpected "a name"

/-- Repeats `round` at most `bound` times, until it gives a result instead of a new start. -/
def repeatUpTo {α β : Type} (round : α → Parser (α ⊕ β)) : Nat → α → Parser β
  | 0, _ => failHere .tooDeep
  | bound + 1, a => do
    match ← round a with
    | .inl a => repeatUpTo round bound a
    | .inr b => return b

/-- Repeats `round` until it gives a result. Each round but the last has to read a token. -/
def repeatFrom {α β : Type} (start : α) (round : α → Parser (α ⊕ β)) : Parser β := do
  repeatUpTo round ((← read) + 1) start

/-- Parses a whole list of tokens. -/
def parseTokens {α : Type} (tokens : List Token) (p : Parser α) : Except ParseError α :=
  (p.run tokens.length).run' tokens

end Parser

end Tilde
