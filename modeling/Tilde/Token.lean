import Tilde.Template

/-!
# Tokens

What a source text consists of once blanks and comments are gone. Line ends and changes of
indentation are tokens of their own, since they delimit statements and blocks.

Every token has its position: lines and columns count from one, and a column counts characters.
-/

namespace Tilde

/-- A place in a source text. -/
structure Pos where
  line : Nat
  column : Nat
  deriving DecidableEq, Repr, Inhabited

namespace Pos

/-- The place of the first character. -/
def start : Pos := ⟨1, 1⟩

/-- The place after a character. -/
def next (p : Pos) (c : Char) : Pos :=
  if c = '\n' then ⟨p.line + 1, 1⟩ else ⟨p.line, p.column + 1⟩

/-- The tail of a message about this place. -/
def text (p : Pos) : String := s!"at line {p.line}, column {p.column}"

end Pos

/-- A bracket, separator or operator. -/
inductive Symbol where
  | openParen | closeParen | openBracket | closeBracket
  | comma | colon | dot | assign
  | plus | minus | star | doubleSlash | percent | tilde
  | equal | notEqual | less | lessEqual | greater | greaterEqual
  deriving DecidableEq, Repr

/-- The spelling of a symbol. -/
def Symbol.text : Symbol → String
  | openParen => "("
  | closeParen => ")"
  | openBracket => "["
  | closeBracket => "]"
  | comma => ","
  | colon => ":"
  | dot => "."
  | assign => "="
  | plus => "+"
  | minus => "-"
  | star => "*"
  | doubleSlash => "//"
  | percent => "%"
  | tilde => "~"
  | equal => "=="
  | notEqual => "!="
  | less => "<"
  | lessEqual => "<="
  | greater => ">"
  | greaterEqual => ">="

/-- What a token is. -/
inductive Lexeme where
  | word (text : String)
  | int (value : Int64)
  | str (text : String)
  | template (pieces : List Template.Piece)
  | symbol (s : Symbol)
  /-- The end of a logical line. -/
  | newline
  | indent
  | dedent
  | eof
  deriving DecidableEq, Repr

/-- A token with the place of its first character. -/
structure Token where
  lexeme : Lexeme
  pos : Pos
  deriving DecidableEq, Repr

/-- Whether the token is a line end or a change of indentation: after one of them a line end says
nothing new. -/
def Lexeme.isLayout : Lexeme → Bool
  | newline | indent | dedent => true
  | _ => false

end Tilde
