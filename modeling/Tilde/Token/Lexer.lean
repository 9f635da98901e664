import Tilde.Token
import Tilde.Text.Letter
import Tilde.Text.Printable

/-!
# Reading tokens

The lexer is an automaton that is fed one character at a time. Its state is what a reader has to
remember: the place, the widths of the open indentations, the number of open brackets, the tokens
so far, and what is being read at the moment (`Mode`). A token whose end shows only at the next
character, such as a word, stays in the mode until that character comes; the character is then read
afresh.

At the start of a line outside brackets the automaton measures the margin. Blank lines and comment
lines leave no trace; the first character of code turns the width of its margin into indentation
tokens.
-/

namespace Tilde

/-- Why a text cannot be cut into tokens. -/
inductive LexFault where
  | unterminatedString
  | badTemplate (fault : Template.Fault)
  | unexpectedCharacter (c : Char)
  | integerOverflow
  | inconsistentDedent
  | danglingContinuation
  | unclosedBracket
  deriving DecidableEq, Repr

/-- The message of a fault. -/
def LexFault.message : LexFault → String
  | unterminatedString => "unterminated string literal"
  | badTemplate fault => fault.message
  | unexpectedCharacter c => s!"unexpected character {Text.escapedChar c}"
  | integerOverflow => "integer literal is too large"
  | inconsistentDedent => "unindent does not match any outer indentation level"
  | danglingContinuation => "unexpected end of input after line continuation"
  | unclosedBracket => "unclosed bracket"

/-- A fault and the place it is reported at. -/
structure LexError where
  fault : LexFault
  pos : Pos
  deriving DecidableEq, Repr

namespace LexError

/-- The message of an error, with its place. -/
def message (e : LexError) : String := s!"{e.fault.message} {e.pos.text}"

/-- Whether more text could still mend the error. -/
def isIncomplete (e : LexError) : Bool :=
  match e.fault with
  | .danglingContinuation | .unclosedBracket => true
  | _ => false

end LexError

namespace Lexer

/-- A string literal being read: the place of its first character, which for an interpolated string
is that of the letter in front, the place of its opening quote, and the characters so far, the last
of them first. -/
structure Literal where
  start : Pos
  opened : Pos
  interpolated : Bool
  quote : Char
  text : List Char := []
  /-- A backslash has been read and its character is due. -/
  escaping : Bool := false

/-- What the lexer is reading. -/
inductive Mode where
  /-- The margin of a line outside brackets, `width` columns wide so far. -/
  | margin (width : Nat)
  /-- A comment that runs to the line end, alone on its line or after code. -/
  | comment (alone : Bool)
  /-- Between two tokens. -/
  | code
  | word (start : Pos) (text : List Char)
  | number (start : Pos) (value : Nat)
  /-- A character that may be the first half of a symbol. -/
  | operator (start : Pos) (c : Char)
  | literal (l : Literal)
  /-- After a backslash at the place `start`, and perhaps a carriage return. -/
  | continuation (start : Pos) (seenReturn : Bool)

/-- The state of the lexer. -/
structure State where
  pos : Pos := .start
  /-- The widths of the open indentations, the innermost first, the margin zero left out. -/
  indents : List Nat := []
  /-- The number of open brackets. -/
  depth : Nat := 0
  /-- The tokens so far, the last of them first. -/
  tokens : List Token := []
  mode : Mode := .margin 0

namespace State

/-- Adds a token and goes on between tokens. -/
def push (s : State) (lexeme : Lexeme) (pos : Pos) : State :=
  { s with tokens := ⟨lexeme, pos⟩ :: s.tokens, mode := .code }

/-- Ends a logical line, unless nothing has been read since the last layout token. -/
def pushNewline (s : State) (pos : Pos) : State :=
  match s.tokens with
  | [] => s
  | t :: _ => if t.lexeme.isLayout then s else s.push .newline pos

end State

/-- Adds a dedent for every open indentation wider than `width`. -/
def closeIndents (width : Nat) (pos : Pos) : List Nat → List Token → List Nat × List Token
  | [], tokens => ([], tokens)
  | w :: ws, tokens =>
    if width < w then closeIndents width pos ws (⟨.dedent, pos⟩ :: tokens) else (w :: ws, tokens)

namespace State

/-- Turns the width of a margin into indentation tokens. -/
def applyMargin (s : State) (width : Nat) : Except LexError State :=
  if s.indents.headD 0 < width then
    .ok { s.push .indent s.pos with indents := width :: s.indents }
  else
    let (indents, tokens) := closeIndents width s.pos s.indents s.tokens
    if indents.headD 0 = width then .ok { s with indents, tokens, mode := .code }
    else .error ⟨.inconsistentDedent, s.pos⟩

end State

/-- Whether a word may start with the character. -/
def isWordStart (c : Char) : Bool := Text.isAlphabetic c || c == '_'

/-- Whether a word may go on with the character. -/
def isWordChar (c : Char) : Bool := Text.isAlphanumeric c || c == '_'

/-- Whether the character opens a string literal. -/
def isQuote (c : Char) : Bool := c == '\'' || c == '"'

/-- The symbol that a character makes whatever follows it. -/
def loneSymbol? : Char → Option Symbol
  | '(' => some .openParen
  | ')' => some .closeParen
  | '[' => some .openBracket
  | ']' => some .closeBracket
  | ',' => some .comma
  | ':' => some .colon
  | '.' => some .dot
  | '+' => some .plus
  | '-' => some .minus
  | '*' => some .star
  | '%' => some .percent
  | '~' => some .tilde
  | _ => none

/-- Whether the character may be the first half of a symbol. -/
def startsPair (c : Char) : Bool := ['/', '=', '!', '<', '>'].contains c

/-- The symbol that two characters make together. -/
def pairSymbol? : Char → Char → Option Symbol
  | '/', '/' => some .doubleSlash
  | '=', '=' => some .equal
  | '!', '=' => some .notEqual
  | '<', '=' => some .lessEqual
  | '>', '=' => some .greaterEqual
  | _, _ => none

/-- The symbol that the first half of a pair makes alone. -/
def halfSymbol? : Char → Option Symbol
  | '=' => some .assign
  | '<' => some .less
  | '>' => some .greater
  | _ => none

/-- The number of open brackets after a symbol. A closing bracket too many changes nothing. -/
def depthAfter (depth : Nat) : Symbol → Nat
  | .openParen | .openBracket => depth + 1
  | .closeParen | .closeBracket => depth - 1
  | _ => depth

/-- What the character after a backslash stands for, the last character first. A line end vanishes,
and an unknown escape keeps its backslash. -/
def unescape : Char → List Char
  | 'n' => ['\n']
  | 't' => ['\t']
  | 'r' => ['\r']
  | '0' => ['\x00']
  | '\n' => []
  | '\\' => ['\\']
  | '\'' => ['\'']
  | '"' => ['"']
  | c => [c, '\\']

namespace State

/-- Reads the first character of a symbol. -/
def operator (s : State) (c : Char) : Except LexError State :=
  match loneSymbol? c with
  | some symbol =>
    .ok { s.push (.symbol symbol) s.pos with depth := depthAfter s.depth symbol }
  | none =>
    if startsPair c then .ok { s with mode := .operator s.pos c }
    else .error ⟨.unexpectedCharacter c, s.pos⟩

/-- Reads a character between two tokens. -/
def code (s : State) (c : Char) : Except LexError State :=
  if c == ' ' || c == '\t' || c == '\r' || c == '\x0c' then .ok { s with mode := .code }
  else if c == '#' then .ok { s with mode := .comment false }
  else if c == '\\' then .ok { s with mode := .continuation s.pos false }
  else if c == '\n' then
    if s.depth = 0 then .ok { s.pushNewline s.pos with mode := .margin 0 }
    else .ok { s with mode := .code }
  else if isQuote c then
    .ok { s with mode := .literal ⟨s.pos, s.pos, false, c, [], false⟩ }
  else if isWordStart c then .ok { s with mode := .word s.pos [c] }
  else if Text.isAsciiDigit c then .ok { s with mode := .number s.pos (c.toNat - '0'.toNat) }
  else s.operator c

/-- Ends the token that the next character does not continue. -/
def endToken (s : State) : Except LexError State :=
  match s.mode with
  | .word start text => .ok (s.push (.word (String.ofList text.reverse)) start)
  | .number start value =>
    if value ≤ Int64.maxValue.toInt then .ok (s.push (.int (Int64.ofNat value)) start)
    else .error ⟨.integerOverflow, start⟩
  | .operator start c =>
    match halfSymbol? c with
    | some symbol => .ok (s.push (.symbol symbol) start)
    | none => .error ⟨.unexpectedCharacter c, start⟩
  | _ => .ok s

/-- Ends a string literal at its closing quote. -/
def endLiteral (s : State) (l : Literal) : Except LexError State :=
  if l.interpolated then
    match Template.split l.text.reverse with
    | .ok pieces => .ok (s.push (.template pieces) l.start)
    | .error fault => .error ⟨.badTemplate fault, l.start⟩
  else .ok (s.push (.str (String.ofList l.text.reverse)) l.start)

/-- Reads a character of a string literal. -/
def literal (s : State) (l : Literal) (c : Char) : Except LexError State :=
  if l.escaping then
    .ok { s with mode := .literal { l with text := unescape c ++ l.text, escaping := false } }
  else if c == '\n' then .error ⟨.unterminatedString, l.opened⟩
  else if c == '\\' then .ok { s with mode := .literal { l with escaping := true } }
  else if c == l.quote then s.endLiteral l
  else .ok { s with mode := .literal { l with text := c :: l.text } }

/-- Reads a character in the margin of a line. A tab goes to the next multiple of eight. -/
def margin (s : State) (width : Nat) (c : Char) : Except LexError State :=
  if c == ' ' then .ok { s with mode := .margin (width + 1) }
  else if c == '\t' then .ok { s with mode := .margin ((width / 8 + 1) * 8) }
  else if c == '\r' || c == '\x0c' then .ok s
  else if c == '\n' then .ok { s with mode := .margin 0 }
  else if c == '#' then .ok { s with mode := .comment true }
  else (s.applyMargin width).bind (·.code c)

/-- Reads a character without moving on in the text. -/
def step (s : State) (c : Char) : Except LexError State :=
  match s.mode with
  | .margin width => s.margin width c
  | .comment alone =>
    if c == '\n' then
      if alone then .ok { s with mode := .margin 0 } else s.code c
    else .ok s
  | .code => s.code c
  | .word start text =>
    if isWordChar c then .ok { s with mode := .word start (c :: text) }
    else if isQuote c && (text == ['f'] || text == ['F']) then
      .ok { s with mode := .literal ⟨start, s.pos, true, c, [], false⟩ }
    else s.endToken.bind (·.code c)
  | .number start value =>
    if Text.isAsciiDigit c then
      .ok { s with mode := .number start (10 * value + (c.toNat - '0'.toNat)) }
    else if c == '_' then .ok s
    else s.endToken.bind (·.code c)
  | .operator start first =>
    match pairSymbol? first c with
    | some symbol => .ok (s.push (.symbol symbol) start)
    | none => s.endToken.bind (·.code c)
  | .literal l => s.literal l c
  | .continuation start seenReturn =>
    if c == '\n' then .ok { s with mode := .code }
    else if c == '\r' && !seenReturn then .ok { s with mode := .continuation start true }
    else .error ⟨.unexpectedCharacter '\\', start⟩

/-- Reads a character and moves on. -/
def feed (s : State) (c : Char) : Except LexError State :=
  (s.step c).map fun t => { t with pos := s.pos.next c }

/-- Ends the text: whatever is being read has to be complete, the brackets have to be closed, and
the open line and the open indentations are closed by tokens. -/
def finish (s : State) : Except LexError (List Token) :=
  match s.mode with
  | .literal l => .error ⟨.unterminatedString, l.opened⟩
  | .continuation start _ => .error ⟨.danglingContinuation, start⟩
  | _ => do
    let s ← s.endToken
    if s.depth > 0 then .error ⟨.unclosedBracket, s.pos⟩
    else
      let s := s.pushNewline s.pos
      let dedents := List.replicate s.indents.length ⟨.dedent, s.pos⟩
      .ok (s.tokens.reverse ++ dedents ++ [⟨.eof, s.pos⟩])

end State
end Lexer

/-- The tokens of a source text. -/
def tokenize (source : String) : Except LexError (List Token) := do
  let s ← source.toList.foldlM Lexer.State.feed {}
  s.finish

end Tilde
