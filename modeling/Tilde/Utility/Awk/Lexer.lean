import Tilde.Unix.Decimal
import Tilde.Utility.Awk.Syntax
import Tilde.Utility.Tool

/-!
# The tokens of awk programs

A slash begins a pattern where no operand stands before it. Parentheses and braces are counted, so
that one that is missing is told where it should have been.
-/

namespace Tilde.Utility.Awk

open Unix (Bytes)

/-- A token. -/
inductive Token where
  | number (x : Float) (text : Bytes)
  | text (s : Bytes)
  | regex (s : Bytes)
  | name (s : Bytes)
  /-- A name right before a parenthesis. -/
  | called (s : Bytes)
  | builtin (b : Builtin) (s : Bytes)
  | keyword (s : Bytes)
  | op (s : Bytes)
  | newline
  | eof
  /-- What is no token: the message about it. -/
  | bad (message : Bytes)
  /-- A character that begins no token. -/
  | strange (c : Char)
  deriving Inhabited

/-- A token and the line it is on. -/
structure Located where
  token : Token
  line : Nat
  deriving Inhabited

namespace Token

/-- The token in a message. -/
def shown : Token → Bytes
  | number _ s | text s | name s | called s | builtin _ s | keyword s | op s => s
  | regex s => "/" ++ s ++ "/"
  | newline => "end of line"
  | eof => "end of file"
  | bad m => m
  | strange c => String.singleton c

/-- Whether a token may end an operand, so that a slash after it divides. -/
def endsOperand : Token → Bool
  | number .. | text _ | regex _ | name _ | builtin .. => true
  | op s => [")", "]", "$", "++", "--"].contains s
  | _ => false

end Token

/-- Whether a character may begin a name. -/
def startsName (c : Char) : Bool := c.isAlpha || c == '_'

/-- Whether a character may stand in a name. -/
def inName (c : Char) : Bool := c.isAlphanum || c == '_'

/-- A text with what its backslashes stand for. -/
def unescape : (bound : Nat) → List Char → List Char
  | 0, cs => cs
  | _, [] => []
  | bound + 1, '\\' :: c :: cs =>
    let put (d : Char) : List Char := d :: unescape bound cs
    match c with
    | 'n' => put '\n'
    | 't' => put '\t'
    | 'a' => put '\x07'
    | 'b' => put '\x08'
    | 'f' => put '\x0C'
    | 'r' => put '\r'
    | 'v' => put '\x0B'
    | '\\' => put '\\'
    | '"' => put '"'
    | 'x' =>
      let digits := (cs.take 2).takeWhile (Unix.hexValue · < 16)
      if digits.isEmpty then '\\' :: 'x' :: unescape bound cs
      else
        let n := digits.foldl (fun n c => 16 * n + Unix.hexValue c) 0
        Char.ofNat n :: unescape bound (cs.drop digits.length)
    | c =>
      if '0' ≤ c && c ≤ '7' then
        let digits := ((c :: cs).take 3).takeWhile fun c => '0' ≤ c && c ≤ '7'
        let n := digits.foldl (fun n c => 8 * n + (c.toNat - 48)) 0
        Char.ofNat (n % 256) :: unescape bound ((c :: cs).drop digits.length)
      else '\\' :: c :: unescape bound cs
  | bound + 1, c :: cs => c :: unescape bound cs

/-- A text with what its backslashes stand for. -/
def unescaped (s : Bytes) : Bytes := String.ofList (unescape (s.length + 1) s.toList)

/-- Reads a text up to its quote. The lines that a backslash joins are counted. -/
def readText : (bound : Nat) → (acc : List Char) → (lines : Nat) → List Char →
    Option (List Char × Nat × List Char)
  | 0, _, _, _ | _, _, _, [] => none
  | bound + 1, acc, lines, c :: cs =>
    match c, cs with
    | '"', _ => some (acc.reverse, lines, cs)
    | '\n', _ => none
    | '\\', '\n' :: cs => readText bound acc (lines + 1) cs
    | '\\', e :: cs => readText bound (e :: '\\' :: acc) lines cs
    | c, cs => readText bound (c :: acc) lines cs

/-- Reads a pattern up to its slash. A slash in brackets belongs to it. -/
def readRegex : (bound : Nat) → (acc : List Char) → (inSet : Bool) → List Char →
    Option (List Char × List Char)
  | 0, _, _, _ | _, _, _, [] => none
  | bound + 1, acc, inSet, c :: cs =>
    match c, cs with
    | '\n', _ => none
    | '\\', '/' :: cs => readRegex bound ('/' :: acc) inSet cs
    | '\\', e :: cs => readRegex bound (e :: '\\' :: acc) inSet cs
    | '/', _ => if inSet then readRegex bound ('/' :: acc) inSet cs else some (acc.reverse, cs)
    | '[', '^' :: ']' :: cs => if inSet then readRegex bound (']' :: '^' :: '[' :: acc) true cs
        else readRegex bound (']' :: '^' :: '[' :: acc) true cs
    | '[', ']' :: cs => if inSet then readRegex bound ('[' :: acc) inSet (']' :: cs)
        else readRegex bound (']' :: '[' :: acc) true cs
    | '[', cs => readRegex bound ('[' :: acc) true cs
    | ']', cs => readRegex bound (']' :: acc) false cs
    | c, cs => readRegex bound (c :: acc) inSet cs

/-- The operators, the longer ones first. -/
def operators : List Bytes :=
  ["&&", "||", "==", "<=", ">=", "!=", "++", "--", "+=", "-=", "*=", "/=",
  "%=", "^=", "!~", ">>", "\x7b", "\x7d", "(", ")", "[", "]", ";", ",", "+", "-", "*", "/", "%",
  "^", "!", "<", ">", "|", "?", ":", "~", "$", "="]

/-- The operator at the front of a text. -/
def operator? (cs : List Char) : Option Bytes :=
  operators.find? fun o => o.toList.isPrefixOf cs

/-- The number at the front of a text: digits with a point, and a power of ten. -/
def numeral (cs : List Char) : List Char :=
  let whole := cs.takeWhile Char.isDigit
  let rest := cs.drop whole.length
  let fraction := match rest with
    | '.' :: more => '.' :: more.takeWhile Char.isDigit
    | _ => []
  let rest := rest.drop fraction.length
  let mark := rest.take 1
  let sign := (rest.drop 1).takeWhile fun c => c == '+' || c == '-'
  let power := (rest.drop (1 + sign.length)).takeWhile Char.isDigit
  let hasPower := (mark == ['e'] || mark == ['E']) && sign.length < 2 && !power.isEmpty
  whole ++ fraction ++ (if hasPower then mark ++ sign ++ power else [])

/-- How many parentheses and braces are open. -/
structure Open where
  parens : Nat := 0
  braces : Nat := 0

/-- Takes a program into tokens. -/
def tokens : (bound : Nat) → Open → (line : Nat) → (previous : Token) → List Char → List Located
  | 0, _, line, _, _ => [⟨.eof, line⟩]
  | _ + 1, o, line, previous, [] =>
    let isNew := match previous with
      | .newline => true
      | _ => false
    let last := if isNew then line else line + 1
    if 0 < o.parens && !isNew then [⟨.bad "missing ) near end of line", line⟩]
    else if 0 < o.braces then [⟨.newline, line⟩, ⟨.bad "missing \x7d near end of file", last⟩]
    else [⟨.newline, line⟩, ⟨.eof, last⟩]
  | bound + 1, o, line, previous, c :: cs =>
    let put (t : Token) (rest : List Char) : List Located := ⟨t, line⟩ :: tokens bound o line t rest
    if c == ' ' || c == '\t' || c == '\r' || c == '\x0C' || c == '\x0B' then
      tokens bound o line previous cs
    else if c == '#' then tokens bound o line previous (cs.dropWhile (· != '\n'))
    else if c == '\n' then
      if 0 < o.parens then [⟨.bad "missing ) near end of line", line⟩]
      else ⟨.newline, line⟩ :: tokens bound o (line + 1) .newline cs
    else if c == '\\' && cs.head? == some '\n' then
      tokens bound o (line + 1) previous (cs.drop 1)
    else if c == '\\' && cs.take 2 == ['\r', '\n'] then
      tokens bound o (line + 1) previous (cs.drop 2)
    else if c == '"' then
      match readText (cs.length + 1) [] 0 cs with
      | some (s, lines, rest) =>
        let t := Token.text (unescaped (String.ofList s))
        ⟨t, line⟩ :: tokens bound o (line + lines) t rest
      | none =>
        let front := String.ofList ((cs.takeWhile (· != '\n')).take 20)
        [⟨.bad ("runaway string constant \"" ++ front ++ " ..."), line⟩]
    else if c == '/' && !previous.endsOperand then
      match readRegex (cs.length + 1) [] false cs with
      | some (s, rest) => put (.regex (String.ofList s)) rest
      | none =>
        let front := String.ofList ((cs.takeWhile (· != '\n')).take 20)
        [⟨.bad ("runaway regular expression /" ++ front ++ " ..."), line⟩]
    else if c.isDigit || (c == '.' && cs.head?.any Char.isDigit) then
      let digits := numeral (c :: cs)
      put (.number (Unix.readDecimal digits).toFloat (String.ofList digits))
        ((c :: cs).drop digits.length)
    else if startsName c then
      let word := (c :: cs).takeWhile inName
      let rest := (c :: cs).drop word.length
      let s := String.ofList word
      if keywords.contains s then put (.keyword s) rest
      else match builtins.lookup s with
        | some b => put (.builtin b s) rest
        | none => put (if rest.head? == some '(' then .called s else .name s) rest
    else match operator? (c :: cs) with
      | none => [⟨.strange c, line⟩]
      | some s =>
        let rest := (c :: cs).drop s.length
        let go (o : Open) : List Located := ⟨.op s, line⟩ :: tokens bound o line (.op s) rest
        match s with
        | "(" => go { o with parens := o.parens + 1 }
        | ")" =>
          if o.parens == 0 then [⟨.bad "extra ')'", line⟩]
          else go { o with parens := o.parens - 1 }
        | "\x7b" => go { o with braces := o.braces + 1 }
        | "\x7d" =>
          if o.braces == 0 then
            let more := "awk: line " ++ toString line ++ ": syntax error at or near end of line"
            [⟨.bad ("extra '\x7d'\n" ++ more), line⟩]
          else go { o with braces := o.braces - 1 }
        | _ => go o

/-- The tokens of a program. -/
def tokensOf (source : Bytes) : List Located :=
  tokens (source.length + 1) {} 1 .newline source.toList

end Tilde.Utility.Awk
