import Tilde.Namespace
import Tilde.Parser.Stmt

/-!
# A printer

How a program is written out. Every statement starts a line, and a block stands on lines of its own
behind the line it belongs to, four columns further in. Tuples and sequences of targets stand in
parentheses, with a comma behind every item.

An expression stands in parentheses where it binds looser than its place asks for. The ranks, from
loosest to tightest: 0 `or`, 1 `and`, 2 `not`, 3 comparisons, 4 sums, 5 products, 6 signs, 7 calls,
attributes and subscripts, 8 whatever stands alone. The left operand of an operator may have the
rank of the operator, and the right one has to bind tighter, so that operators group to the left;
comparisons ask for tighter operands on both sides.

Any expression may stand in more parentheses than it needs. How many pairs it has is up to `Extra`,
which all functions here take along.

A line is printed as lexemes first, which then are spelled with as few spaces as a reader wants.
-/

namespace Tilde

/-! ## Operators -/

/-- How tightly an operator in front of an operand binds. -/
def UnaryOp.rank : UnaryOp → Nat
  | .not => 2
  | .neg | .invert => 6

/-- The spelling of an operator in front of an operand. -/
def UnaryOp.lexeme : UnaryOp → Lexeme
  | .not => .word "not"
  | .neg => .symbol .minus
  | .invert => .symbol .tilde

/-- How tightly an arithmetic operator binds. -/
def BinaryOp.rank : BinaryOp → Nat
  | .add | .sub => 4
  | .mul | .floorDiv | .mod => 5

/-- The spelling of an arithmetic operator. -/
def BinaryOp.lexeme : BinaryOp → Lexeme
  | .add => .symbol .plus
  | .sub => .symbol .minus
  | .mul => .symbol .star
  | .floorDiv => .symbol .doubleSlash
  | .mod => .symbol .percent

/-- The spelling of a comparison. -/
def Comparison.lexemes : Comparison → List Lexeme
  | .eq => [.symbol .equal]
  | .ne => [.symbol .notEqual]
  | .lt => [.symbol .less]
  | .le => [.symbol .lessEqual]
  | .gt => [.symbol .greater]
  | .ge => [.symbol .greaterEqual]
  | .isIn => [.word "in"]
  | .notIn => [.word "not", .word "in"]

/-- How tightly a connective binds. -/
def Connective.rank : Connective → Nat
  | .or => 0
  | .and => 1

/-- The spelling of a connective. -/
def Connective.lexeme : Connective → Lexeme
  | .or => .word "or"
  | .and => .word "and"

/-! ## Expressions -/

/-- How many pairs of parentheses stand around each expression besides those it needs. An expression
is found by the way that leads to it: which child to take at every step down. -/
abbrev Extra := List Nat → Nat

/-- No parentheses but those that are needed. -/
def Extra.none : Extra := fun _ => 0

/-- The extra parentheses below a child. -/
def Extra.child (x : Extra) (i : Nat) : Extra := fun way => x (i :: way)

/-- Lexemes in so many pairs of parentheses. -/
def enclosed (pairs : Nat) (ls : List Lexeme) : List Lexeme :=
  List.replicate pairs (.symbol .openParen) ++ ls ++ List.replicate pairs (.symbol .closeParen)

theorem enclosed_zero (ls : List Lexeme) : enclosed 0 ls = ls := List.append_nil ls

theorem enclosed_succ (pairs : Nat) (ls : List Lexeme) :
    enclosed (pairs + 1) ls
      = .symbol .openParen :: enclosed pairs ls ++ [.symbol .closeParen] := by
  unfold enclosed
  rw [List.replicate_succ, List.replicate_succ' (n := pairs) (a := Lexeme.symbol .closeParen)]
  simp

/-- An expression of a rank in a place that asks for at least the rank `place`. -/
def Extra.fit (x : Extra) (place rank : Nat) (ls : List Lexeme) : List Lexeme :=
  enclosed (x [] + if rank < place then 1 else 0) ls

/-- A comma behind every item. -/
def commaEach (items : List (List Lexeme)) : List Lexeme :=
  items.flatMap (· ++ [.symbol .comma])

/-- Commas between the items. -/
def commaBetween (items : List (List Lexeme)) : List Lexeme :=
  [.symbol .comma].intercalate items

mutual

/-- An expression in a place that asks for at least the rank `place`. An interpolated string is left
out. -/
def Expr.lexemes (x : Extra) (place : Nat) : Expr → List Lexeme
  | .name name => x.fit place 8 [.word name]
  | .int value => x.fit place 8 [.int value]
  | .bool value => x.fit place 8 [.word (if value then "True" else "False")]
  | .none => x.fit place 8 [.word "None"]
  | .str text => x.fit place 8 [.str text]
  | .template _ => []
  | .tuple items =>
    x.fit place 8 (.symbol .openParen :: commaEach (itemLexemes x items) ++ [.symbol .closeParen])
  | .list items =>
    x.fit place 8
      (.symbol .openBracket :: commaBetween (itemLexemes x items) ++ [.symbol .closeBracket])
  | .star operand => .symbol .star :: operand.lexemes (x.child 0) 7
  | .unary op operand => x.fit place op.rank (op.lexeme :: operand.lexemes (x.child 0) op.rank)
  | .binary op left right =>
    x.fit place op.rank
      (left.lexemes (x.child 0) op.rank ++ op.lexeme :: right.lexemes (x.child 1) (op.rank + 1))
  | .compare op left right =>
    x.fit place 3 (left.lexemes (x.child 0) 4 ++ op.lexemes ++ right.lexemes (x.child 1) 4)
  | .logical op left right =>
    x.fit place op.rank
      (left.lexemes (x.child 0) op.rank ++ op.lexeme :: right.lexemes (x.child 1) (op.rank + 1))
  | .call func args keywords =>
    x.fit place 7 (func.lexemes (x.child 0) 7 ++ .symbol .openParen ::
      commaBetween (itemLexemes (x.child 1) args ++ keywordLexemes (x.child 2) keywords)
        ++ [.symbol .closeParen])
  | .attribute operand name =>
    x.fit place 7 (operand.lexemes (x.child 0) 7 ++ [.symbol .dot, .word name])
  | .subscript operand index =>
    x.fit place 7 (operand.lexemes (x.child 0) 7 ++ .symbol .openBracket ::
      index.lexemes (x.child 1) 0 ++ [.symbol .closeBracket])

/-- The items of a list, each in a place that any expression fits. -/
def itemLexemes (x : Extra) : List Expr → List (List Lexeme)
  | [] => []
  | e :: es => e.lexemes (x.child 0) 0 :: itemLexemes (x.child 1) es

/-- The arguments given by name. -/
def keywordLexemes (x : Extra) : List Keyword → List (List Lexeme)
  | [] => []
  | .mk name value :: ks =>
    (.word name :: .symbol .assign :: value.lexemes (x.child 0) 0) :: keywordLexemes (x.child 1) ks

end

mutual

/-- What an assignment or a loop binds. -/
def Target.lexemes : Target → List Lexeme
  | .name name => [.word name]
  | .star name => [.symbol .star, .word name]
  | .sequence items =>
    .symbol .openParen :: commaEach (targetLexemes items) ++ [.symbol .closeParen]

/-- The items of a sequence. -/
def targetLexemes : List Target → List (List Lexeme)
  | [] => []
  | t :: ts => t.lexemes :: targetLexemes ts

end

/-! ## Statements -/

/-- A printed line: how many blocks it stands in, and what it says. -/
structure Line where
  depth : Nat
  lexemes : List Lexeme

/-- The alternative of a condition, where there is one. -/
def elseLines (depth : Nat) (block : List Line) : List Line :=
  if block.isEmpty then [] else ⟨depth, [.word "else", .symbol .colon]⟩ :: block

/-- What a handler asks for. -/
def kindLexemes : Option String → List Lexeme
  | none => []
  | some kind => [.word kind]

/-- What a handler binds. -/
def bindingLexemes : Option String → List Lexeme
  | none => []
  | some name => [.word "as", .word name]

mutual

/-- The lines of a statement that stands in `depth` blocks. -/
def Stmt.lines (x : Extra) (depth : Nat) : Stmt → List Line
  | .evaluate _ value => [⟨depth, value.lexemes (x.child 0) 0⟩]
  | .assign _ target value =>
    [⟨depth, target.lexemes ++ .symbol .assign :: value.lexemes (x.child 0) 0⟩]
  | .assert _ test none => [⟨depth, .word "assert" :: test.lexemes (x.child 0) 0⟩]
  | .assert _ test (some message) =>
    [⟨depth, .word "assert" :: test.lexemes (x.child 0) 0 ++ .symbol .comma ::
      message.lexemes (x.child 1) 0⟩]
  | .pass _ => [⟨depth, [.word "pass"]⟩]
  | .breakLoop _ => [⟨depth, [.word "break"]⟩]
  | .continueLoop _ => [⟨depth, [.word "continue"]⟩]
  | .branch _ test body orelse =>
    ⟨depth, .word "if" :: test.lexemes (x.child 0) 0 ++ [.symbol .colon]⟩ ::
      bodyLines (x.child 1) (depth + 1) body ++
        elseLines depth (bodyLines (x.child 2) (depth + 1) orelse)
  | .whileLoop _ test body =>
    ⟨depth, .word "while" :: test.lexemes (x.child 0) 0 ++ [.symbol .colon]⟩ ::
      bodyLines (x.child 1) (depth + 1) body
  | .forEach _ target items body =>
    ⟨depth, .word "for" :: target.lexemes ++ .word "in" :: items.lexemes (x.child 0) 0
      ++ [.symbol .colon]⟩ :: bodyLines (x.child 1) (depth + 1) body
  | .attempt _ body handlers =>
    ⟨depth, [.word "try", .symbol .colon]⟩ :: bodyLines (x.child 0) (depth + 1) body ++
      handlerLines (x.child 1) depth handlers

/-- The lines of a block. -/
def bodyLines (x : Extra) (depth : Nat) : List Stmt → List Line
  | [] => []
  | s :: ss => s.lines (x.child 0) depth ++ bodyLines (x.child 1) depth ss

/-- The lines of handlers. -/
def handlerLines (x : Extra) (depth : Nat) : List Handler → List Line
  | [] => []
  | .mk kind name body :: hs =>
    ⟨depth, .word "except" :: kindLexemes kind ++ bindingLexemes name ++ [.symbol .colon]⟩ ::
      bodyLines (x.child 0) (depth + 1) body ++ handlerLines (x.child 1) depth hs

end

mutual

/-- The statement with the lines that it and the statements of its blocks are printed on, when its
own first line is the line `n`. -/
def Stmt.numbered (x : Extra) (depth n : Nat) : Stmt → Stmt
  | .evaluate _ value => .evaluate n value
  | .assign _ target value => .assign n target value
  | .assert _ test message => .assert n test message
  | .pass _ => .pass n
  | .breakLoop _ => .breakLoop n
  | .continueLoop _ => .continueLoop n
  | .branch _ test body orelse =>
    .branch n test (numberedBody (x.child 1) (depth + 1) (n + 1) body)
      (numberedBody (x.child 2) (depth + 1)
        (n + 1 + (bodyLines (x.child 1) (depth + 1) body).length + 1) orelse)
  | .whileLoop _ test body =>
    .whileLoop n test (numberedBody (x.child 1) (depth + 1) (n + 1) body)
  | .forEach _ target items body =>
    .forEach n target items (numberedBody (x.child 1) (depth + 1) (n + 1) body)
  | .attempt _ body handlers =>
    .attempt n (numberedBody (x.child 0) (depth + 1) (n + 1) body)
      (numberedHandlers (x.child 1) depth
        (n + 1 + (bodyLines (x.child 0) (depth + 1) body).length) handlers)

/-- The statements of a block whose first line is the line `n`. -/
def numberedBody (x : Extra) (depth n : Nat) : List Stmt → List Stmt
  | [] => []
  | s :: ss =>
    s.numbered (x.child 0) depth n ::
      numberedBody (x.child 1) depth (n + (s.lines (x.child 0) depth).length) ss

/-- The handlers whose first line is the line `n`. -/
def numberedHandlers (x : Extra) (depth n : Nat) : List Handler → List Handler
  | [] => []
  | .mk kind name body :: hs =>
    .mk kind name (numberedBody (x.child 0) (depth + 1) (n + 1) body) ::
      numberedHandlers (x.child 1) depth
        (n + 1 + (bodyLines (x.child 0) (depth + 1) body).length) hs

end

/-! ## Spelling -/

/-- How a character stands in a string literal. -/
def escape : Char → List Char
  | '\n' => ['\\', 'n']
  | '\t' => ['\\', 't']
  | '\r' => ['\\', 'r']
  | '\x00' => ['\\', '0']
  | '\\' => ['\\', '\\']
  | '\'' => ['\\', '\'']
  | c => [c]

/-- The characters of a token within a line. -/
def Lexeme.spelling : Lexeme → List Char
  | .word text => text.toList
  | .int value => Nat.toDigits 10 value.toInt.toNat
  | .str text => '\'' :: text.toList.flatMap escape ++ ['\'']
  | .symbol s => s.text.toList
  | _ => []

/-- Whether an operand may end with the token. -/
def Lexeme.endsOperand : Lexeme → Bool
  | .word text => !isKeyword text
  | .int _ | .str _ | .symbol .closeParen | .symbol .closeBracket => true
  | _ => false

/-- Whether two tokens stand next to each other without a space. -/
def Lexeme.touches (l next : Lexeme) : Bool :=
  [.openParen, .openBracket, .dot, .tilde].any (l = .symbol ·) ||
    [.closeParen, .closeBracket, .comma, .colon, .dot].any (next = .symbol ·) ||
    l.endsOperand && [.openParen, .openBracket].any (next = .symbol ·)

/-- The characters of the tokens of a line. -/
def spell : List Lexeme → List Char
  | [] => []
  | [l] => l.spelling
  | l :: next :: ls =>
    l.spelling ++ (if l.touches next then [] else [' ']) ++ spell (next :: ls)

/-- The characters of a line. -/
def Line.chars (line : Line) : List Char :=
  List.replicate (4 * line.depth) ' ' ++ spell line.lexemes ++ ['\n']

/-- The text of a program. -/
def print (x : Extra) (body : List Stmt) : String :=
  String.ofList ((bodyLines x 0 body).flatMap Line.chars)

/-! ## What can be printed -/

/-- Whether the lexer reads the text as one word. -/
def isIdentifier (text : String) : Bool :=
  match text.toList with
  | [] => false
  | c :: cs => Lexer.isWordStart c && cs.all Lexer.isWordChar

/-- Whether the text can name a variable. -/
def isName (text : String) : Bool := isIdentifier text && !isKeyword text

mutual

/-- Whether an expression can be printed: it has no interpolated string, no star and no negative
integer literal, and its names are names. -/
def Expr.printable : Expr → Bool
  | .name name => isName name
  | .int value => 0 ≤ value.toInt
  | .bool _ | .none | .str _ => true
  | .template _ | .star _ => false
  | .tuple items | .list items => allPrintable items
  | .unary _ operand => operand.printable
  | .binary _ left right | .compare _ left right | .logical _ left right =>
    left.printable && right.printable
  | .call func args keywords =>
    func.printable && allPrintable args && keywordsPrintable keywords
  | .attribute operand name => operand.printable && isIdentifier name
  | .subscript operand index => operand.printable && index.printable

/-- Whether all expressions can be printed. -/
def allPrintable : List Expr → Bool
  | [] => true
  | e :: es => e.printable && allPrintable es

/-- Whether arguments given by name can be printed. -/
def keywordsPrintable : List Keyword → Bool
  | [] => true
  | .mk name value :: ks => isName name && value.printable && keywordsPrintable ks

end

mutual

/-- Whether a target can be printed: its names are names, and of the items of a sequence at most one
has a star. -/
def Target.printable : Target → Bool
  | .name name | .star name => isName name
  | .sequence items => items.countP Target.isStar ≤ 1 && targetsPrintable items

/-- Whether all targets can be printed. -/
def targetsPrintable : List Target → Bool
  | [] => true
  | t :: ts => t.printable && targetsPrintable ts

end

mutual

/-- Whether a statement can be printed: no block and no list of handlers is empty, and no loop binds
a star alone. -/
def Stmt.printable : Stmt → Bool
  | .evaluate _ value => value.printable
  | .assign _ target value => target.printable && value.printable
  | .assert _ test message => test.printable && message.all Expr.printable
  | .pass _ | .breakLoop _ | .continueLoop _ => true
  | .branch _ test body orelse =>
    test.printable && !body.isEmpty && bodyPrintable body && bodyPrintable orelse
  | .whileLoop _ test body => test.printable && !body.isEmpty && bodyPrintable body
  | .forEach _ target items body =>
    target.printable && !target.isStar && items.printable && !body.isEmpty && bodyPrintable body
  | .attempt _ body handlers =>
    !body.isEmpty && bodyPrintable body && !handlers.isEmpty && handlersPrintable handlers

/-- Whether all statements can be printed. -/
def bodyPrintable : List Stmt → Bool
  | [] => true
  | s :: ss => s.printable && bodyPrintable ss

/-- Whether all handlers can be printed. -/
def handlersPrintable : List Handler → Bool
  | [] => true
  | .mk kind name body :: hs =>
    kind.all isName && name.all isName && !body.isEmpty && bodyPrintable body
      && handlersPrintable hs

end

section

variable {line : Nat} {name : String} {kind binding : Option String} {e func test items : Expr}
  {args : List Expr} {keywords : List Keyword} {target : Target} {body orelse : List Stmt}
  {handlers : List Handler}

attribute [local simp] Expr.printable keywordsPrintable Stmt.printable handlersPrintable and_assoc

theorem Expr.printable_call : (Expr.call func args keywords).printable = true ↔
    func.printable = true ∧ allPrintable args = true ∧ keywordsPrintable keywords = true := by
  simp

theorem keywordsPrintable_cons : keywordsPrintable (.mk name e :: keywords) = true ↔
    isName name = true ∧ e.printable = true ∧ keywordsPrintable keywords = true := by
  simp

theorem Stmt.printable_branch : (Stmt.branch line test body orelse).printable = true ↔
    test.printable = true ∧ body.isEmpty = false ∧ bodyPrintable body = true
      ∧ bodyPrintable orelse = true := by
  simp

theorem Stmt.printable_whileLoop : (Stmt.whileLoop line test body).printable = true ↔
    test.printable = true ∧ body.isEmpty = false ∧ bodyPrintable body = true := by
  simp

theorem Stmt.printable_forEach : (Stmt.forEach line target items body).printable = true ↔
    target.printable = true ∧ target.isStar = false ∧ items.printable = true
      ∧ body.isEmpty = false ∧ bodyPrintable body = true := by
  simp

theorem Stmt.printable_attempt : (Stmt.attempt line body handlers).printable = true ↔
    body.isEmpty = false ∧ bodyPrintable body = true ∧ handlers.isEmpty = false
      ∧ handlersPrintable handlers = true := by
  simp

theorem handlersPrintable_cons : handlersPrintable (.mk kind binding body :: handlers) = true ↔
    kind.all isName = true ∧ binding.all isName = true ∧ body.isEmpty = false
      ∧ bodyPrintable body = true ∧ handlersPrintable handlers = true := by
  simp

end

end Tilde
