import Mathlib.Tactic.SplitIfs
import Tilde.Parser.Stmt
import Tilde.Proofs.Traps.Access
import Tilde.Token.Lexer

/-!
# Reading a program without traps

From a text to its tokens, and from its tokens to a program.

## Cutting a text into tokens

The body of an interpolated string is read by place. Its reader looks at the character at a place,
hands what is behind an opening brace to the reader of a field, and goes on behind as many characters
as the field takes. A field never takes more characters than there are, so its end is a place of the
body or the end of it.

The rest of the lexer takes the characters one after the other and has no access that could fail.
-/

namespace Tilde.Checked

open Template (Field Piece Reading flush)

/-! ### Interpolated strings -/

/-- Reads the rest of a field; `i` characters of it have been read. The number of characters that the
field takes comes with it. -/
def fieldFrom (f : Field) (i : Nat) : List Char → Except Template.Fault (Piece × Nat)
  | [] => .error .unterminatedField
  | c :: rest =>
    if f.closes c then f.close.map fun piece => (piece, i + 1)
    else fieldFrom (f.feed c) (i + 1) rest

/-- Reads the body of an interpolated string from a place on. -/
def splitFrom (body : List Char) (i : Nat) (text : List Char) (pieces : List Piece) :
    Checked Template.Fault (List Piece) := do
  if _h : i < body.length then
    let c ← access (Access.item body i)
    if (c = '\x7b' ∨ c = '\x7d') ∧ body[i + 1]? = some c then
      splitFrom body (i + 2) (c :: text) pieces
    else if c = '\x7d' then throw .strayBrace
    else if c = '\x7b' then
      let (_, rest) ← access (Access.cut body (i + 1))
      let (piece, taken) ← of (fieldFrom {} 0 rest)
      splitFrom body (i + taken + 1) [] (piece :: flush text pieces)
    else splitFrom body (i + 1) (c :: text) pieces
  else return (flush text pieces).reverse
termination_by body.length - i

/-- A field takes at least one character more. -/
theorem fieldFrom_taken {f : Field} {i : Nat} {rest : List Char} {piece : Piece} {taken : Nat}
    (h : fieldFrom f i rest = .ok (piece, taken)) : i < taken := by
  induction rest generalizing f i with
  | nil => cases h
  | cons c rest ih =>
    rw [fieldFrom] at h
    split_ifs at h
    · cases hclose : f.close with
      | error e => rw [hclose] at h; cases h
      | ok p =>
        rw [hclose] at h
        cases h
        exact Nat.lt_succ_self i
    · exact Nat.lt_of_succ_lt (ih h)

/-- Behind the characters that a field takes, literal text is read. -/
theorem read_field (pieces : List Piece) (f : Field) (i : Nat) (rest : List Char) :
    Template.read pieces (.field f) rest =
      (fieldFrom f i rest >>= fun (piece, taken) =>
        Template.read (piece :: pieces) (.literal []) (rest.drop (taken - i))) := by
  induction rest generalizing f i with
  | nil => rfl
  | cons c rest ih =>
    rw [Template.read, fieldFrom]
    by_cases hcloses : f.closes c = true
    · rw [if_pos hcloses, if_pos hcloses]
      cases f.close with
      | error e => rfl
      | ok piece =>
        dsimp only [Except.map, bind, Except.bind]
        rw [Nat.add_sub_cancel_left]
        rfl
    · rw [if_neg hcloses, if_neg hcloses, ih _ (i + 1)]
      cases htaken : fieldFrom (f.feed c) (i + 1) rest with
      | error e => rfl
      | ok result =>
        obtain ⟨piece, taken⟩ := result
        have hlt := fieldFrom_taken htaken
        have hdrop : taken - i = taken - (i + 1) + 1 := by omega
        dsimp only [bind, Except.bind]
        rw [hdrop, List.drop_succ_cons]

theorem head?_ne {c : Char} {rest : List Char} (h : ∀ tail, rest = c :: tail → False) :
    rest.head? ≠ some c := fun hc => by
  obtain ⟨tail, htail⟩ := List.head?_eq_some_iff.mp hc
  exact h tail htail

/-- One step of reading literal text. -/
theorem read_literal (pieces : List Piece) (text : List Char) (c : Char) (rest : List Char) :
    Template.read pieces (.literal text) (c :: rest) =
      if (c = '\x7b' ∨ c = '\x7d') ∧ rest.head? = some c then
        Template.read pieces (.literal (c :: text)) rest.tail
      else if c = '\x7d' then .error .strayBrace
      else if c = '\x7b' then Template.read (flush text pieces) (.field {}) rest
      else Template.read pieces (.literal (c :: text)) rest := by
  conv => lhs; unfold Template.read
  split
  · next hreading hchars =>
    cases hreading
    cases hchars
    rfl
  · next hreading hchars =>
    cases hreading
    cases hchars
    rfl
  · next hsingle hreading hchars =>
    cases hreading
    cases hchars
    rw [if_neg fun h => head?_ne hsingle h.2]
    rfl
  · next hsingle hreading hchars =>
    cases hreading
    cases hchars
    rw [if_neg fun h => head?_ne hsingle h.2]
    rfl
  · next hopen hclose hreading hchars =>
    cases hreading
    cases hchars
    rw [if_neg fun h => h.1.elim hopen hclose, if_neg hclose, if_neg hopen]
  all_goals contradiction

/-- **The places of a body are read in range.** -/
theorem splitFrom_ok (body : List Char) (i : Nat) (text : List Char) (pieces : List Piece) :
    splitFrom body i text pieces
      = of (Template.read pieces (.literal text) (body.drop i)) := by
  induction i, text, pieces using splitFrom.induct body with
  | case1 i text pieces hlt ihDoubled ihField ihNext =>
    have hitem : body[i]? = some body[i] := List.getElem?_eq_getElem hlt
    have hhead : (body.drop (i + 1)).head? = body[i + 1]? := List.head?_drop
    have htail : (body.drop (i + 1)).tail = body.drop (i + 2) := List.tail_drop
    rw [splitFrom, dif_pos hlt, Access.item_ok hitem, access_ok, pure_bind,
      List.drop_eq_getElem_cons hlt, read_literal, hhead, htail]
    split_ifs
    · exact ihDoubled _
    · rfl
    · rw [Access.cut_ok hlt, access_ok, pure_bind, read_field _ _ 0]
      refine bind_of fun (piece, taken) _ => ?_
      -- the place behind the field
      have hplace : i + 1 + taken = i + taken + 1 := by omega
      dsimp only
      rw [ihField, List.drop_drop, Nat.sub_zero, hplace]
    · exact ihNext _
  | case2 i text pieces hge =>
    rw [splitFrom, dif_neg hge, List.drop_eq_nil_of_le (Nat.le_of_not_lt hge)]
    rfl

/-- Splits the body of an interpolated string into its pieces. -/
def split (body : List Char) : Checked Template.Fault (List Piece) := splitFrom body 0 [] []

theorem split_ok (body : List Char) : split body = of (Template.split body) :=
  splitFrom_ok body 0 [] []

/-! ### Tokens -/

/-- Ends a string literal at its closing quote. -/
def endLiteral (s : Lexer.State) (l : Lexer.Literal) : Checked LexError Lexer.State :=
  if l.interpolated then ExceptT.mk do
    match ← (split l.text.reverse).run with
    | .ok pieces => return .ok (s.push (.template pieces) l.start)
    | .error fault => return .error ⟨.badTemplate fault, l.start⟩
  else return s.push (.str (String.ofList l.text.reverse)) l.start

/-- Reads a character and moves on. -/
def feed (s : Lexer.State) (c : Char) : Checked LexError Lexer.State :=
  match s.mode with
  | .literal l =>
    if l.escaping || c == '\n' || c == '\\' || c != l.quote then of (s.feed c)
    else do
      let t ← endLiteral s l
      return { t with pos := s.pos.next c }
  | _ => of (s.feed c)

/-- The tokens of a source text. -/
def tokenize (source : String) : Checked LexError (List Token) := do
  let s ← source.toList.foldlM feed {}
  of s.finish

theorem endLiteral_ok (s : Lexer.State) (l : Lexer.Literal) :
    endLiteral s l = of (s.endLiteral l) := by
  unfold endLiteral Lexer.State.endLiteral
  split_ifs
  · rw [split_ok]
    cases Template.split l.text.reverse <;> rfl
  · rfl

theorem feed_ok (s : Lexer.State) (c : Char) : feed s c = of (s.feed c) := by
  unfold feed
  split
  · next l hmode =>
    split_ifs with hinside
    · rfl
    · have hstep : s.step c = s.endLiteral l := by
        simp only [Bool.or_eq_true, not_or, Bool.not_eq_true, bne_eq_false_iff_eq] at hinside
        obtain ⟨⟨⟨hescaping, hline⟩, hslash⟩, rfl⟩ := hinside
        unfold Lexer.State.step
        simp only [hmode, Lexer.State.literal, hescaping, hline, hslash, beq_self_eq_true,
          Bool.false_eq_true, if_false, if_true]
      rw [endLiteral_ok, Lexer.State.feed, hstep]
      cases s.endLiteral l <;> rfl
  · rfl

/-- **Cutting a text into tokens comes to no trap.** -/
theorem tokenize_ok (source : String) : tokenize source = of (Tilde.tokenize source) := by
  have hfold : ∀ (cs : List Char) (s : Lexer.State),
      cs.foldlM feed s = of (cs.foldlM Lexer.State.feed s) := by
    intro cs
    induction cs with
    | nil => exact fun _ => rfl
    | cons c cs ih =>
      intro s
      rw [List.foldlM_cons, List.foldlM_cons, feed_ok]
      exact bind_of fun s _ => ih s
  rw [tokenize, hfold]
  exact bind_of fun _ _ => rfl

end Tilde.Checked

/-!
## Parsing

The parser looks at one token after the other, and past the last of them it sees the end of the text.
It has two accesses: what a loop binds is a list of targets, of which it looks at the first, and takes
it out, if there is one only. Besides, it cuts the texts of fields into tokens.

A trap is given to the parser as a fault of its own (`trapped`). What a text is parsed to does not
depend on which fault this is. So there is no text whose parsing comes to a trap.
-/

namespace Tilde.Checked

open Tilde.Parser

/-- What a loop binds, from the targets that are read. -/
def chooseTarget (items : List Expr) : Except Trap Expr := do
  if items.length = 1 then
    if isStar (← Access.item items 0) then return .tuple items
    else return (← Access.remove items 0).1
  else return .tuple items

theorem chooseTarget_ok (items : List Expr) :
    chooseTarget items = .ok (match items with
      | [e] => if isStar e then .tuple [e] else e
      | items => .tuple items) := by
  match items with
  | [] | _ :: _ :: _ => rfl
  | [e] =>
    have hread : chooseTarget [e] = if isStar e then .ok (.tuple [e]) else .ok e := rfl
    rw [hread]
    dsimp only
    split_ifs <;> rfl

section Trapped

-- the fault that a trap of the parser is reported as
variable (trapped : Trap → ParseFault)

/-- Goes on with the result of an access. -/
def caught {α : Type} : Except Trap α → Parser α
  | .ok a => return a
  | .error t => failHere (trapped t)

/-- What a loop binds, up to the word `in`. -/
def loopTarget : Parser Expr := do
  let bound ← read
  let items ← repeatFrom [← targetAtom bound] fun items => do
    if ← acceptSymbol .comma then
      if (← peek) = .word "in" then return .inr items.reverse
      else return .inl ((← targetAtom bound) :: items)
    else return .inr items.reverse
  caught trapped (chooseTarget items)

/-- A loop over items, from its keyword on. -/
def forEach (expr : Inner) (stmt : Parser Stmt) (line : Nat) : Parser Stmt := do
  advance
  let start ← peekToken
  match toTarget (← loopTarget trapped) with
  | .error fault => throw ⟨fault, start.pos⟩
  | .ok target =>
    if ← acceptWord "in" then
      let items ← exprList expr
      return .forEach line target items (← block expr stmt)
    else unexpected "'in'"

/-- A statement, from the parsers for expressions and for the statements of its blocks. -/
def statement (expr : Inner) (stmt : Parser Stmt) : Parser Stmt := do
  let start ← peekToken
  if start.lexeme = .word "for" then forEach trapped expr stmt start.pos.line
  else Parser.statement expr stmt

/-- Parses a statement whose blocks nest less deep than the bound. -/
def stmtAt (expr : Inner) : (bound : Nat) → Parser Stmt
  | 0 => failHere .tooDeep
  | bound + 1 => statement trapped expr (stmtAt expr bound)

/-- Parses the text of a field in which interpolated strings nest less deep than the bound. -/
def fieldExpr : Nat → FieldParser
  | 0, _ => .error .tooDeep
  | bound + 1, source =>
    match (tokenize (Text.trim source)).run with
    | .error t => .error (trapped t)
    | .ok (.error e) => .error (.fieldTokens e.fault)
    | .ok (.ok tokens) =>
      match fieldTokens (fieldExpr bound) tokens with
      | .error e => .error (.field e.fault)
      | .ok e => .ok e

/-- Parses the tokens of a whole text. -/
def programTokens (nesting : Nat) (tokens : List Token) : Except ParseError (List Stmt) :=
  let expr := exprAt (fieldExpr trapped nesting) tokens.length
  parseTokens tokens (statements (stmtAt trapped expr tokens.length))

/-- Parses a source text. -/
def parse (source : String) (mode : Mode) : Checked SyntaxError Program := do
  let tokens ← ExceptT.mk ((tokenize source).run.map (·.mapError .lex))
  match programTokens trapped source.length tokens with
  | .error e => throw (.parse e)
  | .ok body => return ⟨body, mode⟩

/-! ### No trap -/

theorem loopTarget_ok : loopTarget trapped = Parser.loopTarget := by
  unfold loopTarget Parser.loopTarget
  refine bind_congr fun bound => bind_congr fun first => bind_congr fun items => ?_
  rw [chooseTarget_ok]
  match items with
  | [] | [_] | _ :: _ :: _ => rfl

theorem forEach_ok (expr : Inner) (stmt : Parser Stmt) (line : Nat) :
    forEach trapped expr stmt line = Parser.forEach expr stmt line := by
  rw [forEach, loopTarget_ok]
  rfl

theorem statement_ok (expr : Inner) (stmt : Parser Stmt) :
    statement trapped expr stmt = Parser.statement expr stmt := by
  funext n tokens
  have hpeek : ∀ f : Token → Parser Stmt,
      (peekToken >>= f) n tokens = f (frontToken tokens) n tokens := fun _ => rfl
  rw [statement, hpeek]
  -- looking at the front token once more changes nothing
  by_cases hfor : (frontToken tokens).lexeme = .word "for"
  · rw [if_pos hfor, forEach_ok, Parser.statement, hpeek]
    simp only [hfor]
  · rw [if_neg hfor]

theorem stmtAt_ok (expr : Inner) (bound : Nat) :
    stmtAt trapped expr bound = Parser.stmtAt expr bound := by
  induction bound with
  | zero => rfl
  | succ bound ih => rw [stmtAt, Parser.stmtAt, ih, statement_ok]

theorem fieldExpr_ok (bound : Nat) : fieldExpr trapped bound = Parser.fieldExpr bound := by
  funext source
  induction bound generalizing source with
  | zero => rfl
  | succ bound ih =>
    have hinner : fieldExpr trapped bound = Parser.fieldExpr bound := funext ih
    rw [fieldExpr, Parser.fieldExpr, hinner, tokenize_ok]
    cases Tilde.tokenize (Text.trim source) <;> rfl

theorem programTokens_ok (nesting : Nat) (tokens : List Token) :
    programTokens trapped nesting tokens = Parser.programTokens nesting tokens := by
  rw [programTokens, fieldExpr_ok, stmtAt_ok]
  rfl

/-- **Parsing comes to no trap**, whatever is done at one. -/
theorem parse_ok (source : String) (mode : Mode) :
    parse trapped source mode = of (Tilde.parse source mode) := by
  unfold parse Tilde.parse
  rw [tokenize_ok]
  cases Tilde.tokenize source with
  | error e => rfl
  | ok tokens =>
    have hread : (ExceptT.mk ((of (.ok tokens : Except LexError (List Token))).run.map
        (·.mapError .lex)) : Checked SyntaxError (List Token)) = pure tokens := rfl
    rw [hread, pure_bind, programTokens_ok]
    dsimp only
    cases Parser.programTokens source.length tokens <;> rfl

end Trapped

end Tilde.Checked
