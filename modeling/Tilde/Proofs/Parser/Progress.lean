import Tilde.Proofs.Grammar.Blocks
import Tilde.Proofs.Prefix.Statement
import Tilde.Proofs.Printed.Expression

/-!
# Parsers make progress

A parser of the grammar that succeeds has read at least one token, and never the end of the text:
what it reads derives what it gives, and nothing of the grammar is derived by no tokens. In a
repetition the same holds of every round that goes on, so that no repetition has more rounds than
there are tokens.

The parsers are those of statements, blocks, conditions, loops, handlers, arguments and expressions,
each with the brackets that belong to it (`Routine`). The repetitions are named by their rounds
(`Loop`), and each is part of the parser it is listed with (`Repeats`).
-/

namespace Tilde
namespace Parser

open Grammar

variable {α β γ : Type} {ts : List Token} {field : FieldParser}

/-- Where the parser succeeds, it has read some tokens from the front, at least one of them, and
none of them is the end of the text. -/
abbrev Advances (p : Parser α) (ts : List Token) : Prop := Gives (fun ls _ => ls ≠ []) p ts

/-- A round that goes on has read some tokens in the same way. -/
abbrev Proceeds (round : α → Parser (α ⊕ β)) : Prop :=
  ∀ a ts, Gives (fun ls r => r.isLeft = true → ls ≠ []) (round a) ts

/-! ## Rounds -/

/-- A round of the parser of string literals that follow a string literal. -/
def stringsRound (text : String) : Parser (String ⊕ String) := do
  match ← peek with
  | .str more =>
    advance
    return .inl (text ++ more)
  | _ => return .inr text

/-- A round of the parser of what a loop binds. -/
def targetsRound (bound : Nat) (items : List Expr) : Parser (List Expr ⊕ List Expr) := do
  if ← acceptSymbol .comma then
    if (← peek) = .word "in" then return .inr items.reverse
    else return .inl ((← targetAtom bound) :: items)
  else return .inr items.reverse

theorem stringsRound_proceeds : Proceeds stringsRound := by
  intro text ts
  refine .peek ?_
  split
  · next h => exact .advance h (by simp) fun _ => .pure (by simp)
  · exact .pure (by simp)

theorem targetsRound_proceeds (bound : Nat) : Proceeds (targetsRound bound) := by
  intro items ts
  refine .accept (by simp) (fun us => .peek (.ite (fun _ => .pure (by simp)) fun _ => ?_))
    (.pure (by simp))
  have hitem : Follows (fun _ => .error .tooDeep) (.item .loop) (targetAtom bound) :=
    targetAtom_follows bound
  exact .bind (hitem us) fun _ _ _ _ => .pure (by simp)

theorem bracketedRound_proceeds (close : Symbol) (bound : Nat) :
    Proceeds (bracketedRound close (targetAtom bound)) := by
  intro items ts
  have hitem : Follows (fun _ => .error .tooDeep) (.item .loop) (targetAtom bound) :=
    targetAtom_follows bound
  refine .peek (.ite (fun _ => .pure (by simp)) fun _ => .bind (hitem ts) fun e ls us he => ?_)
  have hne : ls ≠ [] := he.ne_nil trivial
  exact .accept (by simp) (fun _ => .pure (by simp)) (.pure (by simp))

theorem unaryRound_proceeds {op? : Lexeme → Option UnaryOp}
    (hop : ∀ l op, op? l = some op → op.lexeme = l) : Proceeds (unaryRound op?) := by
  intro ops ts
  refine .peek ?_
  split
  · next op h =>
    refine .advance (hop _ _ h).symm (by cases op <;> simp [UnaryOp.lexeme]) fun _ => ?_
    exact .pure (by simp)
  · exact .pure (by simp)

theorem leftRound_proceeds {op? : Lexeme → Option (Expr → Expr → Expr)} {next : Parser Expr}
    (hop : ∀ l f, op? l = some f → IsInfix l f) (hnext : Follows field .expr next) :
    Proceeds (leftRound op? next) := by
  intro left ts
  refine .peek ?_
  split
  · next f h =>
    exact .advance rfl (hop _ _ h).ne_eof fun us => .bind (hnext us) fun _ _ _ _ => .pure (by simp)
  · exact .pure (by simp)

section Expressions

variable {inner : Inner} (hinner : ∀ level, Follows field .expr (inner level))
include hinner

theorem tupleRound_proceeds : Proceeds (tupleRound inner) := by
  intro items ts
  refine .accept (by simp) (fun us => .peek (.ite (fun _ => .pure (by simp)) fun _ => ?_))
    (.pure (by simp))
  exact .bind (starOrExpr_follows hinner us) fun _ _ _ _ => .pure (by simp)

theorem listRound_proceeds : Proceeds (listRound inner) := by
  intro items ts
  refine .peek (.ite (fun _ => .pure (by simp)) fun _ => ?_)
  refine .bind (starOrExpr_follows hinner ts) fun e ls us he => ?_
  have hne : ls ≠ [] := he.ne_nil trivial
  exact .accept (by simp) (fun _ => .pure (by simp)) (.pure (by simp))

theorem argumentsRound_proceeds : Proceeds (argumentsRound inner) := by
  rintro ⟨args, keywords⟩ ts
  refine .peek (.ite (fun _ => .pure (by simp)) fun _ => ?_)
  -- behind an argument that has been read, a comma decides whether to go on
  have hnext {ls : List Lexeme} (hne : ls ≠ []) (next : List Expr × List Keyword)
      (us : List Token) : Gives (fun ms r => r.isLeft = true → ls ++ ms ≠ [])
        (do if ← acceptSymbol .comma then return .inl next
            else return .inr (next.1.reverse, next.2.reverse) :
          Parser ((List Expr × List Keyword) ⊕ (List Expr × List Keyword))) us :=
    .accept (by simp) (fun _ => .pure (by simp)) (.pure (by simp))
  refine atKeyword_gives (fun hassign => ?_)
    (.ite (fun h => nomatch h) fun _ => .ite (fun _ => ?_) fun _ => ?_)
  · exact keywordArgument_gives hinner hassign fun key e ls us he =>
      hnext (by cases he; simp) (args, .mk key e :: keywords) us
  · exact .bind (R := fun _ _ => False) .failHere fun _ _ _ h => h.elim
  · exact .bind (hinner .full ts) fun e ls us he =>
      hnext (he.ne_nil trivial) (e :: args, keywords) us

theorem operandRound_proceeds : Proceeds (operandRound inner) := by
  intro e ts
  refine .peek ?_
  split
  · next h =>
    refine .advance h (by simp) fun us => .bind (arguments_follows hinner us) fun _ _ us _ => ?_
    exact .bind (.expect (by simp)) fun _ _ _ _ => .pure (by simp)
  · next h =>
    refine .advance h (by simp) fun us => .peek ?_
    split
    · next h => exact .advance h (by simp) fun _ => .pure (by simp)
    · exact .unexpected
  · next h =>
    refine .advance h (by simp) fun us => .bind (hinner .full us) fun _ _ us _ => ?_
    exact .bind (.expect (by simp)) fun _ _ _ _ => .pure (by simp)
  · exact .pure (by simp)

/-- What the parser of a rank reads derives what it gives. -/
theorem ranked_follows (k : Nat) : Follows field .expr (ranked field inner k) := by
  have h₇ : Follows field .expr (operand field inner) := operand_follows hinner
  have h₆ := unaryLevel_follows h₇ fun _ _ => signOp?_eq_some
  have h₅ := leftLevel_follows h₆ fun _ _ => termOp?_eq_some
  have h₄ := leftLevel_follows h₅ fun _ _ => sumOp?_eq_some
  have h₃ := comparisonLevel_follows h₄
  have h₂ := unaryLevel_follows h₃ fun _ _ => notOp?_eq_some
  have h₁ := leftLevel_follows h₂ fun _ _ => andOp?_eq_some
  match k with
  | 0 => exact leftLevel_follows h₁ fun _ _ => orOp?_eq_some
  | 1 => exact h₁
  | 2 => exact h₂
  | 3 => exact h₃
  | 4 => exact h₄
  | 5 => exact h₅
  | 6 => exact h₆
  | 7 => exact h₇
  | _ + 8 => exact atom_follows hinner

variable {stmt : Parser Stmt} (hstmt : Obeys field .stmt stmt)
include hstmt

omit hinner in
theorem textRound_proceeds : Proceeds (textRound stmt) := by
  intro body ts
  refine .peek ?_
  split
  · exact .pure (by simp)
  · next h => exact .advance h (by simp) fun _ => .pure (by simp)
  · exact .bind (hstmt ts) fun s ls us hs => .pure (by simpa using hs.ne_nil trivial)

omit hinner in
theorem bodyRound_proceeds : Proceeds (bodyRound stmt) := by
  intro body ts
  refine .peek ?_
  split
  · next h => exact .advance h (by simp) fun _ => .pure (by simp)
  · exact .unexpected
  · next h => exact .advance h (by simp) fun _ => .pure (by simp)
  · exact .bind (hstmt ts) fun s ls us hs => .pure (by simpa using hs.ne_nil trivial)

theorem handlerRound_proceeds : Proceeds (handlerRound inner stmt) := by
  intro hs ts
  refine .accept (by simp) (fun us => ?_) (.pure (by simp))
  refine .bind handlerKind_gives fun kind ls us _ => ?_
  have hrest (name : Option String) (ks : List Lexeme) (us : List Token) :
      Gives (fun ms r => r.isLeft = true → .word "except" :: (ls ++ (ks ++ ms)) ≠ [])
        (do return .inl (.mk kind name (← block inner stmt) :: hs) :
          Parser (List Handler ⊕ List Handler)) us :=
    .bind (block_obeys hinner hstmt us) fun _ _ _ _ => .pure (by simp)
  exact .accept (by simp) (fun us => .bind .name fun name ms us _ => hrest (some name) (_ :: ms) us)
    (hrest none [] us)

end Expressions

/-! ## Repetitions -/

/-- The repetition of a round is a part of the parser. -/
inductive Repeats (round : α → Parser (α ⊕ β)) : {γ : Type} → Parser γ → Prop where
  | here (start : α) : Repeats round (repeatFrom start round)
  | first {γ δ : Type} {p : Parser γ} {f : γ → Parser δ} (h : Repeats round p) :
    Repeats round (p >>= f)
  | next {γ δ : Type} {p : Parser γ} {f : γ → Parser δ} (c : γ) (h : Repeats round (f c)) :
    Repeats round (p >>= f)

/-- The repetitions of the grammar: the parser that one is part of, and its round. -/
inductive Loop (field : FieldParser) (depth height : Nat) :
    {α β γ : Type} → Parser γ → (α → Parser (α ⊕ β)) → Prop where
  | text : Loop field depth height (statements (stmtAt (exprAt field depth) height))
      (textRound (stmtAt (exprAt field depth) height))
  | block : Loop field depth height
      (block (exprAt field depth) (stmtAt (exprAt field depth) height))
      (bodyRound (stmtAt (exprAt field depth) height))
  | handlers : Loop field depth height
      (handlers (exprAt field depth) (stmtAt (exprAt field depth) height))
      (handlerRound (exprAt field depth) (stmtAt (exprAt field depth) height))
  | arguments : Loop field depth height (arguments (exprAt field depth))
      (argumentsRound (exprAt field depth))
  | list : Loop field depth height (listItems (exprAt field depth)) (listRound (exprAt field depth))
  | tuple : Loop field depth height (exprList (exprAt field depth))
      (tupleRound (exprAt field depth))
  | chain {k : Nat} (hk : k = 0 ∨ k = 1 ∨ k = 4 ∨ k = 5) :
      Loop field depth height (ranked field (exprAt field depth) k)
        (leftRound (leftOp? k) (ranked field (exprAt field depth) (k + 1)))
  | negations : Loop field depth height (ranked field (exprAt field depth) 2) (unaryRound notOp?)
  | signs : Loop field depth height (ranked field (exprAt field depth) 6) (unaryRound signOp?)
  | trailers : Loop field depth height (operand field (exprAt field depth))
      (operandRound (exprAt field depth))
  | strings (text : String) : Loop field depth height (adjacentStrings text) stringsRound
  | targets (bound : Nat) : Loop field depth height loopTarget (targetsRound bound)
  | bracketed (close : Symbol) (bound : Nat) :
      Loop field depth height (targetAtom.bracketed close (targetAtom bound))
        (bracketedRound close (targetAtom bound))

variable {depth height : Nat} {p : Parser γ} {round : α → Parser (α ⊕ β)}

theorem leftLevel_repeats {op? : Lexeme → Option (Expr → Expr → Expr)} {next : Parser Expr} :
    Repeats (leftRound op? next) (leftLevel op? next) :=
  .next Expr.none (.here Expr.none)

theorem Loop.repeats (h : Loop field depth height p round) : Repeats round p := by
  cases h with
  | text => exact .here []
  | block => exact .next () (.next true (.next () (.here [])))
  | handlers => exact .here []
  | arguments => exact .here ([], [])
  | list => exact .here []
  | tuple => exact .next Expr.none (.next (.symbol .comma) (.here _))
  | chain hk => rcases hk with rfl | rfl | rfl | rfl <;> exact leftLevel_repeats
  | negations => exact .first (.here [])
  | signs => exact .first (.here [])
  | trailers => exact .next Expr.none (.here Expr.none)
  | strings text => exact .here text
  | targets bound => exact .next bound (.next Expr.none (.first (.here _)))
  | bracketed close bound => exact .first (.here [])

/-- **Every round that goes on reads a token.** -/
theorem Loop.proceeds (h : Loop field depth height p round) : Proceeds round := by
  have hexpr : ∀ level, Follows field .expr (exprAt field depth level) := exprAt_follows depth
  have hstmt : Obeys field .stmt (stmtAt (exprAt field depth) height) := stmtAt_obeys hexpr height
  cases h with
  | text => exact textRound_proceeds hstmt
  | block => exact bodyRound_proceeds hstmt
  | handlers => exact handlerRound_proceeds hexpr hstmt
  | arguments => exact argumentsRound_proceeds hexpr
  | list => exact listRound_proceeds hexpr
  | tuple => exact tupleRound_proceeds hexpr
  | chain hk =>
    refine leftRound_proceeds ?_ (ranked_follows hexpr _)
    rcases hk with rfl | rfl | rfl | rfl
    · exact fun _ _ => orOp?_eq_some
    · exact fun _ _ => andOp?_eq_some
    · exact fun _ _ => sumOp?_eq_some
    · exact fun _ _ => termOp?_eq_some
  | negations => exact unaryRound_proceeds fun _ _ => notOp?_eq_some
  | signs => exact unaryRound_proceeds fun _ _ => signOp?_eq_some
  | trailers => exact operandRound_proceeds hexpr
  | strings text => exact stringsRound_proceeds
  | targets bound => exact targetsRound_proceeds bound
  | bracketed close bound => exact bracketedRound_proceeds close bound

/-! ## Routines -/

/-- The parsers of the grammar, each with the tokens that it may be called on: any, but for the two
that read their keyword unseen. -/
inductive Routine (field : FieldParser) (depth height : Nat) :
    {α : Type} → Parser α → List Token → Prop where
  | statement (ts : List Token) : Routine field depth height
      (stmtAt (exprAt field depth) height) ts
  | simple (ts : List Token) : Routine field depth height (simple (exprAt field depth)) ts
  | block (ts : List Token) : Routine field depth height
      (block (exprAt field depth) (stmtAt (exprAt field depth) height)) ts
  | branch (bound line : Nat) (ts : List Token) : Routine field depth height
      (branch (exprAt field depth) (stmtAt (exprAt field depth) height) bound line) ts
  | forEach {ts : List Token} (h : (frontToken ts).lexeme = .word "for") :
      Routine field depth height (forEach (exprAt field depth)
        (stmtAt (exprAt field depth) height) (frontToken ts).pos.line) ts
  | attempt {ts : List Token} (h : (frontToken ts).lexeme = .word "try") :
      Routine field depth height (attempt (exprAt field depth)
        (stmtAt (exprAt field depth) height) (frontToken ts).pos.line) ts
  | targetAtom (bound : Nat) (ts : List Token) : Routine field depth height (targetAtom bound) ts
  | loopTarget (ts : List Token) : Routine field depth height loopTarget ts
  | exprList (ts : List Token) : Routine field depth height (exprList (exprAt field depth)) ts
  | starOrExpr (ts : List Token) : Routine field depth height (starOrExpr (exprAt field depth)) ts
  | expression (level : Level) (ts : List Token) : Routine field depth height
      (exprAt field depth level) ts
  | ranked (k : Nat) (ts : List Token) : Routine field depth height
      (ranked field (exprAt field depth) k) ts
  | arguments (ts : List Token) : Routine field depth height
      (do
        let read ← arguments (exprAt field depth)
        expect (.symbol .closeParen) "')'"
        return read) ts
  | field (ts : List Token) : Routine field depth height
      (do
        let e ← exprList (exprAt field depth)
        let _ ← accept .newline
        if (← peek) = .eof then return e else unexpected "'\x7d'") ts
  | name (ts : List Token) : Routine field depth height name ts

/-- What a condition is read from is not empty, since its test is not. -/
theorem orelse_ne_nil {s : Stmt} {ls : List Lexeme}
    (h : Produces field (fun _ => True) (.orelse [s]) (.word "elif" :: ls)) : ls ≠ [] := by
  generalize hks : Lexeme.word "elif" :: ls = ks at h
  cases h with
  | elif htest _ _ =>
    obtain ⟨-, rfl⟩ := List.cons.inj hks
    exact fun hnil => htest.ne_nil trivial (List.append_eq_nil_iff.mp hnil).1
  | otherwise => simp at hks

/-- **A parser of the grammar that succeeds has read a token, and never the end of the text.** -/
theorem Routine.advances {p : Parser α} (h : Routine field depth height p ts) : Advances p ts := by
  have hexpr : ∀ level, Follows field .expr (exprAt field depth level) := exprAt_follows depth
  have hstmt : Obeys field .stmt (stmtAt (exprAt field depth) height) := stmtAt_obeys hexpr height
  cases h with
  | statement => exact (hstmt ts).mono fun _ _ h => h.ne_nil trivial
  | simple => exact (simple_obeys hexpr ts).mono fun _ _ h => h.ne_nil trivial
  | block => exact (block_obeys hexpr hstmt ts).mono fun _ _ h => h.ne_nil trivial
  | branch bound line =>
    exact (branch_gives hexpr hstmt bound line ts).mono fun _ _ h => orelse_ne_nil h.2
  -- the first word alone leads the parser of statements here
  | forEach hfor =>
    intro n s rest hrun
    have hstatement := statement_obeys hexpr hstmt ts n s rest
    rw [Parser.statement, bind_ok peekToken_apply, hfor] at hstatement
    obtain ⟨used, hts, hused, h⟩ := hstatement hrun
    exact ⟨used, hts, hused, h.ne_nil trivial⟩
  | attempt htry =>
    intro n s rest hrun
    have hstatement := statement_obeys hexpr hstmt ts n s rest
    rw [Parser.statement, bind_ok peekToken_apply, htry] at hstatement
    obtain ⟨used, hts, hused, h⟩ := hstatement hrun
    exact ⟨used, hts, hused, h.ne_nil trivial⟩
  | targetAtom bound =>
    have hitem : Follows field (.item .loop) (Parser.targetAtom bound) := targetAtom_follows bound
    exact (hitem ts).mono fun _ _ h => h.ne_nil trivial
  | loopTarget =>
    have hbinds : Follows field .binds Parser.loopTarget := loopTarget_follows
    exact (hbinds ts).mono fun _ _ h => h.ne_nil trivial
  | exprList => exact (exprList_follows hexpr ts).mono fun _ _ h => h.ne_nil trivial
  | starOrExpr => exact (starOrExpr_follows hexpr ts).mono fun _ _ h => h.ne_nil trivial
  | expression level => exact (hexpr level ts).mono fun _ _ h => h.ne_nil trivial
  | ranked k => exact (ranked_follows hexpr k ts).mono fun _ _ h => h.ne_nil trivial
  | arguments =>
    refine .bind (arguments_follows hexpr ts) fun read ls us _ => .bind (.expect (by simp)) ?_
    rintro _ _ _ rfl
    exact .pure (by simp)
  | field =>
    refine .bind (exprList_follows hexpr ts) fun e ls us he => ?_
    have hne : ls ≠ [] := he.ne_nil trivial
    have hend (us : List Token) : Gives (fun ms _ => ls ++ ms ≠ [])
        (do if (← peek) = .eof then return e else unexpected "'\x7d'" : Parser Expr) us :=
      .peek (.ite (fun _ => .pure (by simpa using hne)) fun _ => .unexpected)
    refine .accept (by simp) (fun us => ?_) (hend us)
    exact (hend us).mono fun ms _ _ => by simp
  | name => exact Gives.name.mono fun _ _ h => by simp [h.2]

end Parser
end Tilde
