import Mathlib.Data.List.Forall2
import Mathlib.Tactic.SplitIfs
import Tilde.Namespace
import Tilde.Parser.Stmt

/-!
# The parser, function by function

What the proofs about texts and programs share: equations for each small parser, the tokens at which
a parser fails at once, and what becomes of an expression that is turned into a target.

## Parsers as functions

A parser applied to a bound and a list of tokens is an ordinary result. The equations here say what
each of the small parsers gives, so that a proof about a larger one follows its text step by step
and never opens the monad again.
-/

namespace Tilde.Parser

variable {α β : Type} {n : Nat} {ts : List Token}

/-! ### The monad -/

@[simp] theorem pure_apply (a : α) : (pure a : Parser α) n ts = .ok (a, ts) := rfl

/-- A parser and what follows it, where the first part succeeds. -/
theorem bind_ok {p : Parser α} {f : α → Parser β} {a : α} {mid : List Token}
    (h : p n ts = .ok (a, mid)) : (p >>= f) n ts = f a n mid := by
  simp only [bind, ReaderT.bind, StateT.bind, Except.bind, h]

/-- A parser and what follows it, where the first part fails. -/
theorem bind_error {p : Parser α} {f : α → Parser β} {e : ParseError}
    (h : p n ts = .error e) : (p >>= f) n ts = .error e := by
  simp only [bind, ReaderT.bind, StateT.bind, Except.bind, h]

theorem bind_ok_iff {p : Parser α} {f : α → Parser β} {b : β} {rest : List Token} :
    (p >>= f) n ts = .ok (b, rest) ↔
      ∃ a mid, p n ts = .ok (a, mid) ∧ f a n mid = .ok (b, rest) := by
  cases h : p n ts with
  | error e => simp [bind_error h]
  | ok r =>
    obtain ⟨a, mid⟩ := r
    rw [bind_ok h]
    constructor
    · exact fun h' => ⟨a, mid, rfl, h'⟩
    · rintro ⟨_, _, ⟨⟩, h'⟩
      exact h'

theorem read_apply : (read : Parser Nat) n ts = .ok (n, ts) := rfl

/-! ### The small parsers -/

@[simp] theorem frontToken_cons (t : Token) : frontToken (t :: ts) = t := rfl

@[simp] theorem frontToken_nil : (frontToken []).lexeme = .eof := rfl

@[simp] theorem peekToken_apply : peekToken n ts = .ok (frontToken ts, ts) := rfl

@[simp] theorem peek_apply : peek n ts = .ok ((frontToken ts).lexeme, ts) := rfl

@[simp] theorem peekSecond_apply :
    peekSecond n ts = .ok ((frontToken (ts.drop 1)).lexeme, ts) := rfl

@[simp] theorem advance_apply : advance n ts = .ok ((), ts.drop 1) := rfl

@[simp] theorem failHere_apply (fault : ParseFault) :
    (failHere fault : Parser α) n ts = .error ⟨fault, (frontToken ts).pos⟩ := rfl

@[simp] theorem throw_apply (e : ParseError) : (throw e : Parser α) n ts = .error e := rfl

/-- The fault of a token that was not expected: the end of the text is a fault of its own. -/
def unexpectedFault (found : Lexeme) (expected : String) : ParseFault :=
  if found = .eof then .unexpectedEnd else .unexpectedToken found expected

@[simp] theorem unexpected_apply (expected : String) :
    (unexpected expected : Parser α) n ts =
      .error ⟨unexpectedFault (frontToken ts).lexeme expected, (frontToken ts).pos⟩ := by
  rw [unexpected, bind_ok peek_apply, unexpectedFault]
  by_cases h : (frontToken ts).lexeme = .eof
  · rw [if_pos h, if_pos h, failHere_apply]
  · rw [if_neg h, if_neg h, failHere_apply]

theorem unexpected_bind (expected : String) (f : α → Parser β) :
    unexpected expected >>= f = unexpected expected := by
  funext n ts
  rw [unexpected_apply]
  exact bind_error (unexpected_apply expected)

theorem accept_hit {l : Lexeme} (h : (frontToken ts).lexeme = l) :
    accept l n ts = .ok (true, ts.drop 1) := by
  rw [accept, bind_ok peek_apply, if_pos h]
  rfl

theorem accept_miss {l : Lexeme} (h : (frontToken ts).lexeme ≠ l) :
    accept l n ts = .ok (false, ts) := by
  rw [accept, bind_ok peek_apply, if_neg h]
  rfl

theorem expect_hit {l : Lexeme} {expected : String} (h : (frontToken ts).lexeme = l) :
    expect l expected n ts = .ok ((), ts.drop 1) := by
  rw [expect, bind_ok (accept_hit h), if_pos rfl, pure_apply]

theorem expect_miss {l : Lexeme} {expected : String} (h : (frontToken ts).lexeme ≠ l) :
    expect l expected n ts =
      .error ⟨unexpectedFault (frontToken ts).lexeme expected, (frontToken ts).pos⟩ := by
  rw [expect, bind_ok (accept_miss h), if_neg (by simp), unexpected_apply]

/-- What was expected was there. -/
theorem expect_ok {l : Lexeme} {expected : String} {u : Unit} {rest : List Token}
    (h : expect l expected n ts = .ok (u, rest)) :
    (frontToken ts).lexeme = l ∧ rest = ts.drop 1 := by
  by_cases hl : (frontToken ts).lexeme = l
  · rw [expect_hit hl] at h
    cases h
    exact ⟨hl, rfl⟩
  · rw [expect_miss hl] at h
    cases h

theorem name_hit {text : String} (hname : isKeyword text = false)
    (hfront : (frontToken ts).lexeme = .word text) : name n ts = .ok (text, ts.drop 1) := by
  rw [name, bind_ok peek_apply, hfront]
  simp only [hname]
  rfl

/-- An argument given by name is seen by its first two tokens. -/
theorem atKeyword_cases (ts : List Token) : (∀ n, atKeyword n ts = .ok (false, ts)) ∨
    (∀ n, atKeyword n ts = .ok (true, ts)) ∧ ∃ text, (frontToken ts).lexeme = .word text
      ∧ isKeyword text = false ∧ (frontToken (ts.drop 1)).lexeme = .symbol .assign := by
  cases hfront : (frontToken ts).lexeme with
  | word text =>
    have hrun n : atKeyword n ts = .ok (!isKeyword text
        && decide ((frontToken (ts.drop 1)).lexeme = .symbol .assign), ts) := by
      rw [atKeyword, bind_ok peek_apply, hfront]
      rfl
    simp only [hrun]
    cases hkeyword : !isKeyword text
        && decide ((frontToken (ts.drop 1)).lexeme = .symbol .assign) with
    | false => exact .inl fun _ => rfl
    | true =>
      obtain ⟨hname, hassign⟩ := Bool.and_eq_true_iff.mp hkeyword
      exact .inr ⟨fun _ => rfl, text, rfl, by simpa using hname, of_decide_eq_true hassign⟩
  | _ =>
    refine .inl fun n => ?_
    rw [atKeyword, bind_ok peek_apply, hfront]
    rfl

theorem lineEnd_hit (h : (frontToken ts).lexeme = .newline) :
    lineEnd n ts = .ok ((), ts.drop 1) := by
  rw [lineEnd, bind_ok peek_apply, h]
  rfl

/-- A line ends at a line end or at the end of the text. -/
theorem lineEnd_ok {u : Unit} {rest : List Token} (h : lineEnd n ts = .ok (u, rest)) :
    (frontToken ts).lexeme = .newline ∨ (frontToken ts).lexeme = .eof := by
  rw [lineEnd, bind_ok peek_apply] at h
  cases hl : (frontToken ts).lexeme with
  | newline => exact .inl rfl
  | eof => exact .inr rfl
  | _ =>
    simp only [hl, unexpected_apply] at h
    cases h

/-! ### Repetition -/

theorem repeatFrom_apply {round : α → Parser (α ⊕ β)} (start : α) :
    repeatFrom start round n ts = repeatUpTo round (n + 1) start n ts := by
  rw [repeatFrom, bind_ok read_apply]

/-! ### Interpolated strings -/

section

variable {field : FieldParser} {text source : String} {spec : Option String}
  {pieces : List Template.Piece} {ps : List Part} {fault : ParseFault}

theorem parts_literal : parts field (.literal text :: pieces) = .ok ps ↔
    ∃ qs, parts field pieces = .ok qs ∧ ps = .literal text :: qs := by
  cases h : parts field pieces <;> simp [parts, h, bind, Except.bind, pure, Except.pure, eq_comm]

theorem parts_field : parts field (.field source spec :: pieces) = .ok ps ↔
    ∃ e, field source = .ok e ∧ ∃ qs, parts field pieces = .ok qs ∧ ps = .field e spec :: qs := by
  cases he : field source <;> cases h : parts field pieces <;>
    simp [parts, he, h, bind, Except.bind, pure, Except.pure, eq_comm]

theorem parts_literal_error : parts field (.literal text :: pieces) = .error fault ↔
    parts field pieces = .error fault := by
  cases h : parts field pieces <;> simp [parts, h, bind, Except.bind, pure, Except.pure]

theorem parts_field_error : parts field (.field source spec :: pieces) = .error fault ↔
    field source = .error fault ∨ (∃ e, field source = .ok e) ∧ parts field pieces = .error fault := by
  cases he : field source <;> cases h : parts field pieces <;>
    simp [parts, he, h, bind, Except.bind, pure, Except.pure]

/-- What is wrong with an interpolated string is wrong with one of its fields. -/
theorem parts_error (h : parts field pieces = .error fault) :
    ∃ source spec, .field source spec ∈ pieces ∧ field source = .error fault := by
  induction pieces with
  | nil => cases h
  | cons piece pieces ih =>
    have hlater : parts field pieces = .error fault → ∃ source spec,
        .field source spec ∈ piece :: pieces ∧ field source = .error fault := by
      intro hrest
      obtain ⟨source, spec, hmem, hfault⟩ := ih hrest
      exact ⟨source, spec, List.mem_cons_of_mem _ hmem, hfault⟩
    cases piece with
    | literal text => exact hlater (parts_literal_error.mp h)
    | field source spec =>
      rcases parts_field_error.mp h with hfault | ⟨-, hrest⟩
      · exact ⟨source, spec, List.mem_cons_self .., hfault⟩
      · exact hlater hrest

end

/-! ### Whole texts -/

theorem parseTokens_ok {p : Parser α} {a : α} :
    parseTokens ts p = .ok a ↔ ∃ rest, p ts.length ts = .ok (a, rest) := by
  change (p ts.length ts).map (·.1) = .ok a ↔ _
  cases p ts.length ts with
  | error e => simp [Except.map]
  | ok r =>
    obtain ⟨a', rest⟩ := r
    simp [Except.map]

theorem parseTokens_error {p : Parser α} {e : ParseError} (h : p ts.length ts = .error e) :
    parseTokens ts p = .error e := by
  change (p ts.length ts).map (·.1) = .error e
  rw [h]
  rfl

theorem fieldExpr_eq_ok {bound : Nat} {source : String} {e : Expr} :
    fieldExpr (bound + 1) source = .ok e ↔ ∃ ts, tokenize (Text.trim source) = .ok ts
      ∧ fieldTokens (fieldExpr bound) ts = .ok e := by
  rw [fieldExpr]
  cases tokenize (Text.trim source) with
  | error e => simp
  | ok ts => cases he : fieldTokens (fieldExpr bound) ts <;> simp [he]

end Tilde.Parser

namespace Tilde

theorem parse_eq_ok {source : String} {mode : Mode} {p : Program} :
    parse source mode = .ok p ↔ ∃ ts, tokenize source = .ok ts
      ∧ Parser.programTokens source.length ts = .ok p.body ∧ mode = p.mode := by
  unfold parse
  cases tokenize source with
  | error e => simp
  | ok ts =>
    cases hbody : Parser.programTokens source.length ts with
    | error e => simp [hbody]
    | ok body =>
      obtain ⟨body', mode'⟩ := p
      simp [hbody]

end Tilde

/-!
## Where nothing can start

Few tokens start an expression, and few more start a statement. In front of any other one the
parsers fail, whatever follows.
-/

namespace Tilde

/-- Whether an operand may start with the token. -/
def Lexeme.startsOperand : Lexeme → Bool
  | .word w => !isKeyword w || w = "True" || w = "False" || w = "None"
  | .int _ | .str _ | .template _ | .symbol .openParen | .symbol .openBracket => true
  | _ => false

/-- Whether an item of a list of expressions may start with the token. -/
def Lexeme.startsItem (l : Lexeme) : Bool :=
  l.startsOperand || l = .symbol .minus || l = .symbol .tilde || l = .word "not"
    || l = .symbol .star

/-- Whether a statement may start with the token. -/
def Lexeme.startsStmt (l : Lexeme) : Bool :=
  l.startsItem || l = .word "pass" || l = .word "break" || l = .word "continue"
    || l = .word "assert" || l = .word "if" || l = .word "while" || l = .word "for"
    || l = .word "try"

namespace Parser

variable {α β : Type} {n : Nat} {ts : List Token}

/-- The parser fails. -/
def Fails (p : Parser α) (n : Nat) (ts : List Token) : Prop := ∃ e, p n ts = .error e

theorem Fails.bind {p : Parser α} {f : α → Parser β} (h : Fails p n ts) :
    Fails (p >>= f) n ts :=
  h.imp fun _ h => bind_error h

theorem Fails.unexpected {expected : String} : Fails (unexpected expected : Parser α) n ts :=
  ⟨_, unexpected_apply expected⟩

/-- A parser that fails gives nothing. -/
theorem Fails.not_ok {p : Parser α} {r : α × List Token} (h : Fails p n ts) :
    p n ts ≠ .ok r := by
  obtain ⟨e, h⟩ := h
  rw [h]
  exact nofun

/-! ### Levels of operators -/

section Levels

variable {next : Parser Expr}

/-- A round of the parser of operators in front of an operand. -/
def unaryRound (op? : Lexeme → Option UnaryOp) (ops : List UnaryOp) :
    Parser (List UnaryOp ⊕ List UnaryOp) := do
  match op? (← peek) with
  | some op =>
    advance
    return .inl (op :: ops)
  | none => return .inr ops

theorem unaryRound_none {op? : Lexeme → Option UnaryOp} (h : op? (frontToken ts).lexeme = none)
    (ops : List UnaryOp) : unaryRound op? ops n ts = .ok (.inr ops, ts) := by
  rw [unaryRound, bind_ok peek_apply, h]
  rfl

/-- Where no operator stands in front, there is an operand. -/
theorem unaryLevel_plain {op? : Lexeme → Option UnaryOp}
    (h : op? (frontToken ts).lexeme = none) : unaryLevel op? next n ts = next n ts := by
  have hops : repeatFrom [] (unaryRound op?) n ts = .ok ([], ts) := by
    rw [repeatFrom_apply, repeatUpTo, bind_ok (unaryRound_none h [])]
    rfl
  refine (bind_ok hops).trans ?_
  exact congrFun (congrFun (bind_pure next) n) ts

theorem Fails.leftLevel {op? : Lexeme → Option (Expr → Expr → Expr)} (h : Fails next n ts) :
    Fails (leftLevel op? next) n ts :=
  h.bind

theorem Fails.comparisonLevel (h : Fails next n ts) : Fails (comparisonLevel next) n ts :=
  h.bind

theorem Fails.unaryLevel {op? : Lexeme → Option UnaryOp} (hop : op? (frontToken ts).lexeme = none)
    (h : Fails next n ts) : Fails (unaryLevel op? next) n ts := by
  rwa [Fails, unaryLevel_plain hop]

end Levels

/-! ### Expressions -/

theorem startsOperand_word (w : String) : (Lexeme.word w).startsOperand
    = (!isKeyword w || w = "True" || w = "False" || w = "None") := rfl

theorem atom_fails {field : FieldParser} {inner : Inner}
    (h : (frontToken ts).lexeme.startsOperand = false) : Fails (atom field inner) n ts := by
  rw [Fails, atom, bind_ok peekToken_apply]
  generalize (frontToken ts).lexeme = l at h
  change Fails _ n ts
  split
  case h_4 text _ _ _ =>
    have hkeyword : isKeyword text = true := by
      rw [startsOperand_word] at h
      simp only [Bool.or_eq_false_iff, Bool.not_eq_false'] at h
      exact h.1.1.1
    rw [if_pos hkeyword]
    exact .unexpected
  case h_10 => exact .unexpected
  all_goals cases h

theorem operand_fails {field : FieldParser} {inner : Inner}
    (h : (frontToken ts).lexeme.startsOperand = false) : Fails (operand field inner) n ts :=
  (atom_fails h).bind

theorem signOp?_none {l : Lexeme} (hminus : l ≠ .symbol .minus) (htilde : l ≠ .symbol .tilde) :
    signOp? l = none := by
  unfold signOp?
  split <;> simp_all

theorem notOp?_none {l : Lexeme} (h : l ≠ .word "not") : notOp? l = none := by
  unfold notOp?
  split <;> simp_all

theorem startsItem_false {l : Lexeme} (h : l.startsItem = false) :
    l.startsOperand = false ∧ signOp? l = none ∧ notOp? l = none ∧ l ≠ .symbol .star := by
  simp only [Lexeme.startsItem, Bool.or_eq_false_iff, decide_eq_false_iff_not] at h
  obtain ⟨⟨⟨⟨hoperand, hminus⟩, htilde⟩, hnot⟩, hstar⟩ := h
  exact ⟨hoperand, signOp?_none hminus htilde, notOp?_none hnot, hstar⟩

theorem exprAt_fails {field : FieldParser} (h : (frontToken ts).lexeme.startsItem = false)
    (bound : Nat) (level : Level) : Fails (exprAt field bound level) n ts := by
  obtain ⟨hoperand, hsign, hnot, -⟩ := startsItem_false h
  cases bound with
  | zero => exact ⟨_, failHere_apply _⟩
  | succ bound =>
    cases level with
    | operand => exact operand_fails hoperand
    | full =>
      have hsigned : Fails (unaryLevel signOp? (operand field (exprAt field bound))) n ts :=
        .unaryLevel hsign (operand_fails hoperand)
      exact (Fails.unaryLevel hnot hsigned.leftLevel.leftLevel.comparisonLevel).leftLevel.leftLevel

theorem exprList_fails {field : FieldParser} (h : (frontToken ts).lexeme.startsItem = false)
    (bound : Nat) : Fails (exprList (exprAt field bound)) n ts := by
  obtain ⟨-, -, -, hstar⟩ := startsItem_false h
  refine .bind ?_
  rw [Fails, starOrExpr, acceptSymbol, bind_ok (accept_miss hstar)]
  exact exprAt_fails h bound .full

/-! ### Statements -/

/-- **In front of any other token no statement starts.** -/
theorem stmtAt_fails {field : FieldParser} {b : Nat}
    (h : (frontToken ts).lexeme.startsStmt = false) (bound : Nat) :
    Fails (stmtAt (exprAt field b) bound) n ts := by
  simp only [Lexeme.startsStmt, Bool.or_eq_false_iff, decide_eq_false_iff_not] at h
  obtain ⟨⟨⟨⟨⟨⟨⟨⟨hitem, hpass⟩, hbreak⟩, hcontinue⟩, hassert⟩, hif⟩, hwhile⟩, hfor⟩, htry⟩ := h
  have hsimple : Fails (simple (exprAt field b)) n ts := by
    rw [Fails, simple, bind_ok peekToken_apply]
    change Fails _ n ts
    split
    case h_5 => exact (exprList_fails hitem b).bind
    all_goals contradiction
  cases bound with
  | zero => exact ⟨_, failHere_apply _⟩
  | succ bound =>
    rw [Fails, stmtAt, statement, bind_ok peekToken_apply]
    change Fails _ n ts
    split
    case h_5 => exact hsimple.bind
    all_goals contradiction

end Parser
end Tilde

/-!
## Targets of expressions

The target that an expression denotes has its shape: names and starred names are those of the
expression, and a tuple or a list is a sequence of the targets of its items, at most one of them
starred.
-/

namespace Tilde.Parser

theorem toTargets_ok {es : List Expr} {ts : List Target} (h : toTargets es = .ok ts) :
    List.Forall₂ (fun e t => toTarget e = .ok t) es ts := by
  induction es generalizing ts with
  | nil => cases h; exact .nil
  | cons e es ih =>
    cases he : toTarget e with
    | error fault => simp [toTargets, he, bind, Except.bind] at h
    | ok t =>
      cases hes : toTargets es with
      | error fault => simp [toTargets, he, hes, bind, Except.bind] at h
      | ok us =>
        simp only [toTargets, he, hes, bind, Except.bind, pure, Except.pure,
          Except.ok.injEq] at h
        subst h
        exact .cons he (ih hes)

/-- The target of a sequence of expressions. -/
theorem toTarget_sequence {items : List Expr} {t : Target}
    (h : (if 1 < items.countP isStar then .error .multipleStarred
      else (toTargets items).map .sequence : Except ParseFault Target) = .ok t) :
    ∃ ts, t = .sequence ts ∧ items.countP isStar ≤ 1
      ∧ List.Forall₂ (fun e t => toTarget e = .ok t) items ts := by
  split_ifs at h with hstars
  cases hts : toTargets items with
  | error fault => rw [hts] at h; cases h
  | ok ts =>
    rw [hts] at h
    cases h
    exact ⟨ts, rfl, Nat.le_of_not_lt hstars, toTargets_ok hts⟩

mutual

/-- An expression is no target by its kind, or for the stars in it. -/
theorem toTarget_error {fault : ParseFault} : (e : Expr) → toTarget e = .error fault →
    fault = .multipleStarred ∨ ∃ what, fault = .invalidTarget what
  | .name _, h | .star (.name _), h => by cases h
  | .tuple items, h | .list items, h => by
    rw [toTarget] at h
    split at h
    · cases h
      exact .inl rfl
    · cases hitems : toTargets items with
      | ok targets => rw [hitems] at h; cases h
      | error fault' =>
        rw [hitems] at h
        cases h
        exact toTargets_error items hitems
  | .call .., h | .attribute .., h | .subscript .., h | .int _, h | .str _, h | .template _, h
  | .bool _, h | .none, h | .unary .., h | .binary .., h | .compare .., h | .logical .., h => by
    cases h
    exact .inr ⟨_, rfl⟩
  | .star e, h => by
    cases e <;> cases h <;> exact .inr ⟨_, rfl⟩

theorem toTargets_error {fault : ParseFault} : (es : List Expr) → toTargets es = .error fault →
    fault = .multipleStarred ∨ ∃ what, fault = .invalidTarget what
  | [], h => by cases h
  | e :: es, h => by
    rw [toTargets] at h
    cases he : toTarget e with
    | error fault' =>
      rw [he] at h
      cases h
      exact toTarget_error e he
    | ok target =>
      cases hes : toTargets es with
      | ok targets => rw [he, hes] at h; cases h
      | error fault' =>
        rw [he, hes] at h
        cases h
        exact toTargets_error es hes

end

theorem isStar_toTarget {e : Expr} {t : Target} (h : toTarget e = .ok t) :
    t.isStar = isStar e := by
  cases e with
  | name n => cases h; rfl
  | star e =>
    cases e with
    | name n => cases h; rfl
    | _ => cases h
  | tuple items | list items =>
    obtain ⟨ts, rfl, -, -⟩ := toTarget_sequence h
    rfl
  | _ => cases h

theorem countP_toTargets {es : List Expr} {ts : List Target}
    (h : List.Forall₂ (fun e t => toTarget e = .ok t) es ts) :
    ts.countP Target.isStar = es.countP isStar := by
  induction h with
  | nil => rfl
  | cons ht _ ih => rw [List.countP_cons, List.countP_cons, ih, isStar_toTarget ht]

end Tilde.Parser
