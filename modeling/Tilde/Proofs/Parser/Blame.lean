import Tilde.Proofs.Parser.Alike

/-!
# What an error blames

A parser never reads past the end of the text: what it leaves always ends with the token that stands
for the end. So an error of it stands at a token of the text (`Blames`): at the end, if there is too
little, at an interpolated string, if one of its fields is no expression, and else at the token that
does not fit.

A parser that keeps to this is said to answer. Like the parsers themselves, the property is composed
along their text; the one thing to be shown on the way is that a token that is read is not the end.
-/

namespace Tilde

/-- Whether the fault lies in a field of an interpolated string. -/
def ParseFault.inField : ParseFault → Bool
  | fieldTokens _ | field _ => true
  | _ => false

/-- Whether the fault lies in a token of the text itself. -/
def ParseFault.isPlain (fault : ParseFault) : Bool := fault ≠ .unexpectedEnd && !fault.inField

namespace Parser

variable {α β : Type} {ts : List Token}

/-- A text that is parsed: its tokens, the place of its end, and the parser of its fields. -/
structure Input where
  tokens : List Token
  ending : Pos
  field : FieldParser

/-- What is left of a text: some tokens of it, and its end. -/
structure Left (w : Input) (ts : List Token) : Prop where
  ended : ∃ front, ts = front ++ [⟨.eof, w.ending⟩] ∧ ∀ t ∈ front, t.lexeme ≠ .eof
  tokens : ∀ t ∈ ts, t ∈ w.tokens

/-- An error stands where its fault is in the text. -/
inductive Blames (w : Input) : ParseError → Prop where
  | token {t : Token} {fault : ParseFault} (ht : t ∈ w.tokens) (hfault : fault.isPlain = true) :
    Blames w ⟨fault, t.pos⟩
  | ending : Blames w ⟨.unexpectedEnd, w.ending⟩
  | field {pieces : List Template.Piece} {pos : Pos} {fault : ParseFault}
    (ht : ⟨.template pieces, pos⟩ ∈ w.tokens) (hfault : parts w.field pieces = .error fault) :
    Blames w ⟨fault, pos⟩

variable {w : Input}

namespace Left

theorem front (h : Left w ts) : frontToken ts ∈ w.tokens := by
  obtain ⟨front, rfl, -⟩ := h.ended
  cases front with
  | nil => exact h.tokens _ (List.mem_singleton_self _)
  | cons t front => exact h.tokens t (List.mem_cons_self ..)

/-- Behind a token that is not the end, the rest of the text is left. -/
theorem drop (h : Left w ts) (hfront : (frontToken ts).lexeme ≠ .eof) : Left w (ts.drop 1) := by
  obtain ⟨front, rfl, hne⟩ := h.ended
  cases front with
  | nil => exact absurd rfl hfront
  | cons t front =>
    exact ⟨⟨front, rfl, fun t ht => hne t (List.mem_cons_of_mem _ ht)⟩,
      fun t ht => h.tokens t (List.mem_of_mem_drop ht)⟩

theorem ending (h : Left w ts) (hfront : (frontToken ts).lexeme = .eof) :
    (frontToken ts).pos = w.ending := by
  obtain ⟨front, rfl, hne⟩ := h.ended
  cases front with
  | nil => rfl
  | cons t front => exact absurd hfront (hne t (List.mem_cons_self ..))

end Left

/-- On what is left of the text, the parser leaves what is left behind its own part, or it fails with
an error that stands where its fault is. -/
def Answers (w : Input) (p : Parser α) (ts : List Token) : Prop :=
  Left w ts → ∀ n, match p n ts with
    | .ok (_, rest) => Left w rest
    | .error e => Blames w e

namespace Answers

variable {p q : Parser α} {f : α → Parser β} {l : Lexeme}

theorem pure {a : α} : Answers w (pure a) ts := fun h _ => h

/-- One parser after another. -/
theorem bind (hp : Answers w p ts) (hf : ∀ a ts, Answers w (f a) ts) :
    Answers w (p >>= f) ts := by
  intro h n
  have hp := hp h n
  cases hrun : p n ts with
  | error e =>
    rw [hrun] at hp
    rwa [bind_error hrun]
  | ok r =>
    obtain ⟨a, rest⟩ := r
    rw [hrun] at hp
    rw [bind_ok hrun]
    exact hf a rest hp n

/-- A first part that gives a result without fail. -/
theorem after {a : α} {rest : List Token} (hp : ∀ n, p n ts = .ok (a, rest))
    (hrest : Left w ts → Left w rest) (hf : Answers w (f a) rest) : Answers w (p >>= f) ts := by
  intro h n
  rw [bind_ok (hp n)]
  exact hf (hrest h) n

theorem ite {c : Prop} [Decidable c] (hp : c → Answers w p ts) (hq : ¬c → Answers w q ts) :
    Answers w (if c then p else q) ts := by
  by_cases h : c
  · rw [if_pos h]
    exact hp h
  · rw [if_neg h]
    exact hq h

theorem failHere {fault : ParseFault} (hfault : fault.isPlain = true) :
    Answers w (failHere fault : Parser α) ts := fun h _ => .token h.front hfault

theorem unexpected {expected : String} : Answers w (unexpected expected : Parser α) ts := by
  intro h n
  rw [unexpected_apply, unexpectedFault]
  by_cases hfront : (frontToken ts).lexeme = .eof
  · rw [if_pos hfront, h.ending hfront]
    exact .ending
  · rw [if_neg hfront]
    exact .token h.front rfl

theorem throw {t : Token} {fault : ParseFault} (ht : t ∈ w.tokens)
    (hfault : fault.isPlain = true) : Answers w (throw ⟨fault, t.pos⟩ : Parser α) ts :=
  fun _ _ => .token ht hfault

theorem read {f : Nat → Parser β} (hf : ∀ n, Answers w (f n) ts) :
    Answers w (read >>= f) ts := by
  intro h n
  rw [bind_ok read_apply]
  exact hf n h n

theorem peekToken {f : Token → Parser β} (hf : frontToken ts ∈ w.tokens →
    Answers w (f (frontToken ts)) ts) : Answers w (peekToken >>= f) ts :=
  fun h n => hf h.front h n

theorem peek {f : Lexeme → Parser β} (hf : Answers w (f (frontToken ts).lexeme) ts) :
    Answers w (peek >>= f) ts :=
  fun h n => hf h n

theorem peekSecond {f : Lexeme → Parser β}
    (hf : Answers w (f (frontToken (ts.drop 1)).lexeme) ts) : Answers w (peekSecond >>= f) ts :=
  fun h n => hf h n

/-- A token is read that is not the end. -/
theorem advance {f : Unit → Parser β} (hfront : (frontToken ts).lexeme = l) (hl : l ≠ .eof)
    (hf : Answers w (f ()) (ts.drop 1)) : Answers w (advance >>= f) ts :=
  .after (fun _ => advance_apply) (fun h => h.drop (hfront ▸ hl)) hf

theorem accept (hl : l ≠ .eof) : Answers w (accept l) ts := by
  refine .peek (.ite (fun hfront => ?_) fun _ => .pure)
  exact .advance hfront hl .pure

theorem expect {expected : String} (hl : l ≠ .eof) : Answers w (expect l expected) ts :=
  .bind (.accept hl) fun _ _ => .ite (fun _ => .pure) fun _ => .unexpected

theorem name : Answers w name ts := by
  refine .peek ?_
  split
  · next hfront =>
    exact .ite (fun _ => .unexpected) fun _ => .advance hfront nofun .pure
  · exact .unexpected

/-- A repetition. -/
theorem repeatFrom {round : α → Parser (α ⊕ β)} (h : ∀ a ts, Answers w (round a) ts) (start : α) :
    Answers w (repeatFrom start round) ts := by
  have hrounds : ∀ bound a ts, Answers w (repeatUpTo round bound a) ts := by
    intro bound
    induction bound with
    | zero => exact fun _ _ => .failHere rfl
    | succ bound ih =>
      intro a ts
      refine .bind (h a ts) fun r rest => ?_
      cases r with
      | inl a => exact ih a rest
      | inr b => exact .pure
  exact .read fun n => hrounds (n + 1) start ts

end Answers

/-! ## Expressions -/

theorem adjacentStrings_answers (text : String) : Answers w (adjacentStrings text) ts := by
  refine .repeatFrom (fun text ts => .peek ?_) text
  split
  · next hfront => exact .advance hfront nofun .pure
  · exact .pure

/-- A keyword argument starts with a name and a sign, neither of which is the end. -/
theorem atKeyword_answers {f : Bool → Parser β}
    (hyes : ∀ text, (frontToken ts).lexeme = .word text → isKeyword text = false →
      (frontToken (ts.drop 1)).lexeme = .symbol .assign → Answers w (f true) ts)
    (hno : Answers w (f false) ts) : Answers w (atKeyword >>= f) ts := by
  obtain hrun | ⟨hrun, text, hfront, hname, hassign⟩ := atKeyword_cases ts
  · exact .after hrun id hno
  · exact .after hrun id (hyes text hfront hname hassign)

section Expressions

variable {inner : Inner} (hinner : ∀ level ts, Answers w (inner level) ts)
include hinner

theorem starOrExpr_answers : Answers w (starOrExpr inner) ts := by
  refine .bind (.accept nofun) fun star ts => .ite (fun _ => ?_) fun _ => hinner .full ts
  exact .bind (hinner .operand ts) fun _ _ => .pure

theorem exprList_answers : Answers w (exprList inner) ts := by
  refine .bind (starOrExpr_answers hinner) fun first ts => .peek (.ite (fun _ => .pure) fun _ => ?_)
  refine .repeatFrom (fun items ts => ?_) _
  refine .bind (.accept nofun) fun comma ts => .ite (fun _ => ?_) fun _ => .pure
  refine .peek (.ite (fun _ => .pure) fun _ => ?_)
  exact .bind (starOrExpr_answers hinner) fun _ _ => .pure

theorem listItems_answers : Answers w (listItems inner) ts := by
  refine .repeatFrom (fun items ts => .peek (.ite (fun _ => .pure) fun _ => ?_)) _
  refine .bind (starOrExpr_answers hinner) fun e ts => ?_
  exact .bind (.accept nofun) fun _ _ => .ite (fun _ => .pure) fun _ => .pure

theorem arguments_answers : Answers w (arguments inner) ts := by
  refine .repeatFrom (fun r ts => ?_) _
  obtain ⟨args, keywords⟩ := r
  refine .peek (.ite (fun _ => .pure) fun _ => ?_)
  have hnext : ∀ (next : List Expr × List Keyword) ts,
      Answers w (do if ← acceptSymbol .comma then return .inl next
                    else return .inr (next.1.reverse, next.2.reverse) :
        Parser ((List Expr × List Keyword) ⊕ (List Expr × List Keyword))) ts := fun next ts =>
    .bind (.accept nofun) fun _ _ => .ite (fun _ => .pure) fun _ => .pure
  refine atKeyword_answers (fun text hfront hname hassign => .ite (fun _ => ?_) nofun)
    (.ite nofun fun _ => .ite (fun _ => ?_) fun _ => ?_)
  · have hkey n : name n ts = .ok (text, ts.drop 1) := name_hit hname hfront
    refine .after hkey (fun h => h.drop (by rw [hfront]; nofun)) (.advance hassign nofun ?_)
    exact .bind (hinner .full _) fun e ts => hnext _ ts
  · exact .bind (.failHere rfl) fun next ts => hnext next ts
  · exact .bind (hinner .full ts) fun e ts => hnext _ ts

theorem atom_answers : Answers w (atom w.field inner) ts := by
  refine .peekToken fun hmem => ?_
  split
  case h_4 hfront => exact .ite (fun _ => .unexpected) fun _ => .advance hfront nofun .pure
  case h_5 text hfront =>
    exact .advance hfront nofun (.bind (adjacentStrings_answers text) fun _ _ => .pure)
  case h_6 pieces hfront =>
    refine .advance hfront nofun ?_
    cases hparts : parts w.field pieces with
    | ok parts => exact .pure
    | error fault =>
      have ht : (⟨.template pieces, (frontToken ts).pos⟩ : Token) ∈ w.tokens := by
        rw [← hfront]
        exact hmem
      exact fun _ _ => .field ht hparts
  case h_7 hfront =>
    refine .advance hfront nofun (.bind (.accept nofun) fun close ts => ?_)
    refine .ite (fun _ => .pure) fun _ => .bind (exprList_answers hinner) fun e ts => ?_
    exact .bind (.expect nofun) fun _ _ => .pure
  case h_8 hfront =>
    refine .advance hfront nofun (.bind (listItems_answers hinner) fun items ts => ?_)
    exact .bind (.expect nofun) fun _ _ => .pure
  case h_10 => exact .unexpected
  all_goals
    next hfront => exact .advance hfront nofun .pure

theorem operand_answers : Answers w (operand w.field inner) ts := by
  refine .bind (atom_answers hinner) fun e ts => .repeatFrom (fun e ts => .peek ?_) e
  split
  · next hfront =>
    refine .advance hfront nofun (.bind (arguments_answers hinner) fun r ts => ?_)
    exact .bind (.expect nofun) fun _ _ => .pure
  · next hfront =>
    refine .advance hfront nofun (.peek ?_)
    split
    · next hfront' => exact .advance hfront' nofun .pure
    · exact .unexpected
  · next hfront =>
    refine .advance hfront nofun (.bind (hinner .full _) fun index ts => ?_)
    exact .bind (.expect nofun) fun _ _ => .pure
  · exact .pure

end Expressions

/-- A token that an expression may hold is not the end. -/
theorem ne_eof_of_inline {l : Lexeme} (h : l.isInline = true) : l ≠ .eof := by
  rintro rfl
  cases h

section Levels

variable {next : Parser Expr} (hnext : ∀ ts, Answers w next ts)
include hnext

theorem unaryLevel_answers {op? : Lexeme → Option UnaryOp}
    (hop : ∀ l op, op? l = some op → l.isInline = true) (ts : List Token) :
    Answers w (unaryLevel op? next) ts := by
  refine .bind (.repeatFrom (fun ops ts => .peek ?_) _) fun ops ts =>
    .bind (hnext ts) fun _ _ => .pure
  split
  · next op heq => exact .advance rfl (ne_eof_of_inline (hop _ op heq)) .pure
  · exact .pure

theorem leftLevel_answers {op? : Lexeme → Option (Expr → Expr → Expr)}
    (hop : ∀ l op, op? l = some op → l.isInline = true) (ts : List Token) :
    Answers w (leftLevel op? next) ts := by
  refine .bind (hnext ts) fun left ts => .repeatFrom (fun left ts => .peek ?_) left
  split
  · next op heq =>
    exact .advance rfl (ne_eof_of_inline (hop _ op heq)) (.bind (hnext _) fun _ _ => .pure)
  · exact .pure

theorem comparisonLevel_answers (ts : List Token) : Answers w (comparisonLevel next) ts := by
  refine .bind (hnext ts) fun left ts => .peek (.peekSecond ?_)
  have hright : ∀ op ts, Answers w (do return Expr.compare op left (← next)) ts := fun op ts =>
    .bind (hnext ts) fun _ _ => .pure
  by_cases hnot : (frontToken ts).lexeme = .word "not"
  · rw [hnot, comparison?_not]
    by_cases hin : (frontToken (ts.drop 1)).lexeme = .word "in"
    · rw [if_pos hin]
      have htwo : ∀ n, (modify (·.drop 2) : Parser Unit) n ts = .ok ((), (ts.drop 1).drop 1) := by
        intro n
        rw [List.drop_drop]
        rfl
      refine .after htwo (fun h => ?_) (hright .notIn _)
      exact (h.drop (by rw [hnot]; nofun)).drop (by rw [hin]; nofun)
    · rw [if_neg hin]
      exact .pure
  · rcases comparison?_single hnot with hnone | ⟨hinline, op, hsome⟩
    · rw [hnone]
      exact .pure
    · rw [hsome]
      exact .advance rfl (ne_eof_of_inline hinline) (hright op _)

end Levels

theorem exprAt_answers (bound : Nat) (level : Level) :
    Answers w (exprAt w.field bound level) ts := by
  induction bound generalizing level ts with
  | zero => exact .failHere rfl
  | succ bound ih =>
    have hoperand : ∀ ts, Answers w (operand w.field (exprAt w.field bound)) ts :=
      fun ts => operand_answers fun level ts => ih level
    cases level with
    | operand => exact hoperand ts
    | full =>
      have h := leftLevel_answers (unaryLevel_answers hoperand signOp?_inline) termOp?_inline
      have h := comparisonLevel_answers (leftLevel_answers h sumOp?_inline)
      have h := leftLevel_answers (unaryLevel_answers h notOp?_inline) andOp?_inline
      exact leftLevel_answers h orOp?_inline ts

/-! ## Statements -/

/-- What is no target is no field either. -/
theorem toTarget_plain {e : Expr} {fault : ParseFault} (h : toTarget e = .error fault) :
    fault.isPlain = true := by
  obtain rfl | ⟨what, rfl⟩ := toTarget_error e h
  · rfl
  · rfl

theorem rejectStar_answers (e : Expr) : Answers w (rejectStar e) ts :=
  .ite (fun _ => .failHere rfl) fun _ => .pure

theorem lineEnd_answers : Answers w lineEnd ts := by
  refine .peek ?_
  split
  · next hfront => exact .advance (f := Pure.pure) hfront nofun .pure
  · exact .pure
  · exact .unexpected

section Statements

variable {expr : Inner} {stmt : Parser Stmt} (hexpr : ∀ level ts, Answers w (expr level) ts)
  (hstmt : ∀ ts, Answers w stmt ts)
include hexpr

theorem simple_answers : Answers w (simple expr) ts := by
  refine .peekToken fun hmem => ?_
  split
  case h_4 hfront =>
    refine .advance hfront nofun (.bind (hexpr .full _) fun test ts => ?_)
    refine .bind (.accept nofun) fun comma ts => .ite (fun _ => ?_) fun _ => .pure
    exact .bind (hexpr .full ts) fun _ _ => .pure
  case h_5 =>
    refine .bind (exprList_answers hexpr) fun e ts => .bind (.accept nofun) fun assign ts =>
      .ite (fun _ => ?_) fun _ => .bind (rejectStar_answers e) fun _ _ => .pure
    cases htarget : toTarget e with
    | error fault => exact .throw hmem (toTarget_plain htarget)
    | ok target =>
      refine .bind (exprList_answers hexpr) fun value ts => ?_
      exact .bind (rejectStar_answers value) fun _ _ => .pure
  all_goals
    next hfront => exact .advance hfront nofun .pure

include hstmt

theorem block_answers : Answers w (block expr stmt) ts := by
  refine .bind (.expect nofun) fun _ ts => .bind (.accept nofun) fun newline ts =>
    .ite (fun _ => ?_) fun _ => ?_
  · refine .bind (.expect nofun) fun _ ts => .repeatFrom (fun body ts => .peek ?_) _
    split
    · next hfront => exact .advance hfront nofun .pure
    · exact .unexpected
    · next hfront => exact .advance hfront nofun .pure
    · exact .bind (hstmt ts) fun _ _ => .pure
  · exact .bind (simple_answers hexpr) fun _ ts => .bind lineEnd_answers fun _ _ => .pure

theorem branch_answers (bound line : Nat) : Answers w (branch expr stmt bound line) ts := by
  induction bound generalizing line ts with
  | zero => exact .failHere rfl
  | succ bound ih =>
    refine .bind (hexpr .full ts) fun test ts => .bind (block_answers hexpr hstmt) fun body ts =>
      .peekToken fun _ => ?_
    split
    · next hfront => exact .advance hfront nofun (.bind (ih _) fun _ _ => .pure)
    · next hfront =>
      exact .advance hfront nofun (.bind (block_answers hexpr hstmt) fun _ _ => .pure)
    · exact .pure

omit hexpr hstmt in
theorem targetAtom_answers (bound : Nat) : Answers w (targetAtom bound) ts := by
  induction bound generalizing ts with
  | zero => exact .failHere rfl
  | succ bound ih =>
    have hbracketed : ∀ close ts, Answers w (targetAtom.bracketed close (targetAtom bound)) ts := by
      intro close ts
      refine .bind (.repeatFrom (fun items ts => .peek ?_) _) fun items ts =>
        .bind (.expect nofun) fun _ _ => .pure
      refine .ite (fun _ => .pure) fun _ => .bind ih fun e ts => ?_
      exact .bind (.accept nofun) fun _ _ => .ite (fun _ => .pure) fun _ => .pure
    refine .peek ?_
    split
    · next hfront => exact .advance hfront nofun (.bind .name fun _ _ => .pure)
    · next hfront => exact .advance hfront nofun (hbracketed _ _)
    · next hfront => exact .advance hfront nofun (hbracketed _ _)
    · exact .bind .name fun _ _ => .pure

omit hexpr hstmt in
theorem loopTarget_answers : Answers w loopTarget ts := by
  refine .read fun bound => .bind (targetAtom_answers bound) fun first ts =>
    .bind (.repeatFrom (fun items ts => ?_) _) fun items ts => ?_
  · refine .bind (.accept nofun) fun comma ts => .ite (fun _ => ?_) fun _ => .pure
    refine .peek (.ite (fun _ => .pure) fun _ => ?_)
    exact .bind (targetAtom_answers bound) fun _ _ => .pure
  · split
    · exact .pure
    · exact .pure

theorem forEach_answers {l : Lexeme} (hfront : (frontToken ts).lexeme = l) (hl : l ≠ .eof)
    (line : Nat) : Answers w (forEach expr stmt line) ts := by
  refine .advance hfront hl (.peekToken fun hmem => .bind loopTarget_answers fun e ts => ?_)
  cases htarget : toTarget e with
  | error fault => exact .throw hmem (toTarget_plain htarget)
  | ok target =>
    refine .bind (.accept nofun) fun _ ts => .ite (fun _ => ?_) fun _ => .unexpected
    exact .bind (exprList_answers hexpr) fun items ts =>
      .bind (block_answers hexpr hstmt) fun _ _ => .pure

omit hexpr hstmt in
theorem handlerKind_answers : Answers w handlerKind ts := by
  refine .peek ?_
  split
  · next hfront => exact .ite (fun _ => .pure) fun _ => .advance hfront nofun .pure
  · exact .pure

theorem handlers_answers : Answers w (handlers expr stmt) ts := by
  refine .repeatFrom (fun hs ts => ?_) _
  refine .bind (.accept nofun) fun except ts => .ite (fun _ => ?_) fun _ => .pure
  have hblock : ∀ kind binding ts, Answers w (do
      return .inl (.mk kind binding (← block expr stmt) :: hs) :
        Parser (List Handler ⊕ List Handler)) ts := fun kind binding ts =>
    .bind (block_answers hexpr hstmt) fun _ _ => .pure
  refine .bind handlerKind_answers fun kind ts => .bind (.accept nofun) fun as ts =>
    .ite (fun _ => ?_) fun _ => hblock kind none ts
  exact .bind .name fun name ts => hblock kind (some name) ts

theorem attempt_answers {l : Lexeme} (hfront : (frontToken ts).lexeme = l) (hl : l ≠ .eof)
    (line : Nat) : Answers w (attempt expr stmt line) ts := by
  refine .advance hfront hl (.bind (block_answers hexpr hstmt) fun body ts => ?_)
  refine .bind (handlers_answers hexpr hstmt) fun hs ts => ?_
  exact .ite (fun _ => .unexpected) fun _ => .pure

theorem statement_answers : Answers w (statement expr stmt) ts := by
  refine .peekToken fun _ => ?_
  split
  case h_1 hfront =>
    exact .advance hfront nofun (.read fun n => branch_answers hexpr hstmt n _)
  case h_2 hfront =>
    refine .advance hfront nofun (.bind (hexpr .full _) fun test ts => ?_)
    exact .bind (block_answers hexpr hstmt) fun _ _ => .pure
  case h_3 hfront => exact forEach_answers hexpr hstmt hfront nofun _
  case h_4 hfront => exact attempt_answers hexpr hstmt hfront nofun _
  case h_5 =>
    exact .bind (simple_answers hexpr) fun _ ts => .bind lineEnd_answers fun _ _ => .pure

end Statements

theorem stmtAt_answers {expr : Inner} (hexpr : ∀ level ts, Answers w (expr level) ts) (bound : Nat) :
    Answers w (stmtAt expr bound) ts := by
  induction bound generalizing ts with
  | zero => exact .failHere rfl
  | succ bound ih => exact statement_answers hexpr fun ts => ih

theorem statements_answers {stmt : Parser Stmt} (hstmt : ∀ ts, Answers w stmt ts)
    (ts : List Token) : Answers w (statements stmt) ts := by
  refine .repeatFrom (fun body ts => .peek ?_) _
  split
  · exact .pure
  · next hfront => exact .advance hfront nofun .pure
  · exact .bind (hstmt ts) fun _ _ => .pure

/-- **Where the parser of a whole text fails**, the error stands where its fault is. -/
theorem programTokens_blames {nesting : Nat} {ts : List Token} {pos : Pos} {e : ParseError}
    (hended : ∃ front, ts = front ++ [⟨.eof, pos⟩] ∧ ∀ t ∈ front, t.lexeme ≠ .eof)
    (h : programTokens nesting ts = .error e) : Blames ⟨ts, pos, fieldExpr nesting⟩ e := by
  let w : Input := ⟨ts, pos, fieldExpr nesting⟩
  have hexpr : ∀ level us, Answers w (exprAt (fieldExpr nesting) ts.length level) us :=
    fun level us => exprAt_answers ts.length level
  have hall := statements_answers (fun us => stmtAt_answers hexpr ts.length) ts
  have hrun := hall ⟨hended, fun t ht => ht⟩ ts.length
  cases hts : statements (stmtAt (exprAt (fieldExpr nesting) ts.length) ts.length) ts.length ts with
  | ok r =>
    rw [programTokens, parseTokens_ok.mpr ⟨r.2, hts⟩] at h
    cases h
  | error e' =>
    rw [programTokens, parseTokens_error hts] at h
    rw [hts] at hrun
    cases h
    exact hrun

end Parser
end Tilde
