import Tilde.Parser.Stmt
import Tilde.Proofs.Parser.Run

/-!
# Expressions do not depend on places

Where a token stands matters to a parser of expressions for the place of an error only. So where it
succeeds on some tokens, it gives the same on any tokens with the same lexemes, and reads as many of
them.

`Placeless` says this of one parser. It holds of the small parsers and composes along the text of a
larger one.
-/

namespace Tilde

/-- What tokens are, without their places. -/
def lexemes (ts : List Token) : List Lexeme := ts.map Token.lexeme

@[simp] theorem lexemes_nil : lexemes [] = [] := rfl

@[simp] theorem lexemes_cons (t : Token) (ts : List Token) :
    lexemes (t :: ts) = t.lexeme :: lexemes ts := rfl

@[simp] theorem lexemes_append (ts us : List Token) :
    lexemes (ts ++ us) = lexemes ts ++ lexemes us := List.map_append

namespace Parser

variable {α β : Type}

/-- The front of a list of tokens, told from their lexemes. -/
theorem front_lexeme (ts : List Token) : (frontToken ts).lexeme = (lexemes ts).headD .eof := by
  cases ts <;> rfl

theorem front_lexeme_of {ts us : List Token} (h : lexemes us = lexemes ts) :
    (frontToken us).lexeme = (frontToken ts).lexeme := by
  rw [front_lexeme, front_lexeme, h]

/-- Wherever the first parser succeeds, the second one gives the same. -/
def Backed (p q : Parser α) : Prop := ∀ n ts r, p n ts = .ok r → q n ts = .ok r

/-- Where the parser succeeds, it reads some tokens from the front, and on tokens with the same
lexemes it gives the same and reads those that stand for them. -/
def Placeless (p : Parser α) : Prop :=
  ∀ n ts a rest, p n ts = .ok (a, rest) → ∃ used, ts = used ++ rest ∧
    ∀ used' rest', lexemes used' = lexemes used → lexemes rest' = lexemes rest →
      p n (used' ++ rest') = .ok (a, rest')

namespace Placeless

theorem pure {a : α} : Placeless (pure a) := by
  intro n ts a' rest h
  cases h
  refine ⟨[], rfl, fun used' rest' hused _ => ?_⟩
  rw [lexemes_nil, lexemes, List.map_eq_nil_iff] at hused
  rw [hused]
  rfl

theorem bind {p : Parser α} {f : α → Parser β} (hp : Placeless p)
    (hf : ∀ a, Placeless (f a)) : Placeless (p >>= f) := by
  intro n ts b rest h
  obtain ⟨a, mid, h1, h2⟩ := bind_ok_iff.mp h
  obtain ⟨used₁, rfl, hp⟩ := hp n ts a mid h1
  obtain ⟨used₂, rfl, hf⟩ := hf a n mid b rest h2
  refine ⟨used₁ ++ used₂, (List.append_assoc ..).symm, fun used' rest' hused hrest => ?_⟩
  rw [lexemes_append, lexemes, List.map_eq_append_iff] at hused
  obtain ⟨used₁', used₂', rfl, hused₁, hused₂⟩ := hused
  have hmid : lexemes (used₂' ++ rest') = lexemes (used₂ ++ rest) := by
    rw [lexemes_append, lexemes_append, hrest, lexemes, hused₂]
  rw [List.append_assoc, bind_ok (hp used₁' _ hused₁ hmid)]
  exact hf used₂' rest' hused₂ hrest

theorem throw {e : ParseError} : Placeless (throw e : Parser α) := by
  intro n ts a rest h
  cases h

theorem failHere {fault : ParseFault} : Placeless (failHere fault : Parser α) := by
  intro n ts a rest h
  cases h

theorem unexpected {expected : String} : Placeless (unexpected expected : Parser α) := by
  intro n ts a rest h
  rw [unexpected_apply] at h
  cases h

theorem ite {c : Prop} [Decidable c] {p q : Parser α} (hp : Placeless p) (hq : Placeless q) :
    Placeless (if c then p else q) := by
  by_cases h : c
  · rw [if_pos h]; exact hp
  · rw [if_neg h]; exact hq

/-- A parser that looks at the front token, but asks for its place only where it fails. -/
theorem peekToken {f : Token → Parser β} (hf : ∀ t, Placeless (f t))
    (hplace : ∀ t u, t.lexeme = u.lexeme → Backed (f t) (f u)) :
    Placeless (peekToken >>= f) := by
  intro n ts b rest h
  rw [bind_ok peekToken_apply] at h
  obtain ⟨used, hts, hrun⟩ := hf (frontToken ts) n ts b rest h
  refine ⟨used, hts, fun used' rest' hused hrest => ?_⟩
  have hfront : (frontToken ts).lexeme = (frontToken (used' ++ rest')).lexeme := by
    refine front_lexeme_of ?_
    rw [hts, lexemes_append, lexemes_append, hused, hrest]
  rw [bind_ok peekToken_apply]
  exact hplace _ _ hfront n _ _ (hrun used' rest' hused hrest)

theorem peek {f : Lexeme → Parser β} (hf : ∀ l, Placeless (f l)) : Placeless (peek >>= f) :=
  peekToken (fun t => hf t.lexeme) fun t u hlexeme n ts r h => by
    rw [← hlexeme]
    exact h

theorem peekSecond {f : Lexeme → Parser β} (hf : ∀ l, Placeless (f l)) :
    Placeless (peekSecond >>= f) := by
  intro n ts b rest h
  rw [bind_ok peekSecond_apply] at h
  obtain ⟨used, hts, hrun⟩ := hf _ n ts b rest h
  refine ⟨used, hts, fun used' rest' hused hrest => ?_⟩
  have hall : lexemes (used' ++ rest') = lexemes ts := by
    rw [hts, lexemes_append, lexemes_append, hused, hrest]
  have hsecond : lexemes ((used' ++ rest').drop 1) = lexemes (ts.drop 1) := by
    rw [lexemes, List.map_drop, ← lexemes, hall, lexemes, ← List.map_drop, ← lexemes]
  rw [bind_ok peekSecond_apply, front_lexeme_of hsecond]
  exact hrun used' rest' hused hrest

theorem drop (k : Nat) : Placeless (modify (·.drop k) : Parser PUnit) := by
  intro n ts u rest h
  cases h
  refine ⟨ts.take k, (List.take_append_drop k ts).symm, fun used' rest' hused hrest => ?_⟩
  -- where fewer than `k` tokens are left, all of them are read
  have hdrop : (used' ++ rest').drop k = rest' := by
    have hlen := congrArg List.length hused
    have hlen' := congrArg List.length hrest
    simp only [lexemes, List.length_map, List.length_take, List.length_drop] at hlen hlen'
    rcases Nat.le_total k ts.length with hk | hk
    · exact List.drop_left' (by omega)
    · have hnil : rest' = [] := List.eq_nil_of_length_eq_zero (by omega)
      rw [hnil, List.append_nil]
      exact List.drop_eq_nil_of_le (by omega)
  exact congrArg (fun l => Except.ok (PUnit.unit, l)) hdrop

theorem advance : Placeless advance := drop 1

theorem read : Placeless (read : Parser Nat) := by
  intro n ts k rest h
  cases h
  refine ⟨[], rfl, fun used' rest' hused _ => ?_⟩
  rw [lexemes_nil, lexemes, List.map_eq_nil_iff] at hused
  rw [hused]
  rfl

theorem accept {l : Lexeme} : Placeless (accept l) :=
  peek fun _ => ite (bind advance fun _ => pure) pure

theorem expect {l : Lexeme} {expected : String} : Placeless (expect l expected) :=
  bind accept fun _ => ite pure unexpected

theorem name : Placeless name := by
  refine peek fun l => ?_
  split
  · exact ite unexpected (bind advance fun _ => pure)
  · exact unexpected

theorem repeatUpTo {round : α → Parser (α ⊕ β)} (h : ∀ a, Placeless (round a)) (bound : Nat) :
    ∀ a, Placeless (repeatUpTo round bound a) := by
  induction bound with
  | zero => exact fun _ => failHere
  | succ bound ih =>
    refine fun a => bind (h a) fun r => ?_
    cases r with
    | inl a' => exact ih a'
    | inr b => exact pure

theorem repeatFrom {start : α} {round : α → Parser (α ⊕ β)} (h : ∀ a, Placeless (round a)) :
    Placeless (repeatFrom start round) :=
  bind read fun n => repeatUpTo h (n + 1) start

end Placeless

/-! ## Expressions -/

theorem adjacentStrings_placeless (text : String) : Placeless (adjacentStrings text) := by
  refine .repeatFrom fun text => .peek fun l => ?_
  split
  · exact .bind .advance fun _ => .pure
  · exact .pure

theorem atKeyword_placeless : Placeless atKeyword := by
  refine .peek fun l => ?_
  split
  · exact .peekSecond fun _ => .pure
  · exact .pure

section Expressions

variable {inner : Inner} (hinner : ∀ level, Placeless (inner level))
include hinner

theorem starOrExpr_placeless : Placeless (starOrExpr inner) :=
  .bind .accept fun _ => .ite (.bind (hinner .operand) fun _ => .pure) (hinner .full)

theorem exprList_placeless : Placeless (exprList inner) := by
  refine .bind (starOrExpr_placeless hinner) fun _ => .peek fun _ => .ite .pure ?_
  refine .repeatFrom fun _ => .bind .accept fun _ => .ite (.peek fun _ => .ite .pure ?_) .pure
  exact .bind (starOrExpr_placeless hinner) fun _ => .pure

theorem listItems_placeless : Placeless (listItems inner) :=
  .repeatFrom fun _ => .peek fun _ => .ite .pure <|
    .bind (starOrExpr_placeless hinner) fun _ => .bind .accept fun _ => .ite .pure .pure

theorem atom_placeless (field : FieldParser) : Placeless (atom field inner) := by
  refine .peekToken (fun t => ?_) fun t u hlexeme => ?_
  · split
    case h_4 => exact .ite .unexpected (.bind .advance fun _ => .pure)
    case h_5 text _ =>
      exact .bind .advance fun _ => .bind (adjacentStrings_placeless text) fun _ => .pure
    case h_6 =>
      refine .bind .advance fun _ => ?_
      split
      · exact .pure
      · exact .throw
    case h_7 =>
      refine .bind .advance fun _ => .bind .accept fun _ => .ite .pure ?_
      exact .bind (exprList_placeless hinner) fun _ => .bind .expect fun _ => .pure
    case h_8 =>
      exact .bind .advance fun _ => .bind (listItems_placeless hinner) fun _ =>
        .bind .expect fun _ => .pure
    case h_10 => exact .unexpected
    all_goals exact .bind .advance fun _ => .pure
  · -- the place is asked for only where a field cannot be parsed
    rw [← hlexeme]
    split
    case h_6 pieces heq =>
      intro n ts r h
      rw [bind_ok advance_apply] at h ⊢
      cases hps : parts field pieces with
      | ok ps => rwa [hps] at h
      | error fault => rw [hps] at h; cases h
    all_goals exact fun n ts r h => h

theorem arguments_placeless : Placeless (arguments inner) := by
  refine .repeatFrom fun r => ?_
  obtain ⟨args, keywords⟩ := r
  have hnext : ∀ next : List Expr × List Keyword, Placeless
      (do if ← acceptSymbol .comma then return .inl next
          else return .inr (next.1.reverse, next.2.reverse) :
        Parser ((List Expr × List Keyword) ⊕ (List Expr × List Keyword))) :=
    fun next => .bind .accept fun _ => .ite .pure .pure
  refine .peek fun _ => .ite .pure <| .bind atKeyword_placeless fun _ => .ite ?_ (.ite ?_ ?_)
  · exact .bind .name fun _ => .bind .advance fun _ => .bind (hinner .full) fun _ => hnext _
  · exact .bind .failHere fun _ => hnext _
  · exact .bind (hinner .full) fun _ => hnext _

theorem operand_placeless (field : FieldParser) : Placeless (operand field inner) := by
  refine .bind (atom_placeless hinner field) fun e => .repeatFrom fun e => .peek fun l => ?_
  split
  · exact .bind .advance fun _ => .bind (arguments_placeless hinner) fun _ =>
      .bind .expect fun _ => .pure
  · refine .bind .advance fun _ => .peek fun l => ?_
    split
    · exact .bind .advance fun _ => .pure
    · exact .unexpected
  · exact .bind .advance fun _ => .bind (hinner .full) fun _ => .bind .expect fun _ => .pure
  · exact .pure

end Expressions

section Levels

variable {next : Parser Expr} (hnext : Placeless next)
include hnext

theorem unaryLevel_placeless (op? : Lexeme → Option UnaryOp) :
    Placeless (unaryLevel op? next) := by
  refine .bind (.repeatFrom fun ops => .peek fun l => ?_) fun _ => .bind hnext fun _ => .pure
  split
  · exact .bind .advance fun _ => .pure
  · exact .pure

theorem leftLevel_placeless (op? : Lexeme → Option (Expr → Expr → Expr)) :
    Placeless (leftLevel op? next) := by
  refine .bind hnext fun left => .repeatFrom fun left => .peek fun l => ?_
  split
  · exact .bind .advance fun _ => .bind hnext fun _ => .pure
  · exact .pure

theorem comparisonLevel_placeless : Placeless (comparisonLevel next) := by
  refine .bind hnext fun left => .peek fun _ => .peekSecond fun _ => ?_
  split
  · exact .bind (.drop _) fun _ => .bind hnext fun _ => .pure
  · exact .pure

end Levels

theorem expression_placeless (field : FieldParser) {inner : Inner}
    (hinner : ∀ level, Placeless (inner level)) : Placeless (expression field inner) :=
  leftLevel_placeless (leftLevel_placeless (unaryLevel_placeless (comparisonLevel_placeless
    (leftLevel_placeless (leftLevel_placeless (unaryLevel_placeless
      (operand_placeless hinner field) _) _) _)) _) _) _

/-- **What an expression is does not depend on where its tokens stand.** -/
theorem exprAt_placeless (field : FieldParser) (bound : Nat) (level : Level) :
    Placeless (exprAt field bound level) := by
  induction bound generalizing level with
  | zero => exact .failHere
  | succ bound ih =>
    cases level with
    | full => exact expression_placeless field ih
    | operand => exact operand_placeless ih field

/-! ## Parts of statements -/

theorem bracketed_placeless {close : Symbol} {item : Parser Expr} (hitem : Placeless item) :
    Placeless (targetAtom.bracketed close item) := by
  refine .bind (.repeatFrom fun items => .peek fun _ => .ite .pure ?_) fun _ =>
    .bind .expect fun _ => .pure
  exact .bind hitem fun _ => .bind .accept fun _ => .ite .pure .pure

theorem targetAtom_placeless (bound : Nat) : Placeless (targetAtom bound) := by
  induction bound with
  | zero => exact .failHere
  | succ bound ih =>
    refine .peek fun l => ?_
    split
    · exact .bind .advance fun _ => .bind .name fun _ => .pure
    · exact .bind .advance fun _ => bracketed_placeless ih
    · exact .bind .advance fun _ => bracketed_placeless ih
    · exact .bind .name fun _ => .pure

theorem loopTarget_placeless : Placeless loopTarget := by
  refine .bind .read fun bound => .bind (targetAtom_placeless bound) fun first => ?_
  refine .bind (.repeatFrom fun items => .bind .accept fun _ => .ite ?_ .pure) fun items => ?_
  · exact .peek fun _ => .ite .pure (.bind (targetAtom_placeless bound) fun _ => .pure)
  · split
    · exact .pure
    · exact .pure

theorem handlerKind_placeless : Placeless handlerKind := by
  refine .peek fun l => ?_
  split
  · exact .ite .pure (.bind .advance fun _ => .pure)
  · exact .pure

theorem rejectStar_placeless (e : Expr) : Placeless (rejectStar e) := .ite .failHere .pure

end Parser
end Tilde
