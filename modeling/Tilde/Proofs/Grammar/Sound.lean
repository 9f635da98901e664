import Tilde.Proofs.Grammar.Derivation
import Tilde.Proofs.Lexer.WellLaid

/-!
# Parsers follow the grammar

Where a parser succeeds, the lexemes of the tokens it has read derive what it gives. `Gives R p ts`
says of the parser `p` on the tokens `ts` that `R` holds of what is read and what is given; it
composes along the text of a parser, and each parser of the grammar is one lemma. A repetition keeps
an invariant of what its rounds have read so far.
-/

namespace Tilde
namespace Parser

variable {α β : Type} {ts : List Token}

/-- Where the parser succeeds, it reads some tokens from the front, none of them the end of the text,
and `R` holds of their lexemes and its result. -/
def Gives (R : List Lexeme → α → Prop) (p : Parser α) (ts : List Token) : Prop :=
  ∀ n a rest, p n ts = .ok (a, rest) →
    ∃ used, ts = used ++ rest ∧ .eof ∉ lexemes used ∧ R (lexemes used) a

/-- A comparison is one token, or the two of `not in`. -/
theorem comparison?_eq_some {l m : Lexeme} {op : Comparison} {width : Nat}
    (h : comparison? l m = some (op, width)) :
    (width = 1 ∧ op.lexemes = [l]) ∨
      (width = 2 ∧ op = .notIn ∧ l = .word "not" ∧ m = .word "in") := by
  unfold comparison? at h
  split at h
  all_goals cases h
  case h_8.refl => exact .inr ⟨rfl, rfl, rfl, rfl⟩
  all_goals exact .inl ⟨rfl, rfl⟩

namespace Gives

variable {R R' : List Lexeme → α → Prop} {Q : List Lexeme → β → Prop} {p : Parser α}

theorem mono (h : Gives R p ts) (hR : ∀ ls a, R ls a → R' ls a) : Gives R' p ts := by
  intro n a rest heq
  obtain ⟨used, hts, hused, ha⟩ := h n a rest heq
  exact ⟨used, hts, hused, hR _ _ ha⟩

theorem pure {a : α} (h : R [] a) : Gives R (pure a) ts := by
  intro n a' rest heq
  cases heq
  exact ⟨[], rfl, by simp, h⟩

/-- One parser after another: what the second one reads stands behind what the first one has
read. -/
theorem bind {f : α → Parser β} (hp : Gives R p ts)
    (hf : ∀ a ls us, R ls a → Gives (fun ms => Q (ls ++ ms)) (f a) us) : Gives Q (p >>= f) ts := by
  intro n b rest heq
  obtain ⟨a, mid, h1, h2⟩ := bind_ok_iff.mp heq
  obtain ⟨used, rfl, hused, ha⟩ := hp n a mid h1
  obtain ⟨used', rfl, hused', hb⟩ := hf a _ mid ha n b rest h2
  refine ⟨used ++ used', (List.append_assoc ..).symm, ?_, ?_⟩
  · rw [lexemes_append, List.mem_append]
    exact fun h => h.elim hused hused'
  · rwa [lexemes_append]

theorem ite {c : Prop} [Decidable c] {q : Parser α} (hp : c → Gives R p ts)
    (hq : ¬c → Gives R q ts) : Gives R (if c then p else q) ts := by
  by_cases h : c
  · rw [if_pos h]; exact hp h
  · rw [if_neg h]; exact hq h

theorem failHere {fault : ParseFault} : Gives R (failHere fault) ts := by
  intro n a rest heq
  cases heq

theorem throw {e : ParseError} : Gives R (throw e) ts := by
  intro n a rest heq
  cases heq

theorem unexpected {expected : String} : Gives R (unexpected expected) ts := by
  intro n a rest heq
  rw [unexpected_apply] at heq
  cases heq

theorem peekToken {f : Token → Parser β} (h : Gives Q (f (frontToken ts)) ts) :
    Gives Q (peekToken >>= f) ts := h

theorem peek {f : Lexeme → Parser β} (h : Gives Q (f (frontToken ts).lexeme) ts) :
    Gives Q (peek >>= f) ts := h

theorem peekSecond {f : Lexeme → Parser β} (h : Gives Q (f (frontToken (ts.drop 1)).lexeme) ts) :
    Gives Q (peekSecond >>= f) ts := h

theorem read {f : Nat → Parser β} (h : ∀ n, Gives Q (f n) ts) : Gives Q (read >>= f) ts :=
  fun n b rest heq => h n n b rest heq

/-- A token that is not the end of the text is there. -/
theorem front_eq_cons {ts : List Token} {l : Lexeme} (hfront : (frontToken ts).lexeme = l)
    (hl : l ≠ .eof) : ∃ t us, ts = t :: us ∧ t.lexeme = l := by
  cases ts with
  | nil => exact absurd hfront.symm hl
  | cons t us => exact ⟨t, us, rfl, hfront⟩

/-- A token that has been seen is read. -/
theorem advance {f : Unit → Parser β} {l : Lexeme} (hfront : (frontToken ts).lexeme = l)
    (hl : l ≠ .eof) (h : ∀ us, Gives (fun ms => Q (l :: ms)) (f ()) us) :
    Gives Q (advance >>= f) ts := by
  obtain ⟨t, us, rfl, rfl⟩ := front_eq_cons hfront hl
  intro n b rest heq
  rw [bind_ok advance_apply] at heq
  obtain ⟨used, hus, hused, hb⟩ := h us n b rest heq
  refine ⟨t :: used, ?_, ?_, hb⟩
  · rw [List.cons_append, ← hus]
  · rw [lexemes_cons, List.mem_cons]
    exact fun h => h.elim (fun h => hl h.symm) hused

/-- The tokens of a comparison that has been seen are read. -/
theorem drop {f : PUnit → Parser β} {op : Comparison} {width : Nat}
    (h : comparison? (frontToken ts).lexeme (frontToken (ts.drop 1)).lexeme = some (op, width))
    (hf : ∀ us, Gives (fun ms => Q (op.lexemes ++ ms)) (f ()) us) :
    Gives Q ((modify (·.drop width) : Parser PUnit) >>= f) ts := by
  -- a comparison is one token, or it is `not in`
  obtain ⟨rfl, hl⟩ | ⟨rfl, rfl, hl, hm⟩ := comparison?_eq_some h
  · rw [hl] at hf
    refine advance (f := fun _ => f ()) rfl (fun heof => ?_) hf
    rw [heof] at hl
    cases op <;> cases hl
  · obtain ⟨t, us, rfl, ht⟩ := front_eq_cons hl (by simp)
    obtain ⟨u, us, rfl, hu⟩ := front_eq_cons hm (by simp)
    intro n b rest heq
    obtain ⟨used, hus, hused, hb⟩ := hf us n b rest heq
    refine ⟨t :: u :: used, ?_, ?_, ?_⟩
    · rw [List.cons_append, List.cons_append, ← hus]
    · rw [lexemes_cons, lexemes_cons, ht, hu]
      simpa using hused
    · rw [lexemes_cons, lexemes_cons, ht, hu]
      exact hb

/-- A token that has been seen is accepted. -/
theorem acceptThere {f : Bool → Parser β} {l : Lexeme} (hfront : (frontToken ts).lexeme = l)
    (hl : l ≠ .eof) (h : ∀ us, Gives (fun ms => Q (l :: ms)) (f true) us) :
    Gives Q (accept l >>= f) ts := by
  intro n b rest heq
  rw [bind_ok (accept_hit hfront)] at heq
  exact advance (f := fun _ => f true) hfront hl h n b rest heq

theorem accept {f : Bool → Parser β} {l : Lexeme} (hl : l ≠ .eof)
    (hhit : ∀ us, Gives (fun ms => Q (l :: ms)) (f true) us)
    (hmiss : Gives Q (f false) ts) : Gives Q (accept l >>= f) ts := by
  by_cases hfront : (frontToken ts).lexeme = l
  · exact acceptThere hfront hl hhit
  · intro n b rest heq
    rw [bind_ok (accept_miss hfront)] at heq
    exact hmiss n b rest heq

theorem expect {l : Lexeme} {expected : String} (hl : l ≠ .eof) :
    Gives (fun ls _ => ls = [l]) (expect l expected) ts :=
  .accept hl (fun _ => .pure rfl) .unexpected

theorem name : Gives (fun ls text => isKeyword text = false ∧ ls = [.word text]) name ts := by
  refine .peek ?_
  split
  · next text hfront =>
    refine .ite (fun _ => .unexpected) fun hname => ?_
    exact .advance hfront (by simp) fun _ => .pure ⟨by simpa using hname, rfl⟩
  · exact .unexpected

variable {I : List Lexeme → α → Prop} {start : α} {round : α → Parser (α ⊕ β)}

theorem repeatUpTo
    (h : ∀ a ls us, I ls a →
      Gives (fun ms => Sum.elim (I (ls ++ ms)) (Q (ls ++ ms))) (round a) us) (bound : Nat) :
    ∀ a ls us, I ls a → Gives (fun ms => Q (ls ++ ms)) (repeatUpTo round bound a) us := by
  induction bound with
  | zero => exact fun _ _ _ _ => .failHere
  | succ bound ih =>
    intro a ls us ha
    refine .bind (h a ls us ha) fun r ms us hr => ?_
    simp only [← List.append_assoc]
    cases r with
    | inl a' => exact ih a' _ us hr
    | inr b => exact .pure (by simpa using hr)

/-- A repetition whose first round establishes an invariant of what has been read and where the
rounds stand; the other rounds keep it. -/
theorem repeatAfter (hstart : Gives (fun ms => Sum.elim (I ms) (Q ms)) (round start) ts)
    (h : ∀ a ls us, I ls a →
      Gives (fun ms => Sum.elim (I (ls ++ ms)) (Q (ls ++ ms))) (round a) us) :
    Gives Q (repeatFrom start round) ts := by
  refine .read fun n => .bind hstart fun r ms us hr => ?_
  cases r with
  | inl a => exact repeatUpTo h n a ms us hr
  | inr b => exact .pure (by simpa using hr)

/-- A repetition that keeps an invariant from its start on. -/
theorem repeatFrom (hstart : I [] start)
    (h : ∀ a ls us, I ls a →
      Gives (fun ms => Sum.elim (I (ls ++ ms)) (Q (ls ++ ms))) (round a) us) :
    Gives Q (repeatFrom start round) ts :=
  .repeatAfter (h start [] ts hstart) h

end Gives

/-! ## Expressions -/

open Grammar

/-- The parser gives what its lexemes derive. -/
abbrev Follows (field : FieldParser) (phrase : α → Phrase) (p : Parser α) : Prop :=
  ∀ ts, Gives (fun ls a => Derives field (phrase a) ls) p ts

variable {field : FieldParser}

theorem adjacentStrings_gives {R : List Lexeme → Expr → Prop} {text : String}
    (hstart : R [] (.str text))
    (hmore : ∀ ls text more, R ls (.str text) → R (ls ++ [.str more]) (.str (text ++ more))) :
    Gives (fun ls text => R ls (.str text)) (adjacentStrings text) ts := by
  refine .repeatFrom (I := fun ls text => R ls (.str text)) hstart fun text ls us h => .peek ?_
  split
  · next more hfront => exact .advance hfront (by simp) fun _ => .pure (hmore ls text more h)
  · exact .pure (by simpa using h)

/-- Where a keyword argument is seen, an equals sign stands second. -/
theorem atKeyword_gives {Q : List Lexeme → α → Prop} {f : Bool → Parser α}
    (htrue : (frontToken (ts.drop 1)).lexeme = .symbol .assign → Gives Q (f true) ts)
    (hfalse : Gives Q (f false) ts) : Gives Q (atKeyword >>= f) ts := by
  intro n a rest heq
  obtain hrun | ⟨hrun, -, -, -, hassign⟩ := atKeyword_cases ts
  · rw [bind_ok (hrun n)] at heq
    exact hfalse n a rest heq
  · rw [bind_ok (hrun n)] at heq
    exact htrue hassign n a rest heq

section Expressions

variable {inner : Inner} (hinner : ∀ level, Follows field .expr (inner level))
include hinner

theorem starOrExpr_follows : Follows field (.item .value) (starOrExpr inner) := fun ts =>
  .accept (by simp)
    (fun us => .bind (hinner .operand us) fun _ _ _ h => .pure (by simpa using h.starred))
    ((hinner .full ts).mono fun _ _ h => h.plain)

/-- Behind a comma, a list of expressions ends or has one more item. -/
theorem exprListItem_gives {items : List Expr} {ls : List Lexeme} (hitems : items ≠ [])
    (h : Derives field (.row .value items.reverse) ls) :
    Gives (fun ms => Sum.elim
        (fun items => 2 ≤ items.length ∧
          Derives field (.row .value items.reverse) (ls ++ .symbol .comma :: ms))
        (fun e => Derives field (.exprs e) (ls ++ .symbol .comma :: ms)))
      (do
        if endsList (← peek) then return .inr (.tuple items.reverse)
        else return .inl ((← starOrExpr inner) :: items) : Parser (List Expr ⊕ Expr)) ts := by
  have hcommas := h.comma
  refine .peek (.ite (fun _ => .pure ?_) fun _ => .bind (starOrExpr_follows hinner ts) ?_)
  · exact hcommas.tupleCommas (by simpa using hitems)
  · intro e ms us he
    have hlen := List.length_pos_iff.mpr hitems
    refine .pure ⟨by simp; omega, ?_⟩
    simpa using hcommas.last he

theorem exprList_follows : Follows field .exprs (exprList inner) := fun ts => by
  refine .bind (starOrExpr_follows hinner ts) fun first ls us hfirst => .peek ?_
  refine .ite (fun _ => .pure (by simpa using hfirst.single)) fun hcomma => ?_
  have hrow : Derives field (.row .value [first].reverse) ls := by
    simpa using Derives.noItem.last hfirst
  -- the first round reads a comma; the others start from at least two items
  refine .repeatAfter
    (I := fun ms items => 2 ≤ items.length ∧ Derives field (.row .value items.reverse) (ls ++ ms))
    ?_ ?_
  · have hfront : (frontToken us).lexeme = .symbol .comma := by simpa using hcomma
    exact .acceptThere hfront (by simp) fun us => exprListItem_gives hinner (by simp) hrow
  · rintro items ms us ⟨hlen, hitems⟩
    have hne : items ≠ [] := List.length_pos_iff.mp (by omega)
    refine .accept (by simp) (fun us => ?_) (.pure ?_)
    · simpa [List.append_assoc] using exprListItem_gives hinner hne hitems
    · rw [List.append_nil]
      exact hitems.tupleRow (by rw [List.length_reverse]; omega)

theorem listItems_follows :
    ∀ ts, Gives (fun ls es => Derives field (.expr (.list es))
      (.symbol .openBracket :: ls ++ [.symbol .closeBracket])) (listItems inner) ts := fun ts => by
  refine .repeatFrom (I := fun ls items => Derives field (.commas .value items.reverse) ls)
    .noItem fun items ls us h => .peek (.ite (fun _ => .pure ?_) fun _ => ?_)
  · rw [List.append_nil]
    exact h.listCommas
  · refine .bind (starOrExpr_follows hinner us) fun e ms us he => ?_
    have hrow : Derives field (.row .value (e :: items).reverse) (ls ++ ms) := by
      simpa using h.last he
    refine .accept (by simp) (fun us => .pure ?_) (.pure ?_)
    · simpa using hrow.comma
    · simpa using hrow.listRow

/-- What stands between round brackets, up to the closing one. -/
theorem atom_follows : Follows field .expr (atom field inner) := fun ts => by
  refine .peekToken ?_
  split
  case h_1 h => exact .advance h (by simp) fun _ => .pure (.leaf rfl)
  case h_2 h => exact .advance h (by simp) fun _ => .pure (.leaf rfl)
  case h_3 h => exact .advance h (by simp) fun _ => .pure (.leaf rfl)
  case h_4 text h₁ h₂ h₃ h =>
    refine .ite (fun _ => .unexpected) fun hname => .advance h (by simp) fun _ => .pure (.leaf ?_)
    simp [leaf?, hname]
  -- the texts of adjacent strings are put together, so the claim is of all that is read so far
  case h_5 text h =>
    refine .advance h (by simp) fun us => .bind (R := fun ls text' =>
      Derives field (.expr (.str text')) (.str text :: ls)) ?_ fun _ _ _ h => .pure (by simpa using h)
    exact adjacentStrings_gives (R := fun ls e => Derives field (.expr e) (.str text :: ls))
      (.leaf rfl) fun ls _ more h => by simpa using h.adjacent
  case h_6 pieces h =>
    refine .advance h (by simp) fun us => ?_
    split
    · next ps hps => exact .pure (.template hps)
    · exact .throw
  case h_7 h =>
    refine .advance h (by simp) fun us => .accept (by simp) (fun _ => .pure .unit) ?_
    refine .bind (exprList_follows hinner us) fun e ls us he => ?_
    refine .bind (.expect (by simp)) fun _ ms us hms => .pure ?_
    subst hms
    simpa using he.paren
  case h_8 h =>
    refine .advance h (by simp) fun us => .bind (listItems_follows hinner us) fun es ls us hes => ?_
    refine .bind (.expect (by simp)) fun _ ms us hms => .pure ?_
    subst hms
    simpa using hes
  case h_9 h => exact .advance h (by simp) fun _ => .pure (.leaf rfl)
  case h_10 => exact .unexpected

/-- An argument given by name starts with the name and an equals sign. -/
theorem keywordArgument_gives {α : Type} {Q : List Lexeme → α → Prop} {f : String → Expr → Parser α}
    (hassign : (frontToken (ts.drop 1)).lexeme = .symbol .assign)
    (h : ∀ key e ls us, Derives field (.argument (some key) e) ls →
      Gives (fun ms => Q (ls ++ ms)) (f key e) us) :
    Gives Q (do let key ← name; advance; f key (← inner .full)) ts := by
  intro n b rest heq
  obtain ⟨key, mid, hkey, hvalue⟩ := bind_ok_iff.mp heq
  obtain ⟨used, rfl, hne, -, hused⟩ := Gives.name n key mid hkey
  obtain ⟨t, rfl, ht⟩ := List.map_eq_singleton_iff.mp hused
  have hgives := Gives.advance (Q := fun ls => Q (.word key :: ls))
    (f := fun _ => do f key (← inner .full)) hassign (by simp)
    fun us => .bind (hinner .full us) fun e ls us he => h key e _ us he.keyword
  obtain ⟨used, rfl, hused, hb⟩ := hgives n b rest hvalue
  refine ⟨t :: used, rfl, ?_, by rwa [lexemes_cons, ht]⟩
  rw [lexemes_cons, ht]
  simpa using hused

theorem arguments_follows :
    ∀ ts, Gives (fun ls r => ∀ f ms, Derives field (.expr f) ms →
      Derives field (.expr (.call f r.1 r.2))
        (ms ++ .symbol .openParen :: ls ++ [.symbol .closeParen])) (arguments inner) ts := fun ts => by
  refine .repeatFrom
    (I := fun ls r => Derives field (.arguments r.1.reverse r.2.reverse) ls)
    .noArguments fun r ls us h => ?_
  obtain ⟨args, keywords⟩ := r
  refine .peek (.ite (fun _ => .pure ?_) fun _ => ?_)
  · intro f ms hf
    simpa using hf.call h
  -- one more argument stands behind those that have been read
  have hmore {name : Option String} {e : Expr} {ms : List Lexeme} {us : List Token}
      (next : List Expr × List Keyword)
      (hnext : (next.1.reverse, next.2.reverse)
        = addArgument args.reverse keywords.reverse name e)
      (he : Derives field (.argument name e) ms) :
      Gives (fun ns => Sum.elim
          (fun r => Derives field (.arguments r.1.reverse r.2.reverse) (ls ++ (ms ++ ns)))
          (fun r => ∀ f os, Derives field (.expr f) os → Derives field (.expr (.call f r.1 r.2))
            (os ++ .symbol .openParen :: (ls ++ (ms ++ ns)) ++ [.symbol .closeParen])))
        (do if ← acceptSymbol .comma then return .inl next
            else return .inr (next.1.reverse, next.2.reverse) :
          Parser ((List Expr × List Keyword) ⊕ (List Expr × List Keyword))) us := by
    refine .accept (by simp) (fun us => .pure ?_) (.pure ?_)
    · have := h.moreArguments he
      rw [← hnext] at this
      simpa using this
    · intro f os hf
      have := hf.callRow h he
      rw [← hnext] at this
      simpa using this
  refine atKeyword_gives (fun hassign => ?_)
    (.ite (fun h => nomatch h) fun _ => .ite (fun _ => ?_) ?_)
  · exact keywordArgument_gives hinner hassign fun key e ms us he =>
      hmore (args, .mk key e :: keywords) (by simp [addArgument]) he
  · exact .bind (R := fun _ _ => False) .failHere fun _ _ _ h => h.elim
  · exact fun _ => .bind (hinner .full us) fun e ms us he =>
      hmore (e :: args, keywords) (by simp [addArgument]) he.positional

/-- Calls, attributes and subscripts behind an atom. -/
theorem operand_follows : Follows field .expr (operand field inner) := fun ts => by
  refine .bind (atom_follows hinner ts) fun e ls us he => ?_
  refine .repeatFrom (I := fun ms e => Derives field (.expr e) (ls ++ ms)) (by simpa using he)
    fun e ms us he => .peek ?_
  split
  · next h =>
    refine .advance h (by simp) fun us => .bind (arguments_follows hinner us) fun r ns us hr => ?_
    refine .bind (.expect (by simp)) fun _ os us hos => .pure ?_
    subst hos
    simpa using hr e _ he
  · next h =>
    refine .advance h (by simp) fun us => .peek ?_
    split
    · next text h => exact .advance h (by simp) fun _ => .pure (by simpa using he.attribute)
    · exact .unexpected
  · next h =>
    refine .advance h (by simp) fun us => .bind (hinner .full us) fun i ns us hi => ?_
    refine .bind (.expect (by simp)) fun _ os us hos => .pure ?_
    subst hos
    simpa using he.subscript hi
  · exact .pure (by simpa using he)

end Expressions

/-! ### Operators -/

theorem signOp?_eq_some {l : Lexeme} {op : UnaryOp} (h : signOp? l = some op) : op.lexeme = l := by
  unfold signOp? at h
  split at h <;> cases h <;> rfl

theorem notOp?_eq_some {l : Lexeme} {op : UnaryOp} (h : notOp? l = some op) : op.lexeme = l := by
  unfold notOp? at h
  split at h <;> cases h
  rfl

/-- The lexeme stands for an operator between two operands. -/
def IsInfix (l : Lexeme) (f : Expr → Expr → Expr) : Prop :=
  (∃ op : BinaryOp, f = .binary op ∧ op.lexeme = l) ∨
    ∃ op : Connective, f = .logical op ∧ op.lexeme = l

theorem IsInfix.ne_eof {l : Lexeme} {f : Expr → Expr → Expr} (h : IsInfix l f) : l ≠ .eof := by
  obtain ⟨op, -, rfl⟩ | ⟨op, -, rfl⟩ := h
  all_goals cases op <;> simp [BinaryOp.lexeme, Connective.lexeme]

theorem IsInfix.derives {l : Lexeme} {f : Expr → Expr → Expr} {a b : Expr} {ls ms : List Lexeme}
    (h : IsInfix l f) (ha : Derives field (.expr a) ls) (hb : Derives field (.expr b) ms) :
    Derives field (.expr (f a b)) (ls ++ l :: ms) := by
  obtain ⟨op, rfl, rfl⟩ | ⟨op, rfl, rfl⟩ := h
  · exact ha.binary op hb
  · exact ha.logical op hb

theorem termOp?_eq_some {l : Lexeme} {f : Expr → Expr → Expr} (h : termOp? l = some f) :
    IsInfix l f := by
  unfold termOp? at h
  split at h <;> cases h <;> exact .inl ⟨_, rfl, rfl⟩

theorem sumOp?_eq_some {l : Lexeme} {f : Expr → Expr → Expr} (h : sumOp? l = some f) :
    IsInfix l f := by
  unfold sumOp? at h
  split at h <;> cases h <;> exact .inl ⟨_, rfl, rfl⟩

theorem andOp?_eq_some {l : Lexeme} {f : Expr → Expr → Expr} (h : andOp? l = some f) :
    IsInfix l f := by
  unfold andOp? at h
  split at h <;> cases h
  exact .inr ⟨_, rfl, rfl⟩

theorem orOp?_eq_some {l : Lexeme} {f : Expr → Expr → Expr} (h : orOp? l = some f) :
    IsInfix l f := by
  unfold orOp? at h
  split at h <;> cases h
  exact .inr ⟨_, rfl, rfl⟩

section Levels

variable {next : Parser Expr} (hnext : Follows field .expr next)
include hnext

theorem unaryLevel_follows {op? : Lexeme → Option UnaryOp}
    (hop : ∀ l op, op? l = some op → op.lexeme = l) :
    Follows field .expr (unaryLevel op? next) := fun ts => by
  -- whatever operand comes, the operators read so far apply to it, the last one first
  refine .bind (R := fun ls ops => ∀ e ms, Derives field (.expr e) ms →
    Derives field (.expr (ops.foldl (fun e op => .unary op e) e)) (ls ++ ms)) ?_ ?_
  · refine .repeatFrom (I := fun ls ops => ∀ e ms, Derives field (.expr e) ms →
      Derives field (.expr (ops.foldl (fun e op => .unary op e) e)) (ls ++ ms))
      (fun _ _ h => h) fun ops ls us hops => .peek ?_
    split
    · next op h =>
      refine .advance (hop _ _ h).symm (by cases op <;> simp [UnaryOp.lexeme]) fun us => .pure ?_
      intro e ms he
      simpa using hops _ _ (.unary op he)
    · exact .pure (by simpa using hops)
  · intro ops ls us hops
    exact .bind (hnext us) fun e ms us he => .pure (by simpa using hops e ms he)

theorem leftLevel_follows {op? : Lexeme → Option (Expr → Expr → Expr)}
    (hop : ∀ l f, op? l = some f → IsInfix l f) :
    Follows field .expr (leftLevel op? next) := fun ts => by
  refine .bind (hnext ts) fun left ls us hleft => ?_
  refine .repeatFrom (I := fun ms e => Derives field (.expr e) (ls ++ ms)) (by simpa using hleft)
    fun e ms us he => .peek ?_
  split
  · next f h =>
    have hinfix := hop _ _ h
    exact .advance rfl hinfix.ne_eof fun us => .bind (hnext us) fun right ns us hright =>
      .pure (by simpa using hinfix.derives he hright)
  · exact .pure (by simpa using he)

theorem comparisonLevel_follows : Follows field .expr (comparisonLevel next) := fun ts => by
  refine .bind (hnext ts) fun left ls us hleft => .peek (.peekSecond ?_)
  split
  · next op width h =>
    refine .drop h fun us => .bind (hnext us) fun right ms us hright => .pure ?_
    simpa using hleft.compare op hright
  · exact .pure (by simpa using hleft)

end Levels

theorem expression_follows {inner : Inner} (hinner : ∀ level, Follows field .expr (inner level)) :
    Follows field .expr (expression field inner) := by
  have h : Follows field .expr (operand field inner) := operand_follows hinner
  have h := leftLevel_follows (unaryLevel_follows h fun _ _ => signOp?_eq_some)
    fun _ _ => termOp?_eq_some
  have h := comparisonLevel_follows (leftLevel_follows h fun _ _ => sumOp?_eq_some)
  have h := leftLevel_follows (unaryLevel_follows h fun _ _ => notOp?_eq_some)
    fun _ _ => andOp?_eq_some
  exact leftLevel_follows h fun _ _ => orOp?_eq_some

/-- **What an expression is read from derives it.** -/
theorem exprAt_follows (bound : Nat) (level : Level) :
    Follows field .expr (exprAt field bound level) := by
  induction bound generalizing level with
  | zero => exact fun _ => .failHere
  | succ bound ih =>
    cases level with
    | full => exact expression_follows ih
    | operand => exact operand_follows ih

/-! ## What a loop binds -/

theorem bracketed_gives (b : Bracket) {item : Parser Expr}
    (hitem : Follows field (.item .loop) item) :
    Gives (fun ls e => Derives field (.item .loop e) (.symbol b.opened :: ls))
      (targetAtom.bracketed b.closed item) ts := by
  refine .bind (R := fun ls es => Derives field (.item .loop (.tuple es))
    (.symbol b.opened :: ls ++ [.symbol b.closed])) ?_ fun es ls us hes => ?_
  · refine .repeatFrom (I := fun ls items => Derives field (.commas .loop items.reverse) ls)
      .noItem fun items ls us h => .peek (.ite (fun _ => .pure ?_) fun _ => ?_)
    · rw [List.append_nil]
      exact h.loopCommas b
    · refine .bind (hitem us) fun e ms us he => ?_
      -- an item ends the row, unless a comma follows
      have hrow : Derives field (.row .loop (e :: items).reverse) (ls ++ ms) := by
        simpa using h.last he
      refine .accept (by simp) (fun us => .pure ?_) (.pure ?_)
      · simpa using hrow.comma
      · simpa using hrow.loopRow b
  · refine .bind (.expect (by simp)) fun _ ms us hms => .pure ?_
    subst hms
    simpa using hes

theorem targetAtom_follows (bound : Nat) : Follows field (.item .loop) (targetAtom bound) := by
  induction bound with
  | zero => exact fun _ => .failHere
  | succ bound ih =>
    refine fun ts => .peek ?_
    split
    · next h =>
      refine .advance h (by simp) fun us => .bind .name ?_
      rintro text ls us ⟨hname, rfl⟩
      exact .pure (.loopStar hname)
    · next h => exact .advance h (by simp) fun us => bracketed_gives .round ih
    · next h => exact .advance h (by simp) fun us => bracketed_gives .square ih
    · refine .bind .name ?_
      rintro text ls us ⟨hname, rfl⟩
      exact .pure (.loopName hname)

/-- **What a loop binds is derived by what it is read from.** -/
theorem loopTarget_follows : Follows field .binds loopTarget := fun ts => by
  refine .read fun bound => ?_
  have hitem : Follows field (.item .loop) (targetAtom bound) := targetAtom_follows bound
  refine .bind (hitem ts) fun first ls us hfirst => ?_
  refine .bind (R := fun ms es => Derives field (.binds (Grammar.bound es)) (ls ++ ms)) ?_ ?_
  · refine .repeatFrom
      (I := fun ms items => items ≠ [] ∧ Derives field (.row .loop items.reverse) (ls ++ ms))
      ⟨by simp, by simpa using Derives.noItem.last hfirst⟩ ?_
    rintro items ms us ⟨hne, hitems⟩
    refine .accept (by simp) (fun us => .peek (.ite (fun _ => .pure ?_) fun _ => ?_)) (.pure ?_)
    · simpa using hitems.comma.bindsCommas (by simpa using hne)
    · refine .bind (hitem us) fun e ns us he => .pure ⟨by simp, ?_⟩
      simpa using hitems.comma.last he
    · simpa using hitems.bindsRow
  · intro es ms us hes
    split
    all_goals exact .pure (by simpa [Grammar.bound] using hes)

/-! ## Statements -/

/-- What the parser gives produces the lexemes that it reads. -/
abbrev Obeys (field : FieldParser) (clause : α → Clause) (p : Parser α) : Prop :=
  ∀ ts, Gives (fun ls a => Produces field (fun _ => True) (clause a) ls) p ts

theorem rejectStar_eq (e : Expr) :
    rejectStar e = if showsStar e then failHere .misplacedStar else return () := by
  cases e <;> rfl

theorem rejectStar_gives {e : Expr} :
    Gives (fun ls _ => ls = [] ∧ showsStar e = false) (rejectStar e) ts := by
  rw [rejectStar_eq]
  exact .ite (fun _ => .failHere) fun h => .pure ⟨rfl, by simpa using h⟩

theorem lineEnd_gives : Gives (fun ls _ => IsLineEnd ls) lineEnd ts := by
  refine .peek ?_
  split
  · next h => exact .advance h (by simp) fun us => .pure (.inr rfl)
  · exact .pure (.inl rfl)
  · exact .unexpected

theorem handlerKind_gives :
    Gives (fun ls kind => ls = kindLexemes kind) handlerKind ts := by
  refine .peek ?_
  split
  · next h => exact .ite (fun _ => .pure rfl) fun _ => .advance h (by simp) fun _ => .pure rfl
  · exact .pure rfl

section Statements

variable {expr : Inner} {stmt : Parser Stmt}
  (hexpr : ∀ level, Follows field .expr (expr level)) (hstmt : Obeys field .stmt stmt)
include hexpr

theorem simple_obeys : Obeys field .simple (simple expr) := fun ts => by
  refine .peekToken ?_
  split
  case h_1 h => exact .advance h (by simp) fun _ => .pure (.bare rfl)
  case h_2 h => exact .advance h (by simp) fun _ => .pure (.bare rfl)
  case h_3 h => exact .advance h (by simp) fun _ => .pure (.bare rfl)
  case h_4 h =>
    refine .advance h (by simp) fun us => .bind (hexpr .full us) fun test ls us htest => ?_
    refine .accept (by simp) (fun us => ?_) (.pure (by simpa using .assert htest))
    exact .bind (hexpr .full us) fun message ms us hmessage =>
      .pure (by simpa using .assertMessage htest hmessage)
  case h_5 =>
    refine .bind (exprList_follows hexpr ts) fun e ls us he => .accept (by simp) (fun us => ?_) ?_
    · cases htarget : toTarget e with
      | error fault => exact .throw
      | ok target =>
        refine .bind (exprList_follows hexpr us) fun value ms us hvalue => ?_
        refine .bind rejectStar_gives ?_
        rintro _ _ us ⟨rfl, hstar⟩
        exact .pure (by simpa using .assign he htarget hvalue hstar)
    · refine .bind rejectStar_gives ?_
      rintro _ _ us ⟨rfl, hstar⟩
      exact .pure (by simpa using .evaluate he hstar)

include hstmt

theorem block_obeys : Obeys field .block (block expr stmt) := fun ts => by
  refine .bind (.expect (by simp)) fun _ ls us hls => ?_
  subst hls
  refine .accept (by simp) (fun us => ?_) ?_
  · refine .bind (.expect (by simp)) fun _ ls us hls => ?_
    subst hls
    refine .repeatFrom (I := fun ls body => Produces field (fun _ => True) (.run body.reverse) ls)
      .noStmt fun body ls us hbody => .peek ?_
    split
    · next h =>
      exact .advance h (by simp) fun _ => .pure (by simpa using hbody.indented trivial)
    · exact .unexpected
    · next h => exact .advance h (by simp) fun _ => .pure hbody.blank
    · exact .bind (hstmt us) fun s ms us hs => .pure (by simpa using hbody.more hs)
  · refine .bind (simple_obeys hexpr us) fun s ls us hs => .bind lineEnd_gives fun _ ms us hms => ?_
    exact .pure (by simpa using hs.inline hms)

/-- A condition is a statement behind `if`, and stands behind `elif` alone. -/
theorem branch_gives (bound line : Nat) (ts : List Token) :
    Gives (fun ls s => Produces field (fun _ => True) (.stmt s) (.word "if" :: ls) ∧
      Produces field (fun _ => True) (.orelse [s]) (.word "elif" :: ls)) (branch expr stmt bound line)
      ts := by
  induction bound generalizing line ts with
  | zero => exact .failHere
  | succ bound ih =>
    refine .bind (hexpr .full ts) fun test ls us htest => ?_
    refine .bind (block_obeys hexpr hstmt us) fun body ms us hbody => .peekToken ?_
    -- with `if` in front it is a statement, and with `elif` the alternative of another one
    have hdone {orelse : List Stmt} {ns : List Lexeme}
        (horelse : Produces field (fun _ => True) (.orelse orelse) ns) :
        Produces field (fun _ => True) (.stmt (.branch line test body orelse))
            (.word "if" :: (ls ++ (ms ++ ns))) ∧
          Produces field (fun _ => True) (.orelse [.branch line test body orelse])
            (.word "elif" :: (ls ++ (ms ++ ns))) :=
      ⟨.branch htest hbody horelse, .elif htest hbody horelse⟩
    split
    · next h =>
      refine .advance h (by simp) fun us => .bind (ih _ us) fun s ns us hs => .pure ?_
      simpa using hdone hs.2
    · next h =>
      refine .advance h (by simp) fun us => .bind (block_obeys hexpr hstmt us) ?_
      intro orelse ns us horelse
      exact .pure (by simpa using hdone horelse.otherwise)
    · exact .pure (by simpa using hdone .noElse)

theorem handlers_obeys : Obeys field .handlers (handlers expr stmt) := fun ts => by
  refine .repeatFrom (I := fun ls hs => Produces field (fun _ => True) (.handlers hs.reverse) ls)
    .noHandler fun hs ls us h => .accept (by simp) (fun us => ?_) (.pure (by simpa using h))
  refine .bind handlerKind_gives fun kind ms us hms => ?_
  subst hms
  -- a name behind `as` or none, and the block in both cases
  have hrest (name : Option String) (us : List Token) :
      Gives (fun os => Sum.elim
          (fun hs => Produces field (fun _ => True) (.handlers hs.reverse)
            (ls ++ .word "except" :: (kindLexemes kind ++ (bindingLexemes name ++ os))))
          (fun hs => Produces field (fun _ => True) (.handlers hs)
            (ls ++ .word "except" :: (kindLexemes kind ++ (bindingLexemes name ++ os)))))
        (do return .inl (.mk kind name (← block expr stmt) :: hs) :
          Parser (List Handler ⊕ List Handler)) us := by
    refine .bind (block_obeys hexpr hstmt us) fun body os us hbody => .pure ?_
    simpa using h.handler hbody
  refine .accept (by simp) (fun us => .bind .name ?_) (hrest none us)
  rintro name _ us ⟨-, rfl⟩
  exact hrest (some name) us

theorem statement_obeys : Obeys field .stmt (statement expr stmt) := fun ts => by
  refine .peekToken ?_
  split
  case h_1 h =>
    refine .advance h (by simp) fun us => .read fun n => ?_
    exact (branch_gives hexpr hstmt n _ us).mono fun _ _ h => h.1
  case h_2 h =>
    refine .advance h (by simp) fun us => .bind (hexpr .full us) fun test ls us htest => ?_
    refine .bind (block_obeys hexpr hstmt us) fun body ms us hbody => .pure ?_
    rw [List.append_nil]
    exact .whileLoop htest hbody
  case h_3 h =>
    refine .advance h (by simp) fun us => .peekToken ?_
    -- what a loop binds is derived before it is known to be a target
    have hbinds : Follows field .binds loopTarget := loopTarget_follows
    refine .bind (hbinds us) fun e ls us he => ?_
    cases htarget : toTarget e with
    | error fault => exact .throw
    | ok target =>
      refine .accept (by simp) (fun us => ?_) .unexpected
      refine .bind (exprList_follows hexpr us) fun items ms us hitems => ?_
      refine .bind (block_obeys hexpr hstmt us) fun body ns us hbody => .pure ?_
      rw [List.append_nil]
      exact .forEach he htarget hitems hbody
  case h_4 h =>
    refine .advance h (by simp) fun us => ?_
    refine .bind (block_obeys hexpr hstmt us) fun body ls us hbody => ?_
    refine .bind (handlers_obeys hexpr hstmt us) fun hs ms us hhs => ?_
    refine .ite (fun _ => .unexpected) fun hne => .pure ?_
    rw [List.append_nil]
    exact .attempt hbody hhs (by simpa using hne)
  case h_5 =>
    refine .bind (simple_obeys hexpr ts) fun s ls us hs => .bind lineEnd_gives fun _ ms us hms => ?_
    exact .pure (by simpa using hs.line hms)

end Statements

theorem stmtAt_obeys {expr : Inner} (hexpr : ∀ level, Follows field .expr (expr level))
    (bound : Nat) : Obeys field .stmt (stmtAt expr bound) := by
  induction bound with
  | zero => exact fun _ => .failHere
  | succ bound ih => exact statement_obeys hexpr ih

theorem statements_obeys {stmt : Parser Stmt} (hstmt : Obeys field .stmt stmt) :
    Obeys field .run (statements stmt) := fun ts => by
  refine .repeatFrom (I := fun ls body => Produces field (fun _ => True) (.run body.reverse) ls)
    .noStmt fun body ls us hbody => .peek ?_
  split
  · exact .pure (by simpa using hbody)
  · next h => exact .advance h (by simp) fun _ => .pure hbody.blank
  · exact .bind (hstmt us) fun s ms us hs => .pure (by simpa using hbody.more hs)

/-! ## Whole texts -/

/-- A repetition ends with a round that gives a result. -/
theorem repeatUpTo_last {round : α → Parser (α ⊕ β)} {n bound : Nat} {a : α} {b : β}
    {rest : List Token} (h : repeatUpTo round bound a n ts = .ok (b, rest)) :
    ∃ a' mid, round a' n mid = .ok (.inr b, rest) := by
  induction bound generalizing a ts with
  | zero => cases h
  | succ bound ih =>
    obtain ⟨r, mid, h1, h2⟩ := bind_ok_iff.mp h
    cases r with
    | inl a' => exact ih h2
    | inr b' =>
      cases h2
      exact ⟨a, ts, h1⟩

/-- Statements go on up to the end of the text. -/
theorem statements_stop {stmt : Parser Stmt} {n : Nat} {body : List Stmt} {rest : List Token}
    (h : statements stmt n ts = .ok (body, rest)) : (frontToken rest).lexeme = .eof := by
  rw [statements, repeatFrom_apply] at h
  -- the last round is the one that goes no further, which only the end of the text makes
  obtain ⟨body', mid, hround⟩ := repeatUpTo_last h
  rw [bind_ok peek_apply] at hround
  cases hfront : (frontToken mid).lexeme with
  | eof =>
    rw [hfront] at hround
    cases hround
    exact hfront
  | newline =>
    rw [hfront] at hround
    cases hround
  | _ =>
    rw [hfront] at hround
    obtain ⟨s, us, -, hround⟩ := bind_ok_iff.mp hround
    cases hround

/-- What is read of a text up to its end is all of it. -/
theorem lexemes_of_front_eof {source : List Char} {used rest : List Token}
    (hlaid : WellLaid source (used ++ rest)) (hused : .eof ∉ lexemes used)
    (hrest : (frontToken rest).lexeme = .eof) : lexemes (used ++ rest) = lexemes used ++ [.eof] := by
  obtain ⟨front, hts, hfront⟩ := hlaid.ended
  rcases List.eq_nil_or_concat rest with rfl | ⟨us, u, rfl⟩
  · refine absurd ?_ hused
    rw [← List.append_nil used, hts, lexemes_append]
    exact List.mem_append_right _ (List.mem_cons_self ..)
  · rw [List.concat_eq_append, ← List.append_assoc] at hts
    obtain ⟨rfl, hu⟩ := List.append_inj' hts rfl
    obtain rfl := List.singleton_inj.mp hu
    cases us with
    | nil => exact lexemes_append ..
    | cons t us => exact absurd hrest (hfront t (by simp))

/-- **The lexemes of a field that is parsed derive what it is parsed to**, up to the end of its
line. -/
theorem fieldTokens_derives {source : List Char} {e : Expr} (hlaid : WellLaid source ts)
    (h : fieldTokens field ts = .ok e) :
    ∃ ls eol, lexemes ts = ls ++ eol ++ [.eof] ∧ IsLineEnd eol ∧ Derives field (.exprs e) ls := by
  obtain ⟨rest, h⟩ := parseTokens_ok.mp h
  obtain ⟨e', mid, hlist, h⟩ := bind_ok_iff.mp h
  obtain ⟨used, rfl, hused, he⟩ := exprList_follows (exprAt_follows _) ts _ _ _ hlist
  have hline : Gives (fun ls _ => IsLineEnd ls) (accept .newline >>= pure) mid :=
    .accept (by simp) (fun _ => .pure (.inr rfl)) (.pure (.inl rfl))
  rw [bind_pure] at hline
  obtain ⟨b, mid', hb, h⟩ := bind_ok_iff.mp h
  obtain ⟨eol, rfl, heol, hend⟩ := hline _ _ _ hb
  rw [bind_ok peek_apply] at h
  split at h
  · next hfront =>
    cases h
    refine ⟨_, _, ?_, hend, he⟩
    rw [← List.append_assoc] at hlaid ⊢
    -- the end of the text occurs once, so nothing stands behind it
    rw [lexemes_of_front_eof hlaid ?_ hfront, lexemes_append]
    rw [lexemes_append, List.mem_append]
    exact fun h => h.elim hused heol
  · rw [unexpected_apply] at h
    cases h

/-- **A program that is parsed produces its lexemes.** -/
theorem programTokens_produces {source : List Char} {nesting : Nat} {body : List Stmt}
    (hlaid : WellLaid source ts) (h : programTokens nesting ts = .ok body) :
    ∃ ls, lexemes ts = ls ++ [.eof] ∧
      Produces (fieldExpr nesting) (fun _ => True) (.run body) ls := by
  obtain ⟨rest, h⟩ := parseTokens_ok.mp h
  obtain ⟨used, rfl, hused, hbody⟩ :=
    statements_obeys (stmtAt_obeys (exprAt_follows _) _) ts _ _ _ h
  exact ⟨lexemes used, lexemes_of_front_eof hlaid hused (statements_stop h), hbody⟩

end Parser

/-- **A program that is parsed produces the lexemes of its text.** -/
theorem parse_produces {source : String} {mode : Mode} {program : Program}
    (h : parse source mode = .ok program) :
    ∃ ts ls, tokenize source = .ok ts ∧ lexemes ts = ls ++ [.eof] ∧
      Grammar.Produces (Parser.fieldExpr source.length) (fun _ => True) (.run program.body) ls := by
  obtain ⟨ts, hts, hbody, -⟩ := parse_eq_ok.mp h
  obtain ⟨ls, hls, hproduces⟩ := Parser.programTokens_produces (Lexer.State.run_wellLaid hts) hbody
  exact ⟨ts, ls, hts, hls, hproduces⟩

end Tilde
