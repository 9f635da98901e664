import Tilde.Proofs.Parser.Run
import Tilde.Proofs.Printed.Printer

/-!
# Reading what has been printed, level by level

What it takes for a parser to read some lexemes back as an expression, whatever stands behind them.
`Spells k e ls` says that the lexemes `ls` can stand for `e` in a place that asks for at least the
rank `k`: the parser of that rank reads them, as long as the next token does not go on with an
expression of the rank.

That alone would not carry an induction. The operands of a row of operators that group to the left
are read by one loop, which comes to the left operand of the last operator in the midst of the row;
so of these ranks `Spells` says that the loop gets as far as the expression and may still go on
(`Chains`). Operators in front of an operand are collected by a loop and applied in the end; so of
these ranks it says what the loop gives whatever has been collected before (`Prefixes`).
-/

namespace Tilde

/-- The rank at which a token goes on with an expression in front of it. -/
def Lexeme.goesOnAt : Lexeme → Option Nat
  | .word "or" => some 0
  | .word "and" => some 1
  | .word "not" | .word "in" | .symbol .equal | .symbol .notEqual | .symbol .less
  | .symbol .lessEqual | .symbol .greater | .symbol .greaterEqual => some 3
  | .symbol .plus | .symbol .minus => some 4
  | .symbol .star | .symbol .doubleSlash | .symbol .percent => some 5
  | .symbol .openParen | .symbol .openBracket | .symbol .dot => some 7
  | .str _ => some 8
  | _ => none

/-- Whether an expression of at least this rank may start with the token. -/
def Lexeme.startsAt (rank : Nat) (l : Lexeme) : Bool :=
  l.startsOperand || (rank ≤ 6 && (l = .symbol .minus || l = .symbol .tilde))
    || (rank ≤ 2 && l = .word "not")

/-- Lexemes on a line. -/
def placed (line : Nat) (ls : List Lexeme) : List Token := ls.map (⟨·, ⟨line, 0⟩⟩)

variable {line : Nat} {l : Lexeme} {ls ks : List Lexeme}

@[simp] theorem placed_nil : placed line [] = [] := rfl

@[simp] theorem placed_cons : placed line (l :: ls) = ⟨l, ⟨line, 0⟩⟩ :: placed line ls := rfl

@[simp] theorem placed_append : placed line (ls ++ ks) = placed line ls ++ placed line ks :=
  List.map_append

@[simp] theorem placed_length : (placed line ls).length = ls.length := List.length_map _

namespace Parser

variable {α β : Type} {n b : Nat} {us vs ts : List Token} {t : Token}

/-! ## Reading tokens -/

/-- The parser reads the tokens `us` in front of `ts`, and gives `a`. -/
def Reads (p : Parser α) (n : Nat) (us : List Token) (a : α) (ts : List Token) : Prop :=
  p n (us ++ ts) = .ok (a, ts)

namespace Reads

variable {p q : Parser α} {f : α → Parser β} {a : α} {c : β}

theorem pure : Reads (pure a) n [] a ts := rfl

theorem bind (hp : Reads p n us a (vs ++ ts)) (hf : Reads (f a) n vs c ts) :
    Reads (p >>= f) n (us ++ vs) c ts := by
  rw [Reads, List.append_assoc, bind_ok hp]
  exact hf

/-- A parser, and what reads nothing behind it. -/
theorem bind_nil (hp : Reads p n us a ts) (hf : Reads (f a) n [] c ts) :
    Reads (p >>= f) n us c ts :=
  (bind_ok hp).trans hf

/-- A parser that looks ahead without reading. -/
theorem look (hp : p n (us ++ ts) = .ok (a, us ++ ts)) (hf : Reads (f a) n us c ts) :
    Reads (p >>= f) n us c ts :=
  (bind_ok hp).trans hf

/-- A parser whose result is put into a tree. -/
theorem map {g : α → β} (hp : Reads p n us a ts) :
    Reads (p >>= fun a => Pure.pure (g a)) n us (g a) ts :=
  bind_ok hp

theorem ifTrue {h : Prop} [Decidable h] (hh : h) (hp : Reads p n us a ts) :
    Reads (if h then p else q) n us a ts := by
  rwa [if_pos hh]

theorem ifFalse {h : Prop} [Decidable h] (hh : ¬h) (hq : Reads q n us a ts) :
    Reads (if h then p else q) n us a ts := by
  rwa [if_neg hh]

theorem peek {f : Lexeme → Parser β} (h : Reads (f (frontToken (us ++ ts)).lexeme) n us c ts) :
    Reads (peek >>= f) n us c ts :=
  (bind_ok peek_apply).trans h

theorem peekToken {f : Token → Parser β} (h : Reads (f (frontToken (us ++ ts))) n us c ts) :
    Reads (peekToken >>= f) n us c ts :=
  (bind_ok peekToken_apply).trans h

theorem advance {f : Unit → Parser β} (h : Reads (f ()) n us c ts) :
    Reads (advance >>= f) n (t :: us) c ts :=
  (bind_ok advance_apply).trans h

theorem peekSecond {f : Lexeme → Parser β}
    (h : Reads (f (frontToken ((us ++ ts).drop 1)).lexeme) n us c ts) :
    Reads (peekSecond >>= f) n us c ts :=
  (bind_ok peekSecond_apply).trans h

/-- The parser reads some tokens unseen. -/
theorem drop {k : Nat} {f : Unit → Parser β} (hk : us.length = k) (h : Reads (f ()) n vs c ts) :
    Reads ((modify (·.drop k) : Parser Unit) >>= f) n (us ++ vs) c ts := by
  refine bind ?_ h
  exact congrArg (fun ts => Except.ok ((), ts)) (List.drop_left' hk)

/-- The token is there. -/
theorem hit {f : Bool → Parser β} {l : Lexeme} (ht : t.lexeme = l) (h : Reads (f true) n us c ts) :
    Reads (accept l >>= f) n (t :: us) c ts := by
  refine (bind_ok (accept_hit ?_)).trans h
  exact ht

/-- Another token is there. -/
theorem miss {f : Bool → Parser β} {l : Lexeme} (hl : (frontToken (us ++ ts)).lexeme ≠ l)
    (h : Reads (f false) n us c ts) : Reads (accept l >>= f) n us c ts :=
  (bind_ok (accept_miss hl)).trans h

theorem expect {f : Unit → Parser β} {l : Lexeme} {expected : String} (ht : t.lexeme = l)
    (h : Reads (f ()) n us c ts) : Reads (expect l expected >>= f) n (t :: us) c ts := by
  refine (bind_ok (expect_hit ?_)).trans h
  exact ht

theorem name {f : String → Parser β} {text : String} (hname : isKeyword text = false)
    (ht : t.lexeme = .word text) (h : Reads (f text) n us c ts) :
    Reads (name >>= f) n (t :: us) c ts := by
  refine (bind_ok (name_hit hname ?_)).trans h
  exact ht

theorem read {f : Nat → Parser β} (h : Reads (f n) n us c ts) : Reads (read >>= f) n us c ts := h

theorem loop {round : α → Parser (α ⊕ β)} (h : Reads (repeatUpTo round (n + 1) a) n us c ts) :
    Reads (repeatFrom a round) n us c ts :=
  (repeatFrom_apply a).trans h

/-- A round that is not the last one. -/
theorem again {round : α → Parser (α ⊕ β)} {a' : α}
    (hround : Reads (round a) n us (.inl a') (vs ++ ts))
    (h : Reads (repeatUpTo round b a') n vs c ts) :
    Reads (repeatUpTo round (b + 1) a) n (us ++ vs) c ts := by
  rw [repeatUpTo]
  exact bind hround h

/-- The last round. -/
theorem last {round : α → Parser (α ⊕ β)} (hround : Reads (round a) n us (.inr c) ts) :
    Reads (repeatUpTo round (b + 1) a) n us c ts := by
  rw [repeatUpTo]
  exact bind_ok hround

end Reads

/-! ## Rows of operators -/

/-- The parser reads an operand and goes on in rounds. Over the tokens `us` it gets as far as `e`,
with rounds left for all other tokens. -/
def Chains (first : Parser Expr) (round : Expr → Parser (Expr ⊕ Expr)) (n : Nat) (us : List Token)
    (e : Expr) (ts : List Token) : Prop :=
  ∃ b, n + 1 ≤ b + us.length ∧
    (first >>= fun e => repeatFrom e round) n (us ++ ts) = repeatUpTo round b e n ts

namespace Chains

variable {first : Parser Expr} {round : Expr → Parser (Expr ⊕ Expr)} {e e' : Expr}

/-- One operand. -/
theorem single (h : Reads first n us e ts) : Chains first round n us e ts :=
  ⟨n + 1, Nat.le_add_right .., (bind_ok h).trans (repeatFrom_apply e)⟩

/-- A further round. -/
theorem step (h : Chains first round n us e (vs ++ ts)) (hlen : us.length + vs.length ≤ n)
    (hvs : vs ≠ []) (hround : Reads (round e) n vs (.inl e') ts) :
    Chains first round n (us ++ vs) e' ts := by
  obtain ⟨b, hb, hrun⟩ := h
  have hpos := List.length_pos_iff.mpr hvs
  obtain ⟨b, rfl⟩ := Nat.exists_eq_add_one_of_ne_zero (n := b) (by omega)
  refine ⟨b, by rw [List.length_append]; omega, ?_⟩
  rw [List.append_assoc, hrun, repeatUpTo, bind_ok hround]

/-- No further round. -/
theorem reads (h : Chains first round n us e ts) (hlen : us.length ≤ n)
    (hround : Reads (round e) n [] (.inr e) ts) :
    Reads (first >>= fun e => repeatFrom e round) n us e ts := by
  obtain ⟨b, hb, hrun⟩ := h
  obtain ⟨b, rfl⟩ := Nat.exists_eq_add_one_of_ne_zero (n := b) (by omega)
  exact hrun.trans (Reads.last (b := b) hround)

end Chains

/-- A round of the parser of operands with operators between. -/
def leftRound (op? : Lexeme → Option (Expr → Expr → Expr)) (next : Parser Expr) (left : Expr) :
    Parser (Expr ⊕ Expr) := do
  match op? (← peek) with
  | some op =>
    advance
    return .inl (op left (← next))
  | none => return .inr left

theorem leftRound_some {op? : Lexeme → Option (Expr → Expr → Expr)} {next : Parser Expr}
    {op : Expr → Expr → Expr} {left right : Expr} (ht : op? t.lexeme = some op)
    (h : Reads next n us right ts) :
    Reads (leftRound op? next left) n (t :: us) (.inl (op left right)) ts := by
  refine .peek ?_
  simp only [List.cons_append, frontToken_cons, ht]
  exact .advance h.map

theorem leftRound_none {op? : Lexeme → Option (Expr → Expr → Expr)} {next : Parser Expr}
    {left : Expr} (h : op? (frontToken ts).lexeme = none) :
    Reads (leftRound op? next left) n [] (.inr left) ts := by
  refine .peek ?_
  simp only [List.nil_append, h]
  exact .pure

/-! ## Operators in front of an operand -/

/-- The operators in front of an operand, besides those already read, and the operand. -/
def prefixed (op? : Lexeme → Option UnaryOp) (next : Parser Expr) (bound : Nat)
    (ops : List UnaryOp) : Parser Expr := do
  let ops ← repeatUpTo (unaryRound op?) bound ops
  return ops.foldl (fun e op => .unary op e) (← next)

/-- The parser reads the tokens `us` as `e` and applies what has been read before. -/
def Prefixes (op? : Lexeme → Option UnaryOp) (next : Parser Expr) (n : Nat) (us : List Token)
    (e : Expr) (ts : List Token) : Prop :=
  ∀ bound ops, us.length < bound →
    Reads (prefixed op? next bound ops) n us (ops.foldl (fun e op => .unary op e) e) ts

namespace Prefixes

variable {op? : Lexeme → Option UnaryOp} {next : Parser Expr} {e : Expr}

/-- The operand. -/
theorem single (hop : op? (frontToken (us ++ ts)).lexeme = none) (h : Reads next n us e ts) :
    Prefixes op? next n us e ts := by
  intro bound ops hbound
  obtain ⟨bound, rfl⟩ := Nat.exists_eq_add_one_of_ne_zero (n := bound) (by omega)
  have hround : Reads (unaryRound op? ops) n [] (.inr ops) (us ++ ts) := unaryRound_none hop ops
  exact Reads.bind (.last hround) (.map h)

/-- A further operator in front. -/
theorem step {op : UnaryOp} (hop : op? t.lexeme = some op) (h : Prefixes op? next n us e ts) :
    Prefixes op? next n (t :: us) (.unary op e) ts := by
  intro bound ops hbound
  obtain ⟨bound, rfl⟩ := Nat.exists_eq_add_one_of_ne_zero (n := bound) (by omega)
  have hround : unaryRound op? ops n (t :: us ++ ts) = .ok (.inl (op :: ops), us ++ ts) := by
    rw [List.cons_append, unaryRound, bind_ok peek_apply, frontToken_cons, hop]
    rfl
  have hrest := h bound (op :: ops) (by rw [List.length_cons] at hbound; omega)
  unfold Reads prefixed at hrest ⊢
  rw [repeatUpTo, bind_assoc, bind_ok hround]
  exact hrest

theorem reads (h : Prefixes op? next n us e ts) (hlen : us.length ≤ n) :
    Reads (unaryLevel op? next) n us e ts := by
  exact h (n + 1) [] (by omega)

end Prefixes

/-! ## The levels of the grammar -/

section Levels

variable (field : FieldParser) (inner : Inner)

/-- The parser of the expressions of at least a rank. -/
def ranked : Nat → Parser Expr
  | 0 => expression field inner
  | 1 => unaryLevel notOp? (comparisonLevel (leftLevel sumOp? (leftLevel termOp?
      (unaryLevel signOp? (operand field inner))))) |> leftLevel andOp?
  | 2 => comparisonLevel (leftLevel sumOp? (leftLevel termOp?
      (unaryLevel signOp? (operand field inner)))) |> unaryLevel notOp?
  | 3 => leftLevel sumOp? (leftLevel termOp? (unaryLevel signOp? (operand field inner)))
      |> comparisonLevel
  | 4 => leftLevel termOp? (unaryLevel signOp? (operand field inner)) |> leftLevel sumOp?
  | 5 => unaryLevel signOp? (operand field inner) |> leftLevel termOp?
  | 6 => operand field inner |> unaryLevel signOp?
  | 7 => operand field inner
  | _ => atom field inner

/-- The operators of a rank that group to the left. -/
def leftOp? : Nat → Lexeme → Option (Expr → Expr → Expr)
  | 0 => orOp?
  | 1 => andOp?
  | 4 => sumOp?
  | 5 => termOp?
  | _ => fun _ => none

/-- A round of the parser of what follows an operand. -/
def operandRound (e : Expr) : Parser (Expr ⊕ Expr) := do
  match ← peek with
  | .symbol .openParen =>
    advance
    let (args, keywords) ← arguments inner
    expect (.symbol .closeParen) "')'"
    return .inl (.call e args keywords)
  | .symbol .dot =>
    advance
    match ← peek with
    | .word text =>
      advance
      return .inl (.attribute e text)
    | _ => unexpected "an attribute name"
  | .symbol .openBracket =>
    advance
    let index ← inner .full
    expect (.symbol .closeBracket) "']'"
    return .inl (.subscript e index)
  | _ => return .inr e

/-- The tokens do not go on with an expression of this rank. -/
def Stops (rank : Nat) (ts : List Token) : Prop :=
  ∀ r, (frontToken ts).lexeme.goesOnAt = some r → r < rank

/-- How the parser of a rank reads the tokens `us` as an expression. -/
def Runs (k n : Nat) (us : List Token) (e : Expr) (ts : List Token) : Prop :=
  match k with
  | 0 | 1 | 4 | 5 => Stops (k + 1) ts →
    Chains (ranked field inner (k + 1)) (leftRound (leftOp? k) (ranked field inner (k + 1))) n us e
      ts
  | 2 => Stops 2 ts → Prefixes notOp? (ranked field inner 3) n us e ts
  | 6 => Stops 6 ts → Prefixes signOp? (ranked field inner 7) n us e ts
  | 7 => Stops 8 ts → Chains (atom field inner) (operandRound inner) n us e ts
  | _ => Stops k ts → Reads (ranked field inner k) n us e ts

end Levels

/-! ### Where an expression ends -/

variable {k : Nat}

theorem Stops.mono {j : Nat} (h : Stops k ts) (hkj : k ≤ j) : Stops j ts :=
  fun r hr => Nat.lt_of_lt_of_le (h r hr) hkj

/-- Most tokens never go on with an expression. -/
theorem stops_of_none (h : (frontToken ts).lexeme.goesOnAt = none) : Stops k ts := by
  intro r hr
  rw [h] at hr
  cases hr

/-- An operator does not go on with its operands. -/
theorem stops_of_some {r : Nat} (h : (frontToken ts).lexeme.goesOnAt = some r) (hr : r < k) :
    Stops k ts := by
  intro r' hr'
  rw [h] at hr'
  cases hr'
  exact hr

theorem leftOp?_none (h : Stops k ts) : leftOp? k (frontToken ts).lexeme = none := by
  unfold Stops at h
  -- an operator of the rank at the front would be one that the expression does not stop at
  generalize (frontToken ts).lexeme = l at h
  unfold leftOp?
  split
  · unfold orOp?
    split
    · exact absurd (h 0 rfl) (by decide)
    · rfl
  · unfold andOp?
    split
    · exact absurd (h 1 rfl) (by decide)
    · rfl
  · unfold sumOp?
    split
    · exact absurd (h 4 rfl) (by decide)
    · exact absurd (h 4 rfl) (by decide)
    · rfl
  · unfold termOp?
    split
    · exact absurd (h 5 rfl) (by decide)
    · exact absurd (h 5 rfl) (by decide)
    · exact absurd (h 5 rfl) (by decide)
    · rfl
  · rfl

theorem comparison?_none (h : Stops 3 ts) (second : Lexeme) :
    comparison? (frontToken ts).lexeme second = none := by
  unfold Stops at h
  generalize (frontToken ts).lexeme = l at h
  unfold comparison?
  split
  case h_9 => rfl
  all_goals exact absurd (h 3 rfl) (by decide)

theorem operandRound_none {inner : Inner} {e : Expr} (h : Stops 7 ts) :
    Reads (operandRound inner e) n [] (.inr e) ts := by
  refine .peek ?_
  unfold Stops at h
  rw [List.nil_append]
  generalize (frontToken ts).lexeme = l at h
  split
  case h_4 => exact .pure
  all_goals exact absurd (h 7 rfl) (by decide)

/-! ### What an expression starts with -/

/-- The lexemes start like an expression of at least the rank `k`, and not with a name and a sign of
assignment. -/
def Opens (k : Nat) (ls : List Lexeme) : Prop :=
  ∃ l ls', ls = l :: ls' ∧ l.startsAt k = true ∧ ls'.head? ≠ some (.symbol .assign)

theorem startsAt_mono {j : Nat} (h : l.startsAt j = true) (hkj : k ≤ j) : l.startsAt k = true := by
  unfold Lexeme.startsAt at h ⊢
  simp only [Bool.or_eq_true, Bool.and_eq_true, decide_eq_true_eq] at h ⊢
  rcases h with (h | ⟨hj, h⟩) | ⟨hj, h⟩
  · exact .inl (.inl h)
  · exact .inl (.inr ⟨by omega, h⟩)
  · exact .inr ⟨by omega, h⟩

theorem Opens.mono {j : Nat} (h : Opens j ls) (hkj : k ≤ j) : Opens k ls := by
  obtain ⟨l, ls', hls, hstart, hsecond⟩ := h
  exact ⟨l, ls', hls, startsAt_mono hstart hkj, hsecond⟩

/-- More lexemes may follow that do not start with a sign of assignment. -/
theorem Opens.append (h : Opens k ls) (hks : ks.head? ≠ some (.symbol .assign)) :
    Opens k (ls ++ ks) := by
  obtain ⟨l, ls', rfl, hstart, hsecond⟩ := h
  refine ⟨l, ls' ++ ks, rfl, hstart, ?_⟩
  cases ls' with
  | nil => exact hks
  | cons l' ls' => exact hsecond

/-- No expression starts with a sign of assignment. -/
theorem startsAt_assign : (Lexeme.symbol .assign).startsAt k = false := by
  have hminus : ¬Lexeme.symbol .assign = .symbol .minus := nofun
  have htilde : ¬Lexeme.symbol .assign = .symbol .tilde := nofun
  have hnot : ¬Lexeme.symbol .assign = .word "not" := nofun
  simp only [Lexeme.startsAt, hminus, htilde, hnot, decide_false, Bool.or_self, Bool.and_false]
  rfl

/-- A lexeme in front of an expression. -/
theorem Opens.cons {j : Nat} (hl : l.startsAt k = true) (h : Opens j ls) : Opens k (l :: ls) := by
  obtain ⟨l', ls', rfl, hstart, -⟩ := h
  have hne : l' ≠ .symbol .assign := by
    rintro rfl
    rw [startsAt_assign] at hstart
    cases hstart
  exact ⟨l, l' :: ls', rfl, hl, fun heq => hne (Option.some.inj heq)⟩

/-- The front of the tokens is not a token that no such expression starts with. -/
theorem Opens.front_ne (h : Opens k ls) (hl : l.startsAt k = false) :
    (frontToken (placed line ls ++ ts)).lexeme ≠ l := by
  obtain ⟨l', ls', rfl, hstart, -⟩ := h
  rintro rfl
  rw [placed_cons, List.cons_append, frontToken_cons] at hl
  rw [hl] at hstart
  cases hstart

/-! ### Expressions in their places -/

/-- The lexemes can stand for the expression in a place that asks for at least the rank `k`. -/
structure Spells (k : Nat) (e : Expr) (ls : List Lexeme) : Prop where
  opens : Opens k ls
  runs : ∀ field bound n line ts, ls.length ≤ bound → ls.length ≤ n →
    Runs field (exprAt field bound) k n (placed line ls) e ts

variable {e : Expr} {field : FieldParser} {bound : Nat}

/-- **The parser of a rank reads the expression** wherever the next token does not go on with it. -/
theorem Spells.reads (h : Spells k e ls) (hk : k ≤ 8) (hbound : ls.length ≤ bound)
    (hn : ls.length ≤ n) (hstop : Stops k ts) :
    Reads (ranked field (exprAt field bound) k) n (placed line ls) e ts := by
  have hrun := h.runs field bound n line ts hbound hn
  have hlen : (placed line ls).length ≤ n := by rwa [placed_length]
  match k, hk with
  | 0, _ | 1, _ | 4, _ | 5, _ =>
    exact (hrun (hstop.mono (by omega))).reads hlen (leftRound_none (leftOp?_none hstop))
  | 2, _ | 6, _ => exact (hrun hstop).reads hlen
  | 7, _ => exact (hrun (hstop.mono (by omega))).reads hlen (operandRound_none hstop)
  | 3, _ | 8, _ => exact hrun hstop

/-- An expression may stand where a looser one may. -/
theorem Spells.loosen (h : Spells (k + 1) e ls) (hk : k < 8) : Spells k e ls := by
  refine ⟨h.opens.mono (Nat.le_succ k), fun field bound n line ts hbound hn => ?_⟩
  match k, hk with
  | 0, _ | 1, _ | 4, _ | 5, _ => exact fun hstop => .single (h.reads (by decide) hbound hn hstop)
  -- no `not` stands in front of an expression that binds tighter, and so for a sign below
  | 2, _ =>
    refine fun hstop => .single (notOp?_none (h.opens.front_ne rfl)) ?_
    exact h.reads (by decide) hbound hn (hstop.mono (by decide))
  | 6, _ =>
    refine fun hstop =>
      .single (signOp?_none (h.opens.front_ne rfl) (h.opens.front_ne rfl)) ?_
    exact h.reads (by decide) hbound hn (hstop.mono (by decide))
  | 7, _ => exact fun hstop => .single (h.reads (by decide) hbound hn hstop)
  | 3, _ =>
    intro hstop
    refine (bind_ok (h.reads (by decide) hbound hn (hstop.mono (by decide)))).trans ?_
    rw [bind_ok peek_apply, bind_ok peekSecond_apply, comparison?_none hstop]
    rfl

theorem Spells.of_le {j : Nat} (h : Spells j e ls) (hkj : k ≤ j) (hj : j ≤ 8) : Spells k e ls := by
  induction hkj with
  | refl => exact h
  | step _ ih => exact ih (h.loosen (by omega)) (by omega)

end Parser
end Tilde
