import Mathlib.Data.List.TakeWhile
import Tilde.Proofs.Parser.Progress

/-!
# Parsing comes to an end

The parsers run under bounds: on the rounds of a repetition, and on how deep brackets, blocks and
interpolated strings nest. None of these bounds is ever reached by a text. Under greater bounds the
same comes of it, be it a result or an error, and no error is that of a bound.

What is compared with a bound is the number of tokens in front of the end of the text (`room`). A
round that goes on makes it smaller (`Loop.proceeds`), and so does a bracket, a colon or a keyword,
one of which stands in front of whatever nests. The fields of interpolated strings are texts of
their own, each shorter than the string that holds it, so that the recursion through the lexer is
well founded.
-/

namespace Tilde

/-- Whether a bound was reached, in the text or in a field at any depth. -/
def ParseFault.reachesBound : ParseFault → Bool
  | tooDeep => true
  | field fault => fault.reachesBound
  | _ => false

namespace Parser

variable {α β : Type} {ts : List Token} {T : Token → Prop}

/-! ## Tokens in front of the end -/

/-- The number of tokens in front of the end of the text. -/
def room (ts : List Token) : Nat := (ts.takeWhile (·.lexeme ≠ .eof)).length

theorem room_append {used : List Token} (h : .eof ∉ lexemes used) (rest : List Token) :
    room (used ++ rest) = used.length + room rest := by
  have hused : ∀ t ∈ used, decide (t.lexeme ≠ .eof) = true := fun t ht =>
    decide_eq_true fun heq => h (heq ▸ List.mem_map_of_mem ht)
  rw [room, List.takeWhile_append_of_pos hused, List.length_append]
  rfl

theorem room_lt_length (h : .eof ∈ lexemes ts) : room ts < ts.length := by
  obtain ⟨t, ht, heof⟩ := List.mem_map.mp h
  refine Nat.lt_of_le_of_ne (List.takeWhile_prefix _).length_le fun hlen => ?_
  -- were all of the tokens in front of the end, the end itself would be
  have heq := (List.takeWhile_prefix _).eq_of_length hlen
  rw [← heq] at ht
  simpa [heof] using List.mem_takeWhile_imp ht

/-! ## Parsers that settle -/

/-- Under any bounds that exceed the tokens in front of the end, both parsers give the same and
leave the same, or they fail with the same error, which is not that of a bound. The tokens are those
that satisfy `T`. -/
def Settles (T : Token → Prop) (p q : Parser α) (ts : List Token) : Prop :=
  ∀ n m, room ts < n → room ts < m → (∀ t ∈ ts, T t) →
    (∃ a rest, p n ts = .ok (a, rest) ∧ q m ts = .ok (a, rest) ∧ room rest ≤ room ts ∧ rest ⊆ ts) ∨
      ∃ e, p n ts = .error e ∧ q m ts = .error e ∧ e.fault.reachesBound = false

namespace Settles

variable {p q : Parser α} {f g : α → Parser β} {l : Lexeme}

theorem pure {a : α} : Settles T (pure a) (pure a) ts :=
  fun _ _ _ _ _ => .inl ⟨a, ts, rfl, rfl, Nat.le_refl _, List.Subset.refl _⟩

theorem throw {e : ParseError} (he : e.fault.reachesBound = false) :
    Settles T (throw e : Parser α) (throw e) ts :=
  fun _ _ _ _ _ => .inr ⟨e, rfl, rfl, he⟩

theorem failHere {fault : ParseFault} (h : fault.reachesBound = false) :
    Settles T (failHere fault : Parser α) (failHere fault) ts :=
  fun _ _ _ _ _ => .inr ⟨_, rfl, rfl, h⟩

theorem unexpectedFault_reachesBound (found : Lexeme) (expected : String) :
    (unexpectedFault found expected).reachesBound = false := by
  unfold unexpectedFault
  split <;> rfl

theorem unexpected {expected : String} :
    Settles T (unexpected expected : Parser α) (unexpected expected) ts :=
  fun _ _ _ _ _ => .inr ⟨_, unexpected_apply expected, unexpected_apply expected,
    unexpectedFault_reachesBound _ expected⟩

/-- One parser after another. -/
theorem bind (hp : Settles T p q ts) (hf : ∀ a us, room us ≤ room ts → Settles T (f a) (g a) us) :
    Settles T (p >>= f) (q >>= g) ts := by
  intro n m hn hm hT
  obtain ⟨a, mid, hp, hq, hmid, hsub⟩ | ⟨e, hp, hq, he⟩ := hp n m hn hm hT
  · rw [bind_ok hp, bind_ok hq]
    obtain ⟨b, rest, hf, hg, hrest, hsub'⟩ | ⟨e, hf, hg, he⟩ :=
      hf a mid hmid n m (by omega) (by omega) fun t ht => hT t (hsub ht)
    · exact .inl ⟨b, rest, hf, hg, by omega, List.Subset.trans hsub' hsub⟩
    · exact .inr ⟨e, hf, hg, he⟩
  · exact .inr ⟨e, bind_error hp, bind_error hq, he⟩

/-- The tokens may be taken to satisfy `T`. -/
theorem known (h : (∀ t ∈ ts, T t) → Settles T p q ts) : Settles T p q ts :=
  fun n m hn hm hT => h hT n m hn hm hT

theorem ite {c : Prop} [Decidable c] {p' q' : Parser α} (ht : c → Settles T p q ts)
    (he : ¬c → Settles T p' q' ts) :
    Settles T (if c then p else p') (if c then q else q') ts := by
  by_cases h : c
  · rw [if_pos h, if_pos h]; exact ht h
  · rw [if_neg h, if_neg h]; exact he h

theorem read {f g : Nat → Parser β}
    (h : ∀ n m, room ts < n → room ts < m → Settles T (f n) (g m) ts) :
    Settles T (read >>= f) (read >>= g) ts :=
  fun n m hn hm hT => h n m hn hm n m hn hm hT

theorem peekToken {f g : Token → Parser β}
    (h : ∀ t, frontToken ts = t → Settles T (f t) (g t) ts) :
    Settles T (peekToken >>= f) (peekToken >>= g) ts := h _ rfl

theorem peek {f g : Lexeme → Parser β}
    (h : ∀ t, frontToken ts = t → Settles T (f t.lexeme) (g t.lexeme) ts) :
    Settles T (peek >>= f) (peek >>= g) ts := h _ rfl

theorem peekSecond {f g : Lexeme → Parser β}
    (h : ∀ t, frontToken (ts.drop 1) = t → Settles T (f t.lexeme) (g t.lexeme) ts) :
    Settles T (peekSecond >>= f) (peekSecond >>= g) ts := h _ rfl

/-- First parts that give the same without fail, and read some tokens in front of the end. -/
theorem after {a : α} {us : List Token} (used : List Token) (hts : ts = used ++ us)
    (hused : .eof ∉ lexemes used) (hp : ∀ n, p n ts = .ok (a, us))
    (hq : ∀ n, q n ts = .ok (a, us))
    (hf : room ts = used.length + room us → Settles T (f a) (g a) us) :
    Settles T (p >>= f) (q >>= g) ts := by
  intro n m hn hm hT
  have hroom : room ts = used.length + room us := by rw [hts, room_append hused us]
  have hsub : us ⊆ ts := by rw [hts]; exact List.subset_append_right used us
  rw [bind_ok (hp n), bind_ok (hq m)]
  obtain ⟨b, rest, hf, hg, hrest, hsub'⟩ | ⟨e, hf, hg, he⟩ :=
    hf hroom n m (by omega) (by omega) fun t ht => hT t (hsub ht)
  · exact .inl ⟨b, rest, hf, hg, by omega, List.Subset.trans hsub' hsub⟩
  · exact .inr ⟨e, hf, hg, he⟩

/-- First parts that read the front token. -/
theorem front {a : α} (hne : (frontToken ts).lexeme ≠ .eof)
    (hp : ∀ n, p n ts = .ok (a, ts.drop 1)) (hq : ∀ n, q n ts = .ok (a, ts.drop 1))
    (hf : room ts = room (ts.drop 1) + 1 → Settles T (f a) (g a) (ts.drop 1)) :
    Settles T (p >>= f) (q >>= g) ts := by
  obtain ⟨t, us, rfl, ht⟩ := Gives.front_eq_cons rfl hne
  refine .after [t] rfl (by simpa using hne.symm) hp hq fun hroom => hf ?_
  rw [hroom, List.length_singleton, Nat.add_comm]
  rfl

theorem advance {f g : Unit → Parser β} {t : Token} (ht : frontToken ts = t)
    (hl : t.lexeme = l) (hne : l ≠ .eof)
    (h : ∀ us, room ts = room us + 1 → Settles T (f ()) (g ()) us) :
    Settles T (advance >>= f) (advance >>= g) ts :=
  .front (by rwa [ht, hl]) (fun _ => advance_apply) (fun _ => advance_apply) (h _)

/-- The tokens of a comparison that has been seen are read. -/
theorem drop {f g : PUnit → Parser β} {op : Comparison} {width : Nat}
    (h : comparison? (frontToken ts).lexeme (frontToken (ts.drop 1)).lexeme = some (op, width))
    (hf : ∀ us, room us ≤ room ts → Settles T (f ()) (g ()) us) :
    Settles T ((modify (·.drop width) : Parser PUnit) >>= f)
      ((modify (·.drop width) : Parser PUnit) >>= g) ts := by
  have hreads : Gives (fun _ _ => True) ((modify (·.drop width) : Parser PUnit) >>= Pure.pure) ts :=
    .drop h fun _ => .pure trivial
  obtain ⟨used, hts, hused, -⟩ := hreads 0 () (ts.drop width) rfl
  exact .after used hts hused (fun _ => rfl) (fun _ => rfl) fun hroom => hf _ (by omega)

theorem accept {f g : Bool → Parser β} (hl : l ≠ .eof)
    (hhit : ∀ us, room ts = room us + 1 → Settles T (f true) (g true) us)
    (hmiss : Settles T (f false) (g false) ts) :
    Settles T (accept l >>= f) (accept l >>= g) ts := by
  by_cases hfront : (frontToken ts).lexeme = l
  · exact .front (hfront ▸ hl) (fun _ => accept_hit hfront) (fun _ => accept_hit hfront) (hhit _)
  · exact .after [] rfl (by simp) (fun _ => accept_miss hfront)
      (fun _ => accept_miss hfront) fun _ => hmiss

theorem expect {f g : Unit → Parser β} {expected : String} (hl : l ≠ .eof)
    (h : ∀ us, room ts = room us + 1 → Settles T (f ()) (g ()) us) :
    Settles T (expect l expected >>= f) (expect l expected >>= g) ts := by
  by_cases hfront : (frontToken ts).lexeme = l
  · exact .front (hfront ▸ hl) (fun _ => expect_hit hfront) (fun _ => expect_hit hfront) (h _)
  · intro n m _ _ _
    exact .inr ⟨_, bind_error (expect_miss hfront), bind_error (expect_miss hfront),
      unexpectedFault_reachesBound _ expected⟩

theorem name : Settles T name name ts := by
  refine .peek fun t ht => ?_
  split
  · next h =>
    exact .ite (fun _ => .unexpected) fun _ => .advance ht h (by simp) fun _ _ => .pure
  · exact .unexpected

/-- **A repetition settles if its rounds do**: each one that goes on makes the room smaller, so that
no bound on the rounds is reached. -/
theorem repeatFrom {round round' : α → Parser (α ⊕ β)} (hround : Proceeds round)
    (h : ∀ a us, room us ≤ room ts → Settles T (round a) (round' a) us) (start : α) :
    Settles T (repeatFrom start round) (repeatFrom start round') ts := by
  have main : ∀ b b' a us, room us < b → room us < b' → room us ≤ room ts →
      Settles T (repeatUpTo round b a) (repeatUpTo round' b' a) us := by
    intro b
    induction b with
    | zero => exact fun _ _ _ hb => absurd hb (Nat.not_lt_zero _)
    | succ b ih =>
      intro b' a us hb hb' hle n m hn hm hT
      obtain ⟨b', rfl⟩ := Nat.exists_eq_add_one_of_ne_zero (n := b') (by omega)
      obtain ⟨r, mid, h₁, h₂, hmid, hsub⟩ | ⟨e, h₁, h₂, he⟩ := h a us hle n m hn hm hT
      · simp only [repeatUpTo, bind_ok h₁, bind_ok h₂]
        cases r with
        | inr c => exact .inl ⟨c, mid, rfl, rfl, hmid, hsub⟩
        | inl a' =>
          obtain ⟨used, rfl, hused, hne⟩ := hround a us n _ mid h₁
          have hlen := List.length_pos_iff.mpr fun hnil => hne rfl (List.map_eq_nil_iff.mpr hnil)
          have hroom := room_append hused mid
          obtain ⟨c, rest, h₃, h₄, hrest, hsub'⟩ | h₃ := ih b' a' mid (by omega) (by omega)
            (by omega) n m (by omega) (by omega) fun t ht => hT t (hsub ht)
          · exact .inl ⟨c, rest, h₃, h₄, by omega, List.Subset.trans hsub' hsub⟩
          · exact .inr h₃
      · exact .inr ⟨e, bind_error h₁, bind_error h₂, he⟩
  exact .read fun n m hn hm => main (n + 1) (m + 1) start ts (by omega) (by omega) (Nat.le_refl _)

end Settles
/-! ## Expressions -/

/-- The parsers for what stands inside brackets settle on fewer than `k` tokens. -/
structure InnerSettles (T : Token → Prop) (k : Nat) (field : FieldParser) (inner inner' : Inner) :
    Prop where
  settles : ∀ level ts, room ts < k → Settles T (inner level) (inner' level) ts
  follows : ∀ level, Follows field .expr (inner level)

/-- The parsers of expressions settle on at most `k` tokens. -/
structure LevelSettles (T : Token → Prop) (k : Nat) (next next' : Parser Expr) : Prop where
  settles : ∀ ts, room ts ≤ k → Settles T next next' ts
  follows : ∃ field, Follows field .expr next

/-- The parts of an interpolated string are the same, or fail in the same way and for no bound. -/
def FieldsSettle (T : Token → Prop) (field field' : FieldParser) : Prop :=
  ∀ t pieces, T t → t.lexeme = .template pieces → parts field pieces = parts field' pieces ∧
    ∀ fault, parts field pieces = .error fault → fault.reachesBound = false

theorem adjacentStrings_settles (text : String) :
    Settles T (adjacentStrings text) (adjacentStrings text) ts := by
  refine .repeatFrom stringsRound_proceeds (fun text us _ => ?_) text
  show Settles T (stringsRound text) (stringsRound text) us
  refine .peek fun t ht => ?_
  split
  · next h => exact .advance ht h (by simp) fun _ _ => .pure
  · exact .pure

section Expressions

variable {k : Nat} {field field' : FieldParser} {inner inner' : Inner}
  (hinner : InnerSettles T k field inner inner')
include hinner

theorem starOrExpr_settles (hk : room ts < k) :
    Settles T (starOrExpr inner) (starOrExpr inner') ts :=
  .accept (by simp)
    (fun us _ => .bind (hinner.settles .operand us (by omega)) fun _ _ _ => .pure)
    (hinner.settles .full ts hk)

theorem exprList_settles (hk : room ts < k) :
    Settles T (exprList inner) (exprList inner') ts := by
  refine .bind (starOrExpr_settles hinner hk) fun first us _ => ?_
  refine .peek fun _ _ => .ite (fun _ => .pure) fun _ => ?_
  refine .repeatFrom (tupleRound_proceeds hinner.follows) (fun items vs _ => ?_) _
  refine .accept (by simp) (fun ws _ => .peek fun _ _ => .ite (fun _ => .pure) fun _ => ?_) .pure
  exact .bind (starOrExpr_settles hinner (by omega)) fun _ _ _ => .pure

theorem listItems_settles (hk : room ts < k) :
    Settles T (listItems inner) (listItems inner') ts := by
  refine .repeatFrom (listRound_proceeds hinner.follows) (fun items us _ => ?_) _
  refine .peek fun _ _ => .ite (fun _ => .pure) fun _ => ?_
  refine .bind (starOrExpr_settles hinner (by omega)) fun e vs _ => ?_
  exact .accept (by simp) (fun _ _ => .pure) .pure

theorem arguments_settles (hk : room ts < k) :
    Settles T (arguments inner) (arguments inner') ts := by
  refine .repeatFrom (argumentsRound_proceeds hinner.follows) (fun r us hus => ?_) _
  obtain ⟨args, keywords⟩ := r
  refine .peek fun _ _ => .ite (fun _ => .pure) fun _ => ?_
  have hnext (next : List Expr × List Keyword) (vs : List Token) : Settles T
      (do if ← acceptSymbol .comma then return .inl next
          else return .inr (next.1.reverse, next.2.reverse) :
        Parser ((List Expr × List Keyword) ⊕ (List Expr × List Keyword)))
      (do if ← acceptSymbol .comma then return .inl next
          else return .inr (next.1.reverse, next.2.reverse)) vs :=
    .accept (by simp) (fun _ _ => .pure) .pure
  obtain hno | ⟨hyes, text, hfront, hname, hassign⟩ := atKeyword_cases us
  · refine .after [] rfl (by simp) hno hno fun _ => .ite nofun fun _ => .ite ?_ ?_
    · exact fun _ => .bind (.failHere rfl) fun _ _ _ => hnext _ _
    · exact fun _ => .bind (hinner.settles .full us (by omega)) fun _ _ _ => hnext _ _
  · refine .after [] rfl (by simp) hyes hyes fun _ => .ite (fun _ => ?_) nofun
    have hread : ∀ n, name n us = .ok (text, us.drop 1) := fun _ => name_hit hname hfront
    refine .front (by simp [hfront]) hread hread fun hroom => ?_
    refine .advance rfl hassign (by simp) fun vs _ => ?_
    exact .bind (hinner.settles .full vs (by omega)) fun _ _ _ => hnext _ _

theorem atom_settles (hfields : FieldsSettle T field field')
    (hk : room ts ≤ k) : Settles T (atom field inner) (atom field' inner') ts := by
  refine .peekToken fun t ht => ?_
  split
  case h_4 h => exact .ite (fun _ => .unexpected) fun _ => .advance ht h (by simp) fun _ _ => .pure
  case h_5 text h =>
    exact .advance ht h (by simp) fun _ _ => .bind (adjacentStrings_settles text) fun _ _ _ => .pure
  case h_6 pieces h =>
    refine .known fun hT => .advance ht h (by simp) fun us _ => ?_
    obtain ⟨_, _, rfl, _⟩ := Gives.front_eq_cons (ht.symm ▸ h) (by simp)
    obtain ⟨hparts, hfault⟩ := hfields t pieces (hT t (ht ▸ List.mem_cons_self ..)) h
    rw [← hparts]
    cases hps : parts field pieces with
    | ok ps => exact .pure
    | error fault => exact .throw (hfault fault hps)
  case h_7 h =>
    refine .advance ht h (by simp) fun us _ => .accept (by simp) (fun _ _ => .pure) ?_
    refine .bind (exprList_settles hinner (by omega)) fun e vs _ => ?_
    exact .expect (by simp) fun _ _ => .pure
  case h_8 h =>
    refine .advance ht h (by simp) fun us _ => ?_
    refine .bind (listItems_settles hinner (by omega)) fun items vs _ => ?_
    exact .expect (by simp) fun _ _ => .pure
  case h_10 => exact .unexpected
  all_goals next h => exact .advance ht h (by simp) fun _ _ => .pure

theorem operand_settles (hfields : FieldsSettle T field field')
    (hk : room ts ≤ k) : Settles T (operand field inner) (operand field' inner') ts := by
  refine .bind (atom_settles hinner hfields hk) fun e us _ => ?_
  refine .repeatFrom (operandRound_proceeds hinner.follows) (fun e vs _ => ?_) e
  show Settles T (operandRound inner e) (operandRound inner' e) vs
  refine .peek fun t ht => ?_
  split
  · next h =>
    refine .advance ht h (by simp) fun ws _ => ?_
    refine .bind (arguments_settles hinner (by omega)) fun _ _ _ => ?_
    exact .expect (by simp) fun _ _ => .pure
  · next h =>
    refine .advance ht h (by simp) fun ws _ => .peek fun u hu => ?_
    split
    · next h => exact .advance hu h (by simp) fun _ _ => .pure
    · exact .unexpected
  · next h =>
    refine .advance ht h (by simp) fun ws _ => ?_
    refine .bind (hinner.settles .full ws (by omega)) fun _ _ _ => ?_
    exact .expect (by simp) fun _ _ => .pure
  · exact .pure

end Expressions

/-! ### Operators -/

section Levels

variable {k : Nat} {next next' : Parser Expr} (hnext : LevelSettles T k next next')
include hnext

theorem unaryLevel_settles {op? : Lexeme → Option UnaryOp}
    (hop : ∀ l op, op? l = some op → op.lexeme = l) :
    LevelSettles T k (unaryLevel op? next) (unaryLevel op? next') := by
  obtain ⟨field, hfollows⟩ := hnext.follows
  refine ⟨fun ts hk => ?_, field, unaryLevel_follows hfollows hop⟩
  refine .bind (.repeatFrom (unaryRound_proceeds hop) (fun ops us _ => ?_) _) fun ops us _ => ?_
  · show Settles T (unaryRound op? ops) (unaryRound op? ops) us
    refine .peek fun t ht => ?_
    split
    · next op h =>
      exact .advance ht (hop _ _ h).symm (by cases op <;> simp [UnaryOp.lexeme]) fun _ _ => .pure
    · exact .pure
  · exact .bind (hnext.settles us (by omega)) fun _ _ _ => .pure

theorem leftLevel_settles {op? : Lexeme → Option (Expr → Expr → Expr)}
    (hop : ∀ l f, op? l = some f → IsInfix l f) :
    LevelSettles T k (leftLevel op? next) (leftLevel op? next') := by
  obtain ⟨field, hfollows⟩ := hnext.follows
  refine ⟨fun ts hk => ?_, field, leftLevel_follows hfollows hop⟩
  refine .bind (hnext.settles ts hk) fun left us _ => ?_
  refine .repeatFrom (leftRound_proceeds hop hfollows) (fun left vs _ => ?_) left
  show Settles T (leftRound op? next left) (leftRound op? next' left) vs
  refine .peek fun t ht => ?_
  split
  · next h =>
    refine .advance ht rfl (hop _ _ h).ne_eof fun ws _ => ?_
    exact .bind (hnext.settles ws (by omega)) fun _ _ _ => .pure
  · exact .pure

theorem comparisonLevel_settles :
    LevelSettles T k (comparisonLevel next) (comparisonLevel next') := by
  obtain ⟨field, hfollows⟩ := hnext.follows
  refine ⟨fun ts hk => ?_, field, comparisonLevel_follows hfollows⟩
  refine .bind (hnext.settles ts hk) fun left us _ => .peek fun t ht => .peekSecond fun u hu => ?_
  split
  · next op width h =>
    subst ht hu
    exact .drop h fun vs _ => .bind (hnext.settles vs (by omega)) fun _ _ _ => .pure
  · exact .pure

end Levels

theorem expression_settles {k : Nat} {field field' : FieldParser} {inner inner' : Inner}
    (hinner : InnerSettles T k field inner inner') (hfields : FieldsSettle T field field') :
    LevelSettles T k (expression field inner) (expression field' inner') := by
  have h : LevelSettles T k (operand field inner) (operand field' inner') :=
    ⟨fun ts hk => operand_settles hinner hfields hk, field, operand_follows hinner.follows⟩
  have h := leftLevel_settles (unaryLevel_settles h fun _ _ => signOp?_eq_some)
    fun _ _ => termOp?_eq_some
  have h := comparisonLevel_settles (leftLevel_settles h fun _ _ => sumOp?_eq_some)
  have h := leftLevel_settles (unaryLevel_settles h fun _ _ => notOp?_eq_some)
    fun _ _ => andOp?_eq_some
  exact leftLevel_settles h fun _ _ => orOp?_eq_some

/-- Bounds on the nesting of brackets do no harm if they are no less than the room. -/
theorem exprAt_settles {field field' : FieldParser} (hfields : FieldsSettle T field field')
    (k : Nat) {depth depth' : Nat} (hk : k ≤ depth) (hk' : k ≤ depth') :
    InnerSettles T k field (exprAt field depth) (exprAt field' depth') := by
  induction k generalizing depth depth' with
  | zero => exact ⟨fun _ _ hroom => absurd hroom (Nat.not_lt_zero _), exprAt_follows depth⟩
  | succ k ih =>
    obtain ⟨depth, rfl⟩ := Nat.exists_eq_add_one_of_ne_zero (n := depth) (by omega)
    obtain ⟨depth', rfl⟩ := Nat.exists_eq_add_one_of_ne_zero (n := depth') (by omega)
    have hinner : InnerSettles T k field (exprAt field depth) (exprAt field' depth') :=
      ih (by omega) (by omega)
    refine ⟨fun level ts hroom => ?_, exprAt_follows _⟩
    cases level with
    | full => exact (expression_settles hinner hfields).settles ts (by omega)
    | operand => exact operand_settles hinner hfields (by omega)

/-! ## Statements -/

theorem rejectStar_settles (e : Expr) : Settles T (rejectStar e) (rejectStar e) ts :=
  .ite (fun _ => .failHere rfl) fun _ => .pure

theorem lineEnd_settles : Settles T lineEnd lineEnd ts := by
  refine .peek fun t ht => ?_
  split
  · next h => exact .advance (f := Pure.pure) (g := Pure.pure) ht h (by simp) fun _ _ => .pure
  · exact .pure
  · exact .unexpected

theorem handlerKind_settles : Settles T handlerKind handlerKind ts := by
  refine .peek fun t ht => ?_
  split
  · next h => exact .ite (fun _ => .pure) fun _ => .advance ht h (by simp) fun _ _ => .pure
  · exact .pure

/-- What is no target fails for no bound. -/
theorem throw_toTarget_settles {e : Expr} {fault : ParseFault} {pos : Pos}
    (h : toTarget e = .error fault) :
    Settles T (throw ⟨fault, pos⟩ : Parser α) (throw ⟨fault, pos⟩) ts := by
  obtain rfl | ⟨what, rfl⟩ := toTarget_error e h
  · exact .throw rfl
  · exact .throw rfl

theorem bracketed_settles {bound bound' k : Nat} {close : Symbol}
    (hitem : ∀ ts, room ts < k → Settles T (targetAtom bound) (targetAtom bound') ts)
    (hk : room ts < k) :
    Settles T (targetAtom.bracketed close (targetAtom bound))
      (targetAtom.bracketed close (targetAtom bound')) ts := by
  refine .bind (.repeatFrom (bracketedRound_proceeds close bound) (fun items us _ => ?_) _) ?_
  · refine .peek fun _ _ => .ite (fun _ => .pure) fun _ => ?_
    refine .bind (hitem us (by omega)) fun e vs _ => ?_
    exact .accept (by simp) (fun _ _ => .pure) .pure
  · exact fun items us _ => .expect (by simp) fun _ _ => .pure

theorem targetAtom_settles {bound bound' : Nat} (hroom : room ts < bound)
    (hroom' : room ts < bound') : Settles T (targetAtom bound) (targetAtom bound') ts := by
  induction bound generalizing bound' ts with
  | zero => exact absurd hroom (Nat.not_lt_zero _)
  | succ bound ih =>
    obtain ⟨bound', rfl⟩ := Nat.exists_eq_add_one_of_ne_zero (n := bound') (by omega)
    have hitem us (hus : room us < min bound bound') :
        Settles T (targetAtom bound) (targetAtom bound') us :=
      ih (by omega) (by omega)
    refine .peek fun t ht => ?_
    split
    · next h => exact .advance ht h (by simp) fun _ _ => .bind .name fun _ _ _ => .pure
    · next h => exact .advance ht h (by simp) fun us _ => bracketed_settles hitem (by omega)
    · next h => exact .advance ht h (by simp) fun us _ => bracketed_settles hitem (by omega)
    · exact .bind .name fun _ _ _ => .pure

theorem loopTarget_settles : Settles T loopTarget loopTarget ts := by
  refine .read fun n m hn hm => .bind (targetAtom_settles hn hm) fun first us _ => ?_
  refine .bind (.repeatFrom (targetsRound_proceeds n) (fun items vs _ => ?_) _) fun items vs _ => ?_
  · refine .accept (by simp) (fun ws _ => .peek fun _ _ => .ite (fun _ => .pure) fun _ => ?_) .pure
    exact .bind (targetAtom_settles (by omega) (by omega)) fun _ _ _ => .pure
  · split <;> exact .pure

/-- The parsers of statements settle on fewer than `k` tokens. -/
structure StmtSettles (T : Token → Prop) (k : Nat) (field : FieldParser)
    (stmt stmt' : Parser Stmt) : Prop where
  settles : ∀ ts, room ts < k → Settles T stmt stmt' ts
  obeys : Obeys field .stmt stmt

section Statements

variable {j k : Nat} {field : FieldParser} {expr expr' : Inner} {stmt stmt' : Parser Stmt}
  (hexpr : InnerSettles T j field expr expr') (hstmt : StmtSettles T k field stmt stmt')
include hexpr

theorem simple_settles (hj : room ts < j) : Settles T (simple expr) (simple expr') ts := by
  refine .peekToken fun t ht => ?_
  split
  case h_4 h =>
    refine .advance ht h (by simp) fun us _ => ?_
    refine .bind (hexpr.settles .full us (by omega)) fun test vs _ => ?_
    refine .accept (by simp) (fun ws _ => ?_) .pure
    exact .bind (hexpr.settles .full ws (by omega)) fun _ _ _ => .pure
  case h_5 =>
    refine .bind (exprList_settles hexpr hj) fun e us _ => .accept (by simp) (fun vs _ => ?_) ?_
    · cases htarget : toTarget e with
      | error fault => exact throw_toTarget_settles htarget
      | ok target =>
        refine .bind (exprList_settles hexpr (by omega)) fun value ws _ => ?_
        exact .bind (rejectStar_settles value) fun _ _ _ => .pure
    · exact .bind (rejectStar_settles e) fun _ _ _ => .pure
  all_goals next h => exact .advance ht h (by simp) fun _ _ => .pure

include hstmt

theorem block_settles (hj : room ts < j) (hk : room ts ≤ k) :
    Settles T (block expr stmt) (block expr' stmt') ts := by
  refine .expect (by simp) fun us _ => .accept (by simp) (fun vs _ => ?_) ?_
  · refine .expect (by simp) fun ws _ => ?_
    refine .repeatFrom (bodyRound_proceeds hstmt.obeys) (fun body us _ => ?_) _
    show Settles T (bodyRound stmt body) (bodyRound stmt' body) us
    refine .peek fun t ht => ?_
    split
    · next h => exact .advance ht h (by simp) fun _ _ => .pure
    · exact .unexpected
    · next h => exact .advance ht h (by simp) fun _ _ => .pure
    · exact .bind (hstmt.settles us (by omega)) fun _ _ _ => .pure
  · refine .bind (simple_settles hexpr (by omega)) fun s vs _ => ?_
    exact .bind lineEnd_settles fun _ _ _ => .pure

theorem branch_settles {bound bound' : Nat} (line : Nat) (hj : room ts < j) (hk : room ts ≤ k)
    (hroom : room ts < bound) (hroom' : room ts < bound') :
    Settles T (branch expr stmt bound line) (branch expr' stmt' bound' line) ts := by
  induction bound generalizing bound' line ts with
  | zero => exact absurd hroom (Nat.not_lt_zero _)
  | succ bound ih =>
    obtain ⟨bound', rfl⟩ := Nat.exists_eq_add_one_of_ne_zero (n := bound') (by omega)
    refine .bind (hexpr.settles .full ts hj) fun test us _ => ?_
    refine .bind (block_settles hexpr hstmt (by omega) (by omega)) fun body vs _ => ?_
    refine .peekToken fun t ht => ?_
    split
    · next h =>
      refine .advance ht h (by simp) fun ws _ => ?_
      exact .bind (ih _ (by omega) (by omega) (by omega) (by omega)) fun _ _ _ => .pure
    · next h =>
      refine .advance ht h (by simp) fun ws _ => ?_
      exact .bind (block_settles hexpr hstmt (by omega) (by omega)) fun _ _ _ => .pure
    · exact .pure

theorem handlers_settles (hj : room ts < j) (hk : room ts ≤ k) :
    Settles T (handlers expr stmt) (handlers expr' stmt') ts := by
  refine .repeatFrom (handlerRound_proceeds hexpr.follows hstmt.obeys) (fun hs us _ => ?_) _
  refine .accept (by simp) (fun vs _ => .bind handlerKind_settles fun kind ws _ => ?_) .pure
  have hrest (name : Option String) {us : List Token} (hus : room us ≤ room ts) : Settles T
      (do return .inl (.mk kind name (← block expr stmt) :: hs) :
        Parser (List Handler ⊕ List Handler))
      (do return .inl (.mk kind name (← block expr' stmt') :: hs)) us :=
    .bind (block_settles hexpr hstmt (by omega) (by omega)) fun _ _ _ => .pure
  refine .accept (by simp) (fun xs _ => .bind .name fun name ys _ => ?_) (hrest none (by omega))
  exact hrest (some name) (by omega)

theorem statement_settles (hj : room ts < j) (hk : room ts ≤ k) :
    Settles T (statement expr stmt) (statement expr' stmt') ts := by
  refine .peekToken fun t ht => ?_
  split
  case h_1 h =>
    refine .advance ht h (by simp) fun us _ => .read fun n m hn hm => ?_
    exact branch_settles hexpr hstmt _ (by omega) (by omega) hn hm
  case h_2 h =>
    refine .advance ht h (by simp) fun us _ => ?_
    refine .bind (hexpr.settles .full us (by omega)) fun test vs _ => ?_
    exact .bind (block_settles hexpr hstmt (by omega) (by omega)) fun _ _ _ => .pure
  case h_3 h =>
    refine .advance ht h (by simp) fun us _ => .peekToken fun u hu => ?_
    refine .bind loopTarget_settles fun e vs _ => ?_
    cases htarget : toTarget e with
    | error fault => exact throw_toTarget_settles htarget
    | ok target =>
      refine .accept (by simp) (fun ws _ => ?_) .unexpected
      refine .bind (exprList_settles hexpr (by omega)) fun items xs _ => ?_
      exact .bind (block_settles hexpr hstmt (by omega) (by omega)) fun _ _ _ => .pure
  case h_4 h =>
    refine .advance ht h (by simp) fun us _ => ?_
    refine .bind (block_settles hexpr hstmt (by omega) (by omega)) fun body vs _ => ?_
    refine .bind (handlers_settles hexpr hstmt (by omega) (by omega)) fun hs ws _ => ?_
    exact .ite (fun _ => .unexpected) fun _ => .pure
  case h_5 =>
    refine .bind (simple_settles hexpr hj) fun s us _ => ?_
    exact .bind lineEnd_settles fun _ _ _ => .pure

end Statements

theorem stmtAt_settles {j : Nat} {field : FieldParser} {expr expr' : Inner}
    (hexpr : InnerSettles T j field expr expr') (k : Nat) (hj : k ≤ j) {height height' : Nat}
    (hk : k ≤ height) (hk' : k ≤ height') :
    StmtSettles T k field (stmtAt expr height) (stmtAt expr' height') := by
  induction k generalizing height height' with
  | zero =>
    exact ⟨fun _ hroom => absurd hroom (Nat.not_lt_zero _), stmtAt_obeys hexpr.follows height⟩
  | succ k ih =>
    obtain ⟨height, rfl⟩ := Nat.exists_eq_add_one_of_ne_zero (n := height) (by omega)
    obtain ⟨height', rfl⟩ := Nat.exists_eq_add_one_of_ne_zero (n := height') (by omega)
    have hstmt : StmtSettles T k field (stmtAt expr height) (stmtAt expr' height') :=
      ih (by omega) (by omega) (by omega)
    refine ⟨fun ts hroom => ?_, stmtAt_obeys hexpr.follows _⟩
    exact statement_settles hexpr hstmt (by omega) (by omega)

theorem statements_settles {k : Nat} {field : FieldParser} {stmt stmt' : Parser Stmt}
    (hstmt : StmtSettles T k field stmt stmt') (hk : room ts < k) :
    Settles T (statements stmt) (statements stmt') ts := by
  refine .repeatFrom (textRound_proceeds hstmt.obeys) (fun body us _ => ?_) _
  show Settles T (textRound stmt body) (textRound stmt' body) us
  refine .peek fun t ht => ?_
  split
  · exact .pure
  · next h => exact .advance ht h (by simp) fun _ _ => .pure
  · exact .bind (hstmt.settles us (by omega)) fun _ _ _ => .pure

/-! ## Fields -/

/-- A text in quotes is no longer than what it is written with. -/
theorem length_le_of_denotes {quote : Char} {cs text : List Char} (h : Denotes quote cs text) :
    text.length ≤ cs.length := by
  induction h with
  | nil => exact Nat.le_refl _
  | char => simpa
  | escape c _ ih =>
    have := Lexer.length_unescape c
    simp only [List.length_append, List.length_reverse, List.length_cons, List.length_nil]
    omega

/-- **The text of a field is shorter than the string that holds it**, by the letter and the quotes
at least. -/
theorem field_shorter {pieces : List Template.Piece} {text : List Char} {source : String}
    {spec : Option String} (h : (Lexeme.template pieces).SpelledBy text)
    (hfield : .field source spec ∈ pieces) : (Text.trim source).length < text.length := by
  obtain ⟨letter, quote, chars, body, -, -, rfl, hbody, hpieces⟩ := h
  have hsource := Template.split_fieldsWithin hpieces source spec hfield
  have htrim := length_trim_le source
  have hlen := length_le_of_denotes hbody
  simp only [List.length_append, List.length_cons, List.length_nil]
  omega

/-- Parsers of fields that come to the same for each field come to the same for all of them. -/
theorem parts_settle {field field' : FieldParser} {pieces : List Template.Piece}
    (h : ∀ source spec, .field source spec ∈ pieces → field source = field' source ∧
      ∀ fault, field source = .error fault → fault.reachesBound = false) :
    parts field pieces = parts field' pieces ∧
      ∀ fault, parts field pieces = .error fault → fault.reachesBound = false := by
  refine ⟨?_, fun fault hfault => ?_⟩
  · induction pieces with
    | nil => rfl
    | cons piece pieces ih =>
      have hlater := ih fun source spec hmem => h source spec (List.mem_cons_of_mem _ hmem)
      cases piece with
      | literal text => rw [parts, parts, hlater]
      | field source spec =>
        have hfirst := (h source spec (List.mem_cons_self ..)).1
        rw [parts, parts, hlater, hfirst]
  · obtain ⟨source, spec, hmem, herror⟩ := parts_error hfault
    exact (h source spec hmem).2 fault herror

theorem parseTokens_settles {p q : Parser α} (h : Settles T p q ts) (hroom : room ts < ts.length)
    (hT : ∀ t ∈ ts, T t) : parseTokens ts p = parseTokens ts q ∧
      ∀ e, parseTokens ts p = .error e → e.fault.reachesBound = false := by
  obtain ⟨a, rest, hp, hq, -, -⟩ | ⟨e, hp, hq, he⟩ := h _ _ hroom hroom hT
  · rw [parseTokens_ok.mpr ⟨rest, hp⟩, parseTokens_ok.mpr ⟨rest, hq⟩]
    exact ⟨rfl, nofun⟩
  · rw [parseTokens_error hp, parseTokens_error hq]
    exact ⟨rfl, fun _ heq => by cases heq; exact he⟩

theorem fieldTokens_settles {field field' : FieldParser} (hfields : FieldsSettle T field field')
    (hroom : room ts < ts.length) (hT : ∀ t ∈ ts, T t) :
    fieldTokens field ts = fieldTokens field' ts ∧
      ∀ e, fieldTokens field ts = .error e → e.fault.reachesBound = false := by
  have hinner := exprAt_settles hfields ts.length (Nat.le_refl _) (Nat.le_refl _)
  refine parseTokens_settles (.bind (exprList_settles hinner hroom) fun e us _ => ?_) hroom hT
  have hend (vs : List Token) : Settles T
      (do if (← peek) = .eof then return e else unexpected "'\x7d'" : Parser Expr)
      (do if (← peek) = .eof then return e else unexpected "'\x7d'") vs :=
    .peek fun _ _ => .ite (fun _ => .pure) fun _ => .unexpected
  exact .accept (by simp) (fun vs _ => hend vs) (hend us)

/-- The end of a text is among its tokens. -/
theorem room_lt_of_tokenize {source : String} (h : tokenize source = .ok ts) :
    room ts < ts.length := by
  obtain ⟨front, rfl, -⟩ := (Lexer.State.run_wellLaid h).ended
  exact room_lt_length (by simp [lexemes])

/-- Parsers of fields settle on the tokens of a text if they do on every shorter text. -/
theorem fieldsSettle {n : Nat} {field field' : FieldParser}
    (h : ∀ source : String, source.length < n → field source = field' source ∧
      ∀ fault, field source = .error fault → fault.reachesBound = false) :
    FieldsSettle (fun t => t.lexeme.Sound n) field field' := by
  intro t pieces hsound ht
  obtain ⟨k, hk, hwithin⟩ : (Lexeme.template pieces).Sound n := ht ▸ hsound
  exact parts_settle fun source spec hmem =>
    h source (Nat.lt_of_le_of_lt (hwithin source spec hmem) hk)

/-- **What comes of a field does not depend on a bound that exceeds its length**, and no field
reaches such a bound. -/
theorem fieldExpr_settles {nesting nesting' : Nat} {source : String}
    (h : source.length < nesting) (h' : source.length < nesting') :
    fieldExpr nesting source = fieldExpr nesting' source ∧
      ∀ fault, fieldExpr nesting source = .error fault → fault.reachesBound = false := by
  induction nesting generalizing nesting' source with
  | zero => exact absurd h (Nat.not_lt_zero _)
  | succ nesting ih =>
    obtain ⟨nesting', rfl⟩ := Nat.exists_eq_add_one_of_ne_zero (n := nesting') (by omega)
    have htrim := length_trim_le source
    rw [fieldExpr, fieldExpr]
    cases hts : tokenize (Text.trim source) with
    | error e => exact ⟨rfl, fun _ heq => by cases heq; rfl⟩
    | ok ts =>
      -- a field inside the field is shorter again, so the bounds that are left exceed its length
      have hfields := fieldsSettle fun source' (hlt : source'.length < (Text.trim source).length) =>
        ih (Nat.lt_of_lt_of_le hlt (by omega : _ ≤ nesting))
          (Nat.lt_of_lt_of_le hlt (by omega : _ ≤ nesting'))
      obtain ⟨heq, herror⟩ :=
        fieldTokens_settles hfields (room_lt_of_tokenize hts) (tokenize_sound hts)
      simp only [← heq, true_and]
      intro fault hfault
      cases he : fieldTokens (fieldExpr nesting) ts with
      | error e =>
        rw [he] at hfault
        cases hfault
        exact herror e he
      | ok e =>
        rw [he] at hfault
        cases hfault

/-! ## Whole texts -/

/-- Parses a source text under one bound for all that is bounded: the rounds of a repetition, and
the nesting of brackets, of blocks and of interpolated strings. -/
def parseWithin (bound : Nat) (source : String) (mode : Mode) : Except SyntaxError Program :=
  match tokenize source with
  | .error e => .error (.lex e)
  | .ok tokens =>
    let expr := exprAt (fieldExpr bound) bound
    match statements (stmtAt expr bound) bound tokens with
    | .error e => .error (.parse e)
    | .ok (body, _) => .ok ⟨body, mode⟩

/-- The one text is that of a field in an interpolated string of the other one, as it is handed to
the lexer. -/
def IsFieldOf (inner outer : String) : Prop :=
  ∃ ts t pieces source spec, tokenize outer = .ok ts ∧ t ∈ ts ∧ t.lexeme = .template pieces
    ∧ .field source spec ∈ pieces ∧ inner = Text.trim source

theorem statements_settle {source : String} {ts : List Token} (hts : tokenize source = .ok ts)
    {nesting nesting' depth depth' height height' : Nat}
    (hnesting : source.length ≤ nesting) (hnesting' : source.length ≤ nesting')
    (hdepth : ts.length ≤ depth) (hdepth' : ts.length ≤ depth')
    (hheight : ts.length ≤ height) (hheight' : ts.length ≤ height') :
    Settles (fun t => t.lexeme.Sound source.length)
      (statements (stmtAt (exprAt (fieldExpr nesting) depth) height))
      (statements (stmtAt (exprAt (fieldExpr nesting') depth') height')) ts := by
  have hfields := fieldsSettle fun source' (hlt : source'.length < source.length) =>
    fieldExpr_settles (Nat.lt_of_lt_of_le hlt hnesting) (Nat.lt_of_lt_of_le hlt hnesting')
  have hexpr := exprAt_settles hfields ts.length hdepth hdepth'
  exact statements_settles (stmtAt_settles hexpr ts.length (Nat.le_refl _) hheight hheight')
    (room_lt_of_tokenize hts)

/-- **No text reaches a bound.** -/
theorem parse_settles (source : String) (mode : Mode) {bound : Nat}
    (hnesting : source.length ≤ bound)
    (htokens : ∀ ts, tokenize source = .ok ts → ts.length ≤ bound) :
    parseWithin bound source mode = parse source mode ∧
      ∀ e, parse source mode = .error (.parse e) → e.fault.reachesBound = false := by
  unfold parseWithin parse
  cases hts : tokenize source with
  | error e => exact ⟨rfl, nofun⟩
  | ok ts =>
    have hlen := htokens ts hts
    have hroom := room_lt_of_tokenize hts
    obtain ⟨body, rest, h₁, h₂, -⟩ | ⟨e, h₁, h₂, he⟩ :=
      statements_settle hts hnesting (Nat.le_refl _) hlen (Nat.le_refl _) hlen (Nat.le_refl _) bound
        ts.length (by omega) hroom (tokenize_sound hts)
    · have hprogram : programTokens source.length ts = .ok body := parseTokens_ok.mpr ⟨rest, h₂⟩
      simp only [h₁, hprogram]
      exact ⟨trivial, nofun⟩
    · have hprogram : programTokens source.length ts = .error e := parseTokens_error h₂
      simp only [h₁, hprogram]
      exact ⟨trivial, fun _ heq => by cases heq; exact he⟩

/-- An interpolated string stands in the text as it is spelled, and its fields are shorter. -/
theorem fields_shorter {source : String} {ts : List Token} (hts : tokenize source = .ok ts)
    {t : Token} (ht : t ∈ ts) {pieces : List Template.Piece} (hl : t.lexeme = .template pieces) :
    ∃ before text rest, source.toList = before ++ text ++ rest ∧ t.pos = .after before
      ∧ t.lexeme.SpelledBy text
      ∧ ∀ field spec, .field field spec ∈ pieces → (Text.trim field).length < text.length := by
  obtain h | h | h | ⟨h, -⟩ | ⟨before, text, rest, hsource, hpos, htext⟩ :=
    (Lexer.State.run_wellLaid hts).stands t ht
  case inr.inr.inr.inr =>
    refine ⟨before, text, rest, hsource, hpos, htext, fun field spec hmem => ?_⟩
    exact field_shorter (hl ▸ htext) hmem
  all_goals
    rw [hl] at h
    cases h

theorem isFieldOf_length {inner outer : String} (h : IsFieldOf inner outer) :
    inner.length < outer.length := by
  obtain ⟨ts, t, pieces, source, spec, hts, ht, hl, hmem, rfl⟩ := h
  obtain ⟨before, text, rest, houter, -, -, hshort⟩ := fields_shorter hts ht hl
  have hlt := hshort source spec hmem
  rw [← String.length_toList (s := outer), houter, List.length_append, List.length_append]
  omega

/-- **The parser makes progress.** Wherever a parser of the grammar is called, it fails or has read
at least one token, and never the end of the text; so does every round of a repetition that goes on.
A field of an interpolated string is shorter than the string, so that going from a text to the
texts of its fields comes to an end, however deep they nest. Hence no text reaches a bound: all
bounds that the text does not exceed lead to the same program or error. -/
theorem parsing_makes_progress :
    (∀ (field : FieldParser) (depth height : Nat),
      (∀ (α : Type) (p : Parser α) (ts : List Token), Routine field depth height p ts →
        Advances p ts) ∧
      ∀ (α β γ : Type) (p : Parser γ) (round : α → Parser (α ⊕ β)),
        Loop field depth height p round → Repeats round p ∧ Proceeds round) ∧
    (∀ source ts t pieces, tokenize source = .ok ts → t ∈ ts → t.lexeme = .template pieces →
      ∃ before text rest, source.toList = before ++ text ++ rest ∧ t.pos = .after before
        ∧ t.lexeme.SpelledBy text
        ∧ ∀ field spec, .field field spec ∈ pieces → (Text.trim field).length < text.length) ∧
    WellFounded IsFieldOf ∧
    ∀ source mode bound, source.length ≤ bound →
      (∀ ts, tokenize source = .ok ts → ts.length ≤ bound) →
      parseWithin bound source mode = parse source mode ∧
        ∀ e, parse source mode = .error (.parse e) → e.fault.reachesBound = false := by
  refine ⟨fun field depth height => ⟨fun _ _ _ h => h.advances, fun _ _ _ _ _ h => ?_⟩, ?_, ?_, ?_⟩
  · exact ⟨h.repeats, h.proceeds⟩
  · exact fun source ts t pieces hts ht hl => fields_shorter hts ht hl
  · exact Subrelation.wf isFieldOf_length (measure String.length).wf
  · exact fun source mode bound => parse_settles source mode

end Parser
end Tilde
