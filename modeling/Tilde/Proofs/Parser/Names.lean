import Tilde.Proofs.Lexer.Contents
import Tilde.Proofs.Parser.Run

/-!
# The names of a parsed program

A parser makes up no name: each name of its result is a word of the tokens it reads. So a property
that every word of a text has, every name of its program has, wherever the name stands: a variable,
an attribute, an argument, what an assignment or a loop binds, the kind and the binding of a
handler.

The argument goes along the parsers. `Names W P p` says of a parser that, on tokens whose words
satisfy `W`, its result satisfies `P` and leaves such tokens; it composes, and each parser of the
grammar is one lemma.
-/

namespace Tilde

/-! ## Names in trees -/

mutual

/-- Every name that an expression spells satisfies `W`. -/
def Expr.Spells (W : String → Prop) : Expr → Prop
  | .name n => W n
  | .int _ | .bool _ | .none | .str _ => True
  | .template parts => spellsParts W parts
  | .tuple items | .list items => spellsAll W items
  | .star e | .unary _ e => e.Spells W
  | .binary _ l r | .compare _ l r | .logical _ l r => l.Spells W ∧ r.Spells W
  | .call f args keywords => f.Spells W ∧ spellsAll W args ∧ spellsKeywords W keywords
  | .attribute e n => e.Spells W ∧ W n
  | .subscript e i => e.Spells W ∧ i.Spells W

/-- Every name that the expressions of a list spell satisfies `W`. -/
def spellsAll (W : String → Prop) : List Expr → Prop
  | [] => True
  | e :: es => e.Spells W ∧ spellsAll W es

/-- Every name that arguments given by name spell satisfies `W`. -/
def spellsKeywords (W : String → Prop) : List Keyword → Prop
  | [] => True
  | .mk n e :: ks => W n ∧ e.Spells W ∧ spellsKeywords W ks

/-- Every name in the fields of an interpolated string satisfies `W`. -/
def spellsParts (W : String → Prop) : List Part → Prop
  | [] => True
  | .literal _ :: ps => spellsParts W ps
  | .field e _ :: ps => e.Spells W ∧ spellsParts W ps

end

mutual

/-- Every name that a target binds satisfies `W`. -/
def Target.Spells (W : String → Prop) : Target → Prop
  | .name n | .star n => W n
  | .sequence items => spellsTargets W items

/-- Every name that the targets of a list bind satisfies `W`. -/
def spellsTargets (W : String → Prop) : List Target → Prop
  | [] => True
  | t :: ts => t.Spells W ∧ spellsTargets W ts

end

mutual

/-- Every name that a statement spells satisfies `W`. -/
def Stmt.Spells (W : String → Prop) : Stmt → Prop
  | .evaluate _ e => e.Spells W
  | .assign _ target e => target.Spells W ∧ e.Spells W
  | .assert _ test message => test.Spells W ∧ ∀ e ∈ message, e.Spells W
  | .pass _ | .breakLoop _ | .continueLoop _ => True
  | .branch _ test body orelse => test.Spells W ∧ spellsBody W body ∧ spellsBody W orelse
  | .whileLoop _ test body => test.Spells W ∧ spellsBody W body
  | .forEach _ target items body => target.Spells W ∧ items.Spells W ∧ spellsBody W body
  | .attempt _ body handlers => spellsBody W body ∧ spellsHandlers W handlers

/-- Every name that the statements of a block spell satisfies `W`. -/
def spellsBody (W : String → Prop) : List Stmt → Prop
  | [] => True
  | s :: ss => s.Spells W ∧ spellsBody W ss

/-- Every name that handlers spell satisfies `W`. -/
def spellsHandlers (W : String → Prop) : List Handler → Prop
  | [] => True
  | .mk kind name body :: hs =>
    (∀ k ∈ kind, W k) ∧ (∀ n ∈ name, W n) ∧ spellsBody W body ∧ spellsHandlers W hs

end

variable {W : String → Prop}

theorem spellsAll_iff {es : List Expr} : spellsAll W es ↔ ∀ e ∈ es, e.Spells W := by
  induction es with
  | nil => simp [spellsAll]
  | cons e es ih => simp [spellsAll, ih]

theorem spellsAll_reverse {es : List Expr} (h : spellsAll W es) : spellsAll W es.reverse :=
  spellsAll_iff.mpr fun e he => spellsAll_iff.mp h e (List.mem_reverse.mp he)

theorem spellsBody_iff {ss : List Stmt} : spellsBody W ss ↔ ∀ s ∈ ss, s.Spells W := by
  induction ss with
  | nil => simp [spellsBody]
  | cons s ss ih => simp [spellsBody, ih]

theorem spellsBody_reverse {ss : List Stmt} (h : spellsBody W ss) : spellsBody W ss.reverse :=
  spellsBody_iff.mpr fun s hs => spellsBody_iff.mp h s (List.mem_reverse.mp hs)

/-- Every name that an argument given by name spells satisfies `W`. -/
def Keyword.Spells (W : String → Prop) : Keyword → Prop
  | .mk n e => W n ∧ e.Spells W

theorem spellsKeywords_iff {ks : List Keyword} :
    spellsKeywords W ks ↔ ∀ k ∈ ks, k.Spells W := by
  induction ks with
  | nil => simp [spellsKeywords]
  | cons k ks ih => cases k; simp [spellsKeywords, Keyword.Spells, ih, and_assoc]

theorem spellsKeywords_reverse {ks : List Keyword} (h : spellsKeywords W ks) :
    spellsKeywords W ks.reverse :=
  spellsKeywords_iff.mpr fun k hk => spellsKeywords_iff.mp h k (List.mem_reverse.mp hk)

/-- Every name that a handler spells satisfies `W`. -/
def Handler.Spells (W : String → Prop) : Handler → Prop
  | .mk kind name body => (∀ k ∈ kind, W k) ∧ (∀ n ∈ name, W n) ∧ spellsBody W body

theorem spellsHandlers_iff {hs : List Handler} :
    spellsHandlers W hs ↔ ∀ h ∈ hs, h.Spells W := by
  induction hs with
  | nil => simp [spellsHandlers]
  | cons h hs ih => cases h; simp [spellsHandlers, Handler.Spells, ih, and_assoc]

theorem spellsHandlers_reverse {hs : List Handler} (h : spellsHandlers W hs) :
    spellsHandlers W hs.reverse :=
  spellsHandlers_iff.mpr fun k hk => spellsHandlers_iff.mp h k (List.mem_reverse.mp hk)

/-- Every name that the arguments of a call spell satisfies `W`. -/
def SpellsArguments (W : String → Prop) (arguments : List Expr × List Keyword) : Prop :=
  spellsAll W arguments.1 ∧ spellsKeywords W arguments.2

/-- Every word among the tokens satisfies `W`. -/
def WordsAre (W : String → Prop) (ts : List Token) : Prop :=
  ∀ t ∈ ts, ∀ w, t.lexeme = .word w → W w

theorem WordsAre.drop {ts : List Token} (h : WordsAre W ts) (k : Nat) : WordsAre W (ts.drop k) :=
  fun t ht => h t (List.mem_of_mem_drop ht)

namespace Parser

/-! ## Parsers make up no names -/

/-- On tokens whose words satisfy `W`, the parser's result satisfies `P`, and the words of the
tokens it leaves satisfy `W`. -/
def Names (W : String → Prop) {α : Type} (P : α → Prop) (p : Parser α) : Prop :=
  ∀ n ts a rest, WordsAre W ts → p n ts = .ok (a, rest) → P a ∧ WordsAre W rest

variable {α β : Type} {P : α → Prop} {Q : β → Prop}

namespace Names

theorem pure {a : α} (h : P a) : Names W P (pure a) := by
  intro n ts a' rest hts heq
  rw [pure_apply] at heq
  cases heq
  exact ⟨h, hts⟩

theorem bind {p : Parser α} {f : α → Parser β} (hp : Names W P p)
    (hf : ∀ a, P a → Names W Q (f a)) : Names W Q (p >>= f) := by
  intro n ts b rest hts heq
  obtain ⟨a, mid, h1, h2⟩ := bind_ok_iff.mp heq
  obtain ⟨ha, hmid⟩ := hp n ts a mid hts h1
  exact hf a ha n mid b rest hmid h2

theorem ite {c : Prop} [Decidable c] {p q : Parser α} (hp : c → Names W P p)
    (hq : ¬c → Names W P q) : Names W P (if c then p else q) := by
  by_cases h : c
  · rw [if_pos h]; exact hp h
  · rw [if_neg h]; exact hq h

theorem failHere {fault : ParseFault} : Names W P (failHere fault) := by
  intro n ts a rest _ heq
  rw [failHere_apply] at heq
  cases heq

theorem throw {e : ParseError} : Names W P (throw e) := by
  intro n ts a rest _ heq
  rw [throw_apply] at heq
  cases heq

theorem unexpected {expected : String} : Names W P (unexpected expected) := by
  intro n ts a rest _ heq
  rw [unexpected_apply] at heq
  cases heq

theorem peekToken : Names W (fun t => ∀ w, t.lexeme = .word w → W w) peekToken := by
  intro n ts t rest hts heq
  rw [peekToken_apply] at heq
  cases heq
  refine ⟨fun w hw => ?_, hts⟩
  cases ts with
  | nil => rw [frontToken_nil] at hw; cases hw
  | cons t ts => exact hts t (List.mem_cons_self ..) w hw

theorem peek : Names W (fun l => ∀ w, l = .word w → W w) peek :=
  bind peekToken fun _ ht => pure ht

theorem peekSecond : Names W (fun _ => True) peekSecond := by
  intro n ts l rest hts heq
  rw [peekSecond_apply] at heq
  cases heq
  exact ⟨trivial, hts⟩

theorem drop (k : Nat) : Names W (fun _ => True) (modify (·.drop k) : Parser PUnit) := by
  intro n ts u rest hts heq
  cases heq
  exact ⟨trivial, hts.drop k⟩

theorem advance : Names W (fun _ => True) advance := drop 1

theorem read : Names W (fun _ => True) (read : Parser Nat) := by
  intro n ts k rest hts heq
  rw [read_apply] at heq
  cases heq
  exact ⟨trivial, hts⟩

theorem accept {l : Lexeme} : Names W (fun _ => True) (accept l) :=
  bind peek fun _ _ => ite (fun _ => bind advance fun _ _ => pure trivial) fun _ => pure trivial

theorem expect {l : Lexeme} {expected : String} :
    Names W (fun _ => True) (expect l expected) :=
  bind accept fun _ _ => ite (fun _ => pure trivial) fun _ => unexpected

/-- A name that is read is a word at the front. -/
theorem name : Names W W name := by
  refine bind peek fun l hl => ?_
  split
  · next w =>
    exact ite (fun _ => unexpected) fun _ => bind advance fun _ _ => pure (hl w rfl)
  · exact unexpected

theorem repeatUpTo {round : α → Parser (α ⊕ β)}
    (h : ∀ a, P a → Names W (Sum.elim P Q) (round a)) (bound : Nat) :
    ∀ a, P a → Names W Q (repeatUpTo round bound a) := by
  induction bound with
  | zero => exact fun _ _ => failHere
  | succ bound ih =>
    intro a ha
    refine bind (h a ha) fun r hr => ?_
    cases r with
    | inl a' => exact ih a' hr
    | inr b => exact pure hr

/-- A repetition gives what its rounds give, where each round keeps `P`. -/
theorem repeatFrom {start : α} {round : α → Parser (α ⊕ β)} (hstart : P start)
    (h : ∀ a, P a → Names W (Sum.elim P Q) (round a)) : Names W Q (repeatFrom start round) :=
  bind read fun n _ => repeatUpTo h (n + 1) start hstart

end Names

/-! ## Expressions -/

section Expressions

variable {field : FieldParser} {inner : Inner}
  (hfield : ∀ source e, field source = .ok e → e.Spells W)
  (hinner : ∀ level, Names W (Expr.Spells W) (inner level))

include hfield in
theorem parts_names {pieces : List Template.Piece} {ps : List Part}
    (h : parts field pieces = .ok ps) : spellsParts W ps := by
  induction pieces generalizing ps with
  | nil =>
    cases h
    trivial
  | cons piece pieces ih =>
    cases piece with
    | literal text =>
      obtain ⟨rest, hrest, rfl⟩ := parts_literal.mp h
      exact (ih hrest : spellsParts W rest)
    | field source spec =>
      obtain ⟨e, he, rest, hrest, rfl⟩ := parts_field.mp h
      exact ⟨hfield source e he, ih hrest⟩

include hinner

theorem starOrExpr_names : Names W (Expr.Spells W) (starOrExpr inner) :=
  .bind .accept fun _ _ =>
    .ite (fun _ => .bind (hinner .operand) fun _ he => .pure he) fun _ => hinner .full

theorem exprList_names : Names W (Expr.Spells W) (exprList inner) := by
  refine .bind (starOrExpr_names hinner) fun first hfirst => .bind .peek fun _ _ => ?_
  refine .ite (fun _ => .pure hfirst) fun _ => ?_
  refine .repeatFrom (P := spellsAll W) ⟨hfirst, trivial⟩ fun items hitems => ?_
  have hdone : (Expr.tuple items.reverse).Spells W := spellsAll_reverse hitems
  refine .bind .accept fun _ _ => .ite (fun _ => ?_) fun _ => .pure hdone
  refine .bind .peek fun _ _ => .ite (fun _ => .pure hdone) fun _ => ?_
  exact .bind (starOrExpr_names hinner) fun e he => .pure ⟨he, hitems⟩

theorem listItems_names : Names W (spellsAll W) (listItems inner) := by
  refine .repeatFrom (P := spellsAll W) trivial fun items hitems => ?_
  refine .bind .peek fun _ _ => .ite (fun _ => .pure (spellsAll_reverse hitems)) fun _ => ?_
  refine .bind (starOrExpr_names hinner) fun e he => .bind .accept fun _ _ => ?_
  have hnext : spellsAll W (e :: items) := ⟨he, hitems⟩
  exact .ite (fun _ => .pure hnext) fun _ => .pure (spellsAll_reverse hnext)

include hfield in
theorem atom_names : Names W (Expr.Spells W) (atom field inner) := by
  refine .bind .peekToken fun token htoken => ?_
  split
  · exact .bind .advance fun _ _ => .pure trivial
  · exact .bind .advance fun _ _ => .pure trivial
  · exact .bind .advance fun _ _ => .pure trivial
  · next text _ _ _ hword =>
    exact .ite (fun _ => .unexpected) fun _ =>
      .bind .advance fun _ _ => .pure (htoken text hword)
  · refine .bind .advance fun _ _ => .bind (P := fun _ => True) ?_ fun _ _ => .pure trivial
    refine .repeatFrom (P := fun _ => True) (Q := fun _ => True) trivial fun text _ => ?_
    refine .bind .peek fun l _ => ?_
    split
    · exact .bind .advance fun _ _ => .pure trivial
    · exact .pure trivial
  · refine .bind .advance fun _ _ => ?_
    split
    · next parts hparts => exact .pure (parts_names hfield hparts)
    · exact .throw
  · refine .bind .advance fun _ _ => .bind .accept fun _ _ => .ite (fun _ => .pure trivial) ?_
    exact fun _ => .bind (exprList_names hinner) fun e he => .bind .expect fun _ _ => .pure he
  · refine .bind .advance fun _ _ => .bind (listItems_names hinner) fun items hitems => ?_
    exact .bind .expect fun _ _ => .pure hitems
  · exact .bind .advance fun _ _ => .pure trivial
  · exact .unexpected

theorem arguments_names : Names W (SpellsArguments W) (arguments inner) := by
  have hdone : ∀ {args : List Expr} {keywords : List Keyword},
      SpellsArguments W (args, keywords) →
        SpellsArguments W (args.reverse, keywords.reverse) := fun h =>
    ⟨spellsAll_reverse h.1, spellsKeywords_reverse h.2⟩
  have hempty : SpellsArguments W ([], []) := ⟨trivial, trivial⟩
  refine .repeatFrom hempty fun r hr => ?_
  obtain ⟨args, keywords⟩ := r
  refine .bind .peek fun _ _ => .ite (fun _ => .pure (hdone hr)) fun _ => ?_
  have hnext : ∀ next : List Expr × List Keyword, SpellsArguments W next →
      Names W (Sum.elim (SpellsArguments W) (SpellsArguments W))
        (do if ← acceptSymbol .comma then return .inl next
            else return .inr (next.1.reverse, next.2.reverse) :
          Parser ((List Expr × List Keyword) ⊕ (List Expr × List Keyword))) := fun next h =>
    .bind .accept fun _ _ => .ite (fun _ => .pure h) fun _ => .pure (hdone h)
  have hat : Names W (fun _ => True) atKeyword := by
    refine .bind .peek fun l _ => ?_
    split
    · exact .bind .peekSecond fun _ _ => .pure trivial
    · exact .pure trivial
  refine .bind hat fun _ _ => .ite (fun _ => ?_) fun _ => .ite (fun _ => ?_) fun _ => ?_
  · refine .bind .name fun key hkey => .bind .advance fun _ _ => ?_
    exact .bind (hinner .full) fun e he => hnext _ ⟨hr.1, hkey, he, hr.2⟩
  · exact .bind (P := fun _ => False) .failHere fun _ h => h.elim
  · exact .bind (hinner .full) fun e he => hnext _ ⟨⟨he, hr.1⟩, hr.2⟩

include hfield in
theorem operand_names : Names W (Expr.Spells W) (operand field inner) := by
  refine .bind (atom_names hfield hinner) fun e he => .repeatFrom he fun e he => ?_
  refine .bind .peek fun l hl => ?_
  split
  · refine .bind .advance fun _ _ => .bind (arguments_names hinner) fun r hr => ?_
    obtain ⟨args, keywords⟩ := r
    exact .bind .expect fun _ _ => .pure ⟨he, hr.1, hr.2⟩
  · refine .bind .advance fun _ _ => .bind .peek fun l hl => ?_
    split
    · next text => exact .bind .advance fun _ _ => .pure ⟨he, hl text rfl⟩
    · exact .unexpected
  · refine .bind .advance fun _ _ => .bind (hinner .full) fun index hindex => ?_
    exact .bind .expect fun _ _ => .pure ⟨he, hindex⟩
  · exact .pure he

end Expressions

/-! ### Operators -/

section Levels

variable {next : Parser Expr} (hnext : Names W (Expr.Spells W) next)
include hnext

theorem unaryLevel_names (op? : Lexeme → Option UnaryOp) :
    Names W (Expr.Spells W) (unaryLevel op? next) := by
  refine .bind (P := fun _ => True) ?_ fun ops _ => .bind hnext fun e he => .pure ?_
  · refine .repeatFrom (P := fun _ => True) trivial fun ops _ => .bind .peek fun _ _ => ?_
    split
    · exact .bind .advance fun _ _ => .pure trivial
    · exact .pure trivial
  · induction ops generalizing e with
    | nil => exact he
    | cons op ops ih => exact ih _ he

/-- An operator between two operands spells no names of its own. -/
def KeepsNames (W : String → Prop) (op? : Lexeme → Option (Expr → Expr → Expr)) : Prop :=
  ∀ l op, op? l = some op → ∀ a b : Expr, a.Spells W → b.Spells W → (op a b).Spells W

theorem leftLevel_names {op? : Lexeme → Option (Expr → Expr → Expr)} (hop : KeepsNames W op?) :
    Names W (Expr.Spells W) (leftLevel op? next) := by
  refine .bind hnext fun left hleft => .repeatFrom hleft fun left hleft => ?_
  refine .bind .peek fun l _ => ?_
  split
  · next op hop' =>
    exact .bind .advance fun _ _ => .bind hnext fun right hright =>
      .pure (hop l op hop' left right hleft hright)
  · exact .pure hleft

theorem comparisonLevel_names : Names W (Expr.Spells W) (comparisonLevel next) := by
  refine .bind hnext fun left hleft => .bind .peek fun _ _ => .bind .peekSecond fun _ _ => ?_
  split
  · exact .bind (.drop _) fun _ _ => .bind hnext fun right hright => .pure ⟨hleft, hright⟩
  · exact .pure hleft

end Levels

theorem keepsNames_termOp : KeepsNames W termOp? := by
  intro l op h a b ha hb
  unfold termOp? at h
  split at h <;> cases h <;> exact ⟨ha, hb⟩

theorem keepsNames_sumOp : KeepsNames W sumOp? := by
  intro l op h a b ha hb
  unfold sumOp? at h
  split at h <;> cases h <;> exact ⟨ha, hb⟩

theorem keepsNames_andOp : KeepsNames W andOp? := by
  intro l op h a b ha hb
  unfold andOp? at h
  split at h <;> cases h
  exact ⟨ha, hb⟩

theorem keepsNames_orOp : KeepsNames W orOp? := by
  intro l op h a b ha hb
  unfold orOp? at h
  split at h <;> cases h
  exact ⟨ha, hb⟩

theorem expression_names {field : FieldParser} {inner : Inner}
    (hfield : ∀ source e, field source = .ok e → e.Spells W)
    (hinner : ∀ level, Names W (Expr.Spells W) (inner level)) :
    Names W (Expr.Spells W) (expression field inner) := by
  have h := operand_names hfield hinner
  have h := leftLevel_names (unaryLevel_names h signOp?) keepsNames_termOp
  have h := comparisonLevel_names (leftLevel_names h keepsNames_sumOp)
  have h := leftLevel_names (unaryLevel_names h notOp?) keepsNames_andOp
  exact leftLevel_names h keepsNames_orOp

theorem exprAt_names {field : FieldParser}
    (hfield : ∀ source e, field source = .ok e → e.Spells W) (bound : Nat) (level : Level) :
    Names W (Expr.Spells W) (exprAt field bound level) := by
  induction bound generalizing level with
  | zero => exact .failHere
  | succ bound ih =>
    cases level with
    | full => exact expression_names hfield ih
    | operand => exact operand_names hfield ih

/-! ### Fields -/

theorem parseTokens_names {p : Parser α} (hp : Names W P p) {ts : List Token} {a : α}
    (hts : WordsAre W ts) (h : parseTokens ts p = .ok a) : P a := by
  obtain ⟨rest, hr⟩ := parseTokens_ok.mp h
  exact (hp _ ts _ rest hts hr).1

/-- The text of a field is cut into tokens of its own, so its names are words of some text. -/
theorem fieldExpr_names (hlex : ∀ source ts, tokenize source = .ok ts → WordsAre W ts)
    (bound : Nat) : ∀ source e, fieldExpr bound source = .ok e → e.Spells W := by
  induction bound with
  | zero =>
    intro source e h
    cases h
  | succ bound ih =>
    intro source e h
    obtain ⟨ts, hts, he⟩ := fieldExpr_eq_ok.mp h
    refine parseTokens_names ?_ (hlex _ ts hts) he
    refine .bind (exprList_names (exprAt_names ih _)) fun e he => ?_
    exact .bind .accept fun _ _ => .bind .peek fun _ _ =>
      .ite (fun _ => .pure he) fun _ => .unexpected

/-! ## Statements -/

mutual

theorem toTarget_names {e : Expr} {target : Target} (he : e.Spells W)
    (h : toTarget e = .ok target) : target.Spells W := by
  cases e with
  | name n => cases h; exact he
  | star e =>
    cases e with
    | name n => cases h; exact he
    | _ => cases h
  | tuple items | list items =>
    rw [toTarget] at h
    split at h
    · cases h
    · cases hts : toTargets items with
      | error f => rw [hts] at h; cases h
      | ok targets =>
        rw [hts] at h
        cases h
        exact toTargets_names he hts
  | _ => cases h

theorem toTargets_names {es : List Expr} {targets : List Target} (hes : spellsAll W es)
    (h : toTargets es = .ok targets) : spellsTargets W targets := by
  cases es with
  | nil => cases h; trivial
  | cons e es =>
    cases ht : toTarget e with
    | error f => simp [toTargets, ht, bind, Except.bind] at h
    | ok target =>
      cases hts : toTargets es with
      | error f => simp [toTargets, ht, hts, bind, Except.bind] at h
      | ok rest =>
        simp only [toTargets, ht, hts, bind, Except.bind, pure, Except.pure,
          Except.ok.injEq] at h
        subst h
        exact ⟨toTarget_names hes.1 ht, toTargets_names hes.2 hts⟩

end

section Statements

variable {expr : Inner} {stmt : Parser Stmt}
  (hexpr : ∀ level, Names W (Expr.Spells W) (expr level))

theorem rejectStar_names {e : Expr} : Names W (fun _ => True) (rejectStar e) :=
  .ite (fun _ => .failHere) fun _ => .pure trivial

theorem lineEnd_names : Names W (fun _ => True) lineEnd := by
  refine .bind .peek fun l _ => ?_
  split
  · exact .advance
  · exact .pure trivial
  · exact .unexpected

include hexpr

theorem simple_names : Names W (Stmt.Spells W) (simple expr) := by
  refine .bind .peekToken fun start _ => ?_
  split
  · exact .bind .advance fun _ _ => .pure trivial
  · exact .bind .advance fun _ _ => .pure trivial
  · exact .bind .advance fun _ _ => .pure trivial
  · refine .bind .advance fun _ _ => .bind (hexpr .full) fun test htest => ?_
    refine .bind .accept fun _ _ => .ite (fun _ => ?_) fun _ => .pure ⟨htest, by simp⟩
    exact .bind (hexpr .full) fun message hmessage => .pure ⟨htest, by simpa using hmessage⟩
  · refine .bind (exprList_names hexpr) fun e he => .bind .accept fun _ _ => ?_
    refine .ite (fun _ => ?_) fun _ => .bind rejectStar_names fun _ _ => .pure he
    split
    · exact .throw
    · next target htarget =>
      refine .bind (exprList_names hexpr) fun value hvalue => ?_
      exact .bind rejectStar_names fun _ _ => .pure ⟨toTarget_names he htarget, hvalue⟩

variable (hstmt : Names W (Stmt.Spells W) stmt)
include hstmt

theorem block_names : Names W (spellsBody W) (block expr stmt) := by
  refine .bind .expect fun _ _ => .bind .accept fun _ _ => .ite (fun _ => ?_) fun _ => ?_
  · refine .bind .expect fun _ _ => .repeatFrom (P := spellsBody W) trivial fun body hbody => ?_
    refine .bind .peek fun l _ => ?_
    split
    · exact .bind .advance fun _ _ => .pure (spellsBody_reverse hbody)
    · exact .unexpected
    · exact .bind .advance fun _ _ => .pure hbody
    · exact .bind hstmt fun s hs => .pure ⟨hs, hbody⟩
  · refine .bind (simple_names hexpr) fun s hs => .bind lineEnd_names fun _ _ => .pure ?_
    exact ⟨hs, trivial⟩

theorem branch_names (bound line : Nat) :
    Names W (Stmt.Spells W) (branch expr stmt bound line) := by
  induction bound generalizing line with
  | zero => exact .failHere
  | succ bound ih =>
    refine .bind (hexpr .full) fun test htest => ?_
    refine .bind (block_names hexpr hstmt) fun body hbody => .bind .peekToken fun next _ => ?_
    split
    · refine .bind .advance fun _ _ => .bind (ih next.pos.line) fun s hs => .pure ?_
      exact ⟨htest, hbody, hs, trivial⟩
    · refine .bind .advance fun _ _ => .bind (block_names hexpr hstmt) fun orelse horelse => ?_
      exact .pure ⟨htest, hbody, horelse⟩
    · exact .pure ⟨htest, hbody, trivial⟩

omit hexpr hstmt in
theorem bracketed_names {close : Symbol} {item : Parser Expr}
    (hitem : Names W (Expr.Spells W) item) :
    Names W (Expr.Spells W) (targetAtom.bracketed close item) := by
  refine .bind (P := spellsAll W) ?_ fun items hitems => .bind .expect fun _ _ => .pure hitems
  refine .repeatFrom (P := spellsAll W) trivial fun items hitems => ?_
  refine .bind .peek fun _ _ => .ite (fun _ => .pure (spellsAll_reverse hitems)) fun _ => ?_
  refine .bind hitem fun e he => .bind .accept fun _ _ => ?_
  have hnext : spellsAll W (e :: items) := ⟨he, hitems⟩
  exact .ite (fun _ => .pure hnext) fun _ => .pure (spellsAll_reverse hnext)

omit hexpr hstmt in
theorem targetAtom_names (bound : Nat) : Names W (Expr.Spells W) (targetAtom bound) := by
  induction bound with
  | zero => exact .failHere
  | succ bound ih =>
    refine .bind .peek fun l _ => ?_
    split
    · exact .bind .advance fun _ _ => .bind .name fun n hn => .pure hn
    · exact .bind .advance fun _ _ => bracketed_names ih
    · exact .bind .advance fun _ _ => bracketed_names ih
    · exact .bind .name fun n hn => .pure hn

omit hexpr hstmt in
theorem loopTarget_names : Names W (Expr.Spells W) loopTarget := by
  refine .bind .read fun bound _ => .bind (targetAtom_names bound) fun first hfirst => ?_
  refine .bind (P := spellsAll W) ?_ fun items hitems => ?_
  · refine .repeatFrom (P := spellsAll W) ⟨hfirst, trivial⟩ fun items hitems => ?_
    have hdone := spellsAll_reverse hitems
    refine .bind .accept fun _ _ => .ite (fun _ => ?_) fun _ => .pure hdone
    refine .bind .peek fun _ _ => .ite (fun _ => .pure hdone) fun _ => ?_
    exact .bind (targetAtom_names bound) fun e he => .pure ⟨he, hitems⟩
  · split
    · next e => exact .pure (by split <;> first | exact ⟨hitems.1, trivial⟩ | exact hitems.1)
    · exact .pure hitems

theorem forEach_names (line : Nat) : Names W (Stmt.Spells W) (forEach expr stmt line) := by
  refine .bind .advance fun _ _ => .bind .peekToken fun start _ => ?_
  refine .bind loopTarget_names fun e he => ?_
  split
  · exact .throw
  · next target htarget =>
    refine .bind .accept fun _ _ => .ite (fun _ => ?_) fun _ => .unexpected
    refine .bind (exprList_names hexpr) fun items hitems => ?_
    refine .bind (block_names hexpr hstmt) fun body hbody => .pure ?_
    exact ⟨toTarget_names he htarget, hitems, hbody⟩

omit hexpr hstmt in
theorem handlerKind_names : Names W (fun kind => ∀ k ∈ kind, W k) handlerKind := by
  refine .bind .peek fun l hl => ?_
  split
  · next text =>
    refine .ite (fun _ => .pure (by simp)) fun _ => .bind .advance fun _ _ => .pure ?_
    intro k hk
    cases hk
    exact hl text rfl
  · exact .pure (by simp)

theorem handlers_names : Names W (spellsHandlers W) (handlers expr stmt) := by
  refine .repeatFrom (P := spellsHandlers W) trivial fun hs hhs => ?_
  refine .bind .accept fun _ _ => .ite (fun _ => ?_) fun _ => .pure (spellsHandlers_reverse hhs)
  · refine .bind handlerKind_names fun kind hkind => .bind .accept fun _ _ => ?_
    -- the block is read alike whether or not the handler binds a name
    have hblock : ∀ binding : Option String, (∀ n ∈ binding, W n) →
        Names W (Sum.elim (spellsHandlers W) (spellsHandlers W))
          (do return .inl (.mk kind binding (← block expr stmt) :: hs) :
            Parser (List Handler ⊕ List Handler)) := fun binding h =>
      .bind (block_names hexpr hstmt) fun body hbody => .pure ⟨hkind, h, hbody, hhs⟩
    refine .ite (fun _ => .bind .name fun n hn => ?_) fun _ => ?_
    · exact .bind (P := fun binding => ∀ n ∈ binding, W n) (.pure (by simpa using hn)) hblock
    · exact .bind (P := fun binding => ∀ n ∈ binding, W n) (.pure (by simp)) hblock

theorem attempt_names (line : Nat) : Names W (Stmt.Spells W) (attempt expr stmt line) := by
  refine .bind .advance fun _ _ => .bind (block_names hexpr hstmt) fun body hbody => ?_
  refine .bind (handlers_names hexpr hstmt) fun hs hhs => .ite (fun _ => .unexpected) fun _ => ?_
  exact .pure ⟨hbody, hhs⟩

theorem statement_names : Names W (Stmt.Spells W) (statement expr stmt) := by
  refine .bind .peekToken fun start _ => ?_
  split
  · exact .bind .advance fun _ _ => .bind .read fun bound _ => branch_names hexpr hstmt bound _
  · refine .bind .advance fun _ _ => .bind (hexpr .full) fun test htest => ?_
    exact .bind (block_names hexpr hstmt) fun body hbody => .pure ⟨htest, hbody⟩
  · exact forEach_names hexpr hstmt _
  · exact attempt_names hexpr hstmt _
  · exact .bind (simple_names hexpr) fun s hs => .bind lineEnd_names fun _ _ => .pure hs

omit hstmt in
theorem stmtAt_names (bound : Nat) : Names W (Stmt.Spells W) (stmtAt expr bound) := by
  induction bound with
  | zero => exact .failHere
  | succ bound ih => exact statement_names hexpr ih

omit hexpr in
theorem statements_names : Names W (spellsBody W) (statements stmt) := by
  refine .repeatFrom (P := spellsBody W) trivial fun body hbody => .bind .peek fun l _ => ?_
  split
  · exact .pure (spellsBody_reverse hbody)
  · exact .bind .advance fun _ _ => .pure hbody
  · exact .bind hstmt fun s hs => .pure ⟨hs, hbody⟩

end Statements

end Parser

/-- Where every word of every text satisfies `W`, so does every name of a parsed program. -/
theorem parse_names (hlex : ∀ source ts, tokenize source = .ok ts → WordsAre W ts)
    {source : String} {mode : Mode} {p : Program} (h : parse source mode = .ok p) :
    spellsBody W p.body := by
  obtain ⟨ts, hts, hbody, -⟩ := parse_eq_ok.mp h
  have hexpr := Parser.exprAt_names (Parser.fieldExpr_names hlex source.length) ts.length
  exact Parser.parseTokens_names
    (Parser.statements_names (Parser.stmtAt_names hexpr ts.length)) (hlex source ts hts) hbody

/-- **Every name of a parsed program is a word.** -/
theorem parse_spells {source : String} {mode : Mode} {p : Program}
    (h : parse source mode = .ok p) : spellsBody IsWord p.body := by
  refine parse_names (fun source ts hts t ht w hw => ?_) h
  have := tokenize_sound hts t ht
  rwa [hw] at this

end Tilde
