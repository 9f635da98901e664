import Tilde.Proofs.Printed.Expression
import Tilde.Proofs.Printed.Text

/-!
# Printed lines are regular

All that the printer puts on a line can be spelled and closes its brackets, and a line never stands
more than one block deeper than the line before it: a block stands behind the line it belongs to.
-/

namespace Tilde

theorem isIdentifier_of_isName {text : String} (h : isName text = true) :
    isIdentifier text = true := by
  rw [isName, Bool.and_eq_true] at h
  exact h.1

/-! ## Expressions and targets -/

namespace Neat

variable {ls ks : List Lexeme} {lss kss : List (List Lexeme)}

theorem nil : Neat [] where
  spellable _ h := by cases h
  closed _ := rfl

theorem append (hl : Neat ls) (hk : Neat ks) : Neat (ls ++ ks) where
  spellable l h := (List.mem_append.mp h).elim (hl.spellable l) (hk.spellable l)
  closed depth := by rw [List.foldl_append, hl.closed, hk.closed]

theorem cons {l : Lexeme} (hl : l.spellable = true) (hdepth : ∀ depth, l.depthAfter depth = depth)
    (h : Neat ls) : Neat (l :: ls) where
  spellable l' h' := by
    rcases List.mem_cons.mp h' with rfl | h'
    · exact hl
    · exact h.spellable l' h'
  closed depth := by rw [List.foldl_cons, hdepth, h.closed]

theorem word {text : String} (htext : isIdentifier text = true) (h : Neat ls) :
    Neat (.word text :: ls) :=
  cons htext (fun _ => rfl) h

/-- A symbol that is no bracket. -/
theorem symbol {symbol : Symbol} (hsymbol : ∀ depth, Lexer.depthAfter depth symbol = depth)
    (h : Neat ls) : Neat (.symbol symbol :: ls) :=
  cons rfl hsymbol h

/-- A pair of brackets. -/
theorem brackets {front back : Symbol} (hfront : ∀ depth, Lexer.depthAfter depth front = depth + 1)
    (hback : ∀ depth, Lexer.depthAfter (depth + 1) back = depth) (h : Neat ls) :
    Neat (.symbol front :: ls ++ [.symbol back]) where
  spellable l hl := by
    rw [List.cons_append, List.mem_cons, List.mem_append, List.mem_singleton] at hl
    rcases hl with rfl | hl | rfl
    · rfl
    · exact h.spellable l hl
    · rfl
  closed depth := by
    rw [List.cons_append, List.foldl_cons, List.foldl_append, Lexeme.depthAfter, hfront, h.closed]
    exact hback depth

theorem parens (h : Neat ls) : Neat (.symbol .openParen :: ls ++ [.symbol .closeParen]) :=
  h.brackets (fun _ => rfl) fun _ => rfl

theorem squares (h : Neat ls) : Neat (.symbol .openBracket :: ls ++ [.symbol .closeBracket]) :=
  h.brackets (fun _ => rfl) fun _ => rfl

theorem fit (x : Extra) (place rank : Nat) (h : Neat ls) : Neat (x.fit place rank ls) := by
  have henclosed : ∀ pairs, Neat (enclosed pairs ls) := by
    intro pairs
    induction pairs with
    | zero => rwa [enclosed_zero]
    | succ pairs ih =>
      rw [enclosed_succ]
      exact ih.parens
  exact henclosed _

theorem commaEach (h : ∀ ls ∈ lss, Neat ls) : Neat (commaEach lss) := by
  induction lss with
  | nil => exact nil
  | cons ls lss ih =>
    rw [List.forall_mem_cons] at h
    exact (h.1.append (.symbol (fun _ => rfl) nil)).append (ih h.2)

theorem commaBetween (h : ∀ ls ∈ lss, Neat ls) : Neat (commaBetween lss) := by
  unfold Tilde.commaBetween
  induction lss with
  | nil => exact nil
  | cons ls lss ih =>
    rw [List.forall_mem_cons] at h
    cases lss with
    | nil =>
      rw [List.intercalate_singleton]
      exact h.1
    | cons ks lss =>
      rw [List.intercalate_cons_cons]
      exact (h.1.append (.symbol (fun _ => rfl) nil)).append (ih h.2)

end Neat

mutual

/-- **What is printed for an expression can be spelled**, and closes its brackets. -/
theorem lexemes_neat (x : Extra) (place : Nat) :
    ∀ e : Expr, e.printable = true → Neat (e.lexemes x place)
  | .name _, h => (Neat.word (isIdentifier_of_isName h) .nil).fit x place 8
  | .int value, h => (Neat.cons (l := .int value) h (fun _ => rfl) .nil).fit x place 8
  | .bool value, _ => (Neat.word (by cases value <;> decide) .nil).fit x place 8
  | .none, _ => (Neat.word (by decide) .nil).fit x place 8
  | .str text, _ => (Neat.cons (l := .str text) rfl (fun _ => rfl) .nil).fit x place 8
  | .tuple items, h => (Neat.commaEach (itemLexemes_neat x items h)).parens.fit x place 8
  | .list items, h => (Neat.commaBetween (itemLexemes_neat x items h)).squares.fit x place 8
  | .unary op operand, h => by
    have hoperand := lexemes_neat (x.child 0) op.rank operand h
    have hop : Neat [op.lexeme] := by
      cases op with
      | not => exact .word (by decide) .nil
      | neg | invert => exact .symbol (fun _ => rfl) .nil
    exact (hop.append hoperand).fit x place op.rank
  | .binary op left right, h => by
    obtain ⟨hleft, hright⟩ := Bool.and_eq_true_iff.mp h
    have hop : Neat [op.lexeme] := by cases op <;> exact .symbol (fun _ => rfl) .nil
    exact ((lexemes_neat (x.child 0) op.rank left hleft).append
      (hop.append (lexemes_neat (x.child 1) (op.rank + 1) right hright))).fit x place op.rank
  | .compare op left right, h => by
    obtain ⟨hleft, hright⟩ := Bool.and_eq_true_iff.mp h
    have hop : Neat op.lexemes := by
      cases op with
      | isIn => exact .word (by decide) .nil
      | notIn => exact .word (by decide) (.word (by decide) .nil)
      | _ => exact .symbol (fun _ => rfl) .nil
    exact (((lexemes_neat (x.child 0) 4 left hleft).append hop).append
      (lexemes_neat (x.child 1) 4 right hright)).fit x place 3
  | .logical op left right, h => by
    obtain ⟨hleft, hright⟩ := Bool.and_eq_true_iff.mp h
    have hop : Neat [op.lexeme] := by cases op <;> exact .word (by decide) .nil
    exact ((lexemes_neat (x.child 0) op.rank left hleft).append
      (hop.append (lexemes_neat (x.child 1) (op.rank + 1) right hright))).fit x place op.rank
  | .call func args keywords, h => by
    obtain ⟨hfunc, hargs, hkeywords⟩ := Expr.printable_call.mp h
    have hitems : ∀ ls ∈ itemLexemes (x.child 1) args ++ keywordLexemes (x.child 2) keywords,
        Neat ls := List.forall_mem_append.mpr
      ⟨itemLexemes_neat (x.child 1) args hargs, keywordLexemes_neat (x.child 2) keywords hkeywords⟩
    rw [Expr.lexemes, List.append_assoc]
    exact ((lexemes_neat (x.child 0) 7 func hfunc).append (Neat.commaBetween hitems).parens).fit x
      place 7
  | .attribute operand name, h => by
    obtain ⟨hoperand, hname⟩ := Bool.and_eq_true_iff.mp h
    exact ((lexemes_neat (x.child 0) 7 operand hoperand).append
      (.symbol (fun _ => rfl) (.word hname .nil))).fit x place 7
  | .subscript operand index, h => by
    obtain ⟨hoperand, hindex⟩ := Bool.and_eq_true_iff.mp h
    rw [Expr.lexemes, List.append_assoc]
    exact ((lexemes_neat (x.child 0) 7 operand hoperand).append
      (lexemes_neat (x.child 1) 0 index hindex).squares).fit x place 7

theorem itemLexemes_neat (x : Extra) :
    ∀ es : List Expr, allPrintable es = true → ∀ ls ∈ itemLexemes x es, Neat ls
  | [], _ => fun _ h => by cases h
  | e :: es, h => by
    obtain ⟨he, hes⟩ := Bool.and_eq_true_iff.mp h
    exact List.forall_mem_cons.mpr
      ⟨lexemes_neat (x.child 0) 0 e he, itemLexemes_neat (x.child 1) es hes⟩

theorem keywordLexemes_neat (x : Extra) :
    ∀ ks : List Keyword, keywordsPrintable ks = true → ∀ ls ∈ keywordLexemes x ks, Neat ls
  | [], _ => fun _ h => by cases h
  | .mk name value :: ks, h => by
    obtain ⟨hname, hvalue, hks⟩ := keywordsPrintable_cons.mp h
    exact List.forall_mem_cons.mpr
      ⟨.word (isIdentifier_of_isName hname)
        (.symbol (fun _ => rfl) (lexemes_neat (x.child 0) 0 value hvalue)),
        keywordLexemes_neat (x.child 1) ks hks⟩

end

mutual

theorem target_neat : ∀ t : Target, t.printable = true → Neat t.lexemes
  | .name _, h => .word (isIdentifier_of_isName h) .nil
  | .star _, h => .symbol (fun _ => rfl) (.word (isIdentifier_of_isName h) .nil)
  | .sequence items, h => by
    obtain ⟨-, hitems⟩ := Bool.and_eq_true_iff.mp h
    exact (Neat.commaEach (targetLexemes_neat items hitems)).parens

theorem targetLexemes_neat : ∀ items : List Target, targetsPrintable items = true →
    ∀ ls ∈ targetLexemes items, Neat ls
  | [], _ => fun _ h => by cases h
  | t :: ts, h => by
    obtain ⟨ht, hts⟩ := Bool.and_eq_true_iff.mp h
    exact List.forall_mem_cons.mpr ⟨target_neat t ht, targetLexemes_neat ts hts⟩

end

/-! ## Statements -/

variable {k d : Nat} {ls : List Lexeme} {more : List Line}

/-- Lines that may follow a line may follow a deeper one. -/
theorem Regular.mono (h : Regular d more) (hdk : d ≤ k) : Regular k more := by
  cases more with
  | nil => trivial
  | cons line more => exact ⟨Nat.le_trans h.1 (Nat.succ_le_succ hdk), h.2⟩

/-- One more line in front, at most one block deeper than the line before. -/
theorem Regular.line (hdk : d ≤ k + 1) (hne : ls ≠ []) (hneat : Neat ls) (h : Regular d more) :
    Regular k (⟨d, ls⟩ :: more) :=
  ⟨hdk, hne, hneat, h⟩

/-- The line that a block stands behind: a word in front, and a colon at the end. -/
theorem Neat.header {word : String} (hword : isIdentifier word = true) (h : Neat ls) :
    Neat (.word word :: ls ++ [.symbol .colon]) :=
  (Neat.word hword h).append (.symbol (fun _ => rfl) .nil)

mutual

/-- A statement may stand in the blocks of the line before it or in one more. What may follow it may
follow a line in as many blocks. -/
theorem stmt_regular {k d : Nat} {more : List Line} (x : Extra) (hdk : d ≤ k + 1)
    (hmore : Regular d more) :
    ∀ s : Stmt, s.printable = true → Regular k (s.lines x d ++ more)
  | .evaluate _ value, h => by
    obtain ⟨l, ls, hls, -⟩ := (Parser.lexemes_spells (x.child 0) (Nat.zero_le 8) value h).opens
    exact .line hdk (by rw [hls]; nofun) (lexemes_neat (x.child 0) 0 value h) hmore
  | .assign _ target value, h => by
    obtain ⟨htarget, hvalue⟩ := Bool.and_eq_true_iff.mp h
    exact .line hdk (by simp) ((target_neat target htarget).append
      (.symbol (fun _ => rfl) (lexemes_neat (x.child 0) 0 value hvalue))) hmore
  | .assert _ test none, h => by
    obtain ⟨htest, -⟩ := Bool.and_eq_true_iff.mp h
    exact .line hdk nofun (.word (by decide) (lexemes_neat (x.child 0) 0 test htest)) hmore
  | .assert _ test (some message), h => by
    obtain ⟨htest, hmessage⟩ := Bool.and_eq_true_iff.mp h
    exact .line hdk nofun ((Neat.word (by decide) (lexemes_neat (x.child 0) 0 test htest)).append
      (.symbol (fun _ => rfl) (lexemes_neat (x.child 1) 0 message hmessage))) hmore
  | .pass _, _ => .line hdk nofun (.word (by decide) .nil) hmore
  | .breakLoop _, _ => .line hdk nofun (.word (by decide) .nil) hmore
  | .continueLoop _, _ => .line hdk nofun (.word (by decide) .nil) hmore
  | .branch _ test body orelse, h => by
    obtain ⟨htest, -, hbody, horelse⟩ := Stmt.printable_branch.mp h
    -- an empty alternative has no line at all
    have helse : Regular d (elseLines d (bodyLines (x.child 2) (d + 1) orelse) ++ more) := by
      unfold elseLines
      split
      · exact hmore
      · exact .line (Nat.le_succ d) nofun (.word (by decide) (.symbol (fun _ => rfl) .nil))
          (block_regular (x.child 2) hmore orelse horelse)
    rw [Stmt.lines, List.append_assoc, List.cons_append]
    exact .line hdk nofun (.header (by decide) (lexemes_neat (x.child 0) 0 test htest))
      (block_regular (x.child 1) helse body hbody)
  | .whileLoop _ test body, h => by
    obtain ⟨htest, -, hbody⟩ := Stmt.printable_whileLoop.mp h
    exact .line hdk nofun (.header (by decide) (lexemes_neat (x.child 0) 0 test htest))
      (block_regular (x.child 1) hmore body hbody)
  | .forEach _ target items body, h => by
    obtain ⟨htarget, -, hitems, -, hbody⟩ := Stmt.printable_forEach.mp h
    exact .line hdk nofun (.header (by decide) ((target_neat target htarget).append
        (.word (by decide) (lexemes_neat (x.child 0) 0 items hitems))))
      (block_regular (x.child 1) hmore body hbody)
  | .attempt _ body handlers, h => by
    obtain ⟨-, hbody, -, hhandlers⟩ := Stmt.printable_attempt.mp h
    rw [Stmt.lines, List.append_assoc, List.cons_append]
    exact .line hdk nofun (.header (by decide) .nil) (block_regular (x.child 0)
      (handlers_regular (x.child 1) hmore handlers hhandlers) body hbody)

/-- What follows a block may follow the line that the block stands behind. -/
theorem block_regular {d : Nat} {more : List Line} (x : Extra) (hmore : Regular d more) :
    ∀ ss : List Stmt, bodyPrintable ss = true → Regular d (bodyLines x (d + 1) ss ++ more)
  | [], _ => hmore
  | s :: ss, h => by
    obtain ⟨hs, hss⟩ := Bool.and_eq_true_iff.mp h
    rw [bodyLines, List.append_assoc]
    exact stmt_regular (x.child 0) (Nat.le_refl _)
      (body_regular (x.child 1) (hmore.mono (Nat.le_succ d)) ss hss) s hs

theorem body_regular {d : Nat} {more : List Line} (x : Extra) (hmore : Regular d more) :
    ∀ ss : List Stmt, bodyPrintable ss = true → Regular d (bodyLines x d ss ++ more)
  | [], _ => hmore
  | s :: ss, h => by
    obtain ⟨hs, hss⟩ := Bool.and_eq_true_iff.mp h
    rw [bodyLines, List.append_assoc]
    exact stmt_regular (x.child 0) (Nat.le_succ d) (body_regular (x.child 1) hmore ss hss) s hs

theorem handlers_regular {d : Nat} {more : List Line} (x : Extra) (hmore : Regular d more) :
    ∀ hs : List Handler, handlersPrintable hs = true → Regular d (handlerLines x d hs ++ more)
  | [], _ => hmore
  | .mk kind name body :: hs, h => by
    obtain ⟨hkind, hname, -, hbody, hhs⟩ := handlersPrintable_cons.mp h
    have hkinds : Neat (kindLexemes kind) := by
      cases kind with
      | none => exact .nil
      | some kind => exact .word (isIdentifier_of_isName hkind) .nil
    have hbinding : Neat (bindingLexemes name) := by
      cases name with
      | none => exact .nil
      | some name => exact .word (by decide) (.word (isIdentifier_of_isName hname) .nil)
    rw [handlerLines, List.append_assoc, List.cons_append]
    exact .line (Nat.le_succ d) nofun (.header (by decide) (hkinds.append hbinding))
      (block_regular (x.child 0) (handlers_regular (x.child 1) hmore hs hhs) body hbody)

end

end Tilde
