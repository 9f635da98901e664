import Mathlib.Algebra.Ring.Nat
import Tilde.Proofs.Expansion.Nodes
import Tilde.Proofs.Parser.Alike
import Tilde.Proofs.Parser.Places
import Tilde.Proofs.Printed.Printer

/-!
# Derivations and trees

The grammar as a relation between lexemes and trees, and what is said of all nodes of a tree.

## The grammar

What a run of lexemes spells, as two inductive relations: `Derives` for expressions and what a loop
binds, `Produces` for statements. They say which lexemes stand around and between the parts of a tree
and nothing about how a parser finds them; how tightly an operator binds and on which line a
statement starts they leave open. A text of the language has a derivation (`parse_produces`), so a law
about the lexemes of a tree is an induction over the derivation, with one case a rule.

A list with commas between its items is built from its front: either every item has a comma behind
it (`commas`), or the last one has none (`row`).
-/

namespace Tilde.Grammar

open Tilde.Parser

/-- A bracket that is opened, and the one that closes it. -/
inductive Bracket where
  | round
  | square
  deriving DecidableEq, Repr

/-- The opening bracket. -/
def Bracket.opened : Bracket → Symbol
  | round => .openParen
  | square => .openBracket

/-- The closing bracket. -/
def Bracket.closed : Bracket → Symbol
  | round => .closeParen
  | square => .closeBracket

/-- What the items of a list with commas are. -/
inductive Kind where
  /-- Expressions, with or without a star. -/
  | value
  /-- What a loop binds. -/
  | loop
  deriving DecidableEq, Repr

/-- What lexemes of an expression may spell. -/
inductive Phrase where
  | expr (e : Expr)
  | item (kind : Kind) (e : Expr)
  /-- Items, each with a comma behind it. -/
  | commas (kind : Kind) (es : List Expr)
  /-- At least one item, with commas between. -/
  | row (kind : Kind) (es : List Expr)
  /-- One expression, or several as a tuple. -/
  | exprs (e : Expr)
  /-- What a loop binds, as a whole. -/
  | binds (e : Expr)
  /-- An argument, given by name or by position. -/
  | argument (name : Option String) (e : Expr)
  /-- Arguments, each with a comma behind it. -/
  | arguments (args : List Expr) (keywords : List Keyword)

/-- The expression that one lexeme spells. -/
def leaf? : Lexeme → Option Expr
  | .word "True" => some (.bool true)
  | .word "False" => some (.bool false)
  | .word "None" => some .none
  | .word text => if isKeyword text then none else some (.name text)
  | .int value => some (.int value)
  | .str text => some (.str text)
  | _ => none

/-- Arguments with one more behind them. -/
def addArgument (args : List Expr) (keywords : List Keyword) :
    Option String → Expr → List Expr × List Keyword
  | none, e => (args ++ [e], keywords)
  | some key, e => (args, keywords ++ [.mk key e])

/-- The items that a loop binds as one target: a lone name binds the item as a whole. -/
def bound : List Expr → Expr
  | [e] => if isStar e then .tuple [e] else e
  | items => .tuple items

/-- The lexemes of an expression, where `field` says what the texts of fields are. -/
inductive Derives (field : FieldParser) : Phrase → List Lexeme → Prop
  | leaf {l : Lexeme} {e : Expr} : leaf? l = some e → Derives field (.expr e) [l]
  | adjacent {text more : String} {ls : List Lexeme} :
      Derives field (.expr (.str text)) ls →
      Derives field (.expr (.str (text ++ more))) (ls ++ [.str more])
  | template {pieces : List Template.Piece} {ps : List Part} :
      parts field pieces = .ok ps → Derives field (.expr (.template ps)) [.template pieces]
  | unit : Derives field (.expr (.tuple [])) [.symbol .openParen, .symbol .closeParen]
  | paren {e : Expr} {ls : List Lexeme} :
      Derives field (.exprs e) ls →
      Derives field (.expr e) (.symbol .openParen :: ls ++ [.symbol .closeParen])
  | listCommas {es : List Expr} {ls : List Lexeme} :
      Derives field (.commas .value es) ls →
      Derives field (.expr (.list es)) (.symbol .openBracket :: ls ++ [.symbol .closeBracket])
  | listRow {es : List Expr} {ls : List Lexeme} :
      Derives field (.row .value es) ls →
      Derives field (.expr (.list es)) (.symbol .openBracket :: ls ++ [.symbol .closeBracket])
  | call {f : Expr} {args : List Expr} {keywords : List Keyword} {ls ms : List Lexeme} :
      Derives field (.expr f) ls → Derives field (.arguments args keywords) ms →
      Derives field (.expr (.call f args keywords))
        (ls ++ .symbol .openParen :: ms ++ [.symbol .closeParen])
  | callRow {f e : Expr} {name : Option String} {args : List Expr} {keywords : List Keyword}
      {ls ms ns : List Lexeme} :
      Derives field (.expr f) ls → Derives field (.arguments args keywords) ms →
      Derives field (.argument name e) ns →
      Derives field
        (.expr (.call f (addArgument args keywords name e).1 (addArgument args keywords name e).2))
        (ls ++ .symbol .openParen :: (ms ++ ns) ++ [.symbol .closeParen])
  | attribute {e : Expr} {name : String} {ls : List Lexeme} :
      Derives field (.expr e) ls →
      Derives field (.expr (.attribute e name)) (ls ++ [.symbol .dot, .word name])
  | subscript {e i : Expr} {ls ms : List Lexeme} :
      Derives field (.expr e) ls → Derives field (.expr i) ms →
      Derives field (.expr (.subscript e i))
        (ls ++ .symbol .openBracket :: ms ++ [.symbol .closeBracket])
  | unary (op : UnaryOp) {e : Expr} {ls : List Lexeme} :
      Derives field (.expr e) ls → Derives field (.expr (.unary op e)) (op.lexeme :: ls)
  | binary (op : BinaryOp) {a b : Expr} {ls ms : List Lexeme} :
      Derives field (.expr a) ls → Derives field (.expr b) ms →
      Derives field (.expr (.binary op a b)) (ls ++ op.lexeme :: ms)
  | logical (op : Connective) {a b : Expr} {ls ms : List Lexeme} :
      Derives field (.expr a) ls → Derives field (.expr b) ms →
      Derives field (.expr (.logical op a b)) (ls ++ op.lexeme :: ms)
  | compare (op : Comparison) {a b : Expr} {ls ms : List Lexeme} :
      Derives field (.expr a) ls → Derives field (.expr b) ms →
      Derives field (.expr (.compare op a b)) (ls ++ op.lexemes ++ ms)
  | plain {e : Expr} {ls : List Lexeme} :
      Derives field (.expr e) ls → Derives field (.item .value e) ls
  | starred {e : Expr} {ls : List Lexeme} :
      Derives field (.expr e) ls → Derives field (.item .value (.star e)) (.symbol .star :: ls)
  | loopName {name : String} :
      isKeyword name = false → Derives field (.item .loop (.name name)) [.word name]
  | loopStar {name : String} :
      isKeyword name = false →
      Derives field (.item .loop (.star (.name name))) [.symbol .star, .word name]
  | loopCommas (b : Bracket) {es : List Expr} {ls : List Lexeme} :
      Derives field (.commas .loop es) ls →
      Derives field (.item .loop (.tuple es)) (.symbol b.opened :: ls ++ [.symbol b.closed])
  | loopRow (b : Bracket) {es : List Expr} {ls : List Lexeme} :
      Derives field (.row .loop es) ls →
      Derives field (.item .loop (.tuple es)) (.symbol b.opened :: ls ++ [.symbol b.closed])
  | noItem {kind : Kind} : Derives field (.commas kind []) []
  | comma {kind : Kind} {es : List Expr} {ls : List Lexeme} :
      Derives field (.row kind es) ls → Derives field (.commas kind es) (ls ++ [.symbol .comma])
  | last {kind : Kind} {es : List Expr} {e : Expr} {ls ms : List Lexeme} :
      Derives field (.commas kind es) ls → Derives field (.item kind e) ms →
      Derives field (.row kind (es ++ [e])) (ls ++ ms)
  | single {e : Expr} {ls : List Lexeme} :
      Derives field (.item .value e) ls → Derives field (.exprs e) ls
  | tupleCommas {es : List Expr} {ls : List Lexeme} :
      es ≠ [] → Derives field (.commas .value es) ls → Derives field (.exprs (.tuple es)) ls
  | tupleRow {es : List Expr} {ls : List Lexeme} :
      es.length ≠ 1 → Derives field (.row .value es) ls → Derives field (.exprs (.tuple es)) ls
  | bindsCommas {es : List Expr} {ls : List Lexeme} :
      es ≠ [] → Derives field (.commas .loop es) ls → Derives field (.binds (bound es)) ls
  | bindsRow {es : List Expr} {ls : List Lexeme} :
      Derives field (.row .loop es) ls → Derives field (.binds (bound es)) ls
  | positional {e : Expr} {ls : List Lexeme} :
      Derives field (.expr e) ls → Derives field (.argument none e) ls
  | keyword {key : String} {e : Expr} {ls : List Lexeme} :
      Derives field (.expr e) ls →
      Derives field (.argument (some key) e) (.word key :: .symbol .assign :: ls)
  | noArguments : Derives field (.arguments [] []) []
  | moreArguments {name : Option String} {e : Expr} {args : List Expr} {keywords : List Keyword}
      {ls ms : List Lexeme} :
      Derives field (.arguments args keywords) ls → Derives field (.argument name e) ms →
      Derives field
        (.arguments (addArgument args keywords name e).1 (addArgument args keywords name e).2)
        (ls ++ ms ++ [.symbol .comma])

/-- An expression has no token of the layout and no colon. -/
theorem Derives.inline {field : FieldParser} {ph : Phrase} {ls : List Lexeme}
    (h : Derives field ph ls) : ∀ l ∈ ls, l.isInline = true := by
  induction h with
  | @leaf l e h =>
    rw [List.forall_mem_singleton]
    cases l <;> first | rfl | cases h
  | unary op _ ih => cases op <;> simp_all [UnaryOp.lexeme, Lexeme.isInline]
  | binary op _ _ iha ihb =>
    cases op <;> simp_all [BinaryOp.lexeme, Lexeme.isInline, or_imp]
  | logical op _ _ iha ihb =>
    cases op <;> simp_all [Connective.lexeme, Lexeme.isInline, or_imp]
  | compare op _ _ iha ihb =>
    cases op <;> simp_all [Comparison.lexemes, Lexeme.isInline, or_imp]
  | loopCommas b _ ih | loopRow b _ ih =>
    cases b <;> simp_all [Bracket.opened, Bracket.closed, Lexeme.isInline, or_imp]
  | _ => simp_all [Lexeme.isInline, or_imp]

/-- Phrases that some lexeme spells. -/
def Phrase.IsSpelled : Phrase → Prop
  | .commas _ es => es ≠ []
  | .arguments _ _ => False
  | _ => True

theorem Derives.ne_nil {field : FieldParser} {ph : Phrase} {ls : List Lexeme}
    (h : Derives field ph ls) (hph : ph.IsSpelled) : ls ≠ [] := by
  induction h with
  | _ => simp_all [Phrase.IsSpelled]

/-- Every equals sign has a closing parenthesis somewhere behind it. -/
def HidesAssign : List Lexeme → Prop
  | [] => True
  | l :: ls => (l = .symbol .assign → .symbol .closeParen ∈ ls) ∧ HidesAssign ls

theorem HidesAssign.cons {l : Lexeme} {ls : List Lexeme} (hl : l ≠ .symbol .assign)
    (h : HidesAssign ls) : HidesAssign (l :: ls) :=
  ⟨fun heq => absurd heq hl, h⟩

theorem HidesAssign.append {ls ms : List Lexeme} (h : HidesAssign ls) (h' : HidesAssign ms) :
    HidesAssign (ls ++ ms) := by
  induction ls with
  | nil => exact h'
  | cons l ls ih => exact ⟨fun hl => List.mem_append_left _ (h.1 hl), ih h.2⟩

theorem hidesAssign_paren (ls : List Lexeme) : HidesAssign (ls ++ [.symbol .closeParen]) := by
  induction ls with
  | nil => exact ⟨nofun, trivial⟩
  | cons l ls ih => exact ⟨fun _ => by simp, ih⟩

/-- Whether the phrase is that of arguments of a call. -/
def Phrase.isArgument : Phrase → Bool
  | .argument .. | .arguments .. => true
  | _ => false

/-- In an expression, an equals sign stands within the parentheses of a call. -/
theorem Derives.hidesAssign {field : FieldParser} {ph : Phrase} {ls : List Lexeme}
    (h : Derives field ph ls) (hph : ph.isArgument = false) : HidesAssign ls := by
  induction h with
  | leaf h => exact .cons (by rintro rfl; cases h) trivial
  | adjacent _ ih => exact (ih rfl).append (.cons nofun trivial)
  | template _ | loopName _ => exact .cons nofun trivial
  | loopStar _ => exact .cons nofun (.cons nofun trivial)
  | unit => exact hidesAssign_paren [_]
  | paren _ _ | call _ _ _ _ | callRow _ _ _ _ _ _ => exact hidesAssign_paren _
  | listCommas _ ih | listRow _ ih => exact .append (.cons nofun (ih rfl)) (.cons nofun trivial)
  | «attribute» _ ih => exact (ih rfl).append (.cons nofun (.cons nofun trivial))
  | subscript _ _ ih ihindex =>
    exact .append (.append (ih rfl) (.cons nofun (ihindex rfl))) (.cons nofun trivial)
  | unary op _ ih => exact .cons (by cases op <;> nofun) (ih rfl)
  | binary op _ _ iha ihb => exact (iha rfl).append (.cons (by cases op <;> nofun) (ihb rfl))
  | logical op _ _ iha ihb => exact (iha rfl).append (.cons (by cases op <;> nofun) (ihb rfl))
  | compare op _ _ iha ihb =>
    -- an operator of two words is no sign of equality either
    refine ((iha rfl).append ?_).append (ihb rfl)
    cases op
    case notIn => exact .cons nofun (.cons nofun trivial)
    all_goals exact .cons nofun trivial
  | plain _ ih | single _ ih => exact ih rfl
  | starred _ ih => exact .cons nofun (ih rfl)
  | loopCommas b _ ih | loopRow b _ ih =>
    exact .append (.cons (by cases b <;> nofun) (ih rfl)) (.cons (by cases b <;> nofun) trivial)
  | noItem => trivial
  | comma _ ih => exact (ih rfl).append (.cons nofun trivial)
  | last _ _ ih ihlast => exact (ih rfl).append (ihlast rfl)
  | tupleCommas _ _ ih | tupleRow _ _ ih | bindsCommas _ _ ih | bindsRow _ ih => exact ih rfl
  | positional _ _ | keyword _ _ | noArguments | moreArguments _ _ _ _ => cases hph

theorem not_hidesAssign (ls : List Lexeme) (w : String) :
    ¬HidesAssign (ls ++ [.symbol .assign, .word w]) := by
  induction ls with
  | nil => exact fun h => absurd (h.1 rfl) (by simp)
  | cons l ls ih => exact fun h => ih h.2

/-! ### Statements -/

/-- What lexemes of statements may spell. -/
inductive Clause where
  | simple (s : Stmt)
  | stmt (s : Stmt)
  /-- Statements one after the other, with blank line ends among them. -/
  | run (body : List Stmt)
  /-- A block from its colon on. -/
  | block (body : List Stmt)
  /-- What follows the block of a condition. -/
  | orelse (body : List Stmt)
  | handlers (hs : List Handler)

/-- The statement that a lone keyword is, from its line. -/
def bare? : Lexeme → Option (Nat → Stmt)
  | .word "pass" => some .pass
  | .word "break" => some .breakLoop
  | .word "continue" => some .continueLoop
  | _ => none

/-- Whether the expression is starred, or lists a starred item. -/
def showsStar : Expr → Bool
  | .tuple items | .list items => items.any isStar
  | e => isStar e

/-- The end of a line. The end of the text is one too. -/
def IsLineEnd (ls : List Lexeme) : Prop := ls = [] ∨ ls = [.newline]

/-- The lexemes of statements, where `full` says which runs of statements an indented block may
hold. -/
inductive Produces (field : FieldParser) (full : List Stmt → Prop) : Clause → List Lexeme → Prop
  | bare {l : Lexeme} {s : Nat → Stmt} {line : Nat} :
      bare? l = some s → Produces field full (.simple (s line)) [l]
  | assert {line : Nat} {test : Expr} {ls : List Lexeme} :
      Derives field (.expr test) ls →
      Produces field full (.simple (.assert line test none)) (.word "assert" :: ls)
  | assertMessage {line : Nat} {test message : Expr} {ls ms : List Lexeme} :
      Derives field (.expr test) ls → Derives field (.expr message) ms →
      Produces field full (.simple (.assert line test (some message)))
        (.word "assert" :: ls ++ .symbol .comma :: ms)
  | assign {line : Nat} {e value : Expr} {target : Target} {ls ms : List Lexeme} :
      Derives field (.exprs e) ls → toTarget e = .ok target → Derives field (.exprs value) ms →
      showsStar value = false →
      Produces field full (.simple (.assign line target value)) (ls ++ .symbol .assign :: ms)
  | evaluate {line : Nat} {e : Expr} {ls : List Lexeme} :
      Derives field (.exprs e) ls → showsStar e = false →
      Produces field full (.simple (.evaluate line e)) ls
  | line {s : Stmt} {ls eol : List Lexeme} :
      Produces field full (.simple s) ls → IsLineEnd eol → Produces field full (.stmt s) (ls ++ eol)
  | branch {line : Nat} {test : Expr} {body orelse : List Stmt} {ls ms ns : List Lexeme} :
      Derives field (.expr test) ls → Produces field full (.block body) ms →
      Produces field full (.orelse orelse) ns →
      Produces field full (.stmt (.branch line test body orelse)) (.word "if" :: (ls ++ (ms ++ ns)))
  | whileLoop {line : Nat} {test : Expr} {body : List Stmt} {ls ms : List Lexeme} :
      Derives field (.expr test) ls → Produces field full (.block body) ms →
      Produces field full (.stmt (.whileLoop line test body)) (.word "while" :: (ls ++ ms))
  | forEach {line : Nat} {e items : Expr} {target : Target} {body : List Stmt}
      {ls ms ns : List Lexeme} :
      Derives field (.binds e) ls → toTarget e = .ok target → Derives field (.exprs items) ms →
      Produces field full (.block body) ns →
      Produces field full (.stmt (.forEach line target items body))
        (.word "for" :: (ls ++ .word "in" :: (ms ++ ns)))
  | attempt {line : Nat} {body : List Stmt} {hs : List Handler} {ls ms : List Lexeme} :
      Produces field full (.block body) ls → Produces field full (.handlers hs) ms → hs ≠ [] →
      Produces field full (.stmt (.attempt line body hs)) (.word "try" :: (ls ++ ms))
  | noElse : Produces field full (.orelse []) []
  | elif {line : Nat} {test : Expr} {body orelse : List Stmt} {ls ms ns : List Lexeme} :
      Derives field (.expr test) ls → Produces field full (.block body) ms →
      Produces field full (.orelse orelse) ns →
      Produces field full (.orelse [.branch line test body orelse])
        (.word "elif" :: (ls ++ (ms ++ ns)))
  | otherwise {body : List Stmt} {ls : List Lexeme} :
      Produces field full (.block body) ls →
      Produces field full (.orelse body) (.word "else" :: ls)
  | noHandler : Produces field full (.handlers []) []
  | handler {hs : List Handler} {kind name : Option String} {body : List Stmt}
      {ls ms : List Lexeme} :
      Produces field full (.handlers hs) ls → Produces field full (.block body) ms →
      Produces field full (.handlers (hs ++ [.mk kind name body]))
        (ls ++ .word "except" :: (kindLexemes kind ++ bindingLexemes name ++ ms))
  | inline {s : Stmt} {ls eol : List Lexeme} :
      Produces field full (.simple s) ls → IsLineEnd eol →
      Produces field full (.block [s]) (.symbol .colon :: ls ++ eol)
  | indented {body : List Stmt} {ls : List Lexeme} :
      Produces field full (.run body) ls → full body →
      Produces field full (.block body)
        (.symbol .colon :: .newline :: .indent :: ls ++ [.dedent])
  | noStmt : Produces field full (.run []) []
  | blank {body : List Stmt} {ls : List Lexeme} :
      Produces field full (.run body) ls → Produces field full (.run body) (ls ++ [.newline])
  | more {body : List Stmt} {s : Stmt} {ls ms : List Lexeme} :
      Produces field full (.run body) ls → Produces field full (.stmt s) ms →
      Produces field full (.run (body ++ [s])) (ls ++ ms)

end Tilde.Grammar

/-!
## Trees of the grammar

What holds of every node of a tree, and what is counted over all its nodes, node by node. Of every
statement that produces some lexemes the grammar says two things, whatever its depth
(`Produces.held`): a value that is evaluated or assigned shows no star, and a block is one statement
or a run that the grammar lets an indented block hold.
-/

namespace Tilde

namespace Node

variable {P : Node → Prop} {n : Node}

/-- Every node of the tree satisfies `P`. -/
def All (P : Node → Prop) (n : Node) : Prop := ∀ place m, n.at? place = some m → P m

theorem all_iff : n.All P ↔ P n ∧ ∀ m ∈ n.parts, m.All P := by
  constructor
  · refine fun h => ⟨h [] n rfl, fun m hm place k hk => ?_⟩
    obtain ⟨i, hi⟩ := List.mem_iff_getElem?.mp hm
    refine h (i :: place) k ?_
    rw [at?, hi]
    exact hk
  · rintro ⟨hn, hparts⟩ place m hm
    -- a place is the node itself or lies in one of its parts
    cases place with
    | nil =>
      cases hm
      exact hn
    | cons i place =>
      rw [at?, Option.bind_eq_some_iff] at hm
      obtain ⟨k, hk, hm⟩ := hm
      exact hparts k (List.mem_of_getElem? hk) place m hm

theorem All.mono {Q : Node → Prop} (h : n.All P) (hPQ : ∀ m, P m → Q m) : n.All Q :=
  fun place m hm => hPQ m (h place m hm)

/-- Whether the node is an expression. -/
def isExpr : Node → Bool
  | expr _ _ _ => true
  | _ => false

theorem isExpr_exprParts (line : Nat) (e : Expr) : ∀ m ∈ exprParts line e, m.isExpr = true := by
  unfold exprParts
  split <;> simp only [List.forall_mem_map, List.forall_mem_cons, List.not_mem_nil, isExpr,
    IsEmpty.forall_iff, implies_true, and_self]

/-- What holds of every expression holds of all nodes of an expression. -/
theorem all_of_isExpr (h : ∀ m, m.isExpr = true → P m) (hn : n.isExpr = true) : n.All P := by
  induction n using induct with
  | step n ih =>
    refine all_iff.mpr ⟨h n hn, fun m hm => ih m hm ?_⟩
    cases n with
    | expr line site e => exact isExpr_exprParts line e m hm
    | program _ | stmt _ => cases hn

end Node

/-- The statements of the blocks of a statement. -/
def Stmt.nested : Stmt → List Stmt
  | .branch _ _ body orelse => body ++ orelse
  | .whileLoop _ _ body | .forEach _ _ _ body => body
  | .attempt _ body handlers => body ++ handlers.flatMap Handler.block
  | _ => []

/-- The nodes directly below a statement are expressions and the statements of its blocks. -/
theorem Stmt.mem_parts {s : Stmt} {m : Node} (h : m ∈ (Node.stmt s).parts) :
    m.isExpr = true ∨ ∃ t ∈ s.nested, m = .stmt t := by
  have hstmts {body : List Stmt} (h : m ∈ body.map Node.stmt) :
      m.isExpr = true ∨ ∃ t ∈ body, m = .stmt t := by
    obtain ⟨t, ht, rfl⟩ := List.mem_map.mp h
    exact .inr ⟨t, ht, rfl⟩
  cases s with
  | evaluate _ _ | assign _ _ _ =>
    obtain rfl := List.mem_singleton.mp h
    exact .inl rfl
  | assert _ _ _ =>
    rcases List.mem_cons.mp h with rfl | h
    · exact .inl rfl
    · obtain ⟨e, -, rfl⟩ := List.mem_map.mp h
      exact .inl rfl
  | pass _ | breakLoop _ | continueLoop _ => cases h
  | branch _ _ _ _ | whileLoop _ _ _ | forEach _ _ _ _ =>
    rcases List.mem_cons.mp h with rfl | h
    · exact .inl rfl
    · exact hstmts h
  | attempt _ _ _ => exact hstmts h

namespace Node

/-! ### Counting -/

/-- What all nodes of a tree have of their own, added up. -/
def total (own : Node → Nat) (n : Node) : Nat := (n.nodes.map fun x => own x.2).sum

theorem total_add (f g : Node → Nat) (n : Node) :
    n.total (fun m => f m + g m) = n.total f + n.total g := by
  unfold total
  induction n.nodes with
  | nil => rfl
  | cons x xs ih =>
    simp only [List.map_cons, List.sum_cons, ih]
    omega

theorem total_toNat (p : Node → Bool) (n : Node) :
    n.total (fun m => (p m).toNat) = n.nodes.countP fun x => p x.2 := by
  unfold total
  induction n.nodes with
  | nil => rfl
  | cons x xs ih =>
    rw [List.map_cons, List.sum_cons, ih, List.countP_cons, Nat.add_comm]
    cases h : p x.2 <;> simp [h]

theorem sum_flatMap {α : Type} (f : α → List Nat) (xs : List α) :
    (xs.flatMap f).sum = (xs.map fun x => (f x).sum).sum := by
  induction xs with
  | nil => rfl
  | cons x xs ih => rw [List.flatMap_cons, List.sum_append, ih, List.map_cons, List.sum_cons]

theorem total_eq (own : Node → Nat) (n : Node) :
    n.total own = own n + (n.parts.map (total own)).sum := by
  rw [total, nodes_eq, List.map_cons, List.sum_cons, List.map_eq_flatMap,
    flatMap_nodesIn (fun m => [own m]), sum_flatMap]
  simp only [← List.map_eq_flatMap]
  rfl

end Node

/-! ### What the grammar says of statements -/

namespace Grammar

/-- A block that the grammar admits: one statement, or what an indented block may hold. -/
def Admits (full : List Stmt → Prop) (body : List Stmt) : Prop := full body ∨ ∃ s, body = [s]

/-- What the grammar says of a statement. Of an alternative it says nothing, since a statement does
not tell whether one is written. -/
def Held (full : List Stmt → Prop) : Node → Prop
  | .stmt (.evaluate _ e) | .stmt (.assign _ _ e) => showsStar e = false
  | .stmt (.branch _ _ body _) | .stmt (.whileLoop _ _ body) | .stmt (.forEach _ _ _ body) =>
    Admits full body
  | .stmt (.attempt _ body handlers) =>
    Admits full body ∧ handlers ≠ [] ∧ ∀ h ∈ handlers, Admits full h.block
  | _ => True

/-- The statements of a clause. -/
def Clause.stmts : Clause → List Stmt
  | .simple s | .stmt s => [s]
  | .run body | .block body | .orelse body => body
  | .handlers hs => hs.flatMap Handler.block

variable {field : Parser.FieldParser} {full : List Stmt → Prop} {c : Clause} {ls : List Lexeme}

theorem Produces.admits {body : List Stmt} (h : Produces field full (.block body) ls) :
    Admits full body := by
  cases h with
  | inline _ _ => exact .inr ⟨_, rfl⟩
  | indented _ hfull => exact .inl hfull

theorem Produces.handlers_admit {hs : List Handler} (h : Produces field full (.handlers hs) ls) :
    ∀ k ∈ hs, Admits full k.block := by
  generalize hc : Clause.handlers hs = c at h
  induction h generalizing hs with
  | noHandler => 
    cases hc
    simp
  | handler _ hblock ih _ =>
    cases hc
    simp only [List.mem_append, List.mem_singleton, or_imp, forall_and, forall_eq]
    exact ⟨ih rfl, hblock.admits⟩
  | _ => cases hc

/-- A statement in a tree is held to what the grammar says if it is itself and if those directly
below it are. -/
theorem all_held {s : Stmt} (hs : Held full (.stmt s))
    (hnested : ∀ t ∈ s.nested, (Node.stmt t).All (Held full)) : (Node.stmt s).All (Held full) := by
  have hexpr : ∀ m : Node, m.isExpr = true → Held full m := by
    intro m hm
    cases m with
    | expr _ _ _ => trivial
    | program _ | stmt _ => cases hm
  refine Node.all_iff.mpr ⟨hs, fun m hm => ?_⟩
  rcases Stmt.mem_parts hm with hm | ⟨t, ht, rfl⟩
  · exact Node.all_of_isExpr hexpr hm
  · exact hnested t ht

/-- What the grammar says of statements holds of every statement in a tree. -/
theorem Produces.held (h : Produces field full c ls) :
    ∀ s ∈ c.stmts, (Node.stmt s).All (Held full) := by
  induction h with
  | @bare l s line h =>
    rw [Clause.stmts, List.forall_mem_singleton]
    unfold bare? at h
    split at h <;> cases h <;> exact all_held trivial nofun
  | assert _ | assertMessage _ _ => exact List.forall_mem_singleton.mpr (all_held trivial nofun)
  | assign _ _ _ h | evaluate _ h => exact List.forall_mem_singleton.mpr (all_held h nofun)
  | line _ _ ih => exact ih
  | branch _ hbody _ ihbody ihelse =>
    refine List.forall_mem_singleton.mpr (all_held hbody.admits ?_)
    exact List.forall_mem_append.mpr ⟨ihbody, ihelse⟩
  | whileLoop _ hbody ih => exact List.forall_mem_singleton.mpr (all_held hbody.admits ih)
  | forEach _ _ _ hbody ih => exact List.forall_mem_singleton.mpr (all_held hbody.admits ih)
  | attempt hbody hhandlers hne ihbody ihhandlers =>
    refine List.forall_mem_singleton.mpr
      (all_held ⟨hbody.admits, hne, hhandlers.handlers_admit⟩ ?_)
    exact List.forall_mem_append.mpr ⟨ihbody, ihhandlers⟩
  | noElse | noHandler | noStmt => exact nofun
  | elif _ hbody _ ihbody ihelse =>
    refine List.forall_mem_singleton.mpr (all_held hbody.admits ?_)
    exact List.forall_mem_append.mpr ⟨ihbody, ihelse⟩
  | otherwise _ ih => exact ih
  | handler _ _ ihhandlers ihblock =>
    rw [Clause.stmts, List.flatMap_append, List.flatMap_singleton]
    exact List.forall_mem_append.mpr ⟨ihhandlers, ihblock⟩
  | inline _ _ ih | indented _ _ ih | blank _ ih => exact ih
  | more _ _ ihbody ihs => exact List.forall_mem_append.mpr ⟨ihbody, ihs⟩

end Grammar

end Tilde
