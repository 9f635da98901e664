import Tilde.Proofs.Grammar.Derivation
import Tilde.Proofs.Grammar.Sound
import Tilde.Proofs.Parser.Run

/-!
# Where stars are left

A star is a product sign, or it stands in front of what an assignment or a loop binds. A third kind
makes no sense: an expression that is starred. The parser refuses such an expression where it is all
of a value, or an item of the tuple or list that is the value. Anywhere deeper it stays in the tree.

The stars of a text are conserved: each one is a product, a starred name of a target or a starred
expression of the program, and none comes from elsewhere. So a program is free of starred expressions
just if each star of its text is one of the other two kinds.
-/

namespace Tilde

/-! ## Stars of a text -/

mutual

/-- The number of starred names in a target. -/
def Target.stars : Target → Nat
  | .name _ => 0
  | .star _ => 1
  | .sequence items => targetStars items

/-- The number of starred names in targets. -/
def targetStars : List Target → Nat
  | [] => 0
  | t :: ts => t.stars + targetStars ts

end

/-- The stars in the fields of an interpolated string. -/
def fieldStars (inText : String → Nat) : List Template.Piece → Nat
  | [] => 0
  | .literal _ :: pieces => fieldStars inText pieces
  | .field source _ :: pieces => inText source + fieldStars inText pieces

/-- The stars of a token. -/
def Lexeme.stars (inText : String → Nat) : Lexeme → Nat
  | .symbol .star => 1
  | .template pieces => fieldStars inText pieces
  | _ => 0

/-- The stars of some tokens. -/
def starsOf (inText : String → Nat) (ls : List Lexeme) : Nat := (ls.map (Lexeme.stars inText)).sum

/-- The stars among the tokens of a text, those in its fields included, where interpolated strings
nest less deep than the bound. -/
def starsIn : Nat → String → Nat
  | 0, _ => 0
  | nesting + 1, source =>
    match tokenize source with
    | .error _ => 0
    | .ok ts => starsOf (fun field => starsIn nesting (Text.trim field)) (lexemes ts)

/-! ## Stars of a tree -/

/-- Whether the expression is a product. -/
def Expr.isProduct : Expr → Bool
  | .binary .mul _ _ => true
  | _ => false

/-- The starred names that a statement binds itself. -/
def Stmt.boundStars : Stmt → Nat
  | .assign _ target _ | .forEach _ target _ _ => target.stars
  | _ => 0

namespace Node

/-- Whether the node is a starred expression. -/
def isStar : Node → Bool
  | expr _ _ e => Parser.isStar e
  | _ => false

/-- Whether the node is a product. -/
def isProduct : Node → Bool
  | expr _ _ e => e.isProduct
  | _ => false

/-- The starred names that the node binds itself. -/
def boundStars : Node → Nat
  | stmt s => s.boundStars
  | _ => 0

/-- The stars that are written for a node. -/
def ownStars (n : Node) : Nat := n.isStar.toNat + n.isProduct.toNat + n.boundStars

/-- The stars that are written for the nodes of a tree. -/
def stars (n : Node) : Nat := n.total ownStars

theorem stars_eq (n : Node) : n.stars = n.ownStars + (n.parts.map stars).sum := total_eq ..

end Node

section Tally

variable {line : Nat} {site : Option Shell.Delivery}

/-- The stars of an expression. -/
abbrev weight (line : Nat) (e : Expr) : Nat := (Node.expr line none e).stars

@[simp] theorem stars_expr (e : Expr) : (Node.expr line site e).stars = weight line e := by
  rw [weight, Node.stars_eq, Node.stars_eq]
  rfl

@[simp] theorem stars_exprs (es : List Expr) :
    es.map (Node.stars ∘ Node.expr line site) = es.map (weight line) :=
  List.map_congr_left fun e _ => stars_expr e

/-- The stars of the fields of an interpolated string. -/
def partsWeight (line : Nat) (ps : List Part) : Nat :=
  ((fieldsOf ps).map fun f => weight line f.1).sum

/-- The stars of arguments given by name. -/
def keywordsWeight (line : Nat) (ks : List Keyword) : Nat :=
  (ks.map fun k => weight line k.value).sum

-- in this section an expression is opened at its own node
attribute [local simp] Node.exprParts Parser.isStar Expr.isProduct

theorem weight_eq (e : Expr) : weight line e = (Parser.isStar e).toNat + e.isProduct.toNat
    + ((Node.exprParts line e).map Node.stars).sum :=
  Node.stars_eq ..

@[simp] theorem weight_name (n : String) : weight line (.name n) = 0 := weight_eq _

@[simp] theorem weight_int (v : Int64) : weight line (.int v) = 0 := weight_eq _

@[simp] theorem weight_bool (b : Bool) : weight line (.bool b) = 0 := weight_eq _

@[simp] theorem weight_none : weight line .none = 0 := weight_eq _

@[simp] theorem weight_str (s : String) : weight line (.str s) = 0 := weight_eq _

@[simp] theorem weight_template (ps : List Part) :
    weight line (.template ps) = partsWeight line ps := by
  rw [weight_eq]
  simp [partsWeight, Function.comp_def]

@[simp] theorem weight_tuple (es : List Expr) :
    weight line (.tuple es) = (es.map (weight line)).sum := by
  rw [weight_eq]
  simp

@[simp] theorem weight_list (es : List Expr) :
    weight line (.list es) = (es.map (weight line)).sum := by
  rw [weight_eq]
  simp

@[simp] theorem weight_star (e : Expr) : weight line (.star e) = 1 + weight line e := by
  rw [weight_eq]
  simp

@[simp] theorem weight_unary (op : UnaryOp) (e : Expr) :
    weight line (.unary op e) = weight line e := by
  rw [weight_eq]
  -- a command is one node with its literal, and any other operand is a node below
  have hparts : (Node.exprParts line (.unary op e)).map Node.stars = [weight line e] ∨
      ((∃ s, e = .str s) ∧ Node.exprParts line (.unary op e) = []) ∨
      (∃ ps, e = .template ps ∧ Node.exprParts line (.unary op e) = Node.exprParts line e) := by
    cases op with
    | neg | not => exact .inl (by simp)
    | invert =>
      cases e with
      | str s => exact .inr (.inl ⟨⟨s, rfl⟩, rfl⟩)
      | template ps => exact .inr (.inr ⟨ps, rfl, rfl⟩)
      | _ => exact .inl (by simp)
  obtain h | ⟨⟨s, rfl⟩, h⟩ | ⟨ps, rfl, h⟩ := hparts
  · rw [h]
    simp
  · rw [h]
    simp
  · rw [h, weight_eq (.template ps)]
    rfl

@[simp] theorem weight_binary (op : BinaryOp) (l r : Expr) :
    weight line (.binary op l r) = (if op = .mul then 1 else 0) + weight line l + weight line r := by
  rw [weight_eq]
  cases op <;> simp [Nat.add_assoc]

@[simp] theorem weight_logical (op : Connective) (l r : Expr) :
    weight line (.logical op l r) = weight line l + weight line r := by
  rw [weight_eq]
  simp

@[simp] theorem weight_compare (op : Comparison) (l r : Expr) :
    weight line (.compare op l r) = weight line l + weight line r := by
  rw [weight_eq]
  simp

@[simp] theorem weight_call (f : Expr) (args : List Expr) (keywords : List Keyword) :
    weight line (.call f args keywords)
      = weight line f + (args.map (weight line)).sum + keywordsWeight line keywords := by
  rw [weight_eq]
  simp [keywordsWeight, Function.comp_def, Nat.add_assoc]

@[simp] theorem weight_attribute (e : Expr) (n : String) :
    weight line (.attribute e n) = weight line e := by
  rw [weight_eq]
  simp

@[simp] theorem weight_subscript (e i : Expr) :
    weight line (.subscript e i) = weight line e + weight line i := by
  rw [weight_eq]
  simp

end Tally

/-! ## Stars are conserved -/

section Lexemes

variable {inText : String → Nat}

@[simp] theorem stars_word (w : String) : (Lexeme.word w).stars inText = 0 := rfl

@[simp] theorem stars_str (s : String) : (Lexeme.str s).stars inText = 0 := rfl

@[simp] theorem stars_template (pieces : List Template.Piece) :
    (Lexeme.template pieces).stars inText = fieldStars inText pieces := rfl

@[simp] theorem stars_symbol (s : Symbol) :
    (Lexeme.symbol s).stars inText = if s = .star then 1 else 0 := by
  cases s <;> rfl

@[simp] theorem stars_unaryOp (op : UnaryOp) : op.lexeme.stars inText = 0 := by cases op <;> rfl

@[simp] theorem stars_binaryOp (op : BinaryOp) :
    op.lexeme.stars inText = if op = .mul then 1 else 0 := by
  cases op <;> rfl

@[simp] theorem stars_connective (op : Connective) : op.lexeme.stars inText = 0 := by
  cases op <;> rfl

@[simp] theorem stars_newline : Lexeme.newline.stars inText = 0 := rfl

@[simp] theorem stars_indent : Lexeme.indent.stars inText = 0 := rfl

@[simp] theorem stars_dedent : Lexeme.dedent.stars inText = 0 := rfl

@[simp] theorem stars_eof : Lexeme.eof.stars inText = 0 := rfl

@[simp] theorem starsOf_nil : starsOf inText [] = 0 := rfl

@[simp] theorem starsOf_cons (l : Lexeme) (ls : List Lexeme) :
    starsOf inText (l :: ls) = l.stars inText + starsOf inText ls := rfl

@[simp] theorem starsOf_append (ls ms : List Lexeme) :
    starsOf inText (ls ++ ms) = starsOf inText ls + starsOf inText ms := by
  rw [starsOf, List.map_append, List.sum_append]
  rfl

@[simp] theorem starsOf_comparison (op : Comparison) : starsOf inText op.lexemes = 0 := by
  cases op <;> rfl

end Lexemes

open Tilde.Parser

namespace Grammar

variable {field : FieldParser} {inText : String → Nat} {line : Nat} {ph : Phrase} {ls : List Lexeme}

@[simp] theorem opened_ne_star (b : Bracket) : b.opened ≠ .star := by cases b <;> nofun

@[simp] theorem closed_ne_star (b : Bracket) : b.closed ≠ .star := by cases b <;> nofun

/-- The text of a field has the stars of what the field is parsed to. -/
def Counts (inText : String → Nat) (field : FieldParser) (line : Nat) : Prop :=
  ∀ source e, field source = .ok e → inText source = weight line e

theorem leaf?_stars {l : Lexeme} {e : Expr} (h : leaf? l = some e) :
    l.stars inText = 0 ∧ weight line e = 0 := by
  unfold leaf? at h
  split at h
  case h_4 => split_ifs at h; cases h; exact ⟨rfl, by simp⟩
  all_goals cases h
  all_goals exact ⟨rfl, by simp⟩

theorem parts_stars (hfield : Counts inText field line) {pieces : List Template.Piece}
    {ps : List Part} (h : parts field pieces = .ok ps) :
    fieldStars inText pieces = partsWeight line ps := by
  induction pieces generalizing ps with
  | nil =>
    cases h
    rfl
  | cons piece pieces ih =>
    cases piece with
    | literal text =>
      obtain ⟨qs, hqs, rfl⟩ := parts_literal.mp h
      exact (ih hqs).trans rfl
    | field source spec =>
      obtain ⟨e, he, qs, hqs, rfl⟩ := parts_field.mp h
      rw [fieldStars, hfield source e he, ih hqs]
      simp [partsWeight, fieldsOf]

theorem weight_bound (es : List Expr) : weight line (bound es) = (es.map (weight line)).sum := by
  unfold bound
  split
  · split <;> simp
  · simp

/-- The stars of what a phrase spells. -/
def Phrase.stars (line : Nat) : Phrase → Nat
  | .expr e | .item _ e | .exprs e | .binds e | .argument _ e => weight line e
  | .commas _ es | .row _ es => (es.map (weight line)).sum
  | .arguments args keywords => (args.map (weight line)).sum + keywordsWeight line keywords

theorem stars_addArgument (line : Nat) (args : List Expr) (keywords : List Keyword)
    (name : Option String) (e : Expr) :
    (Phrase.arguments (addArgument args keywords name e).1
      (addArgument args keywords name e).2).stars line
      = (Phrase.arguments args keywords).stars line + weight line e := by
  cases name <;> simp [Phrase.stars, addArgument, keywordsWeight, Keyword.value] <;> omega

/-- **Stars are conserved in an expression.** -/
theorem Derives.stars (hfield : Counts inText field line) (h : Derives field ph ls) :
    starsOf inText ls = ph.stars line := by
  induction h with
  | @leaf l e h =>
    obtain ⟨hl, he⟩ : l.stars inText = 0 ∧ weight line e = 0 := leaf?_stars h
    simp [Phrase.stars, hl, he]
  | template h => simp [Phrase.stars, parts_stars hfield h]
  | call _ _ ihf ihargs =>
    simp [ihf, ihargs, Phrase.stars, Nat.add_assoc]
  | @callRow f e name args keywords _ _ _ _ _ _ ihf ihargs ihe =>
    have hargs := stars_addArgument line args keywords name e
    simp only [Phrase.stars] at hargs ihf ihargs ihe
    simp [ihf, ihargs, ihe, Phrase.stars, ← hargs, Nat.add_assoc]
  | moreArguments _ _ ihargs ihe =>
    rw [stars_addArgument, starsOf_append, starsOf_append, ihargs, ihe]
    rfl
  | binary op _ _ iha ihb =>
    simp only [starsOf_append, starsOf_cons, iha, ihb, Phrase.stars, stars_binaryOp, weight_binary]
    omega
  | noArguments => rfl
  | bindsCommas _ _ ih | bindsRow _ ih => rw [ih, Phrase.stars, Phrase.stars, weight_bound]
  | _ => simp_all [Phrase.stars]

/-! ### Statements -/

mutual

/-- A target has the stars of the expression it is turned from. -/
theorem weight_toTarget : ∀ {e : Expr} {t : Target}, toTarget e = .ok t → weight line e = t.stars
  | .name _, _, h => by cases h; simp [Target.stars]
  | .star e, _, h => by cases e <;> cases h; simp [Target.stars]
  | .tuple items, _, h | .list items, _, h => by
    obtain ⟨ts, rfl, -, hts⟩ := toTarget_sequence h
    simpa [Target.stars] using weight_toTargets hts
  | .call .., _, h | .attribute .., _, h | .subscript .., _, h | .int _, _, h | .str _, _, h
  | .template _, _, h | .bool _, _, h | .none, _, h | .unary .., _, h | .binary .., _, h
  | .compare .., _, h | .logical .., _, h => by cases h

theorem weight_toTargets : ∀ {es : List Expr} {ts : List Target},
    List.Forall₂ (fun e t => toTarget e = .ok t) es ts →
      (es.map (weight line)).sum = targetStars ts
  | [], _, .nil => rfl
  | _ :: _, _, .cons h hs => by
    rw [List.map_cons, List.sum_cons, weight_toTarget h, weight_toTargets hs]
    rfl

end

/-- The stars of statements. -/
def bodyStars (body : List Stmt) : Nat := (body.map fun s => (Node.stmt s).stars).sum

@[simp] theorem bodyStars_nil : bodyStars [] = 0 := rfl

@[simp] theorem bodyStars_cons (s : Stmt) (body : List Stmt) :
    bodyStars (s :: body) = (Node.stmt s).stars + bodyStars body := rfl

@[simp] theorem bodyStars_append (body more : List Stmt) :
    bodyStars (body ++ more) = bodyStars body + bodyStars more := by
  simp [bodyStars]

theorem stars_stmt (s : Stmt) :
    (Node.stmt s).stars = s.boundStars + ((Node.stmtParts s).map Node.stars).sum := by
  rw [Node.stars_eq]
  simp [Node.ownStars, Node.isStar, Node.isProduct, Node.boundStars, Node.parts]

section Statements

-- in this section a statement is opened at its own node
attribute [local simp] stars_stmt Stmt.boundStars Node.stmtParts

@[simp] theorem sum_stmts (body : List Stmt) :
    (body.map (Node.stars ∘ Node.stmt)).sum = bodyStars body := rfl

@[simp] theorem stars_evaluate (e : Expr) :
    (Node.stmt (.evaluate line e)).stars = weight line e := by
  simp

@[simp] theorem stars_assign (t : Target) (e : Expr) :
    (Node.stmt (.assign line t e)).stars = t.stars + weight line e := by
  simp

@[simp] theorem stars_assert (test : Expr) (message : Option Expr) :
    (Node.stmt (.assert line test message)).stars
      = weight line test + (message.toList.map (weight line)).sum := by
  simp

@[simp] theorem stars_branch (test : Expr) (body orelse : List Stmt) :
    (Node.stmt (.branch line test body orelse)).stars
      = weight line test + bodyStars (body ++ orelse) := by
  simp

@[simp] theorem stars_whileLoop (test : Expr) (body : List Stmt) :
    (Node.stmt (.whileLoop line test body)).stars = weight line test + bodyStars body := by
  simp

@[simp] theorem stars_forEach (t : Target) (items : Expr) (body : List Stmt) :
    (Node.stmt (.forEach line t items body)).stars
      = t.stars + (weight line items + bodyStars body) := by
  simp

@[simp] theorem stars_attempt (body : List Stmt) (hs : List Handler) :
    (Node.stmt (.attempt line body hs)).stars
      = bodyStars (body ++ hs.flatMap Handler.block) := by
  simp

end Statements

theorem bare?_stars {l : Lexeme} {s : Nat → Stmt} (h : bare? l = some s) (inText : String → Nat)
    (line : Nat) : l.stars inText = 0 ∧ (Node.stmt (s line)).stars = 0 := by
  unfold bare? at h
  split at h <;> cases h <;> exact ⟨rfl, stars_stmt _⟩

@[simp] theorem starsOf_kind (kind : Option String) : starsOf inText (kindLexemes kind) = 0 := by
  cases kind <;> rfl

@[simp] theorem starsOf_binding (name : Option String) :
    starsOf inText (bindingLexemes name) = 0 := by
  cases name <;> rfl

theorem IsLineEnd.stars (h : IsLineEnd ls) : starsOf inText ls = 0 := by
  rcases h with rfl | rfl <;> rfl

/-- **Stars are conserved in statements.** -/
theorem Produces.stars {full : List Stmt → Prop} {c : Clause}
    (hfield : ∀ line, Counts inText field line) (h : Produces field full c ls) :
    starsOf inText ls = bodyStars c.stmts := by
  have hexpr {ph : Phrase} {ls : List Lexeme} (h : Derives field ph ls) (line : Nat) :
      starsOf inText ls = ph.stars line := h.stars (hfield line)
  induction h with
  | @bare l s line h =>
    obtain ⟨hl, hs⟩ := bare?_stars h inText line
    simp [Clause.stmts, hl, hs]
  | @assert line _ _ htest => simp [Clause.stmts, hexpr htest line, Phrase.stars]
  | @assertMessage line _ _ _ _ htest hmessage =>
    simp [Clause.stmts, hexpr htest line, hexpr hmessage line, Phrase.stars]
  | @assign line _ _ _ _ _ he htarget hvalue _ =>
    simp [Clause.stmts, hexpr he line, hexpr hvalue line, Phrase.stars, weight_toTarget htarget]
  | @evaluate line _ _ he _ => simp [Clause.stmts, hexpr he line, Phrase.stars]
  | line _ heol ih | inline _ heol ih => simp [heol.stars, ih, Clause.stmts]
  | @branch line _ _ _ _ _ _ htest _ _ ihbody ihelse =>
    simp_all [Clause.stmts, hexpr htest line, Phrase.stars]
  | @whileLoop line _ _ _ _ htest _ ih => simp_all [Clause.stmts, hexpr htest line, Phrase.stars]
  | @forEach line _ _ _ _ _ _ _ he htarget hitems _ ih =>
    simp_all [Clause.stmts, hexpr he line, hexpr hitems line, Phrase.stars, weight_toTarget htarget]
  | attempt _ _ _ ihbody ihhandlers => simp_all [Clause.stmts]
  | @elif line _ _ _ _ _ _ htest _ _ ihbody ihelse =>
    simp_all [Clause.stmts, hexpr htest line, Phrase.stars]
  | _ => simp_all [Clause.stmts, Handler.block]

end Grammar

/-! ## The stars of a program -/

theorem counts_fieldExpr (nesting : Nat) (line : Nat) :
    Grammar.Counts (fun field => starsIn nesting (Text.trim field)) (fieldExpr nesting) line := by
  induction nesting with
  | zero => exact nofun
  | succ nesting ih =>
    intro source e h
    obtain ⟨ts, hts, he⟩ := fieldExpr_eq_ok.mp h
    obtain ⟨ls, eol, hls, heol, hderives⟩ := fieldTokens_derives (Lexer.State.run_wellLaid hts) he
    simp only [starsIn, hts, hls]
    simp [heol.stars, hderives.stars ih, Grammar.Phrase.stars]

/-- **The stars of a text are those of its program.** -/
theorem stars_parse {source : String} {mode : Mode} {program : Program}
    (h : parse source mode = .ok program) :
    starsIn (source.length + 1) source = program.root.stars := by
  obtain ⟨ts, ls, hts, hls, hproduces⟩ := parse_produces h
  have hroot : program.root.stars = Grammar.bodyStars program.body := by
    rw [Program.root, Node.stars_eq]
    simp [Node.ownStars, Node.isStar, Node.isProduct, Node.boundStars, Node.parts]
  simp only [starsIn, hts, hls]
  rw [starsOf_append, hproduces.stars (counts_fieldExpr _), hroot]
  rfl

/-- No expression of the program is starred. -/
def Program.IsStarless (p : Program) : Prop := p.root.All fun m => m.isStar = false

theorem Program.isStarless_iff (p : Program) :
    p.IsStarless ↔ p.root.nodes.countP (fun x => x.2.isStar) = 0 := by
  rw [List.countP_eq_zero]
  constructor
  · rintro h ⟨place, m⟩ hm
    simpa using h place m (Node.mem_nodes.mp hm)
  · intro h place m hm
    simpa using h (place, m) (Node.mem_nodes.mpr hm)

/--
**Where stars are left.** A value that is evaluated or assigned is not starred, and if it is a tuple
or a list, neither are its items. Nothing is said of a star anywhere deeper, and it stays: the stars of
the text, those in fields included, are as many as the starred expressions of the program, its
products and the starred names that it binds together. So no starred expression is left if and only
if each star of the text is a product or marks a name that is bound.
-/
theorem stars_left {source : String} {mode : Mode} {program : Program}
    (h : parse source mode = .ok program) :
    (program.root.All fun m => ∀ line target e,
      m = .stmt (.evaluate line e) ∨ m = .stmt (.assign line target e) →
        Grammar.showsStar e = false)
      ∧ starsIn (source.length + 1) source
        = program.root.nodes.countP (fun x => x.2.isStar)
          + program.root.nodes.countP (fun x => x.2.isProduct)
          + (program.root.nodes.map fun x => x.2.boundStars).sum
      ∧ (program.IsStarless ↔ starsIn (source.length + 1) source
        = program.root.nodes.countP (fun x => x.2.isProduct)
          + (program.root.nodes.map fun x => x.2.boundStars).sum) := by
  -- three counts over the same nodes add up to one
  have hsum : starsIn (source.length + 1) source
      = program.root.nodes.countP (fun x => x.2.isStar)
        + program.root.nodes.countP (fun x => x.2.isProduct)
        + (program.root.nodes.map fun x => x.2.boundStars).sum := by
    rw [stars_parse h, Node.stars, ← Node.total_toNat, ← Node.total_toNat, ← Node.total_add,
      ← Node.total, ← Node.total_add]
    rfl
  refine ⟨?_, hsum, ?_⟩
  · obtain ⟨ts, ls, -, -, hproduces⟩ := parse_produces h
    refine Node.all_iff.mpr ⟨?_, fun m hm => ?_⟩
    · rintro line target e (h | h) <;> cases h
    · obtain ⟨s, hs, rfl⟩ := List.mem_map.mp hm
      refine (hproduces.held s hs).mono fun m hm => ?_
      rintro line target e (rfl | rfl) <;> exact hm
  · rw [Program.isStarless_iff, hsum]
    omega

/-- A text with one star of each kind: the starred item of a list in an assigned tuple is left. -/
theorem stars_left_of_nested :
    ∃ p, parse "*a, b = (c * 2, [*d])" .file = .ok p ∧ ¬p.IsStarless
      ∧ starsIn 22 "*a, b = (c * 2, [*d])" = 3
      ∧ p.root.nodes.countP (fun x => x.2.isStar) + p.root.nodes.countP (fun x => x.2.isProduct)
        + (p.root.nodes.map fun x => x.2.boundStars).sum = 3 := by
  have hstar : (parse "*a, b = (c * 2, [*d])" .file).map
      (fun p => (p.root.at? [0, 0, 1, 0]).map Node.isStar) = .ok (some true) := by
    decide +kernel
  have htext : starsIn 22 "*a, b = (c * 2, [*d])" = 3 := by decide +kernel
  cases hp : parse "*a, b = (c * 2, [*d])" .file with
  | error e => rw [hp] at hstar; cases hstar
  | ok p =>
    rw [hp] at hstar
    have hall := stars_left hp
    refine ⟨p, rfl, fun hnone => ?_, htext, hall.2.1.symm.trans htext⟩
    obtain ⟨m, hm, htrue⟩ := Option.map_eq_some_iff.mp (Except.ok.inj hstar)
    rw [hnone _ m hm] at htrue
    cases htrue

/-- Stars outside targets are not always refused: an argument that is a list with a starred item is
accepted. -/
theorem stars_not_always_refused :
    ¬∀ source mode program, parse source mode = .ok program → program.IsStarless := by
  intro hall
  have hstar : (parse "print([*a])" .file).map
      (fun p => (p.root.at? [0, 0, 1, 0]).map Node.isStar) = .ok (some true) := by
    decide +kernel
  cases hp : parse "print([*a])" .file with
  | error e => rw [hp] at hstar; cases hstar
  | ok p =>
    rw [hp] at hstar
    obtain ⟨m, hm, htrue⟩ := Option.map_eq_some_iff.mp (Except.ok.inj hstar)
    rw [hall _ _ p hp _ m hm] at htrue
    cases htrue

end Tilde
