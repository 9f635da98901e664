import Tilde.Proofs.Exec.Agree
import Tilde.Proofs.Expansion.Identity
import Tilde.Proofs.Helpers.Clean
import Tilde.Proofs.Printed.Program
import Tilde.Proofs.Written.Lexer
import Tilde.Run

/-!
# Running a written value

A text that sets a variable to a written value runs to its end and sets the variable to the value
that is read back, whatever the host, the variables and the world. It does nothing else outside than
that it logs an expansion of no literals. Where a number of the value has no literal, the text is no
program.
-/

namespace Tilde

/-!
## Parsing a written value

The parser reads the lexemes of a written value as its expression. A tuple is written without a
comma behind the last item, if it has more than one.
-/

section Parsed

namespace Parser

variable {n bound line b : Nat} {e e' : Expr} {ls ks : List Lexeme} {lss : List (List Lexeme)}
  {es : List Expr} {ts : List Token} {field : FieldParser}

/-! ### Tuples -/

/-- The items behind the first one, with a comma in front of each. -/
theorem commaBetween_cons :
    commaBetween (ls :: lss) = ls ++ lss.flatMap (.symbol .comma :: ·) := by
  induction lss generalizing ls with
  | nil => simp [commaBetween]
  | cons ks lss ih =>
    rw [List.flatMap_cons, List.cons_append, ← ih]
    simp [commaBetween, List.intercalate_cons_cons]

theorem length_le_flatMap (lss : List (List Lexeme)) :
    lss.length ≤ (lss.flatMap (Lexeme.symbol .comma :: ·)).length := by
  induction lss with
  | nil => exact Nat.le_refl 0
  | cons ls lss ih =>
    rw [List.flatMap_cons, List.length_append, List.length_cons, List.length_cons]
    omega

/-- The items of a tuple behind those that have been read, when no comma follows the last one. -/
theorem tuple_tail (h : List.Forall₂ Item es lss) (items : List Expr)
    (hbound : (lss.flatMap (Lexeme.symbol .comma :: ·)).length ≤ bound)
    (hn : (lss.flatMap (Lexeme.symbol .comma :: ·)).length ≤ n) (hb : lss.length < b)
    (hts : (frontToken ts).lexeme = .symbol .closeParen) :
    Reads (repeatUpTo (tupleRound (exprAt field bound)) b items) n
      (placed line (lss.flatMap (.symbol .comma :: ·))) (.tuple (items.reverse ++ es)) ts := by
  induction h generalizing items b with
  | nil =>
    obtain ⟨b, rfl⟩ := Nat.exists_eq_add_one_of_ne_zero (n := b) (by omega)
    rw [List.append_nil]
    refine .last (.miss ?_ (.ifFalse nofun .pure))
    rw [List.flatMap_nil, placed_nil, List.nil_append, hts]
    exact nofun
  | @cons e ls es lss h hrest ih =>
    obtain ⟨b, rfl⟩ := Nat.exists_eq_add_one_of_ne_zero (n := b) (by omega)
    rw [List.flatMap_cons, List.length_append, List.length_cons] at hbound hn
    rw [List.length_cons] at hb
    rw [List.flatMap_cons, placed_append, List.append_cons, ← List.reverse_cons]
    -- behind the comma stands an item and not the end of the tuple
    refine .again (.hit rfl (.ifTrue rfl (.peek (.ifFalse ?_ (.map ?_)))))
      (ih (e :: items) (by omega) (by omega) (by omega))
    · change ¬endsList (frontToken (placed line ls ++ _)).lexeme = true
      rw [endsList_of_startsItem h.front]
      exact nofun
    · refine h.reads field bound n line _ (by omega) (by omega) (stops_of_none ?_)
      cases hrest with
      | nil => rw [List.flatMap_nil, placed_nil, List.nil_append, hts]; rfl
      | cons => rfl

theorem Spells.tupleBetween (h : List.Forall₂ Item es lss) (hlen : es.length ≠ 1) :
    Spells 8 (.tuple es) (.symbol .openParen :: commaBetween lss ++ [.symbol .closeParen]) := by
  cases h with
  | nil => exact Spells.tuple .nil
  | @cons e ls es lss h hrest =>
    obtain ⟨e', es, rfl⟩ : ∃ e' es', es = e' :: es' :=
      List.exists_cons_of_ne_nil fun hnil => hlen (by rw [hnil, List.length_singleton])
    have hcount := length_le_flatMap lss
    rw [commaBetween_cons]
    refine ⟨?_, fun field bound n line ts hbound hn _ => ?_⟩
    · obtain ⟨l, ls', rfl, hstart⟩ := h.starts
      refine ⟨_, _, rfl, rfl, fun heq => ?_⟩
      cases heq
      cases hstart
    · simp only [List.length_cons, List.length_append, List.length_nil] at hbound hn
      rw [List.cons_append, placed_cons, List.append_assoc, placed_append]
      refine .peekToken (.advance (.miss ?_ (.ifFalse nofun ?_)))
      · rw [List.append_assoc]
        exact h.front_ne rfl
      · -- a second item makes the brackets a tuple, so a comma comes behind the first one
        have hcomma : (frontToken (placed line (lss.flatMap (.symbol .comma :: ·))
            ++ (placed line [.symbol .closeParen] ++ ts))).lexeme = .symbol .comma := by
          cases hrest with
          | cons => rfl
        rw [placed_append, ← List.append_assoc]
        refine .bind (.bind (h.reads field bound n line _ (by omega) (by omega) (stops_of_none ?_))
          (.peek (.ifFalse ?_ ?_))) (.expect rfl .pure)
        · rw [hcomma]
          rfl
        · rw [hcomma]
          exact not_not_intro rfl
        · exact .loop (tuple_tail hrest [e] (by omega) (by omega) (by omega) rfl)

end Parser

/-! ### Values -/

variable {e : Expr} {ls : List Lexeme} {es : List Expr} {lss : List (List Lexeme)}

/-- The lexemes are those of the expression, and stand on a line. -/
structure Stands (e : Expr) (ls : List Lexeme) : Prop where
  spells : Parser.Spells 0 e ls
  printable : e.printable = true
  neat : Neat ls

namespace Stands

/-- What stands alone and is in no brackets, or in brackets of its own. -/
theorem alone (h : Parser.Spells 8 e ls) (hprintable : e.printable = true) (hneat : Neat ls) :
    Stands e ls where
  spells := h.of_le (Nat.zero_le 8) (Nat.le_refl 8)
  printable := hprintable
  neat := hneat

/-- A number with a sign. -/
theorem negated {i : Int64} (hi : 0 ≤ i.toInt) :
    Stands (.unary .neg (.int i)) [.symbol .minus, .int i] where
  spells := (Parser.Spells.unary .neg ((Parser.Spells.int i).of_le (by decide)
    (Nat.le_refl 8))).of_le (Nat.zero_le _) (by decide)
  printable := decide_eq_true hi
  neat := .symbol (fun _ => rfl) (.cons (decide_eq_true hi) (fun _ => rfl) .nil)

theorem allPrintable (h : List.Forall₂ Stands es lss) : allPrintable es = true := by
  induction h with
  | nil => rfl
  | cons h _ ih => exact Bool.and_eq_true_iff.mpr ⟨h.printable, ih⟩

theorem items (h : List.Forall₂ Stands es lss) : List.Forall₂ Parser.Item es lss :=
  h.imp fun _ _ h => h.spells.item

theorem all_neat (h : List.Forall₂ Stands es lss) : ∀ ls ∈ lss, Neat ls := by
  induction h with
  | nil => exact nofun
  | cons h _ ih => exact List.forall_mem_cons.mpr ⟨h.neat, ih⟩

theorem list (h : List.Forall₂ Stands es lss) :
    Stands (.list es) (.symbol .openBracket :: commaBetween lss ++ [.symbol .closeBracket]) :=
  alone (.list (items h)) (allPrintable h) (Neat.commaBetween (all_neat h)).squares

theorem tuple (h : List.Forall₂ Stands es lss) (hlen : es.length ≠ 1) :
    Stands (.tuple es) (.symbol .openParen :: commaBetween lss ++ [.symbol .closeParen]) :=
  alone (.tupleBetween (items h) hlen) (allPrintable h) (Neat.commaBetween (all_neat h)).parens

/-- A tuple of a single item has a comma behind it. -/
theorem single (h : Stands e ls) :
    Stands (.tuple [e]) (.symbol .openParen :: ls ++ [.symbol .comma, .symbol .closeParen]) := by
  have hitems : List.Forall₂ Stands [e] [ls] := .cons h .nil
  have hlexemes : Lexeme.symbol .openParen :: ls ++ [.symbol .comma, .symbol .closeParen]
      = .symbol .openParen :: commaEach [ls] ++ [.symbol .closeParen] := by simp [commaEach]
  rw [hlexemes]
  exact alone (.tuple (items hitems)) (allPrintable hitems)
    (Neat.commaEach (all_neat hitems)).parens

end Stands

mutual

/-- **The lexemes of a value stand for its expression**, when its numbers have literals. -/
theorem Value.stands : ∀ v : Value, (∀ w ∈ v.leaves, w.isDatum = true ∧ w.hasLiteral = true) →
    Stands v.source v.lexemes
  | .none, _ => .alone .none rfl (.word (by decide) .nil)
  | .bool b, _ => .alone (.bool b) rfl (.word (by cases b <;> decide) .nil)
  | .int i, h => by
    have hi : i ≠ Int64.minValue := by simpa [Value.leaves, Value.isDatum, Value.hasLiteral] using h
    rw [Value.source, Value.lexemes]
    split
    next hle =>
      exact .alone (.int i) (decide_eq_true hle) (.cons (decide_eq_true hle) (fun _ => rfl) .nil)
    next hlt =>
      refine .negated ?_
      rw [Lexer.State.toInt_neg hi]
      omega
  | .str _, _ => .alone (.str _) rfl (.cons rfl (fun _ => rfl) .nil)
  | .tuple [v], h => (v.stands (by simpa [Value.leaves, allLeaves] using h)).single
  | .tuple [], _ => Stands.tuple .nil nofun
  | .tuple (v :: w :: vs), h => by
    rw [Value.lexemes_tuple (by simp)]
    exact .tuple (stand_items (v :: w :: vs) h) (by simp [sources])
  | .list items, h => .list (stand_items items h)
  | .builtin _, h | .method .., h => by simp [Value.leaves, Value.isDatum] at h

theorem stand_items : ∀ vs : List Value,
    (∀ w ∈ allLeaves vs, w.isDatum = true ∧ w.hasLiteral = true) →
      List.Forall₂ Stands (sources vs) (valueLexemes vs)
  | [], _ => .nil
  | v :: vs, h => by
    rw [allLeaves, List.forall_mem_append] at h
    exact .cons (v.stands h.1) (stand_items vs h.2)

end

/-! ### A text that sets a variable -/

/-- The lexemes of a line that sets a variable to what the lexemes stand for. -/
def settingLexemes (name : String) (ls : List Lexeme) : List Lexeme :=
  .word name :: .symbol .assign :: ls

theorem Stands.setting_neat {name : String} (h : Stands e ls) (hname : isName name = true) :
    Neat (settingLexemes name ls) :=
  .word (isIdentifier_of_isName hname) (.symbol (fun _ => rfl) h.neat)

/-- The layout of such a line is read as the statement. -/
theorem Parser.programTokens_setting {name : String} (h : Stands e ls)
    (hname : isName name = true) (nesting : Nat) :
    programTokens nesting (layout 0 1 [⟨0, settingLexemes name ls⟩])
      = .ok [.assign 1 (.name name) e] := by
  have hlen := (room_layout 0 1 [⟨0, settingLexemes name ls⟩]).2 _ (List.mem_singleton_self _)
  obtain ⟨bound, hbound⟩ : ∃ bound,
      (layout 0 1 [⟨0, settingLexemes name ls⟩]).length = bound + 1 :=
    Nat.exists_eq_add_one_of_ne_zero fun hnil => layout_ne_nil (List.length_eq_zero_iff.mp hnil)
  rw [hbound] at hlen
  -- a name starts the statement, and so none with a block
  have hplain : Plain (settingLexemes name ls) := by
    obtain ⟨l, ls', hls, hstart⟩ := (target_item (.name name) hname).starts
    cases hls
    exact plain_of_item hstart
  have hstmt : stmtAt (exprAt (fieldExpr nesting) (bound + 1)) (bound + 1) (bound + 1)
      (layout 0 1 ([⟨0, settingLexemes name ls⟩] ++ [])) = _ :=
    ((assign_reads (t := .name name) hname h.printable h.spells hlen
      (Nat.le_of_lt hlen)).readsLines hplain) [] nofun
  rw [List.append_nil] at hstmt
  refine parseTokens_ok.mpr ⟨[layoutToken .eof], ?_⟩
  change repeatUpTo (textRound (stmtAt _ _)) _ [] _ _ = _
  rw [hbound]
  -- one round reads the statement, and the next one the end of the text
  refine (text_stmt (t := ⟨.word name, ⟨1, 0⟩⟩) nofun nofun _ _ _ _ _).trans ?_
  refine (bind_ok hstmt).trans ?_
  rw [text_step]
  rfl

end Parsed

variable {ω : Type} {name : String}

/-! ## The text -/

open Lexer.State in
/-- A text that sets a variable to a written value. -/
theorem lexes_setting (hname : isName name = true) {v : Value}
    (hv : ∀ w ∈ v.leaves, w.isDatum = true) :
    Lexes (name ++ " = " ++ v.repr).toList (v.leaves.all Value.hasLiteral)
      (settingLexemes name v.lexemes) := by
  have hassign : Lexes ['='] true [.symbol .assign] := .lexeme (l := .symbol .assign) rfl
  -- each of the three texts ends in front of a blank, which goes on with no token
  have hfront := (lexes_word (isIdentifier_of_isName hname)).append (d := ' ') (by decide)
    hassign.blank
  have hall := hfront.append (d := ' ') (by decide) (lexes_value v hv).blank
  simpa [settingLexemes, String.toList_append] using hall

/-- The leaves are data and have literals if every one does. -/
theorem Value.leaves_stand {v : Value} (hv : ∀ w ∈ v.leaves, w.isDatum = true)
    (hfits : v.leaves.all hasLiteral = true) :
    ∀ w ∈ v.leaves, w.isDatum = true ∧ w.hasLiteral = true :=
  fun w hw => ⟨hv w hw, List.all_eq_true.mp hfits w hw⟩

/-- Such a text is a program of one statement, if every number has a literal, and otherwise it is
none. -/
theorem parse_setting (hname : isName name = true) {v : Value}
    (hv : ∀ w ∈ v.leaves, w.isDatum = true) (mode : Mode) :
    (v.leaves.all Value.hasLiteral = true → parse (name ++ " = " ++ v.repr) mode
      = .ok ⟨[.assign 1 (.name name) v.source], mode⟩)
    ∧ (v.leaves.all Value.hasLiteral = false →
      ∃ e, parse (name ++ " = " ++ v.repr) mode = .error e) := by
  have hfront : ∃ c cs, (name ++ " = " ++ v.repr).toList = c :: cs ∧ c ∉ blanks := by
    obtain ⟨c, cs, hspelling, hc, -⟩ :=
      Lexeme.spelling_eq (l := .word name) (isIdentifier_of_isName hname)
    refine ⟨c, cs ++ " = ".toList ++ v.repr.toList, ?_, hc⟩
    rw [Lexeme.spelling] at hspelling
    rw [String.toList_append, String.toList_append, hspelling]
    rfl
  obtain ⟨hreads, hfails⟩ := tokenize_line (lexes_setting hname hv) hfront
  constructor
  · intro hfits
    have hstands := v.stands (Value.leaves_stand hv hfits)
    obtain ⟨ts, hts, hmoved⟩ := hreads hfits (hstands.setting_neat hname) (List.cons_ne_nil _ _)
    exact parse_of_layout hts hmoved (Parser.programTokens_setting hstands hname 0) mode
  · intro hfits
    obtain ⟨e, he⟩ := hfails hfits
    exact ⟨.lex e, by rw [parse, he]⟩

/-! ## The expression of a value -/

mutual

/-- The expression of a value has no shell literals. -/
theorem Value.notes_source (line : Nat) : ∀ v : Value, v.source.notes line = []
  | .none | .bool _ | .str _ | .builtin _ | .method .. => rfl
  | .int i => by
    rw [Value.source]
    split <;> rfl
  | .tuple items | .list items => notes_sources line items

theorem notes_sources (line : Nat) : ∀ vs : List Value, allNotes line (sources vs) = []
  | [] => rfl
  | v :: vs => by
    rw [sources, allNotes, v.notes_source line, notes_sources line vs, List.append_nil]

end

theorem Value.siteNotes_source (line : Nat) (d : Shell.Delivery) (v : Value) :
    v.source.siteNotes line d = [] := by
  cases v with
  | int i =>
    rw [Value.source]
    split <;> rfl
  | _ => rfl

/-- Minus takes a negative number back. -/
theorem unary_neg {i : Int64} (hi : i ≠ Int64.minValue) :
    Value.unary .neg (.int (-i)) = .ok (.int i) := by
  have hback : -(-i).toInt = i.toInt := by rw [Lexer.State.toInt_neg hi, Int.neg_neg]
  have hfits : Value.int64? i.toInt = some i := by
    rw [Value.int64?, if_pos ⟨Int64.minValue_le_toInt i, Int64.toInt_le i⟩, Int64.ofInt_toInt]
  change (Value.narrow (-(-i).toInt)).map Value.int = _
  rw [hback, Value.narrow, hfits]
  rfl

mutual

/-- **The expression of a value gives the value** that is read back. -/
theorem Value.eval_source (host : Host ω) (ns : Namespace) :
    ∀ v : Value, (∀ w ∈ v.leaves, w.isDatum = true ∧ w.hasLiteral = true) →
      v.source.eval host ns = pure v.readBack
  | .none, _ | .bool _, _ | .str _, _ => rfl
  | .int i, h => by
    have hi : i ≠ Int64.minValue := by simpa [Value.leaves, Value.isDatum, Value.hasLiteral] using h
    rw [Value.source]
    split
    · rfl
    · change EvalM.ofExcept (Value.unary .neg (.int (-i))) = _
      rw [unary_neg hi]
      rfl
  | .tuple items, h | .list items, h => by
    rw [Value.source, Expr.eval, eval_sources host ns items h, pure_bind]
    rfl
  | .builtin _, h | .method .., h => by simp [Value.leaves, Value.isDatum] at h

theorem eval_sources (host : Host ω) (ns : Namespace) :
    ∀ vs : List Value, (∀ w ∈ allLeaves vs, w.isDatum = true ∧ w.hasLiteral = true) →
      evalAll host ns (sources vs) = pure (allReadBack vs)
  | [], _ => rfl
  | v :: vs, h => by
    rw [allLeaves, List.forall_mem_append] at h
    rw [sources, evalAll, v.eval_source host ns h.1, pure_bind, eval_sources host ns vs h.2]
    rfl

end

/-! ## Runs -/

/-- A statement that sets a variable to what an expression without effects gives. -/
theorem execProgram_setting {run : Run ω} {line : Nat} {e : Expr} {v : Value} {m : Machine ω}
    (he : e.eval run.host m.vars = pure v) :
    execProgram run [.assign line (.name name) e] m
      = (.ok (), { m with vars := m.vars.set name v }) := by
  have heval : ExecM.evalAt line (e.eval run.host) m = (.ok v, m) := by
    rw [ExecM.evalAt_apply, he]
    rfl
  have hbind : ExecM.bindAt line (.name name) v m
      = (.ok (), { m with vars := m.vars.set name v }) := ExecM.bindAt_apply line _ v m
  have hexec : (Stmt.assign line (.name name) e).exec run m
      = (.ok .next, { m with vars := m.vars.set name v }) := by
    rw [Stmt.exec, Effects.bind_ok heval, Effects.bind_ok hbind]
    rfl
  rw [execProgram, Effects.bind_ok hexec]
  rfl

/-- The text of a written value with literals sets the variable to what is read back, and leaves
everything else but the log as it is. -/
theorem runSource_setting (host : Host ω) (budget : Nat) (hname : isName name = true) {v : Value}
    (hv : ∀ w ∈ v.leaves, w.isDatum = true) (hfits : v.leaves.all Value.hasLiteral = true)
    (mode : Mode) (m : Machine ω) :
    runSource host budget (name ++ " = " ++ v.repr) mode m
      = (.ok (), { m.logged [.expanded 0] with vars := m.vars.set name v.readBack }) := by
  have hnotes : Program.notes ⟨[.assign 1 (.name name) v.source], mode⟩ = [] := by
    change v.source.siteNotes 1 .single ++ v.source.notes 1 ++ [] = []
    rw [v.siteNotes_source, v.notes_source]
    rfl
  have hcount : Program.literalCount ⟨[.assign 1 (.name name) v.source], mode⟩ = 0 := by
    rw [Program.literalCount, hnotes]
    rfl
  rw [runSource, (parse_setting hname hv mode).1 hfits]
  dsimp only
  rw [Program.expand_eq_self hcount, hnotes, hcount, Program.run, Program.exec,
    execProgram_setting (v.eval_source host _ (Value.leaves_stand hv hfits))]
  rfl

/-- The text of any other written value is no program. -/
theorem runSource_unreadable (host : Host ω) (budget : Nat) (hname : isName name = true) {v : Value}
    (hv : ∀ w ∈ v.leaves, w.isDatum = true) (hfits : v.leaves.all Value.hasLiteral = false)
    (mode : Mode) (m : Machine ω) :
    ∃ e, runSource host budget (name ++ " = " ++ v.repr) mode m = (.error (.unparsable e), m) := by
  obtain ⟨e, he⟩ := (parse_setting hname hv mode).2 hfits
  exact ⟨e, by rw [runSource, he]⟩

theorem Value.all_hasLiteral_iff {v : Value} :
    v.leaves.all hasLiteral = true ↔ ∀ i, .int i ∈ v.leaves → i ≠ Int64.minValue := by
  rw [List.all_eq_true]
  constructor
  · intro h i hi
    simpa [hasLiteral] using h _ hi
  · intro h w hw
    cases w with
    | int i => simpa [hasLiteral] using h i hw
    | _ => rfl

theorem Value.readBack_eq_iff_control {v : Value} :
    v.readBack = v ↔ ∀ s, .str s ∈ v.leaves →
      ∀ c ∈ s.toList, Text.isControl c = true → c ∈ ['\n', '\r', '\t'] := by
  have hchar : ∀ c : Char, isUnreadable c = false
      ↔ (Text.isControl c = true → c ∈ ['\n', '\r', '\t']) := by
    intro c
    rw [isUnreadable, Bool.and_eq_false_imp, Bool.not_eq_false', List.contains_iff_mem]
  rw [v.readBack_eq_iff]
  constructor
  · intro h s hs c hc
    have hall : s.toList.all (fun c => !isUnreadable c) = true := h _ hs
    have hnot := List.all_eq_true.mp hall c hc
    exact (hchar c).mp (by simpa using hnot)
  · intro h w hw
    cases w with
    | str s =>
      refine List.all_eq_true.mpr fun c hc => ?_
      rw [Bool.not_eq_true']
      exact (hchar c).mpr (h s hw c hc)
    | _ => rfl

/--
**What is written for a value is source text.**

For a value of any depth without functions in it, the text `x = ` and what is written for the value
runs to its end and sets `x` to that value, if and only if the least number does not occur in the
value, and a control character that does occur in one of its strings is a line feed, a carriage
return or a tab. The variables that were set before do not matter, nor do the host and the world.
-/
theorem repr_reads_back (host : Host ω) (budget : Nat) (mode : Mode) (m : Machine ω) {v : Value}
    (hv : ∀ w ∈ v.leaves, w.isDatum = true) :
    (∃ m', runSource host budget ("x = " ++ v.repr) mode m = (.ok (), m')
      ∧ m'.vars.get? "x" = some v)
    ↔ (∀ i, .int i ∈ v.leaves → i ≠ Int64.minValue)
      ∧ ∀ s, .str s ∈ v.leaves →
        ∀ c ∈ s.toList, Text.isControl c = true → c ∈ ['\n', '\r', '\t'] := by
  have hname : isName "x" = true := by decide
  rw [← Value.all_hasLiteral_iff, ← Value.readBack_eq_iff_control]
  cases hfits : v.leaves.all Value.hasLiteral with
  | true =>
    -- the text runs, so whether the value comes back is up to its strings
    have hrun := runSource_setting host budget hname hv hfits mode m
    have hget : (m.vars.set "x" v.readBack).get? "x" = some v.readBack := by
      rw [Namespace.get?_set, if_pos rfl]
    rw [show "x" ++ " = " = "x = " from rfl] at hrun
    rw [hrun]
    constructor
    · rintro ⟨m', ⟨⟩, hm'⟩
      exact ⟨rfl, Option.some_inj.mp (hget.symm.trans hm')⟩
    · rintro ⟨-, hback⟩
      exact ⟨_, rfl, hget.trans (congrArg some hback)⟩
  | false =>
    -- the text does not run, and the least number occurs
    obtain ⟨e, hrun⟩ := runSource_unreadable host budget hname hv hfits mode m
    rw [show "x" ++ " = " = "x = " from rfl] at hrun
    rw [hrun]
    constructor
    · rintro ⟨m', ⟨⟩, -⟩
    · rintro ⟨⟨⟩, -⟩

/-- A value of some depth whose string is written in double quotes, and two that do not come back:
the least number has no literal, and an escape is written as four characters. -/
theorem repr_reads_back_of_nested :
    let m : Machine Unit := ⟨.fresh, (), []⟩
    let runs (v : Value) : Prop := ∃ m',
      runSource .silent 0 ("x = " ++ v.repr) .file m = (.ok (), m') ∧ m'.vars.get? "x" = some v
    let v : Value := .tuple [.list [.int (-7), .none, .str "it's\n"]]
    v.repr = "([-7, None, \"it's\\n\"],)" ∧ runs v ∧ ¬runs (.int Int64.minValue)
      ∧ ¬runs (.list [.str "\x07"]) := by
  intro m runs v
  have h : runs v := (repr_reads_back .silent 0 .file m (by decide)).mpr
    ⟨Value.all_hasLiteral_iff.mp (by decide), Value.readBack_eq_iff_control.mp rfl⟩
  have hleast : ¬runs (.int Int64.minValue) := fun h =>
    ((repr_reads_back .silent 0 .file m (by decide)).mp h).1 _ (List.mem_singleton_self _) rfl
  have hbell : ¬runs (.list [.str "\x07"]) := fun h =>
    absurd (((repr_reads_back .silent 0 .file m (by decide)).mp h).2 "\x07"
      (List.mem_singleton_self _) '\x07' (by decide) (by decide)) (by decide)
  exact ⟨by decide, h, hleast, hbell⟩

end Tilde
