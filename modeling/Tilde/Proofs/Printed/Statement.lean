import Tilde.Proofs.Joined.Statement
import Tilde.Proofs.Printed.Spelling
import Tilde.Proofs.Printed.Expression

/-!
# Reading printed statements back

The parser of a statement reads the lines of the statement back, in the layout that they have in a
text. What stands behind them must not go on with the statement: an `else` or an `except` would, and
so would a line of its last block (`GoesOn`).

A block is read line after line, and so are handlers, each of which needs fewer rounds of the loop
than there are lines. The depth of the blocks is bounded by the number of lines as well, and so the
number of tokens in the text is enough for every loop and every depth (`Room`).
-/

namespace Tilde.Parser

variable {n bound line d N : Nat} {e : Expr} {t : Target} {ls : List Lexeme} {us ts : List Token}
  {field : FieldParser} {x : Extra}

/-! ## Statements on one line -/

theorem isStar_printable (h : e.printable = true) : isStar e = false := by
  cases e with
  | star => cases h
  | _ => rfl

theorem any_isStar {es : List Expr} (h : allPrintable es = true) : es.any isStar = false := by
  induction es with
  | nil => rfl
  | cons e es ih =>
    obtain ⟨he, hes⟩ := Bool.and_eq_true_iff.mp h
    rw [List.any_cons, isStar_printable he, ih hes]
    rfl

theorem rejectStar_printable (h : e.printable = true) : rejectStar e = pure () := by
  cases e with
  | tuple items | list items =>
    unfold rejectStar
    simp only [any_isStar h]
    rfl
  | star => cases h
  | _ => rfl

/-- The rest of a statement that starts with an expression. -/
def expressionStmt (expr : Inner) (start : Token) : Parser Stmt := do
  let e ← exprList expr
  if ← acceptSymbol .assign then
    match toTarget e with
    | .error fault => throw ⟨fault, start.pos⟩
    | .ok target =>
      let value ← exprList expr
      rejectStar value
      return .assign start.pos.line target value
  else
    rejectStar e
    return .evaluate start.pos.line e

theorem Reads.simple {expr : Inner} {s : Stmt}
    (hstart : (frontToken (us ++ ts)).lexeme.startsItem = true)
    (h : Reads (expressionStmt expr (frontToken (us ++ ts))) n us s ts) :
    Reads (simple expr) n us s ts := by
  refine .peekToken ?_
  dsimp only
  split
  case h_5 => exact h
  all_goals
    next heq =>
      rw [heq] at hstart
      cases hstart

/-- A simple statement on a line of its own. -/
def ReadsSimple (field : FieldParser) (bound n line : Nat) (ls : List Lexeme) (s : Stmt) : Prop :=
  ∀ ts, (frontToken ts).lexeme = .newline →
    Reads (simple (exprAt field bound)) n (placed line ls) s ts

theorem evaluate_reads (h : e.printable = true) (hbound : (e.lexemes x 0).length < bound)
    (hn : (e.lexemes x 0).length ≤ n) :
    ReadsSimple field bound n line (e.lexemes x 0) (.evaluate line e) := by
  intro ts hts
  have hspells := lexemes_spells x (Nat.zero_le 8) e h
  refine .simple hspells.item.front (.bind_nil (hspells.item.alone hbound hn
    (stops_of_none (by rw [hts]; rfl)) (by rw [hts]; exact nofun)) (.miss ?_ (.ifFalse nofun ?_)))
  · rw [List.nil_append, hts]
    exact nofun
  · rw [rejectStar_printable h]
    obtain ⟨l, ls', hls, -⟩ := hspells.opens
    rw [hls]
    exact .pure

theorem assign_reads (ht : t.printable = true) (he : e.printable = true) (h : Spells 0 e ls)
    (hbound : (t.lexemes ++ .symbol .assign :: ls).length < bound)
    (hn : (t.lexemes ++ .symbol .assign :: ls).length ≤ n) :
    ReadsSimple field bound n line (t.lexemes ++ .symbol .assign :: ls) (.assign line t e) := by
  intro ts hts
  rw [List.length_append, List.length_cons] at hbound hn
  have hitem := target_item t ht
  rw [placed_append]
  refine .simple (by rw [List.append_assoc]; exact hitem.front) (.bind (hitem.alone (by omega)
    (by omega) (stops_of_none rfl) nofun) (.hit rfl (.ifTrue rfl ?_)))
  rw [toTarget_expr t ht]
  refine .bind_nil (h.item.alone (by omega) (by omega) (stops_of_none (by rw [hts]; rfl))
    (by rw [hts]; exact nofun)) ?_
  rw [rejectStar_printable he]
  obtain ⟨l, ls', hls, -⟩ := hitem.starts
  rw [hls]
  exact .pure

theorem assert_reads (h : e.printable = true) (hbound : (e.lexemes x 0).length < bound)
    (hn : (e.lexemes x 0).length ≤ n) :
    ReadsSimple field bound n line (.word "assert" :: e.lexemes x 0) (.assert line e none) := by
  intro ts hts
  refine .peekToken (.advance (.bind_nil ((lexemes_spells x (Nat.zero_le 8) e h).full hbound hn
    (stops_of_none (by rw [hts]; rfl))) (.miss ?_ (.ifFalse nofun .pure))))
  rw [List.nil_append, hts]
  exact nofun

theorem assertMessage_reads {message : Expr} {y : Extra} (h : e.printable = true)
    (hmessage : message.printable = true)
    (hbound : (e.lexemes x 0 ++ .symbol .comma :: message.lexemes y 0).length < bound)
    (hn : (e.lexemes x 0 ++ .symbol .comma :: message.lexemes y 0).length ≤ n) :
    ReadsSimple field bound n line
      (.word "assert" :: e.lexemes x 0 ++ .symbol .comma :: message.lexemes y 0)
      (.assert line e (some message)) := by
  intro ts hts
  rw [List.length_append, List.length_cons] at hbound hn
  rw [List.cons_append, placed_cons, placed_append]
  refine .peekToken (.advance (.bind ((lexemes_spells x (Nat.zero_le 8) e h).full (by omega)
    (by omega) (stops_of_none rfl)) (.hit rfl (.ifTrue rfl (.map ?_)))))
  exact (lexemes_spells y (Nat.zero_le 8) message hmessage).full (by omega) (by omega)
    (stops_of_none (by rw [hts]; rfl))

/-! ## Statements on several lines -/

variable {expr : Inner} {stmt : Parser Stmt} {lines more : List Line} {body : List Stmt}

/-- The parser reads the lines, of which the first is the line `n` and stands in `d` blocks, as a
statement, when a text of `N` tokens goes on as it may behind a statement. -/
def ReadsLines (stmt : Parser Stmt) (N d n : Nat) (lines : List Line) (s : Stmt) : Prop :=
  ∀ more, GoesOn d more →
    stmt N (layout d n (lines ++ more)) = .ok (s, layout d (n + lines.length) more)

/-- The lines are those of a block in a statement that stands in `d` blocks, and are read so. -/
structure ReadsBlock (stmt : Parser Stmt) (N d n : Nat) (lines : List Line) (body : List Stmt) :
    Prop where
  indented : ∃ ls rest, lines = ⟨d + 1, ls⟩ :: rest
  reads : ∀ more, Closes d more →
    repeatUpTo (bodyRound stmt) (N + 1) [] N (layout (d + 1) n (lines ++ more))
      = .ok (body, layout d (n + lines.length) more)

/-- The line that a block belongs to. -/
theorem layout_head : layout d n (⟨d, ls ++ [.symbol .colon]⟩ :: more)
    = placed n ls ++ ⟨.symbol .colon, ⟨n, 0⟩⟩ :: layoutToken .newline :: layout d (n + 1) more := by
  rw [layout_line, placed_append, List.append_assoc]
  rfl

theorem ReadsBlock.block {pos : Pos} (h : ReadsBlock stmt N d n lines body)
    (hmore : Closes d more) :
    block expr stmt N (⟨.symbol .colon, pos⟩ :: layoutToken .newline :: layout d n (lines ++ more))
      = .ok (body, layout d (n + lines.length) more) := by
  obtain ⟨ls, rest, hlines⟩ := h.indented
  have hopen : layout d n (lines ++ more)
      = layoutToken .indent :: layout (d + 1) n (lines ++ more) := by
    rw [hlines]
    exact layout_open
  rw [hopen]
  refine (bind_ok (expect_hit (by rfl))).trans ((bind_ok (accept_hit (by rfl))).trans ?_)
  refine (bind_ok (expect_hit (by rfl))).trans ?_
  exact (repeatFrom_apply []).trans (h.reads more hmore)

/-- No statement with a block starts with the lexemes. -/
def Plain (ls : List Lexeme) : Prop :=
  ∃ l ls', ls = l :: ls' ∧ ∀ w ∈ ["if", "while", "for", "try"], l ≠ .word w

theorem plain_of_item {l : Lexeme} (h : l.startsItem = true) : Plain (l :: ls) := by
  refine ⟨l, ls, rfl, fun w hw => ?_⟩
  rintro rfl
  simp only [List.mem_cons, List.not_mem_nil, or_false] at hw
  rcases hw with rfl | rfl | rfl | rfl <;> cases h

/-- A statement that does not own a block. -/
theorem ReadsSimple.readsLines {s : Stmt} (h : ReadsSimple field bound N n ls s)
    (hplain : Plain ls) :
    ReadsLines (statement (exprAt field bound) stmt) N d n [⟨d, ls⟩] s := by
  intro more _
  obtain ⟨l, ls, rfl, hstart⟩ := hplain
  have hline : Reads (statement (exprAt field bound) stmt) N
      (placed n (l :: ls) ++ [layoutToken .newline]) s (layout d (n + 1) more) := by
    refine .peekToken ?_
    dsimp only
    split
    case h_5 => exact .bind (h _ rfl) ((bind_ok (lineEnd_hit (by rfl))).trans rfl)
    all_goals
      next heq => exact absurd heq (hstart _ (by decide))
  rw [Reads, List.append_assoc] at hline
  rw [List.singleton_append, layout_line]
  exact hline

/-- The test of a condition or a loop, in front of its block. -/
theorem test_reads {p : Pos} (h : e.printable = true) (hbound : (e.lexemes x 0).length < bound)
    (hn : (e.lexemes x 0).length ≤ N) :
    exprAt field bound .full N (placed n (e.lexemes x 0) ++ ⟨.symbol .colon, p⟩ :: ts)
      = .ok (e, ⟨.symbol .colon, p⟩ :: ts) :=
  (lexemes_spells x (Nat.zero_le 8) e h).full hbound hn (stops_of_none rfl)

theorem while_reads (h : e.printable = true) (hbound : (e.lexemes x 0).length < bound)
    (hn : (e.lexemes x 0).length ≤ N) (hbody : ReadsBlock stmt N d (n + 1) lines body) :
    ReadsLines (statement (exprAt field bound) stmt) N d n
      (⟨d, .word "while" :: e.lexemes x 0 ++ [.symbol .colon]⟩ :: lines) (.whileLoop n e body) := by
  intro more hmore
  rw [List.cons_append, layout_head]
  refine (bind_ok peekToken_apply).trans ((bind_ok advance_apply).trans ?_)
  refine (bind_ok (test_reads h hbound hn)).trans ((bind_ok (hbody.block hmore.closes)).trans ?_)
  rw [List.length_cons, Nat.add_comm lines.length, ← Nat.add_assoc]
  rfl

theorem branch_reads (hN : 0 < N) (h : e.printable = true) (hbound : (e.lexemes x 0).length < bound)
    (hn : (e.lexemes x 0).length ≤ N) (hbody : ReadsBlock stmt N d (n + 1) lines body) :
    ReadsLines (statement (exprAt field bound) stmt) N d n
      (⟨d, .word "if" :: e.lexemes x 0 ++ [.symbol .colon]⟩ :: lines) (.branch n e body []) := by
  intro more hmore
  obtain ⟨N, rfl⟩ := Nat.exists_eq_add_one_of_ne_zero (n := N) (by omega)
  rw [List.cons_append, layout_head]
  refine (bind_ok peekToken_apply).trans ((bind_ok advance_apply).trans ?_)
  refine (bind_ok read_apply).trans ((bind_ok (test_reads h hbound hn)).trans ?_)
  refine (bind_ok (hbody.block hmore.closes)).trans ((bind_ok peekToken_apply).trans ?_)
  rw [List.length_cons, Nat.add_comm lines.length, ← Nat.add_assoc]
  change Reads _ _ [] _ _
  split
  · next heq => exact absurd heq (hmore.front_ne nofun nofun rfl)
  · next heq => exact absurd heq (hmore.front_ne nofun nofun rfl)
  · exact .pure

theorem alternative_reads {orelse : List Stmt} {lines' : List Line} (hN : 0 < N)
    (h : e.printable = true) (hbound : (e.lexemes x 0).length < bound)
    (hn : (e.lexemes x 0).length ≤ N) (hbody : ReadsBlock stmt N d (n + 1) lines body)
    (horelse : ReadsBlock stmt N d (n + 1 + lines.length + 1) lines' orelse) :
    ReadsLines (statement (exprAt field bound) stmt) N d n
      (⟨d, .word "if" :: e.lexemes x 0 ++ [.symbol .colon]⟩ :: lines
        ++ ⟨d, [.word "else", .symbol .colon]⟩ :: lines')
      (.branch n e body orelse) := by
  intro more hmore
  obtain ⟨N, rfl⟩ := Nat.exists_eq_add_one_of_ne_zero (n := N) (by omega)
  -- the `else` stands as deep as the `if`, so that it ends the block in front of it
  have helse : Closes d (⟨d, [.word "else"] ++ [.symbol .colon]⟩ :: (lines' ++ more)) := by
    rintro line ⟨⟩
    exact Nat.le_refl d
  have hblock : block (exprAt field bound) stmt (N + 1) (⟨.symbol .colon, ⟨n, 0⟩⟩ :: _) = _ :=
    hbody.block helse
  rw [layout_head] at hblock
  rw [List.cons_append, List.cons_append, layout_head, List.append_assoc]
  refine (bind_ok peekToken_apply).trans ((bind_ok advance_apply).trans ?_)
  refine (bind_ok read_apply).trans ((bind_ok (test_reads h hbound hn)).trans ?_)
  refine (bind_ok hblock).trans ((bind_ok peekToken_apply).trans ((bind_ok advance_apply).trans ?_))
  refine (bind_ok (horelse.block hmore.closes)).trans ?_
  rw [List.length_cons, List.length_append, List.length_cons,
    show n + 1 + lines.length + 1 + lines'.length = n + (lines.length + (lines'.length + 1) + 1) by
      omega]
  rfl

theorem forEach_reads (ht : t.printable = true) (hstar : t.isStar = false) (h : e.printable = true)
    (hbound : (t.lexemes ++ .word "in" :: e.lexemes x 0).length < bound)
    (hn : (t.lexemes ++ .word "in" :: e.lexemes x 0).length ≤ N)
    (hbody : ReadsBlock stmt N d (n + 1) lines body) :
    ReadsLines (statement (exprAt field bound) stmt) N d n
      (⟨d, .word "for" :: t.lexemes ++ .word "in" :: e.lexemes x 0 ++ [.symbol .colon]⟩ :: lines)
      (.forEach n t e body) := by
  intro more hmore
  rw [List.length_append, List.length_cons] at hbound hn
  rw [List.cons_append, layout_head, List.cons_append, placed_cons, placed_append, List.cons_append,
    List.append_assoc]
  refine (bind_ok peekToken_apply).trans ((bind_ok advance_apply).trans ?_)
  refine (bind_ok peekToken_apply).trans ?_
  refine (bind_ok (loopTarget_reads ht hstar (by omega) (by rfl))).trans ?_
  rw [toTarget_expr t ht]
  refine (bind_ok (accept_hit (by rfl))).trans ?_
  refine (bind_ok ((lexemes_spells x (Nat.zero_le 8) e h).item.alone (by omega) (by omega)
    (stops_of_none (by rfl)) (by exact nofun))).trans ?_
  refine (bind_ok (hbody.block hmore.closes)).trans ?_
  rw [List.length_cons, Nat.add_comm lines.length, ← Nat.add_assoc]
  rfl

/-! ## Handlers -/

variable {kind name : Option String} {hs : List Handler} {lines' : List Line}

theorem handlerKind_reads (hkind : kind.all isName = true)
    (hts : handlerKind N ts = .ok (none, ts)) :
    Reads handlerKind N (placed n (kindLexemes kind)) kind ts := by
  cases kind with
  | none => exact hts
  | some kind =>
    have hkeyword : ¬isKeyword kind = true := by
      rw [isKeyword_of_isName (by simpa using hkind)]
      exact nofun
    exact .peek (.ifFalse hkeyword (.advance .pure))

/-- What a handler asks for and binds is read, and then its block. -/
theorem handlerRound_reads (hkind : kind.all isName = true) (hname : name.all isName = true)
    (hbody : ReadsBlock stmt N d (n + 1) lines body) (hmore : Closes d more) (read : List Handler) :
    handlerRound expr stmt read N (layout d n
        (⟨d, .word "except" :: kindLexemes kind ++ bindingLexemes name ++ [.symbol .colon]⟩
          :: (lines ++ more)))
      = .ok (.inl (.mk kind name body :: read), layout d (n + 1 + lines.length) more) := by
  have hblock : block expr stmt N (⟨.symbol .colon, ⟨n, 0⟩⟩ :: _) = _ := hbody.block hmore
  rw [layout_head, placed_append, List.append_assoc]
  refine (bind_ok (accept_hit (by rfl))).trans ?_
  cases name with
  | none =>
    refine (bind_ok (handlerKind_reads hkind (by rfl))).trans ?_
    refine (bind_ok (accept_miss (by exact nofun))).trans ?_
    exact (bind_ok (a := none) rfl).trans ((bind_ok hblock).trans rfl)
  | some name =>
    have hkeyword := isKeyword_of_isName (by simpa using hname)
    refine (bind_ok (handlerKind_reads hkind (by rfl))).trans ?_
    refine (bind_ok (accept_hit (by rfl))).trans ?_
    refine (bind_ok (name_hit hkeyword (by rfl))).trans ?_
    exact (bind_ok (a := some name) rfl).trans ((bind_ok hblock).trans rfl)

/-- The lines are read as handlers. -/
def ReadsHandlers (expr : Inner) (stmt : Parser Stmt) (N d n : Nat) (lines : List Line)
    (hs : List Handler) : Prop :=
  ∀ more, GoesOn d more → ∀ read b, hs.length < b →
    repeatUpTo (handlerRound expr stmt) b read N (layout d n (lines ++ more))
      = .ok (read.reverse ++ hs, layout d (n + lines.length) more)

theorem ReadsHandlers.nil : ReadsHandlers expr stmt N d n [] [] := by
  intro more hmore read b hb
  obtain ⟨b, rfl⟩ := Nat.exists_eq_add_one_of_ne_zero (n := b) (by rintro rfl; cases hb)
  have hfront : (frontToken (layout d n more)).lexeme ≠ .word "except" :=
    hmore.front_ne nofun nofun rfl
  have hround : handlerRound expr stmt read N (layout d n more)
      = .ok (.inr read.reverse, layout d n more) := (bind_ok (accept_miss hfront)).trans rfl
  rw [List.nil_append, repeatUpTo, bind_ok hround, List.append_nil]
  rfl

theorem ReadsHandlers.cons (hkind : kind.all isName = true) (hname : name.all isName = true)
    (hbody : ReadsBlock stmt N d (n + 1) lines body)
    (hhead : ∀ line ∈ lines'.head?, line.depth ≤ d)
    (hrest : ReadsHandlers expr stmt N d (n + 1 + lines.length) lines' hs) :
    ReadsHandlers expr stmt N d n
      (⟨d, .word "except" :: kindLexemes kind ++ bindingLexemes name ++ [.symbol .colon]⟩ :: lines
        ++ lines') (.mk kind name body :: hs) := by
  intro more hmore read b hb
  obtain ⟨b, rfl⟩ := Nat.exists_eq_add_one_of_ne_zero (n := b) (by rintro rfl; cases hb)
  rw [List.length_cons] at hb
  rw [List.cons_append, List.cons_append, List.append_assoc lines, repeatUpTo,
    bind_ok (handlerRound_reads hkind hname hbody (hmore.closes.append hhead) read)]
  refine (hrest more hmore _ b (by omega)).trans ?_
  rw [List.reverse_cons, List.append_assoc read.reverse, List.length_cons, List.length_append,
    show n + 1 + lines.length + lines'.length = n + (lines.length + lines'.length + 1) by omega]
  rfl

theorem attempt_reads (hbody : ReadsBlock stmt N d (n + 1) lines body)
    (hhead : ∀ line ∈ lines'.head?, line.depth ≤ d) (hne : hs ≠ []) (hN : hs.length ≤ N)
    (hhandlers : ReadsHandlers expr stmt N d (n + 1 + lines.length) lines' hs) :
    ReadsLines (statement expr stmt) N d n (⟨d, [.word "try", .symbol .colon]⟩ :: lines ++ lines')
      (.attempt n body hs) := by
  intro more hmore
  have hline : layout d n (⟨d, [.word "try", .symbol .colon]⟩ :: (lines ++ (lines' ++ more)))
      = placed n [.word "try"] ++ ⟨.symbol .colon, ⟨n, 0⟩⟩ :: layoutToken .newline
        :: layout d (n + 1) (lines ++ (lines' ++ more)) := by
    rw [← layout_head]
    rfl
  rw [List.cons_append, List.cons_append, List.append_assoc lines, hline]
  refine (bind_ok peekToken_apply).trans ((bind_ok advance_apply).trans ?_)
  refine (bind_ok (hbody.block (hmore.closes.append hhead))).trans ?_
  have hall : handlers expr stmt N (layout d (n + 1 + lines.length) (lines' ++ more))
      = .ok (hs, layout d (n + 1 + lines.length + lines'.length) more) :=
    (repeatFrom_apply []).trans (hhandlers more hmore [] (N + 1) (by omega))
  -- a guarded block without handlers would be refused
  have hempty : ¬hs.isEmpty = true := by simpa using hne
  rw [bind_ok hall, if_neg hempty, List.length_cons, List.length_append,
    show n + 1 + lines.length + lines'.length = n + (lines.length + lines'.length + 1) by omega]
  rfl

/-! ## Blocks -/

/-- The lines are read as the statements of a block in a statement that stands in `d` blocks. -/
def ReadsBody (stmt : Parser Stmt) (N d n : Nat) (lines : List Line) (body : List Stmt) : Prop :=
  ∀ more, Closes d more → ∀ read b, body.length < b →
    repeatUpTo (bodyRound stmt) b read N (layout (d + 1) n (lines ++ more))
      = .ok (read.reverse ++ body, layout d (n + lines.length) more)

theorem ReadsBody.nil : ReadsBody stmt N d n [] [] := by
  intro more hmore read b hb
  obtain ⟨b, rfl⟩ := Nat.exists_eq_add_one_of_ne_zero (n := b) (by rintro rfl; cases hb)
  rw [body_step, List.nil_append, layout_close hmore, List.append_nil]
  rfl

theorem startsStmt_layout {l : Lexeme} (h : l.startsStmt = true) :
    l ≠ .dedent ∧ l ≠ .eof ∧ l ≠ .newline := by
  refine ⟨?_, ?_, ?_⟩ <;> rintro rfl <;> cases h

theorem ReadsBody.cons {s : Stmt} {line : Line} (hline : line.Begins (d + 1))
    (hs : ReadsLines stmt N (d + 1) n (line :: lines) s)
    (hhead : ∀ line ∈ lines'.head?, line.Begins (d + 1))
    (hrest : ReadsBody stmt N d (n + (line :: lines).length) lines' body) :
    ReadsBody stmt N d n (line :: lines ++ lines') (s :: body) := by
  intro more hmore read b hb
  obtain ⟨b, rfl⟩ := Nat.exists_eq_add_one_of_ne_zero (n := b) (by rintro rfl; cases hb)
  rw [List.length_cons] at hb
  have hrun := hs (lines' ++ more) (hmore.goesOn.append hhead)
  have hnext := hrest more hmore (s :: read) b (by omega)
  rw [List.reverse_cons, List.append_assoc] at hnext
  obtain ⟨depth, lexemes⟩ := line
  obtain ⟨rfl, l, ls, rfl, hstart⟩ := hline
  obtain ⟨hdedent, heof, hnewline⟩ := startsStmt_layout hstart
  rw [List.append_assoc, body_step]
  refine (bind_ok peek_apply).trans ?_
  -- the front is none of the tokens that are not read as a statement
  have hfront : (frontToken (layout (d + 1) n
      (⟨d + 1, l :: ls⟩ :: lines ++ (lines' ++ more)))).lexeme = l := by
    rw [List.cons_append, layout_line]
    rfl
  rw [hfront, List.length_append, ← Nat.add_assoc]
  cases l with
  | dedent => exact absurd rfl hdedent
  | eof => exact absurd rfl heof
  | newline => exact absurd rfl hnewline
  | _ => exact (bind_ok hrun).trans hnext

/-! ## Every statement -/

theorem startsStmt_of_startsItem {l : Lexeme} (h : l.startsItem = true) : l.startsStmt = true := by
  simp only [Lexeme.startsStmt, h, Bool.true_or]

/-- The first line of a statement starts it. -/
theorem lines_begin (x : Extra) (d : Nat) (s : Stmt) (h : s.printable = true) :
    ∃ line rest, s.lines x d = line :: rest ∧ line.Begins d := by
  cases s with
  | evaluate _ value =>
    obtain ⟨l, ls, hls, hstart⟩ := (lexemes_spells (x.child 0) (Nat.zero_le 8) value h).item.starts
    exact ⟨_, [], rfl, rfl, l, ls, hls, startsStmt_of_startsItem hstart⟩
  | assign _ target value =>
    obtain ⟨ht, -⟩ := Bool.and_eq_true_iff.mp h
    obtain ⟨l, ls, hls, hstart⟩ := (target_item target ht).starts
    exact ⟨_, [], rfl, rfl, l, ls ++ .symbol .assign :: value.lexemes (x.child 0) 0,
      congrArg (· ++ _) hls, startsStmt_of_startsItem hstart⟩
  | assert _ _ message => cases message <;> exact ⟨_, _, rfl, rfl, _, _, rfl, rfl⟩
  | _ => exact ⟨_, _, rfl, rfl, _, _, rfl, rfl⟩

theorem bodyLines_begin (x : Extra) (d : Nat) {ss : List Stmt} (h : bodyPrintable ss = true) :
    ∀ line ∈ (bodyLines x d ss).head?, line.Begins d := by
  cases ss with
  | nil => exact nofun
  | cons s ss =>
    obtain ⟨hs, -⟩ := Bool.and_eq_true_iff.mp h
    obtain ⟨line, rest, hlines, hbegin⟩ := lines_begin (x.child 0) d s hs
    rw [bodyLines, hlines]
    rintro line ⟨⟩
    exact hbegin

/-- So many tokens are enough for the lines. -/
def Room (N : Nat) (lines : List Line) : Prop :=
  lines.length ≤ N ∧ ∀ line ∈ lines, line.lexemes.length < N

theorem Room.of_append (h : Room N (lines ++ lines')) : Room N lines ∧ Room N lines' := by
  obtain ⟨hcount, hlen⟩ := h
  rw [List.length_append] at hcount
  exact ⟨⟨by omega, fun line hline => hlen line (List.mem_append_left _ hline)⟩,
    ⟨by omega, fun line hline => hlen line (List.mem_append_right _ hline)⟩⟩

theorem Room.of_cons {line : Line} (h : Room N (line :: lines)) :
    line.lexemes.length < N ∧ Room N lines :=
  ⟨h.2 line (List.mem_cons_self ..), Nat.le_of_succ_le h.1,
    fun line hline => h.2 line (List.mem_cons_of_mem _ hline)⟩

theorem length_le_bodyLines (x : Extra) (d : Nat) {ss : List Stmt} (h : bodyPrintable ss = true) :
    ss.length ≤ (bodyLines x d ss).length := by
  induction ss generalizing x with
  | nil => exact Nat.zero_le _
  | cons s ss ih =>
    obtain ⟨hs, hss⟩ := Bool.and_eq_true_iff.mp h
    obtain ⟨line, rest, hlines, -⟩ := lines_begin (x.child 0) d s hs
    have := ih (x.child 1) hss
    rw [bodyLines, List.length_append, hlines, List.length_cons, List.length_cons]
    omega

theorem isEmpty_bodyLines (x : Extra) (d : Nat) {ss : List Stmt} (h : bodyPrintable ss = true) :
    (bodyLines x d ss).isEmpty = ss.isEmpty := by
  cases ss with
  | nil => rfl
  | cons s ss =>
    obtain ⟨hs, -⟩ := Bool.and_eq_true_iff.mp h
    obtain ⟨line, rest, hlines, -⟩ := lines_begin (x.child 0) d s hs
    rw [bodyLines, hlines]
    rfl

theorem length_le_handlerLines (x : Extra) (d : Nat) (hs : List Handler) :
    hs.length ≤ (handlerLines x d hs).length := by
  induction hs generalizing x with
  | nil => exact Nat.zero_le _
  | cons h hs ih =>
    obtain ⟨kind, name, body⟩ := h
    have := ih (x.child 1)
    rw [handlerLines, List.length_append, List.length_cons, List.length_cons]
    omega

theorem handlerLines_head (x : Extra) (d : Nat) (hs : List Handler) :
    ∀ line ∈ (handlerLines x d hs).head?, line.depth ≤ d := by
  cases hs with
  | nil => exact nofun
  | cons h hs =>
    obtain ⟨kind, name, body⟩ := h
    rintro line ⟨⟩
    exact Nat.le_refl d

theorem length_numberedBody (x : Extra) (d n : Nat) (ss : List Stmt) :
    (numberedBody x d n ss).length = ss.length := by
  induction ss generalizing x n with
  | nil => rfl
  | cons s ss ih => rw [numberedBody, List.length_cons, List.length_cons, ih]

theorem length_numberedHandlers (x : Extra) (d n : Nat) (hs : List Handler) :
    (numberedHandlers x d n hs).length = hs.length := by
  induction hs generalizing x n with
  | nil => rfl
  | cons h hs ih =>
    obtain ⟨kind, name, body⟩ := h
    rw [numberedHandlers, List.length_cons, List.length_cons, ih]

theorem ReadsBody.readsBlock {ss : List Stmt} (hne : ss.isEmpty = false)
    (hss : bodyPrintable ss = true) (hroom : Room N (bodyLines x (d + 1) ss))
    (h : ReadsBody stmt N d n (bodyLines x (d + 1) ss) (numberedBody x (d + 1) n ss)) :
    ReadsBlock stmt N d n (bodyLines x (d + 1) ss) (numberedBody x (d + 1) n ss) := by
  refine ⟨?_, fun more hmore => h more hmore [] (N + 1) ?_⟩
  · have hbegin := bodyLines_begin x (d + 1) hss
    have hlines := isEmpty_bodyLines x (d + 1) hss
    rw [hne] at hlines
    obtain ⟨⟨depth, lexemes⟩, rest, hrest⟩ :=
      List.exists_cons_of_ne_nil (List.isEmpty_eq_false_iff.mp hlines)
    rw [hrest] at hbegin ⊢
    obtain ⟨rfl, -⟩ := hbegin _ rfl
    exact ⟨_, _, rfl⟩
  · have hlen := length_le_bodyLines x (d + 1) hss
    have hcount := hroom.1
    rw [length_numberedBody]
    omega

mutual

theorem stmt_reads (x : Extra) (d n bound : Nat) : ∀ s : Stmt, s.printable = true →
    Room N (s.lines x d) → (s.lines x d).length ≤ bound + 1 →
    ReadsLines (stmtAt (exprAt field N) (bound + 1)) N d n (s.lines x d) (s.numbered x d n)
  | .pass _, _, _, _ | .breakLoop _, _, _, _ | .continueLoop _, _, _, _ =>
    ReadsSimple.readsLines (fun _ _ => .peekToken (.advance .pure)) ⟨_, _, rfl, by decide⟩
  | .evaluate _ value, h, hroom, _ => by
    obtain ⟨l, ls, hls, hstart⟩ := (lexemes_spells (x.child 0) (Nat.zero_le 8) value h).item.starts
    have hlen := hroom.of_cons.1
    exact (evaluate_reads h hlen (Nat.le_of_lt hlen)).readsLines (hls ▸ plain_of_item hstart)
  | .assign _ target value, h, hroom, _ => by
    obtain ⟨ht, hvalue⟩ := Bool.and_eq_true_iff.mp h
    obtain ⟨l, ls, hls, hstart⟩ := (target_item target ht).starts
    have hlen := hroom.of_cons.1
    refine (assign_reads ht hvalue (lexemes_spells _ (Nat.zero_le 8) value hvalue) hlen
      (Nat.le_of_lt hlen)).readsLines ?_
    rw [hls]
    exact plain_of_item hstart
  | .assert _ test none, h, hroom, _ => by
    obtain ⟨htest, -⟩ := Bool.and_eq_true_iff.mp h
    have hlen := Nat.lt_of_succ_lt hroom.of_cons.1
    exact (assert_reads htest hlen (Nat.le_of_lt hlen)).readsLines ⟨_, _, rfl, by decide⟩
  | .assert _ test (some message), h, hroom, _ => by
    obtain ⟨htest, hmessage⟩ := Bool.and_eq_true_iff.mp h
    have hlen := Nat.lt_of_succ_lt hroom.of_cons.1
    exact (assertMessage_reads htest hmessage hlen (Nat.le_of_lt hlen)).readsLines
      ⟨_, _, rfl, by decide⟩
  | .branch _ test body orelse, h, hroom, hbound => by
    obtain ⟨htest, hne, hbody, horelse⟩ := Stmt.printable_branch.mp h
    rw [Stmt.lines] at hroom hbound ⊢
    rw [List.length_append, List.length_cons] at hbound
    obtain ⟨hhead, hroomElse⟩ := hroom.of_append
    obtain ⟨hlen, hroomBody⟩ := hhead.of_cons
    rw [List.length_append, List.length_cons] at hlen
    -- each block is one deeper and reads within what the bound leaves
    have hblock := (body_reads (x.child 1) d (n + 1) bound body hbody hroomBody
      (by omega)).readsBlock hne hbody hroomBody
    cases hempty : orelse.isEmpty with
    | true =>
      rw [List.isEmpty_iff] at hempty
      subst hempty
      rw [bodyLines, elseLines, List.isEmpty_nil, if_pos rfl, List.append_nil]
      exact branch_reads (by omega) htest (by omega) (by omega) hblock
    | false =>
      have hlines := isEmpty_bodyLines (x.child 2) (d + 1) horelse
      rw [hempty] at hlines
      rw [elseLines, hlines, if_neg Bool.false_ne_true] at hroomElse hbound ⊢
      obtain ⟨-, hroomElse⟩ := hroomElse.of_cons
      rw [List.length_cons] at hbound
      exact alternative_reads (by omega) htest (by omega) (by omega) hblock
        ((body_reads (x.child 2) d _ bound orelse horelse hroomElse (by omega)).readsBlock hempty
          horelse hroomElse)
  | .whileLoop _ test body, h, hroom, hbound => by
    obtain ⟨htest, hne, hbody⟩ := Stmt.printable_whileLoop.mp h
    rw [Stmt.lines] at hroom hbound ⊢
    rw [List.length_cons] at hbound
    obtain ⟨hlen, hroomBody⟩ := hroom.of_cons
    rw [List.length_append, List.length_cons] at hlen
    exact while_reads htest (by omega) (by omega) ((body_reads (x.child 1) d (n + 1) bound body
      hbody hroomBody (by omega)).readsBlock hne hbody hroomBody)
  | .forEach _ target items body, h, hroom, hbound => by
    obtain ⟨htarget, hstar, hitems, hne, hbody⟩ := Stmt.printable_forEach.mp h
    rw [Stmt.lines] at hroom hbound ⊢
    rw [List.length_cons] at hbound
    obtain ⟨hlen, hroomBody⟩ := hroom.of_cons
    simp only [List.length_append, List.length_cons] at hlen
    refine forEach_reads htarget hstar hitems ?_ ?_ ((body_reads (x.child 1) d (n + 1) bound body
      hbody hroomBody (by omega)).readsBlock hne hbody hroomBody)
    all_goals
      rw [List.length_append, List.length_cons]
      omega
  | .attempt _ body handlers, h, hroom, hbound => by
    obtain ⟨hne, hbody, hsome, hhandlers⟩ := Stmt.printable_attempt.mp h
    rw [Stmt.lines] at hroom hbound ⊢
    rw [List.length_append, List.length_cons] at hbound
    obtain ⟨hhead, hroomHandlers⟩ := hroom.of_append
    obtain ⟨-, hroomBody⟩ := hhead.of_cons
    have hcount := length_numberedHandlers (x.child 1) d
      (n + 1 + (bodyLines (x.child 0) (d + 1) body).length) handlers
    refine attempt_reads ((body_reads (x.child 0) d (n + 1) bound body hbody hroomBody
      (by omega)).readsBlock hne hbody hroomBody) (handlerLines_head _ d handlers) ?_ ?_
      (handlers_read (x.child 1) d _ bound handlers hhandlers hroomHandlers (by omega))
    · intro hnil
      rw [hnil, List.length_nil] at hcount
      cases handlers with
      | nil => cases hsome
      | cons h hs => cases hcount
    · have hle := length_le_handlerLines (x.child 1) d handlers
      have hfit := hroomHandlers.1
      omega

theorem body_reads (x : Extra) (d n bound : Nat) : ∀ ss : List Stmt, bodyPrintable ss = true →
    Room N (bodyLines x (d + 1) ss) → (bodyLines x (d + 1) ss).length ≤ bound →
    ReadsBody (stmtAt (exprAt field N) bound) N d n (bodyLines x (d + 1) ss)
      (numberedBody x (d + 1) n ss)
  | [], _, _, _ => .nil
  | s :: ss, h, hroom, hbound => by
    obtain ⟨hs, hss⟩ := Bool.and_eq_true_iff.mp h
    rw [bodyLines] at hroom hbound ⊢
    rw [List.length_append] at hbound
    obtain ⟨hroomFirst, hroomRest⟩ := hroom.of_append
    -- a statement has a line at least, so the bound is no less than one
    obtain ⟨line, rest, hlines, hbegin⟩ := lines_begin (x.child 0) (d + 1) s hs
    have hpos : 0 < (s.lines (x.child 0) (d + 1)).length := by rw [hlines]; exact Nat.succ_pos _
    obtain ⟨bound, rfl⟩ := Nat.exists_eq_add_one_of_ne_zero (n := bound) (by omega)
    have hfirst := stmt_reads (x.child 0) (d + 1) n bound s hs hroomFirst (by omega)
    have hrest := body_reads (x.child 1) d
      (n + (s.lines (x.child 0) (d + 1)).length) (bound + 1) ss hss hroomRest (by omega)
    rw [numberedBody]
    rw [hlines] at hfirst hrest ⊢
    exact .cons hbegin hfirst (bodyLines_begin (x.child 1) (d + 1) hss) hrest

theorem handlers_read (x : Extra) (d n bound : Nat) : ∀ hs : List Handler,
    handlersPrintable hs = true → Room N (handlerLines x d hs) →
    (handlerLines x d hs).length ≤ bound + 1 →
    ReadsHandlers (exprAt field N) (stmtAt (exprAt field N) bound) N d n (handlerLines x d hs)
      (numberedHandlers x d n hs)
  | [], _, _, _ => .nil
  | .mk kind name body :: hs, h, hroom, hbound => by
    obtain ⟨hkind, hname, hne, hbody, hhs⟩ := handlersPrintable_cons.mp h
    rw [handlerLines] at hroom hbound ⊢
    rw [List.length_append, List.length_cons] at hbound
    obtain ⟨hhead, hroomRest⟩ := hroom.of_append
    obtain ⟨-, hroomBody⟩ := hhead.of_cons
    exact .cons hkind hname ((body_reads (x.child 0) d (n + 1) bound body hbody hroomBody
      (by omega)).readsBlock hne hbody hroomBody) (handlerLines_head _ d hs)
      (handlers_read (x.child 1) d _ bound hs hhs hroomRest (by omega))

end

end Tilde.Parser
