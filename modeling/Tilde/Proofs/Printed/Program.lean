import Tilde.Proofs.Joined.Program
import Tilde.Proofs.Printed.Regular
import Tilde.Proofs.Printed.Statement

/-!
# Parsing undoes printing

A printed program parses, and gives back the program. The lines of its statements are those they
have been printed on, whatever lines they had before. Extra parentheses make no difference, wherever
they stand.
-/

namespace Tilde

/-! ## Programs without their lines -/

mutual

/-- The statement with the line zero, and so are the statements of its blocks. -/
def Stmt.unlined : Stmt → Stmt
  | .evaluate _ value => .evaluate 0 value
  | .assign _ target value => .assign 0 target value
  | .assert _ test message => .assert 0 test message
  | .pass _ => .pass 0
  | .breakLoop _ => .breakLoop 0
  | .continueLoop _ => .continueLoop 0
  | .branch _ test body orelse => .branch 0 test (unlinedBody body) (unlinedBody orelse)
  | .whileLoop _ test body => .whileLoop 0 test (unlinedBody body)
  | .forEach _ target items body => .forEach 0 target items (unlinedBody body)
  | .attempt _ body handlers => .attempt 0 (unlinedBody body) (unlinedHandlers handlers)

/-- Statements with the line zero. -/
def unlinedBody : List Stmt → List Stmt
  | [] => []
  | s :: ss => s.unlined :: unlinedBody ss

/-- Handlers with the line zero in their blocks. -/
def unlinedHandlers : List Handler → List Handler
  | [] => []
  | .mk kind name body :: hs => .mk kind name (unlinedBody body) :: unlinedHandlers hs

end

mutual

theorem Stmt.unlined_numbered (x : Extra) (d n : Nat) :
    ∀ s : Stmt, (s.numbered x d n).unlined = s.unlined
  | .evaluate .. | .assign .. | .assert .. | .pass _ | .breakLoop _ | .continueLoop _ => rfl
  | .branch _ _ body orelse => by
    rw [Stmt.numbered, Stmt.unlined, unlinedBody_numbered _ _ _ body,
      unlinedBody_numbered _ _ _ orelse, Stmt.unlined]
  | .whileLoop _ _ body | .forEach _ _ _ body => by
    rw [Stmt.numbered, Stmt.unlined, unlinedBody_numbered _ _ _ body, Stmt.unlined]
  | .attempt _ body handlers => by
    rw [Stmt.numbered, Stmt.unlined, unlinedBody_numbered _ _ _ body,
      unlinedHandlers_numbered _ _ _ handlers, Stmt.unlined]

theorem unlinedBody_numbered (x : Extra) (d n : Nat) :
    ∀ ss : List Stmt, unlinedBody (numberedBody x d n ss) = unlinedBody ss
  | [] => rfl
  | s :: ss => by
    rw [numberedBody, unlinedBody, Stmt.unlined_numbered _ _ _ s, unlinedBody_numbered _ _ _ ss,
      unlinedBody]

theorem unlinedHandlers_numbered (x : Extra) (d n : Nat) :
    ∀ hs : List Handler, unlinedHandlers (numberedHandlers x d n hs) = unlinedHandlers hs
  | [] => rfl
  | .mk _ _ body :: hs => by
    rw [numberedHandlers, unlinedHandlers, unlinedBody_numbered _ _ _ body,
      unlinedHandlers_numbered _ _ _ hs, unlinedHandlers]

end

/-! ## Lines and extra parentheses -/

theorem elseLines_length (d : Nat) (lines : List Line) :
    (elseLines d lines).length = if lines.length = 0 then 0 else lines.length + 1 := by
  cases lines <;> rfl

mutual

/-- Extra parentheses do not change the number of lines. -/
theorem Stmt.lines_length (x y : Extra) (d : Nat) :
    ∀ s : Stmt, (s.lines x d).length = (s.lines y d).length
  | .evaluate .. | .assign .. | .assert _ _ none | .assert _ _ (some _) | .pass _ | .breakLoop _
  | .continueLoop _ => rfl
  | .branch _ _ body orelse => by
    rw [Stmt.lines, Stmt.lines, List.length_append, List.length_append, List.length_cons,
      List.length_cons, elseLines_length, elseLines_length,
      bodyLines_length (x.child 1) (y.child 1) _ body,
      bodyLines_length (x.child 2) (y.child 2) _ orelse]
  | .whileLoop _ _ body | .forEach _ _ _ body => by
    rw [Stmt.lines, Stmt.lines, List.length_cons, List.length_cons,
      bodyLines_length (x.child 1) (y.child 1) _ body]
  | .attempt _ body handlers => by
    rw [Stmt.lines, Stmt.lines, List.length_append, List.length_append, List.length_cons,
      List.length_cons, bodyLines_length (x.child 0) (y.child 0) _ body,
      handlerLines_length (x.child 1) (y.child 1) _ handlers]

theorem bodyLines_length (x y : Extra) (d : Nat) :
    ∀ ss : List Stmt, (bodyLines x d ss).length = (bodyLines y d ss).length
  | [] => rfl
  | s :: ss => by
    rw [bodyLines, bodyLines, List.length_append, List.length_append,
      Stmt.lines_length (x.child 0) (y.child 0) _ s,
      bodyLines_length (x.child 1) (y.child 1) _ ss]

theorem handlerLines_length (x y : Extra) (d : Nat) :
    ∀ hs : List Handler, (handlerLines x d hs).length = (handlerLines y d hs).length
  | [] => rfl
  | .mk _ _ body :: hs => by
    rw [handlerLines, handlerLines, List.length_append, List.length_append, List.length_cons,
      List.length_cons, bodyLines_length (x.child 0) (y.child 0) _ body,
      handlerLines_length (x.child 1) (y.child 1) _ hs]

end

mutual

/-- Extra parentheses do not change the line of a statement. -/
theorem Stmt.numbered_extra (x y : Extra) (d n : Nat) :
    ∀ s : Stmt, s.numbered x d n = s.numbered y d n
  | .evaluate .. | .assign .. | .assert .. | .pass _ | .breakLoop _ | .continueLoop _ => rfl
  | .branch _ _ body orelse => by
    rw [Stmt.numbered, Stmt.numbered, numberedBody_extra (x.child 1) (y.child 1) _ _ body,
      bodyLines_length (x.child 1) (y.child 1) _ body,
      numberedBody_extra (x.child 2) (y.child 2) _ _ orelse]
  | .whileLoop _ _ body | .forEach _ _ _ body => by
    rw [Stmt.numbered, Stmt.numbered, numberedBody_extra (x.child 1) (y.child 1) _ _ body]
  | .attempt _ body handlers => by
    rw [Stmt.numbered, Stmt.numbered, numberedBody_extra (x.child 0) (y.child 0) _ _ body,
      bodyLines_length (x.child 0) (y.child 0) _ body,
      numberedHandlers_extra (x.child 1) (y.child 1) _ _ handlers]

theorem numberedBody_extra (x y : Extra) (d n : Nat) :
    ∀ ss : List Stmt, numberedBody x d n ss = numberedBody y d n ss
  | [] => rfl
  | s :: ss => by
    rw [numberedBody, numberedBody, Stmt.numbered_extra (x.child 0) (y.child 0) _ _ s,
      Stmt.lines_length (x.child 0) (y.child 0) _ s,
      numberedBody_extra (x.child 1) (y.child 1) _ _ ss]

theorem numberedHandlers_extra (x y : Extra) (d n : Nat) :
    ∀ hs : List Handler, numberedHandlers x d n hs = numberedHandlers y d n hs
  | [] => rfl
  | .mk _ _ body :: hs => by
    rw [numberedHandlers, numberedHandlers, numberedBody_extra (x.child 0) (y.child 0) _ _ body,
      bodyLines_length (x.child 0) (y.child 0) _ body,
      numberedHandlers_extra (x.child 1) (y.child 1) _ _ hs]

end

namespace Parser

variable {field : FieldParser} {N n : Nat}

/-- The lines of a program are read as its statements. -/
theorem text_reads (bound : Nat) (x : Extra) {ss : List Stmt} (hss : bodyPrintable ss = true)
    (hroom : Room N (bodyLines x 0 ss)) (hbound : (bodyLines x 0 ss).length ≤ bound + 1)
    (read : List Stmt) {b : Nat} (hb : ss.length < b) :
    repeatUpTo (textRound (stmtAt (exprAt field N) (bound + 1))) b read N
        (layout 0 n (bodyLines x 0 ss))
      = .ok (read.reverse ++ numberedBody x 0 n ss, [layoutToken .eof]) := by
  induction ss generalizing x n read b with
  | nil =>
    obtain ⟨b, rfl⟩ := Nat.exists_eq_add_one_of_ne_zero (n := b) (by rintro rfl; cases hb)
    rw [text_step, numberedBody, List.append_nil]
    rfl
  | cons s ss ih =>
    obtain ⟨b, rfl⟩ := Nat.exists_eq_add_one_of_ne_zero (n := b) (by rintro rfl; cases hb)
    obtain ⟨hs, hrest⟩ := Bool.and_eq_true_iff.mp hss
    rw [bodyLines] at hroom hbound ⊢
    rw [List.length_append] at hbound
    obtain ⟨hroomFirst, hroomRest⟩ := hroom.of_append
    obtain ⟨⟨depth, lexemes⟩, lines, hlines, rfl, l, ls, hls, hstart⟩ :=
      lines_begin (x.child 0) 0 s hs
    -- the next statement begins a line of its own, so this one ends in front of it
    have hgoes : GoesOn 0 (bodyLines (x.child 1) 0 ss) :=
      fun line hline => .inr (bodyLines_begin (x.child 1) 0 hrest line hline)
    have hrun : stmtAt (exprAt field N) (bound + 1) N
        (layout 0 n (s.lines (x.child 0) 0 ++ bodyLines (x.child 1) 0 ss)) = _ :=
      stmt_reads (x.child 0) 0 n bound s hs hroomFirst (by omega) _ hgoes
    have hnext := ih (n := n + (s.lines (x.child 0) 0).length) (b := b) (x.child 1) hrest hroomRest
      (by omega) (s.numbered (x.child 0) 0 n :: read) (Nat.lt_of_succ_lt_succ hb)
    rw [List.reverse_cons, List.append_assoc] at hnext
    obtain ⟨t, ts, hlayout, ht⟩ : ∃ t ts,
        layout 0 n (s.lines (x.child 0) 0 ++ bodyLines (x.child 1) 0 ss) = t :: ts
          ∧ t.lexeme = l := by
      rw [hlines, List.cons_append, layout_line, show lexemes = l :: ls from hls]
      exact ⟨_, _, rfl, rfl⟩
    obtain ⟨-, heof, hnewline⟩ := startsStmt_layout hstart
    rw [hlayout] at hrun ⊢
    rw [text_stmt (ht ▸ hnewline) (ht ▸ heof), bind_ok hrun, hnext, numberedBody]
    rfl

theorem layout_ne_nil {d n : Nat} {lines : List Line} : layout d n lines ≠ [] := by
  cases lines <;> simp [layout]

/-- So many tokens as the lines have are enough for them. -/
theorem room_layout (d n : Nat) (lines : List Line) : Room (layout d n lines).length lines := by
  induction lines generalizing d n with
  | nil => exact ⟨Nat.zero_le _, nofun⟩
  | cons line lines ih =>
    obtain ⟨hcount, hlen⟩ := ih line.depth (n + 1)
    rw [layout, List.length_append, List.length_append, List.length_cons, placed_length]
    refine ⟨by rw [List.length_cons]; omega, List.forall_mem_cons.mpr ⟨by omega, fun l hl => ?_⟩⟩
    have := hlen l hl
    omega

/-- The layout of a program is read as the program. -/
theorem programTokens_layout (nesting : Nat) (x : Extra) {ss : List Stmt}
    (hss : bodyPrintable ss = true) :
    programTokens nesting (layout 0 1 (bodyLines x 0 ss)) = .ok (numberedBody x 0 1 ss) := by
  have hroom := room_layout 0 1 (bodyLines x 0 ss)
  have hcount := length_le_bodyLines x 0 hss
  refine parseTokens_ok.mpr ⟨[layoutToken .eof], ?_⟩
  obtain ⟨bound, hbound⟩ : ∃ bound, (layout 0 1 (bodyLines x 0 ss)).length = bound + 1 :=
    Nat.exists_eq_add_one_of_ne_zero fun h => layout_ne_nil (List.length_eq_zero_iff.mp h)
  change repeatUpTo (textRound _) _ [] _ _ = _
  rw [hbound]
  rw [hbound] at hroom
  exact text_reads bound x hss hroom hroom.1 [] (Nat.lt_succ_of_le (Nat.le_trans hcount hroom.1))

end Parser

/-! ## The text of a program -/

variable {k : Nat} {cs us ts : List Token}

/-- The last token stands for the last token. -/
theorem Moved.concat {u : Token} (h : Moved k ts (us ++ [u])) :
    ∃ cs t, ts = cs ++ [t] ∧ Moved k cs us ∧ Token.Moved k t u := by
  have hdrop : Moved k (ts.drop us.length) [u] := List.forall₂_drop_append ts us [u] h
  cases hlast : ts.drop us.length with
  | nil => rw [hlast] at hdrop; cases hdrop
  | cons t rest =>
    rw [hlast] at hdrop
    cases hdrop with
    | cons ht hrest =>
      cases hrest
      refine ⟨ts.take us.length, t, ?_, List.forall₂_take_append ts us [u] h, ht⟩
      rw [← hlast, List.take_append_drop]

theorem Parser.Lines.nil {T : Token → Prop} : Parser.Lines T [] where
  capped _ h := by cases h
  tokens _ h := by cases h
  unended _ h := by cases h

/-- Whether tokens are those of whole lines does not depend on their places. -/
theorem Parser.Lines.of_moved {m : Nat} (hus : Parser.Lines (fun t => t.lexeme.Sound m) us)
    (h : Moved k cs us) : Parser.Lines (fun t => t.lexeme.Sound m) cs := by
  have hmem : ∀ t ∈ cs, ∃ u ∈ us, u.lexeme = t.lexeme := by
    intro t ht
    have hl : t.lexeme ∈ lexemes us := h.lexemes ▸ List.mem_map_of_mem ht
    exact List.mem_map.mp hl
  refine ⟨fun t ht => ?_, fun t ht => ?_, fun t ht => ?_⟩
  · have hlast : (lexemes us).getLast? = some t.lexeme := by
      rw [h.lexemes, lexemes, List.getLast?_map, show cs.getLast? = some t from ht]
      rfl
    rw [lexemes, List.getLast?_map] at hlast
    obtain ⟨u, hu, hlexeme⟩ := Option.map_eq_some_iff.mp hlast
    exact hlexeme ▸ hus.capped u hu
  · obtain ⟨u, hu, hlexeme⟩ := hmem t ht
    exact hlexeme ▸ hus.tokens u hu
  · obtain ⟨u, hu, hlexeme⟩ := hmem t ht
    exact hlexeme ▸ hus.unended u hu

/-- A text is read as what the layout of its lines is read as. -/
theorem parse_of_layout {source : String} {lines : List Line} {body : List Stmt}
    (hts : tokenize source = .ok ts) (hmoved : Moved 0 (layout 0 1 lines) ts)
    (hbody : Parser.programTokens 0 (layout 0 1 lines) = .ok body) (mode : Mode) :
    parse source mode = .ok ⟨body, mode⟩ := by
  obtain ⟨us, pos, rfl, hus⟩ := tokenize_lines hts
  obtain ⟨cs, e, hlayout, hcs, he⟩ := hmoved.concat
  rw [hlayout] at hbody
  -- behind the program stands an empty text, which the tokens that are read end with
  have hparse : Parser.programTokens source.length (us ++ ([] ++ [⟨.eof, pos⟩]))
      = .ok (body ++ movedBody 0 []) :=
    Parser.programTokens_joined (hus.of_moved hcs) .nil he.lexeme.symm rfl rfl hcs .nil hbody
      (rfl : Parser.programTokens 0 ([] ++ [⟨.eof, pos⟩]) = .ok [])
  rw [movedBody, List.append_nil, List.nil_append] at hparse
  exact parse_eq_ok.mpr ⟨_, hts, hparse, rfl⟩

/-- The text of a program, with any extra parentheses, is read as the program. -/
theorem parse_printed (x : Extra) {body : List Stmt} (h : bodyPrintable body = true) (mode : Mode) :
    parse (print x body) mode = .ok ⟨numberedBody x 0 1 body, mode⟩ := by
  have hregular : Regular 0 (bodyLines x 0 body ++ []) :=
    body_regular x (show Regular 0 [] from trivial) body h
  rw [List.append_nil] at hregular
  obtain ⟨ts, hts, hmoved⟩ := tokenize_lines_chars hregular
  exact parse_of_layout hts hmoved (Parser.programTokens_layout 0 x h) mode

/--
**Parsing undoes printing.**

A program that can be printed is read back from its text. What is read back is the program, in which
every statement at every depth has the line that it has been printed on. Redundant parentheses around
any of its expressions do not change what is read.
-/
theorem parse_print {body : List Stmt} (h : bodyPrintable body = true) (mode : Mode) :
    ∃ p, parse (print .none body) mode = .ok p ∧ p.mode = mode
      ∧ unlinedBody p.body = unlinedBody body ∧ p.body = numberedBody .none 0 1 body
      ∧ ∀ x : Extra, parse (print x body) mode = parse (print .none body) mode := by
  refine ⟨_, parse_printed .none h mode, rfl, unlinedBody_numbered .none 0 1 body, rfl, fun x => ?_⟩
  rw [parse_printed x h, parse_printed .none h, numberedBody_extra x .none]

/-- A condition with a loop and an assignment, on the given lines. One operand needs parentheses, an
attribute is named like a keyword, and there is a quote in a string. -/
def sample (first second third fourth : Nat) : List Stmt :=
  [.branch first (.logical .and (.unary .not (.name "a"))
      (.binary .sub (.name "b") (.binary .sub (.int 1) (.int 2))))
    [.forEach second (.sequence [.name "u", .star "v"]) (.tuple [])
      [.evaluate third (.attribute (.name "w") "in")]]
    [.assign fourth (.name "s") (.str "it's")]]

/-- The theorem at that program, with redundant parentheses around the first operand. -/
theorem parse_print_of_sample :
    bodyPrintable (sample 0 0 0 0) = true
      ∧ parse ("if (not a) and b - (1 - 2):\n    for (u, * v,) in ():\n        w.in\nelse:\n"
        ++ "    s = 'it\\'s'\n") .file = .ok ⟨sample 1 2 3 5, .file⟩ := by
  have h : bodyPrintable (sample 0 0 0 0) = true := by decide +kernel
  have hprint : print (fun way => if way = [0, 0, 0] then 1 else 0) (sample 0 0 0 0)
      = "if (not a) and b - (1 - 2):\n    for (u, * v,) in ():\n        w.in\nelse:\n"
        ++ "    s = 'it\\'s'\n" := by decide +kernel
  obtain ⟨⟨body, mode⟩, hparse, hmode, -, hbody, hextra⟩ := parse_print h .file
  obtain rfl : mode = .file := hmode
  obtain rfl : body = sample 1 2 3 5 := hbody
  rw [← hextra fun way => if way = [0, 0, 0] then 1 else 0, hprint] at hparse
  exact ⟨h, hparse⟩

end Tilde
