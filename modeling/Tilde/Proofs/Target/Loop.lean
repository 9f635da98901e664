import Tilde.Proofs.Grammar.Sound
import Tilde.Proofs.Joined.Program
import Tilde.Proofs.Printed.Statement
import Tilde.Proofs.Target.Lexed
import Tilde.Proofs.Target.Run

/-!
# The target of a loop

The target of an assignment is read as an expression and converted, the target of a loop by a parser
of its own, so that the word `in` is no operator there. A text that stands in front of an equals sign
and behind `for` is followed through both programs. Their tokens are the same over the text, unless the
lexer never gets to its end (`Lexer.Sharing`); neither `in` nor `=` is a token of a target, so both
parsers stop at the same one, and have read one form (`Parser.targets_parsed`). What remains are the
two readings of a form, which are compared by what they do with a value (`endAlike_iff`): parentheses
around one target group it for the assignment, and are a sequence of one to the loop.
-/

namespace Tilde

open Tilde.Parser Tilde.Grammar

variable {w : String}

/-! ## Where a target ends -/

namespace Grammar

variable {fs : Forms} {ls ts us used items tail rest : List Lexeme} {l m : Lexeme}

/-- The first lexeme that is not of some kind. -/
theorem exists_first {P : Lexeme → Bool} (h : ¬∀ l ∈ ls, P l = true) :
    ∃ front l back, ls = front ++ l :: back ∧ (∀ m ∈ front, P m = true) ∧ P l = false := by
  obtain ⟨l, hl⟩ : ∃ l, ls.find? (!P ·) = some l := by
    rw [← Option.isSome_iff_exists, List.find?_isSome]
    simpa using h
  obtain ⟨hfails, front, back, rfl, hfront⟩ := List.find?_eq_some_iff_append.mp hl
  exact ⟨front, l, back, rfl, by simpa using hfront, by simpa using hfails⟩

/-- Where two lists are the same, their first lexemes that are not of some kind are the same. -/
theorem append_cons_inj {P : Lexeme → Bool} {a b c d : List Lexeme} {x y : Lexeme}
    (ha : ∀ l ∈ a, P l = true) (hx : P x = false) (hc : ∀ l ∈ c, P l = true) (hy : P y = false)
    (h : a ++ x :: b = c ++ y :: d) : a = c ∧ x = y ∧ b = d := by
  have htake {a b : List Lexeme} {x : Lexeme} (ha : ∀ l ∈ a, P l = true) (hx : P x = false) :
      (a ++ x :: b).takeWhile P = a := by
    rw [List.takeWhile_append_of_pos ha, List.takeWhile_cons_of_neg (by simp [hx]), List.append_nil]
  obtain rfl : a = c := by rw [← htake ha hx, h, htake hc hy]
  simpa using h

/-- Where some lexemes end that are an expression on its line, or are assigned to. -/
def StopsAt (used : List Lexeme) (m : Lexeme) : Prop :=
  (m = .newline ∨ m = .eof) ∨ m = .symbol .assign ∧ ∃ fs : Forms, fs.spelling = used

theorem isInline_of_marks {l : Lexeme} (h : marksTarget l = true) : l.isInline = true := by
  unfold marksTarget at h
  split at h <;> first | rfl | cases h

/-- The header of a loop is in line up to its colon. -/
theorem header_inline (hitems : ∀ l ∈ items, l.isInline = true) :
    ∀ l ∈ fs.spelling ++ .word "in" :: items, l.isInline = true :=
  List.forall_mem_append.mpr
    ⟨fun l hl => isInline_of_marks (fs.marks l hl), List.forall_mem_cons.mpr ⟨rfl, hitems⟩⟩

/-- **Where a loop and an assignment start alike, they do so on the line of the loop's header**: the
word `in` stands in no target. -/
theorem shared_inline (ha : ls ++ ts = used ++ m :: tail) (hused : ∀ l ∈ used, l.isInline = true)
    (hm : StopsAt used m)
    (hb : ls ++ us = fs.spelling ++ .word "in" :: items ++ .symbol .colon :: rest)
    (hitems : ∀ l ∈ items, l.isInline = true) : ∀ l ∈ ls, l.isInline = true := by
  by_contra hls
  -- the first lexeme that is in no expression is the colon of the header
  obtain ⟨front, l, back, rfl, hfront, hl⟩ := exists_first hls
  rw [List.append_assoc, List.cons_append] at ha hb
  obtain ⟨rfl, rfl, -⟩ := append_cons_inj hfront hl (header_inline hitems) rfl hb
  rcases hm with hm | ⟨rfl, gs, rfl⟩
  · have hm' : m.isInline = false := by rcases hm with rfl | rfl <;> rfl
    obtain ⟨-, rfl, -⟩ := append_cons_inj hfront hl hused hm' ha
    rcases hm with hm | hm <;> cases hm
  · rw [List.append_assoc, List.cons_append] at ha
    obtain ⟨-, hin, -⟩ := append_cons_inj fs.marks rfl gs.marks rfl ha
    cases hin

/-- Where they share the whole text of the target, it is the target of both. -/
theorem shared_whole {w : String}
    (ha : ls ++ ([.symbol .assign, .word w] ++ .newline :: ts) = used ++ m :: tail)
    (hused : ∀ l ∈ used, l.isInline = true) (hassign : HidesAssign used)
    (hm : StopsAt used m)
    (hb : ls ++ ([.word "in", .symbol .openBracket, .word w, .symbol .closeBracket] ++
      .symbol .colon :: us) = fs.spelling ++ .word "in" :: items ++ .symbol .colon :: rest)
    (hitems : ∀ l ∈ items, l.isInline = true) :
    m = .symbol .assign ∧ used = ls ∧ tail = .word w :: .newline :: ts ∧ fs.spelling = ls
      ∧ items = [.symbol .openBracket, .word w, .symbol .closeBracket] ∧ rest = us := by
  have hls := shared_inline ha hused hm hb hitems
  rcases hm with hm | ⟨rfl, gs, rfl⟩
  · -- the line is no expression, since the equals sign is in no parentheses
    have hm' : m.isInline = false := by rcases hm with rfl | rfl <;> rfl
    have hline : ∀ l ∈ ls ++ [.symbol .assign, .word w], l.isInline = true :=
      List.forall_mem_append.mpr ⟨hls, by simp [Lexeme.isInline]⟩
    rw [← List.append_assoc] at ha
    obtain ⟨rfl, -⟩ := append_cons_inj hline rfl hused hm' ha
    exact absurd hassign (not_hidesAssign ls w)
  · have hline : ∀ l ∈ ls ++ [.word "in", .symbol .openBracket, .word w, .symbol .closeBracket],
        l.isInline = true :=
      List.forall_mem_append.mpr ⟨hls, by simp [Lexeme.isInline]⟩
    rw [← List.append_assoc] at hb
    obtain ⟨hheader, -, rfl⟩ := append_cons_inj hline rfl (header_inline hitems) rfl hb
    -- what stands in front of the equals sign is a target, and so holds no `in`
    have hall : ∀ l ∈ ls, marksTarget l = true := by
      by_contra hls
      obtain ⟨front, l, back, rfl, hfront, hl⟩ := exists_first hls
      rw [List.append_assoc, List.cons_append] at ha hheader
      obtain ⟨-, rfl, -⟩ := append_cons_inj hfront hl fs.marks rfl hheader
      obtain ⟨-, hin, -⟩ := append_cons_inj hfront hl gs.marks rfl ha
      cases hin
    obtain ⟨rfl, -, rfl⟩ := append_cons_inj hall rfl gs.marks rfl ha
    obtain ⟨hspelling, -, rfl⟩ := append_cons_inj hall rfl fs.marks rfl hheader
    exact ⟨rfl, rfl, rfl, hspelling.symm, rfl, rfl⟩

/-- A header starts like a target. -/
theorem header_front (h : l :: us = fs.spelling ++ .word "in" :: items ++ .symbol .colon :: rest)
    (hfs : fs.spelling ≠ []) : marksTarget l = true := by
  obtain ⟨m, ms, hm⟩ := List.exists_cons_of_ne_nil hfs
  rw [hm] at h
  obtain ⟨rfl, -⟩ := List.cons.inj h
  exact fs.marks l (by rw [hm]; exact List.mem_cons_self ..)

end Grammar

/-! ## Statements, one by one -/

namespace Parser

variable {field : FieldParser} {n bound : Nat} {ts rest : List Token} {stmt : Parser Stmt} {s : Stmt}
  {e : Expr} {ls : List Lexeme}

/-- An item alone is read up to the token behind it, wherever the tokens stand. -/
theorem Item.exprList_ok {ms : List Lexeme} (h : Item e ls) (hts : lexemes ts = ls ++ ms)
    (hbound : ls.length < bound) (hn : ls.length ≤ n) (hstop : (ms.headD .eof).goesOnAt = none)
    (hcomma : ms.headD .eof ≠ .symbol .comma) :
    ∃ rest, lexemes rest = ms ∧ exprList (exprAt field bound) n ts = .ok (e, rest) := by
  obtain ⟨used, rest, rfl, hused, rfl⟩ := List.map_eq_append_iff.mp hts
  refine ⟨rest, rfl, ?_⟩
  have hplaced : exprList (exprAt field bound) n (placed 0 ls ++ rest) = .ok (e, rest) :=
    h.alone hbound hn (stops_of_none (by rw [front_lexeme]; exact hstop))
      (by rw [front_lexeme]; exact hcomma)
  obtain ⟨used', hsplit, hany⟩ := exprList_placeless (exprAt_placeless field bound) n _ _ _ hplaced
  refine hany used rest ?_ rfl
  rw [← List.append_cancel_right hsplit, lexemes, hused]
  simp [lexemes, placed, Function.comp_def]

theorem item_name (hw : isKeyword w = false) : Item (.name w) [.word w] :=
  ((Spells.word hw).of_le (Nat.zero_le 8) (Nat.le_refl 8)).item

theorem item_list (hw : isKeyword w = false) :
    Item (.list [.name w]) [.symbol .openBracket, .word w, .symbol .closeBracket] :=
  ((Spells.list (.cons (item_name hw) .nil)).of_le (Nat.zero_le 8) (Nat.le_refl 8)).item

theorem bind_front {α β : Type} {p q : Parser α} {f : α → Parser β} (h : p n ts = q n ts) :
    (p >>= f) n ts = (q >>= f) n ts := by
  simp only [bind, ReaderT.bind, StateT.bind, h]

/-- A statement that starts with no word of the language. -/
theorem statement_plain {expr : Inner}
    (hfront : ∀ word, (frontToken ts).lexeme = .word word → isKeyword word = false) :
    statement expr stmt n ts
      = (do let s ← expressionStmt expr (frontToken ts); lineEnd; return s : Parser Stmt) n ts := by
  have hsimple : simple expr n ts = expressionStmt expr (frontToken ts) n ts := by
    rw [simple, bind_ok peekToken_apply]
    refine congrFun (congrFun ?_ n) ts
    split
    case h_5 => rfl
    all_goals
      next hword => exact absurd (hfront _ hword) (by decide)
  rw [statement, bind_ok peekToken_apply, ← bind_front hsimple]
  refine congrFun (congrFun ?_ n) ts
  split
  case h_5 => rfl
  all_goals
    next hword => exact absurd (hfront _ hword) (by decide)

/-- What such a statement is, up to where its expression or the target of its assignment ends. -/
theorem statement_plain_ok
    (hfront : ∀ word, (frontToken ts).lexeme = .word word → isKeyword word = false)
    (h : statement (exprAt field bound) stmt n ts = .ok (s, rest)) :
    ∃ e used mid, ts = used ++ mid ∧ Derives field (.exprs e) (lexemes used)
      ∧ (((frontToken mid).lexeme = .newline ∨ (frontToken mid).lexeme = .eof)
        ∨ (frontToken mid).lexeme = .symbol .assign ∧ ∃ t value mid', toTarget e = .ok t
          ∧ exprList (exprAt field bound) n (mid.drop 1) = .ok (value, mid')
          ∧ lineEnd n mid' = .ok ((), rest)
          ∧ s = .assign (frontToken ts).pos.line t value) := by
  rw [statement_plain hfront] at h
  obtain ⟨s', mid', hstmt, h⟩ := bind_ok_iff.mp h
  obtain ⟨⟨⟩, rest', hend, h⟩ := bind_ok_iff.mp h
  cases h
  obtain ⟨e, mid, hlist, hstmt⟩ := bind_ok_iff.mp hstmt
  obtain ⟨used, hts, -, he⟩ := exprList_follows (exprAt_follows bound) ts n e mid hlist
  refine ⟨e, used, mid, hts, he, ?_⟩
  -- looking for stars reads no token
  have hreject {e' : Expr} {u : Unit} {us vs : List Token}
      (hu : rejectStar e' n us = .ok (u, vs)) : vs = us := by
    obtain ⟨used, rfl, -, hused, -⟩ := rejectStar_gives n u vs hu
    rw [List.map_eq_nil_iff.mp hused, List.nil_append]
  by_cases hassign : (frontToken mid).lexeme = .symbol .assign
  · refine .inr ⟨hassign, ?_⟩
    rw [acceptSymbol, bind_ok (accept_hit hassign), if_pos rfl] at hstmt
    cases ht : toTarget e with
    | error fault =>
      rw [ht] at hstmt
      cases hstmt
    | ok t =>
      rw [ht] at hstmt
      obtain ⟨value, us, hvalue, hstmt⟩ := bind_ok_iff.mp hstmt
      obtain ⟨u, vs, hu, hstmt⟩ := bind_ok_iff.mp hstmt
      cases hstmt
      obtain rfl := hreject hu
      exact ⟨t, value, _, rfl, hvalue, hend, rfl⟩
  · rw [acceptSymbol, bind_ok (accept_miss hassign), if_neg Bool.false_ne_true] at hstmt
    obtain ⟨u, vs, hu, hstmt⟩ := bind_ok_iff.mp hstmt
    cases hstmt
    obtain rfl := hreject hu
    exact .inl (lineEnd_ok hend)

/-- A loop, up to the end of its items. -/
theorem statement_for_ok (hfront : (frontToken ts).lexeme = .word "for")
    (h : statement (exprAt field bound) stmt n ts = .ok (s, rest)) :
    ∃ e t used mid value mid' body, ts.drop 1 = used ++ mid
      ∧ Derives field (.binds e) (lexemes used) ∧ toTarget e = .ok t
      ∧ (frontToken mid).lexeme = .word "in"
      ∧ exprList (exprAt field bound) n (mid.drop 1) = .ok (value, mid')
      ∧ (frontToken mid').lexeme = .symbol .colon
      ∧ block (exprAt field bound) stmt n mid' = .ok (body, rest)
      ∧ s = .forEach (frontToken ts).pos.line t value body := by
  rw [statement, bind_ok peekToken_apply, hfront] at h
  have hfor : forEach (exprAt field bound) stmt (frontToken ts).pos.line n ts = .ok (s, rest) := h
  rw [forEach, bind_ok advance_apply, bind_ok peekToken_apply] at hfor
  obtain ⟨e, mid, htarget, hfor⟩ := bind_ok_iff.mp hfor
  have hbinds : Follows field .binds loopTarget := loopTarget_follows
  -- what the loop binds derives from the tokens that have been read for it
  obtain ⟨used, hused, -, he⟩ := hbinds _ _ _ _ htarget
  cases ht : toTarget e with
  | error fault =>
    rw [ht] at hfor
    cases hfor
  | ok t =>
    rw [ht] at hfor
    dsimp only at hfor
    by_cases hin : (frontToken mid).lexeme = .word "in"
    · rw [acceptWord, bind_ok (accept_hit hin), if_pos rfl] at hfor
      obtain ⟨value, mid', hvalue, hfor⟩ := bind_ok_iff.mp hfor
      obtain ⟨body, rest', hbody, hfor⟩ := bind_ok_iff.mp hfor
      rw [pure_apply, Except.ok.injEq, Prod.mk.injEq] at hfor
      obtain ⟨hs, rfl⟩ := hfor
      obtain ⟨u, us, hcolon, -⟩ := bind_ok_iff.mp hbody
      exact ⟨e, t, used, mid, value, mid', body, hused, he, ht, hin, hvalue, (expect_ok hcolon).1,
        hbody, hs.symm⟩
    · rw [acceptWord, bind_ok (accept_miss hin), if_neg Bool.false_ne_true, unexpected_apply] at hfor
      cases hfor

/-- A block that is the word `pass` on the line of its colon. -/
theorem block_pass {expr : Inner} {ls : List Lexeme}
    (h : lexemes ts = .symbol .colon :: .word "pass" :: .newline :: ls) :
    ∃ k us, lexemes us = ls ∧ block expr stmt n ts = .ok ([.pass k], us) := by
  obtain ⟨colon, ts, rfl, hcolon, h⟩ := List.map_eq_cons_iff.mp h
  obtain ⟨word, ts, rfl, hword, h⟩ := List.map_eq_cons_iff.mp h
  obtain ⟨eol, us, rfl, heol, h⟩ := List.map_eq_cons_iff.mp h
  have hsimple : simple expr n (word :: eol :: us) = .ok (.pass word.pos.line, eol :: us) := by
    rw [simple, bind_ok peekToken_apply, frontToken_cons, hword]
    rfl
  have hexpect : expect (.symbol .colon) "':'" n (colon :: word :: eol :: us)
      = .ok ((), word :: eol :: us) := expect_hit hcolon
  have hinline : accept .newline n (word :: eol :: us) = .ok (false, word :: eol :: us) :=
    accept_miss (by rw [frontToken_cons, hword]; decide)
  have hend : lineEnd n (eol :: us) = .ok ((), us) := lineEnd_hit heol
  refine ⟨word.pos.line, us, h, ?_⟩
  rw [block, bind_ok hexpect, bind_ok hinline, if_neg Bool.false_ne_true, bind_ok hsimple,
    bind_ok hend]
  rfl

/-- A text starts with its first statement, and ends behind it if nothing follows. -/
theorem programTokens_ok {nesting : Nat} {body : List Stmt} (h : programTokens nesting ts = .ok body)
    (hend : (frontToken ts).lexeme ≠ .eof) (hline : (frontToken ts).lexeme ≠ .newline) :
    ∃ stmt s rest, statement (exprAt (fieldExpr nesting) ts.length) stmt ts.length ts = .ok (s, rest)
      ∧ ((frontToken rest).lexeme = .eof → body = [s]) := by
  obtain ⟨rest, h⟩ := parseTokens_ok.mp h
  obtain ⟨t, us, rfl, -⟩ := Gives.front_eq_cons rfl hend
  rw [statements, repeatFrom_apply] at h
  obtain ⟨r, mid, hround, hbody⟩ := bind_ok_iff.mp h
  beta_reduce at hround
  rw [bind_ok peek_apply] at hround
  obtain ⟨s, hr, hs⟩ : ∃ s, r = .inl [s] ∧ stmtAt (exprAt (fieldExpr nesting) (us.length + 1))
      (us.length + 1) (us.length + 1) (t :: us) = .ok (s, mid) := by
    cases hfront : (frontToken (t :: us)).lexeme with
    | eof => exact absurd hfront hend
    | newline => exact absurd hfront hline
    | _ =>
      rw [hfront] at hround
      obtain ⟨s, us', hs, hround⟩ := bind_ok_iff.mp hround
      cases hround
      exact ⟨s, rfl, hs⟩
  subst hr
  -- at the end of the text the next round gives the statements that have been read
  refine ⟨_, s, mid, hs, fun hmid => ?_⟩
  obtain ⟨r, last, hround, hbody⟩ := bind_ok_iff.mp hbody
  beta_reduce at hround
  rw [bind_ok peek_apply, hmid] at hround
  cases hround
  cases hbody
  rfl

/-- A text that starts like a target: its first statement is an expression, up to the end of its
line, or assigns to the target of a form. -/
theorem assignment_front {source : List Char} {nesting : Nat} {body : List Stmt} {l : Lexeme}
    (hw : isKeyword w = false) (hlaid : WellLaid source ts) (h : programTokens nesting ts = .ok body)
    (hts : lexemes ts = l :: ls) (hl : marksTarget l = true) :
    ∃ (used : List Lexeme) (m : Lexeme) (tail : List Lexeme),
      lexemes ts = used ++ m :: tail ∧ (∀ l ∈ used, l.isInline = true) ∧ HidesAssign used
      ∧ StopsAt used m
      ∧ (m = .symbol .assign → tail = [.word w, .newline, .eof] →
        ∃ (fs : Forms) (line : Nat), fs.spelling = used ∧ fs.assigned.SingleStars
          ∧ body = [.assign line fs.assigned (.name w)]) := by
  have hfront : (frontToken ts).lexeme = l := by rw [front_lexeme, hts]; rfl
  obtain ⟨stmt, s, rest, hstmt, hbody⟩ := programTokens_ok h
    (by rw [hfront]; rintro rfl; cases hl) (by rw [hfront]; rintro rfl; cases hl)
  obtain ⟨e, used, mid, hused, he, hmid⟩ := statement_plain_ok (fun word hword => by
    rw [hfront] at hword
    subst hword
    simpa [marksTarget] using hl) hstmt
  -- the end of the text stands behind the expression
  obtain ⟨m, mid, rfl⟩ : ∃ m mid', mid = m :: mid' := by
    refine List.exists_cons_of_ne_nil ?_
    rintro rfl
    obtain ⟨front, hended, -⟩ := hlaid.ended
    have heof : Lexeme.eof ∈ lexemes used := by
      rw [← List.append_nil used, ← hused, hended, lexemes_append]
      exact List.mem_append_right _ (List.mem_singleton_self _)
    exact absurd (he.inline _ heof) (by decide)
  have hstops : StopsAt (lexemes used) m.lexeme := by
    rcases hmid with hend | ⟨hassign, t, -, -, ht, -⟩
    · exact .inl hend
    · exact .inr ⟨hassign, (he.isWritten t ht).imp fun _ hfs => hfs.1⟩
  refine ⟨lexemes used, m.lexeme, lexemes mid, by rw [hused]; exact lexemes_append .., he.inline,
    he.hidesAssign rfl, hstops, fun hassign htail => ?_⟩
  obtain ⟨-, t, value, mid', ht, hvalue, hend, rfl⟩ := hmid.resolve_left (by simp [hassign])
  obtain ⟨fs, hspelling, rfl⟩ := he.isWritten t ht
  have hlen : 2 ≤ ts.length := by
    have hmid := congrArg List.length htail
    have hts := congrArg List.length hused
    simp only [lexemes, List.length_map, List.length_append, List.length_cons,
      List.length_nil] at hmid hts
    omega
  obtain ⟨us, hus, hread⟩ : ∃ us, lexemes us = [.newline, .eof]
      ∧ exprList (exprAt (fieldExpr nesting) ts.length) ts.length mid = .ok (.name w, us) :=
    (item_name hw).exprList_ok htail hlen (Nat.le_of_lt hlen) rfl (by decide)
  obtain ⟨rfl, rfl⟩ := Prod.mk.inj (Except.ok.inj (hvalue.symm.trans hread))
  have hline : (frontToken mid').lexeme = .newline := by rw [front_lexeme, hus]; rfl
  rw [lineEnd_hit hline] at hend
  cases hend
  refine ⟨fs, _, hspelling, toTarget_singleStars ht, hbody ?_⟩
  rw [front_lexeme, lexemes, List.map_drop, ← lexemes, hus]
  rfl

/-- A loop as the first statement of a text, up to the end of its header. -/
theorem loop_front {nesting : Nat} {body : List Stmt} (hw : isKeyword w = false)
    (h : programTokens nesting ts = .ok body) (hts : lexemes ts = .word "for" :: ls) :
    ∃ (fs : Forms) (items tail : List Lexeme),
      fs.spelling ≠ [] ∧ fs.looped.SingleStars
      ∧ ls = fs.spelling ++ .word "in" :: items ++ .symbol .colon :: tail
      ∧ (∀ l ∈ items, l.isInline = true)
      ∧ (items = [.symbol .openBracket, .word w, .symbol .closeBracket] →
        tail = [.word "pass", .newline, .eof] →
        ∃ line k, body = [.forEach line fs.looped (.list [.name w]) [.pass k]]) := by
  have hfront : (frontToken ts).lexeme = .word "for" := by rw [front_lexeme, hts]; rfl
  obtain ⟨stmt, s, rest, hstmt, hbody⟩ := programTokens_ok h
    (by rw [hfront]; decide) (by rw [hfront]; decide)
  obtain ⟨e, t, used, mid, value, mid', loop, hused, he, ht, hin, hvalue, hcolon, hblock, rfl⟩ :=
    statement_for_ok hfront hstmt
  obtain ⟨fs, hspelling, rfl⟩ := he.isWritten t ht
  obtain ⟨m, mid, rfl, hm⟩ := Gives.front_eq_cons hin (by decide)
  obtain ⟨used', hused', -, hitems⟩ := exprList_follows (exprAt_follows _) _ _ _ _ hvalue
  obtain ⟨colon, after, rfl, hcolon'⟩ := Gives.front_eq_cons hcolon (by decide)
  have hls : ls = lexemes (ts.drop 1) := by
    rw [lexemes, List.map_drop, ← lexemes, hts]
    rfl
  refine ⟨fs, lexemes used', lexemes after, hspelling ▸ he.ne_nil trivial, toTarget_singleStars ht,
    ?_, hitems.inline, fun hlist htail => ?_⟩
  · rw [hls, hused, hspelling]
    have hmid : mid = used' ++ colon :: after := hused'
    simp [hmid, hm, hcolon']
  · have hmid : lexemes mid = [.symbol .openBracket, .word w, .symbol .closeBracket]
        ++ [.symbol .colon, .word "pass", .newline, .eof] := by
      have hmid : mid = used' ++ colon :: after := hused'
      rw [hmid, lexemes_append, lexemes_cons, hlist, htail, hcolon']
    have hlen : 4 ≤ ts.length := by
      have hmid := congrArg List.length hmid
      have hts := congrArg List.length hused
      simp only [lexemes, List.length_map, List.length_append, List.length_cons,
        List.length_nil, List.length_drop] at hmid hts
      omega
    -- a list of one name is read to its end, and what is left is the body
    obtain ⟨us, hus, hread⟩ : ∃ us, lexemes us = [.symbol .colon, .word "pass", .newline, .eof]
        ∧ exprList (exprAt (fieldExpr nesting) ts.length) ts.length mid
          = .ok (.list [.name w], us) :=
      (item_list hw).exprList_ok hmid hlen (Nat.le_of_lt hlen) rfl (by decide)
    obtain ⟨rfl, rfl⟩ := Prod.mk.inj (Except.ok.inj (hvalue.symm.trans hread))
    obtain ⟨k, us, hus', hpass⟩ := block_pass (n := ts.length) hus
    obtain ⟨rfl, rfl⟩ := Prod.mk.inj (Except.ok.inj (hblock.symm.trans hpass))
    refine ⟨_, k, hbody ?_⟩
    rw [front_lexeme, hus']
    rfl

end Parser

/-! ## Both programs -/

theorem not_isInline_of_isLayout {l : Lexeme} (h : l.isLayout = true) : l.isInline = false := by
  cases l <;> first | rfl | cases h

/-- A text of one line closes no indentation. -/
theorem WellLaid.no_dedents {source : List Char} {ts : List Token} {ls : List Lexeme} {n : Nat}
    (h : WellLaid source ts) (hts : lexemes ts = ls ++ .newline :: List.replicate n .dedent ++ [.eof])
    (hls : ∀ l ∈ ls, l.isInline = true) : n = 0 := by
  have hclosed : (lexemes ts).count .dedent = (lexemes ts).count .indent := by
    simpa [occurrences, lexemes, List.count, List.countP_map, Function.comp_def,
      beq_eq_decide] using h.closed
  have hnone (l : Lexeme) (hl : l.isInline = false) : ls.count l = 0 :=
    List.count_eq_zero.mpr fun hmem => by rw [hls l hmem] at hl; cases hl
  simpa [hts, hnone .dedent rfl, hnone .indent rfl, List.count_replicate] using hclosed

/-- **An assignment and a loop with one text for their targets** have the two readings of one form. -/
theorem Parser.targets_parsed {source : List Char} {nesting nesting' : Nat} {body body' : List Stmt}
    {ts us : List Token} (hw : isKeyword w = false) (hlaid : WellLaid source ts)
    (hsharing : Lexer.Sharing w (lexemes ts) (lexemes us))
    (ha : programTokens nesting ts = .ok body) (hb : programTokens nesting' us = .ok body') :
    ∃ (fs : Forms) (line line' k : Nat),
      lexemes ts = fs.spelling ++ [.symbol .assign, .word w, .newline, .eof]
      ∧ fs.assigned.SingleStars ∧ fs.looped.SingleStars
      ∧ body = [.assign line fs.assigned (.name w)]
      ∧ body' = [.forEach line' fs.looped (.list [.name w]) [.pass k]] := by
  generalize hls : lexemes ts = ls at hsharing
  generalize hms : lexemes us = ms at hsharing
  cases hsharing with
  | indented more ms =>
    obtain ⟨t, rest, rfl, ht, -⟩ := List.map_eq_cons_iff.mp hls
    exact absurd ht (unindented_of_ok ha t rfl)
  | ended ls more =>
    obtain ⟨fs, items, tail, hne, -, hheader, -⟩ := loop_front hw hb hms
    exact absurd (header_front hheader hne) (by decide)
  | apart shared ts' us' h =>
    obtain ⟨fs, items, tail, hne, -, hheader, hitems, -⟩ := loop_front hw hb hms
    have hcolon : .symbol .colon ∈ shared ++ us' := by simp [hheader]
    have hshared : ∃ l ∈ shared, l.isInline = false := by
      rcases h with h | ⟨l, hl, hlayout⟩
      · exact ⟨_, (List.mem_append.mp hcolon).resolve_right h, rfl⟩
      · exact ⟨l, hl, not_isInline_of_isLayout hlayout⟩
    obtain ⟨l', hl', hinline'⟩ := hshared
    obtain ⟨l, ls, rfl⟩ := List.exists_cons_of_ne_nil (List.ne_nil_of_mem hl')
    obtain ⟨used, m, tail', hused, hinline, -, hm, -⟩ :=
      assignment_front hw hlaid ha hls (header_front hheader hne)
    rw [hls] at hused
    rw [shared_inline hused hinline hm hheader hitems l' hl'] at hinline'
    cases hinline'
  | whole shared n =>
    obtain ⟨fs, items, tail, hne, hlooped, hheader, hitems, hloop⟩ := loop_front hw hb hms
    cases shared with
    | nil => exact absurd (header_front hheader hne) (by decide)
    | cons l ls =>
      obtain ⟨used, m, tail', hused, hinline, hassign, hm, hbody⟩ :=
        assignment_front hw hlaid ha hls (header_front hheader hne)
      rw [hls] at hused
      -- no indentation is open at the end, since none stands in the line
      obtain rfl : n = 0 := by
        have hline := shared_inline hused hinline hm hheader hitems
        have hsource : lexemes ts = (l :: ls ++ [.symbol .assign, .word w])
            ++ .newline :: List.replicate n .dedent ++ [.eof] := by simpa using hls
        exact hlaid.no_dedents hsource
          (List.forall_mem_append.mpr ⟨hline, by simp [Lexeme.isInline]⟩)
      obtain ⟨rfl, rfl, rfl, hspelling, rfl, rfl⟩ :=
        shared_whole hused hinline hassign hm hheader hitems
      obtain ⟨gs, line, hgs, hassigned, rfl⟩ := hbody rfl rfl
      obtain rfl := Forms.spelling_inj (hgs.trans hspelling.symm)
      obtain ⟨line', k, rfl⟩ := hloop rfl rfl
      exact ⟨gs, line, line', k, by rw [hspelling]; rfl, hassigned, hlooped, rfl, rfl⟩

/-! ## Runs -/

/-- The text of an assignment of a variable. -/
def assignmentText (text w : String) : String := text ++ " = " ++ w

/-- The text of a loop over a variable alone. -/
def loopText (text w : String) : String := "for " ++ text ++ " in [" ++ w ++ "]: pass"

/-- The programs of both texts. -/
theorem parse_targets {text : String} {mode : Mode} {p q : Program} (hw : isName w = true)
    (hp : parse (assignmentText text w) mode = .ok p)
    (hq : parse (loopText text w) mode = .ok q) :
    ∃ (ts : List Token) (fs : Forms) (line line' k : Nat),
      tokenize (assignmentText text w) = .ok ts
      ∧ lexemes ts = fs.spelling ++ [.symbol .assign, .word w, .newline, .eof]
      ∧ fs.assigned.SingleStars ∧ fs.looped.SingleStars
      ∧ p = ⟨[.assign line fs.assigned (.name w)], mode⟩
      ∧ q = ⟨[.forEach line' fs.looped (.list [.name w]) [.pass k]], mode⟩ := by
  obtain ⟨ts, hts, hbody, rfl⟩ := parse_eq_ok.mp hp
  obtain ⟨us, hus, hbody', hmode⟩ := parse_eq_ok.mp hq
  obtain ⟨fs, line, line', k, hlexemes, hassigned, hlooped, hpbody, hqbody⟩ :=
    Parser.targets_parsed (isKeyword_of_isName hw) (Lexer.State.run_wellLaid hts)
      (tokenize_sharing (isIdentifier_of_isName hw) hts hus) hbody hbody'
  refine ⟨ts, fs, line, line', k, hts, hlexemes, hassigned, hlooped, ?_, ?_⟩
  · rw [← hpbody]
  · rw [← hqbody, hmode]

/--
**Targets of loops and of assignments.**

Where a text stands for what is assigned to and for what a loop binds, it spells one form, and the two
programs bind one variable to the two readings of it. From the same bindings, whatever the value of
the variable, both runs leave the same bindings or fail with errors of one kind, if and only if the
loop reads what the assignment reads, where for a lone starred name it reads a sequence of it.
-/
theorem loop_targets {text : String} {mode : Mode} {p q : Program} (hw : isName w = true)
    (hp : parse (assignmentText text w) mode = .ok p)
    (hq : parse (loopText text w) mode = .ok q) :
    ∃ (ts : List Token) (fs : Forms) (line line' k : Nat),
      tokenize (assignmentText text w) = .ok ts
      ∧ lexemes ts = fs.spelling ++ [.symbol .assign, .word w, .newline, .eof]
      ∧ p.body = [.assign line fs.assigned (.name w)]
      ∧ q.body = [.forEach line' fs.looped (.list [.name w]) [.pass k]]
      ∧ ∀ {ω : Type} (host : Host ω) (budget : Nat) (outside : Outside ω),
        (∀ vars, EndAlike (runSource host budget (assignmentText text w) mode ⟨vars, outside⟩)
            (runSource host budget (loopText text w) mode ⟨vars, outside⟩))
          ↔ fs.looped = .joined [fs.assigned] := by
  obtain ⟨ts, fs, line, line', k, hts, hlexemes, hassigned, hlooped, rfl, rfl⟩ :=
    parse_targets hw hp hq
  refine ⟨ts, fs, line, line', k, hts, hlexemes, rfl, rfl, ?_⟩
  intro ω host budget outside
  have hlogged (vars : Namespace) : Machine.logged ⟨vars, outside⟩ [.expanded 0]
      = ⟨vars, { outside with log := .expanded 0 :: outside.log }⟩ := rfl
  simp only [runSource_assign hp, runSource_forEach hq, hlogged]
  exact endAlike_iff hassigned hlooped _

/-- The form of a text is told from its tokens. -/
theorem forms_eq {source : String} {ts : List Token} {fs gs : Forms} {more : List Lexeme}
    (hts : tokenize source = .ok ts) (h : lexemes ts = fs.spelling ++ more)
    (hgs : (tokenize source).map lexemes = .ok (gs.spelling ++ more)) : fs = gs := by
  rw [hts] at hgs
  exact Forms.spelling_inj (List.append_cancel_right (h.symm.trans (Except.ok.inj hgs)))

/-- The theorem at nested targets, which both read alike. -/
theorem loop_targets_of_nested :
    isName "v" = true ∧ ∃ p q, parse (assignmentText "(a, *b), [c]" "v") .file = .ok p
      ∧ parse (loopText "(a, *b), [c]" "v") .file = .ok q
      ∧ ∃ t : Target, t = .sequence [.sequence [.name "a", .star "b"], .sequence [.name "c"]]
        ∧ (∃ line, p.body = [.assign line t (.name "v")])
        ∧ (∃ line k, q.body = [.forEach line t (.list [.name "v"]) [.pass k]])
        ∧ ∀ (ω : Type) (host : Host ω) (budget : Nat) (outside : Outside ω) (vars : Namespace),
          EndAlike (runSource host budget (assignmentText "(a, *b), [c]" "v") .file ⟨vars, outside⟩)
            (runSource host budget (loopText "(a, *b), [c]" "v") .file ⟨vars, outside⟩) := by
  have hok : (parse (assignmentText "(a, *b), [c]" "v") .file).isOk = true := by decide +kernel
  have hok' : (parse (loopText "(a, *b), [c]" "v") .file).isOk = true := by decide +kernel
  cases hp : parse (assignmentText "(a, *b), [c]" "v") .file with
  | error e => rw [hp] at hok; cases hok
  | ok p =>
    cases hq : parse (loopText "(a, *b), [c]" "v") .file with
    | error e => rw [hq] at hok'; cases hok'
    | ok q =>
      have hname : isName "v" = true := by decide
      obtain ⟨ts, fs, line, line', k, hts, hlexemes, hpbody, hqbody, hruns⟩ :=
        loop_targets hname hp hq
      have hfs : fs = .comma (.bracket .round (.comma (.name "a" (by decide))
          (.last (.star 0 "b" (by decide))))) (.last (.bracket .square
            (.last (.name "c" (by decide))))) := forms_eq hts hlexemes (by decide +kernel)
      subst hfs
      exact ⟨hname, p, q, rfl, rfl, _, rfl, ⟨line, hpbody⟩, ⟨line', k, hqbody⟩,
        fun ω host budget outside =>
          (hruns host budget outside).mpr (Forms.looped_eq_joined rfl nofun)⟩

/-- Loops and assignments do not always mean the same by a target: parentheses around a name are a
sequence to a loop. -/
theorem loop_targets_not_always_alike :
    ¬∀ (text w : String) (mode : Mode) (p q : Program), isName w = true →
      parse (assignmentText text w) mode = .ok p → parse (loopText text w) mode = .ok q →
      ∀ (ω : Type) (host : Host ω) (budget : Nat) (m : Machine ω),
        EndAlike (runSource host budget (assignmentText text w) mode m)
          (runSource host budget (loopText text w) mode m) := by
  intro hall
  have hok : (parse (assignmentText "(a)" "v") .file).isOk = true := by decide +kernel
  have hok' : (parse (loopText "(a)" "v") .file).isOk = true := by decide +kernel
  cases hp : parse (assignmentText "(a)" "v") .file with
  | error e => rw [hp] at hok; cases hok
  | ok p =>
    cases hq : parse (loopText "(a)" "v") .file with
    | error e => rw [hq] at hok'; cases hok'
    | ok q =>
      have hname : isName "v" = true := by decide
      have hruns := hall _ _ _ p q hname hp hq
      obtain ⟨ts, fs, line, line', k, hts, hlexemes, hassigned, hlooped, rfl, rfl⟩ :=
        parse_targets hname hp hq
      have hfs : fs = .last (.bracket .round (.last (.name "a" (by decide)))) :=
        forms_eq hts hlexemes (by decide +kernel)
      subst hfs
      -- for a value of the name that is no iterable, the assignment alone ends well
      have hrun := hruns Unit Host.silent 0 ⟨Namespace.fresh.set "v" (.int 5), (), []⟩
      rw [runSource_assign hp, runSource_forEach hq] at hrun
      have hv : (Namespace.fresh.set "v" (.int 5)).get? "v" = some (.int 5) := by
        rw [Namespace.get?_set, if_pos rfl]
      have hfits := (bindingRun_ok_iff hlooped hv).mp
        (hrun.ok_iff.mp ((bindingRun_ok_iff hassigned hv).mpr trivial))
      exact nomatch Target.fits_int hfits

end Tilde
