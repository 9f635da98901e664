import Tilde.Proofs.Joined.Lexer
import Tilde.Proofs.Joined.Statement

/-!
# Texts joined by a line end

Two texts that parse can be joined by a line end: the statements of the whole are those of the first
text, and those of the second one, which stand further down by the lines of the first.

The second text cannot go on with a statement of the first one. It would have to start with an
`elif`, `else` or `except`, or with an indentation, and no text that parses does.
-/

namespace Tilde

theorem Lexeme.Sound.mono {n m : Nat} {l : Lexeme} (h : l.Sound n) (hnm : n ≤ m) : l.Sound m := by
  induction hnm with
  | refl => exact h
  | step _ ih => exact ih.succ

namespace Parser

variable {cs us ds vs ts : List Token} {e e' e'' : Token} {body body' : List Stmt} {n n' m k : Nat}

theorem Lines.mono {l : Nat} (h : Lines (fun t => t.lexeme.Sound l) cs) (hlm : l ≤ m) :
    Lines (fun t => t.lexeme.Sound m) cs :=
  ⟨h.capped, fun t ht => (h.tokens t ht).mono hlm, h.unended⟩

/-- A text that parses is at its end or at the end of a line, or starts with a statement. -/
theorem starts_of_ok (h : programTokens n ts = .ok body)
    (hnewline : (frontToken ts).lexeme ≠ .newline) (heof : (frontToken ts).lexeme ≠ .eof) :
    (frontToken ts).lexeme.startsStmt = true := by
  by_contra hstart
  rw [Bool.not_eq_true] at hstart
  cases ts with
  | nil => exact heof rfl
  | cons t ts =>
    obtain ⟨rest, hrun⟩ := parseTokens_ok.mp h
    have hrun : repeatUpTo (textRound _) ((t :: ts).length + 1) [] _ (t :: ts) = _ := hrun
    rw [frontToken_cons] at hnewline heof
    rw [text_stmt hnewline heof] at hrun
    exact (stmtAt_fails hstart _).bind.not_ok hrun

theorem apart_of_ok (h : programTokens n ts = .ok body)
    (hlexeme : (frontToken us).lexeme = (frontToken ts).lexeme) : Apart us := by
  have hstart := starts_of_ok h
  unfold Apart
  rw [hlexeme]
  refine ⟨fun hl => ?_, fun hl => ?_, fun hl => ?_⟩
  all_goals
    rw [hl] at hstart
    exact absurd (hstart nofun nofun) (by decide)

/-- The statements of a text, and those of a text that follows it, further down. -/
theorem programTokens_joined (hcs : Lines (fun t => t.lexeme.Sound m) cs)
    (hds : Lines (fun t => t.lexeme.Sound m) ds) (he : e.lexeme = .eof) (he' : e'.lexeme = .eof)
    (he'' : e''.lexeme = .eof) (hus : Moved 0 cs us) (hvs : Moved k ds vs)
    (ha : programTokens n (cs ++ [e]) = .ok body) (hb : programTokens n' (ds ++ [e']) = .ok body') :
    programTokens m (us ++ (vs ++ [e''])) = .ok (body ++ movedBody k body') := by
  have hlen : (us ++ (vs ++ [e''])).length = cs.length + (ds.length + 1) := by
    simp [hus.length_eq, hvs.length_eq]
  have hapart : Apart (vs ++ [e'']) := by
    refine apart_of_ok hb ?_
    cases hvs with
    | nil => exact he''.trans he'.symm
    | cons ht _ => exact ht.lexeme
  have hend : Apart [e''] := by
    unfold Apart
    rw [frontToken_cons, he'']
    exact ⟨nofun, nofun, nofun⟩
  obtain ⟨_, ha⟩ := parseTokens_ok.mp ha
  obtain ⟨_, hb⟩ := parseTokens_ok.mp hb
  refine parseTokens_ok.mpr ⟨[e''], ?_⟩
  rw [hlen]
  -- both parsers of the joined text have its number of tokens for a bound
  generalize hN : cs.length + (ds.length + 1) = N
  have hplace : InnerPlaceless (exprAt (fieldExpr m) N) := exprAt_placeless _ _
  obtain ⟨ss, left, rfl, hleft, hrun⟩ := text_carries (m := N) (j := N + 1) (N + 1)
    (stmtAt_carries (exprAt_alike (fieldsAlike_of_sound n m) _ N) hplace _ N (Nat.lt_succ_self N))
    hcs hus (by omega) he (by omega) (by omega) ha
  obtain ⟨ss', left', rfl, hleft', hrun'⟩ := text_carries (m := N) (j := N + 1) left
    (stmtAt_carries (exprAt_alike (fieldsAlike_of_sound n' m) _ N) hplace _ N (Nat.lt_succ_self N))
    hds hvs (by omega) he' (by omega) (by omega) hb
  obtain ⟨left', rfl⟩ := Nat.exists_eq_add_one_of_ne_zero (n := left') (by omega)
  change repeatUpTo (textRound _) (N + 1) [] N _ = _
  rw [hrun [] _ hapart, hrun' _ _ hend, text_step, bind_ok peek_apply, frontToken_cons, he'']
  simp [movedBody_zero]

end Parser

/-- A text that parses does not start with an indentation. -/
theorem unindented_of_ok {n : Nat} {ts : List Token} {body : List Stmt}
    (h : Parser.programTokens n ts = .ok body) : ∀ t ∈ ts.head?, t.lexeme ≠ .indent := by
  intro t ht hindent
  cases ts with
  | nil => cases ht
  | cons u ts =>
    cases ht
    have hstart := Parser.starts_of_ok h
    rw [Parser.frontToken_cons, hindent] at hstart
    exact absurd (hstart nofun nofun) (by decide)

/-- The first text's lines, closed further down. -/
theorem moved_closed (cs : List Token) (d : Nat) (pos pos' : Pos) :
    Moved 0 (cs ++ List.replicate d ⟨.dedent, pos⟩) (cs ++ List.replicate d ⟨.dedent, pos'⟩) := by
  induction cs with
  | nil =>
    induction d with
    | zero => exact .nil
    | succ d ih => exact .cons ⟨rfl, nofun⟩ ih
  | cons t cs ih => exact .cons ⟨rfl, fun _ => rfl⟩ ih

/-- The program of two texts that are joined by a line end. -/
theorem parse_append {a b : String} {mode : Mode} {p q : Program} (ha : parse a mode = .ok p)
    (hb : parse b mode = .ok q) :
    parse (a ++ "\n" ++ b) mode
      = .ok ⟨p.body ++ movedBody (a.toList.count '\n' + 1) q.body, mode⟩ := by
  obtain ⟨ts, hts, hp, -⟩ := parse_eq_ok.mp ha
  obtain ⟨us, hus, hq, -⟩ := parse_eq_ok.mp hb
  obtain ⟨cs, pos, pos', d, hclosed, hjoined⟩ := tokenize_joined hts hus (unindented_of_ok hq)
  obtain ⟨cs', pos₁, rfl, hlines⟩ := tokenize_lines hts
  obtain ⟨ds, pos₂, rfl, hlines'⟩ := tokenize_lines hus
  rw [ending, ← List.append_assoc] at hclosed
  obtain ⟨rfl, -⟩ := List.append_inj' hclosed rfl
  have hlen : (a ++ "\n" ++ b).length = a.length + 1 + b.length := by
    rw [String.length_append, String.length_append]
    rfl
  rw [List.map_append] at hjoined
  exact parse_eq_ok.mpr ⟨_, hjoined, Parser.programTokens_joined
    (hlines.mono (by omega)) (hlines'.mono (by omega)) rfl rfl rfl (moved_closed cs d pos pos')
    (moved_map _ ds) hp hq, rfl⟩

/--
**Parsing composes at line ends.**

Two texts that parse can be joined by a line end. The whole parses in the same mode, and its
statements are those of the first text and then those of the second one, where each statement at
every depth stands further down by the line ends of the first text and the one between the two.
-/
theorem parse_joined {a b : String} {mode : Mode} {p q : Program} (ha : parse a mode = .ok p)
    (hb : parse b mode = .ok q) :
    ∃ r, parse (a ++ "\n" ++ b) mode = .ok r ∧ r.mode = mode
      ∧ r.body = p.body ++ movedBody (a.toList.count '\n' + 1) q.body :=
  ⟨_, parse_append ha hb, rfl, rfl⟩

/-- The theorem at a text that ends in an open block, and one that starts with a comment and goes on
over a line end in brackets. -/
theorem parse_joined_of_open_block :
    ∃ p q r, parse "if x:\n    pass" .file = .ok p ∧ parse "  # on\ny = [1,\n2]" .file = .ok q
      ∧ parse "if x:\n    pass\n  # on\ny = [1,\n2]" .file = .ok r
      ∧ r.body = p.body ++ movedBody 2 q.body ∧ q.body.map Stmt.line = [2] := by
  have hok : (parse "if x:\n    pass" .file).isOk = true := by decide +kernel
  have hok' : (parse "  # on\ny = [1,\n2]" .file).map (·.body.map Stmt.line) = .ok [2] := by
    decide +kernel
  cases hp : parse "if x:\n    pass" .file with
  | error e => rw [hp] at hok; cases hok
  | ok p =>
    cases hq : parse "  # on\ny = [1,\n2]" .file with
    | error e => rw [hq] at hok'; cases hok'
    | ok q =>
      rw [hq] at hok'
      obtain ⟨r, hr, -, hbody⟩ := parse_joined hp hq
      exact ⟨p, q, r, rfl, rfl, hr, hbody, Except.ok.inj hok'⟩

end Tilde
