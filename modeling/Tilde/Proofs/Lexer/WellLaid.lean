import Mathlib.Tactic.SplitIfs
import Tilde.Proofs.Lexer.Layout

/-!
# Tokens are well laid

At the end of a text the open line and the open indentations are closed. What has been said of the
lexer behind any characters (`State.Reached`) then becomes a statement about all the tokens of a text
(`WellLaid`), or about the place of the error where there are none (`LexError.Faults`).
-/

namespace Tilde

variable {source : List Char} {ts front : List Token} {n : Nat} {pos : Pos}

/-- Some tokens are whole lines, with brackets closed and `n` indentations open behind them. -/
structure AtMargin (n : Nat) (ts : List Token) : Prop where
  laid : Laid ts
  brackets : openBrackets ts = 0
  line : EndsLine ts
  indents : occurrences .dedent ts + n = occurrences .indent ts

namespace AtMargin

theorem dedent (h : AtMargin (n + 1) ts) (pos : Pos) : AtMargin n (ts ++ [⟨.dedent, pos⟩]) where
  laid := h.laid.concat ⟨h.brackets, h.line, by have := h.indents; omega⟩
  brackets := by rw [openBrackets_concat, h.brackets]; rfl
  line := endsLine_concat.mpr rfl
  indents := by
    have := h.indents
    rw [occurrences_concat, occurrences_concat, if_pos rfl, if_neg (by simp)]
    omega

/-- All indentations are closed. -/
theorem dedents (h : AtMargin n ts) (pos : Pos) :
    AtMargin 0 (ts ++ List.replicate n ⟨.dedent, pos⟩) := by
  induction n generalizing ts with
  | zero => rwa [List.replicate_zero, List.append_nil]
  | succ n ih =>
    rw [List.replicate_succ, List.append_cons]
    exact ih (h.dedent pos)

theorem eof (h : AtMargin 0 ts) (pos : Pos) : Laid (ts ++ [⟨.eof, pos⟩]) :=
  h.laid.concat ⟨h.brackets, h.line, h.indents⟩

end AtMargin

/-- The tokens of a text: where they stand, and how line ends and changes of indentation stand among
them. -/
structure WellLaid (source : List Char) (ts : List Token) : Prop where
  /-- The end of the text is the last token, and no other token. -/
  ended : ∃ front, ts = front ++ [⟨.eof, .after source⟩] ∧ ∀ t ∈ front, t.lexeme ≠ .eof
  /-- Indentations are closed only after they are opened. -/
  nested : ∀ front, front <+: ts → occurrences .dedent front ≤ occurrences .indent front
  /-- All of them are closed in the end. -/
  closed : occurrences .dedent ts = occurrences .indent ts
  /-- A line end stands behind a token of a line. -/
  newline : ∀ front t rest, ts = front ++ t :: rest → t.lexeme = .newline →
    ∃ u, front.getLast? = some u ∧ u.lexeme.isLayout = false
  /-- No bracket is open at a line end, at a change of indentation and at the end of the text. -/
  brackets : ∀ front t rest, ts = front ++ t :: rest → t.lexeme.isLayout = true ∨ t.lexeme = .eof →
    openBrackets front = 0
  /-- In front of the indentations that are closed at the end of the text, the last line is ended. -/
  lastLine : ∀ front dedents, ts = front ++ dedents ++ [⟨.eof, .after source⟩] →
    (∀ t ∈ dedents, t.lexeme = .dedent) → EndsLine front
  /-- Tokens stand in the order of their places. -/
  ordered : ts.Pairwise fun t u => t.pos ≤ u.pos
  /-- A token stands at its first character, unless no characters spell it: a change of indentation,
  the end of the text and the line end in front of it. -/
  stands : ∀ t ∈ ts, t.lexeme = .indent ∨ t.lexeme = .dedent ∨ t.lexeme = .eof
    ∨ (t.lexeme = .newline ∧ t.pos = .after source)
    ∨ ∃ before text rest, source = before ++ text ++ rest ∧ t.pos = .after before
      ∧ t.lexeme.SpelledBy text
  /-- The text spells its tokens one after the other, up to those that are added at its end. -/
  spelled : ∃ body line n,
    ts = body ++ line ++ List.replicate n ⟨.dedent, .after source⟩ ++ [⟨.eof, .after source⟩]
      ∧ Spelled source body ∧ (line = [] ∨ line = [⟨.newline, .after source⟩])

/-- The tokens that are added at the end of a text. -/
theorem added_at_end {line : List Token} (hline : line = [] ∨ line = [⟨.newline, pos⟩]) :
    ∀ t ∈ line ++ List.replicate n ⟨.dedent, pos⟩,
      t.pos = pos ∧ (t.lexeme = .newline ∨ t.lexeme = .dedent) := by
  intro t ht
  rcases List.mem_append.mp ht with ht | ht
  · rcases hline with rfl | rfl
    · cases ht
    · rw [List.mem_singleton.mp ht]
      exact ⟨rfl, .inl rfl⟩
  · rw [List.eq_of_mem_replicate ht]
    exact ⟨rfl, .inr rfl⟩

/-- What is added at the end of a text leaves the tokens well laid. -/
theorem AtMargin.wellLaid {body line : List Token} (hspelled : Spelled source body)
    (hline : line = [] ∨ line = [⟨.newline, .after source⟩]) (h : AtMargin n (body ++ line)) :
    WellLaid source
      (body ++ line ++ List.replicate n ⟨.dedent, .after source⟩ ++ [⟨.eof, .after source⟩]) := by
  have hclosed := h.dedents (.after source)
  have hlaid := hclosed.eof (.after source)
  have hadded := added_at_end (n := n) hline
  exact
    { ended := by
        refine ⟨_, rfl, fun t ht => ?_⟩
        rw [List.append_assoc] at ht
        rcases List.mem_append.mp ht with ht | ht
        · exact hspelled.ne_eof t ht
        · rcases (hadded t ht).2 with h | h <;> simp [h]
      nested := fun _ => hlaid.nested
      closed := by
        rw [occurrences_concat, occurrences_concat]
        exact hclosed.indents
      newline := by
        intro front t rest heq hnewline
        have hfits := hlaid front t rest heq
        rw [hnewline] at hfits
        simpa [EndsLine] using hfits.2
      brackets := by
        intro front t rest heq hlayout
        have hfits := hlaid front t rest heq
        generalize t.lexeme = l at hfits hlayout
        cases l with
        | newline | indent | dedent | eof => exact hfits.1
        | _ => rcases hlayout with h | h <;> cases h
      lastLine := by
        intro front dedents heq hdedents
        -- the first token behind the line asks for its end
        cases dedents with
        | nil =>
          have hfits := hlaid front ⟨.eof, .after source⟩ [] (by rw [heq, List.append_nil])
          exact hfits.2.1
        | cons d ds =>
          have hfits := hlaid front d (ds ++ [⟨.eof, .after source⟩]) (by rw [heq]; simp)
          rw [hdedents d (List.mem_cons_self ..)] at hfits
          exact hfits.2.1
      ordered := by
        rw [List.append_assoc body, List.append_assoc body]
        have hend : ∀ t ∈ line ++ List.replicate n ⟨.dedent, .after source⟩
            ++ [(⟨.eof, .after source⟩ : Token)], t.pos = .after source := by
          intro t ht
          rcases List.mem_append.mp ht with ht | ht
          · exact (hadded t ht).1
          · rw [List.mem_singleton.mp ht]
        refine List.pairwise_append.mpr ⟨hspelled.ordered, ?_, fun t ht u hu => ?_⟩
        · refine List.pairwise_of_forall_mem_list fun t ht u hu => ?_
          rw [hend t ht, hend u hu]
          exact Pos.le_refl _
        · rw [hend u hu]
          exact hspelled.le_after t ht
      stands := by
        intro t ht
        rw [List.append_assoc body] at ht
        rcases List.mem_append.mp ht with ht | ht
        · rcases List.mem_append.mp ht with ht | ht
          · obtain ⟨before, text, rest, hsource, hpos, hl | ⟨-, hl | hl⟩⟩ := hspelled.stands t ht
            · exact .inr (.inr (.inr (.inr ⟨before, text, rest, hsource, hpos, hl⟩)))
            · exact .inl hl
            · exact .inr (.inl hl)
          · obtain ⟨hpos, hl | hl⟩ := hadded t ht
            · exact .inr (.inr (.inr (.inl ⟨hl, hpos⟩)))
            · exact .inr (.inl hl)
        · rw [List.mem_singleton.mp ht]
          exact .inr (.inr (.inl rfl))
      spelled := ⟨body, line, n, rfl, hspelled, hline⟩ }

namespace Lexer.State

variable {s : State} {read : List Char}

/-- The open line is ended at the end of a text. -/
theorem pushNewline_atMargin (hs : Settled read s.tokens s.depth s.indents) (hdepth : s.depth = 0)
    (pos : Pos) : ∃ line, (s.pushNewline pos).tokens.reverse = s.tokens.reverse ++ line
      ∧ (line = [] ∨ line = [⟨.newline, pos⟩])
      ∧ AtMargin s.indents.length (s.tokens.reverse ++ line) := by
  have hbrackets : openBrackets s.tokens.reverse = 0 := hs.depth.trans hdepth
  by_cases hline : EndsLine s.tokens.reverse
  · refine ⟨[], ?_, .inl rfl, ?_⟩
    · rw [pushNewline_of_layout pos (by simpa [EndsLine] using hline), List.append_nil]
    · rw [List.append_nil]
      exact ⟨hs.laid, hbrackets, hline, hs.indents⟩
  · refine ⟨[⟨.newline, pos⟩], ?_, .inr rfl, ⟨hs.laid.concat ⟨hbrackets, hline⟩, ?_, ?_, ?_⟩⟩
    · unfold pushNewline
      split
      · next hnil => exact absurd (hnil ▸ endsLine_nil) hline
      · next u us htokens =>
        rw [if_neg]
        · exact List.reverse_cons
        · rwa [htokens, List.reverse_cons, endsLine_concat] at hline
    · rw [openBrackets_concat, hbrackets]
      rfl
    · exact endsLine_concat.mpr rfl
    · rw [occurrences_concat, occurrences_concat]
      exact hs.indents

/-- **The end of a text** closes what is open. -/
theorem finish_wellLaid (hs : s.Reached read) (hpos : s.pos = .after read) (h : s.finish = .ok ts) :
    WellLaid read ts := by
  obtain ⟨-, s', hend, hdepth, rfl⟩ := finish_eq_ok.mp h
  obtain ⟨hsettled, hpos'⟩ := endToken_settled hs hend
  obtain ⟨line, htokens, hline, hmargin⟩ := pushNewline_atMargin hsettled hdepth (.after read)
  rw [hpos', hpos, htokens, ending, ← List.append_assoc]
  exact hmargin.wellLaid hsettled.spelled hline

/-- Where a text may not end, the error is about what has been begun in it. -/
theorem finish_faults {e : LexError} (hs : s.Reached read) (hpos : s.pos = .after read)
    (h : s.finish = .error e) : e.Faults read := by
  unfold finish at h
  split at h
  · next l hmode =>
    cases h
    obtain ⟨before, pending, rfl, -, hbegun, -⟩ := hs.at hmode
    obtain ⟨opener, chars, rfl, hl⟩ := hbegun
    exact ⟨before ++ opener, l.quote :: chars, (List.append_assoc ..).symm, hl.opened, trivial⟩
  · next start seenReturn hmode =>
    cases h
    obtain ⟨before, pending, rfl, -, ⟨rfl, rfl⟩, -⟩ := hs.at hmode
    refine ⟨before, _, rfl, rfl, ?_⟩
    cases seenReturn with
    | false => exact .inl rfl
    | true => exact .inr rfl
  · cases hend : s.endToken with
    | error e' =>
      simp only [hend, bind, Except.bind] at h
      cases h
      exact (endToken_faults hs hend).1
    | ok s' =>
      simp only [hend, bind, Except.bind] at h
      split_ifs at h
      cases h
      exact ⟨read, [], (List.append_nil _).symm, (endToken_settled hs hend).2.trans hpos, rfl⟩

/-- A run over a text that ends well leaves its tokens laid out well. -/
theorem run_wellLaid {source : List Char} {ts : List Token}
    (h : (do let s ← source.foldlM feed {}; s.finish) = .ok ts) : WellLaid source ts := by
  have hrun := foldlM_lands source Reached.start rfl
  cases hs : source.foldlM feed {} with
  | error e => rw [hs] at h; cases h
  | ok s =>
    rw [hs] at h hrun
    exact finish_wellLaid hrun.1 hrun.2 h

end Lexer.State

/-- **An error is reported where its fault stands** in the text. -/
theorem tokenize_faults {source : String} {e : LexError} (h : tokenize source = .error e) :
    e.Faults source.toList := by
  have hrun := Lexer.State.foldlM_lands source.toList Lexer.State.Reached.start rfl
  unfold tokenize at h
  cases hs : source.toList.foldlM Lexer.State.feed {} with
  | error e' =>
    rw [hs] at h hrun
    cases h
    exact hrun.1
  | ok s =>
    rw [hs] at h hrun
    exact Lexer.State.finish_faults hrun.1 hrun.2 h

/--
**Layout.** The tokens of a text end with the end of the text, which occurs nowhere else. In no front
of them are more indentations closed than opened, and in all of them as many; no line end comes first
or behind a line end or a change of indentation; no bracket is open at one of these tokens or at the
end, where a closing bracket too many counts for nothing; the last line is ended. Tokens stand in the
order of their places, and each one at the first character of its spelling, but for changes of
indentation and for what is added at the end of the text.
-/
theorem tokenize_wellLaid {source : String} {ts : List Token} (h : tokenize source = .ok ts) :
    WellLaid source.toList ts :=
  Lexer.State.run_wellLaid h

/-- The tokens of a block that no line end closes are well laid. -/
theorem tokenize_wellLaid_of_block :
    ∃ ts, tokenize "if a:\n b" = .ok ts ∧ WellLaid "if a:\n b".toList ts
      ∧ ts = [⟨.word "if", ⟨1, 1⟩⟩, ⟨.word "a", ⟨1, 4⟩⟩, ⟨.symbol .colon, ⟨1, 5⟩⟩,
        ⟨.newline, ⟨1, 6⟩⟩, ⟨.indent, ⟨2, 2⟩⟩, ⟨.word "b", ⟨2, 2⟩⟩, ⟨.newline, ⟨2, 3⟩⟩,
        ⟨.dedent, ⟨2, 3⟩⟩, ⟨.eof, ⟨2, 3⟩⟩] := by
  have htokens : tokenize "if a:\n b" = .ok [⟨.word "if", ⟨1, 1⟩⟩, ⟨.word "a", ⟨1, 4⟩⟩,
      ⟨.symbol .colon, ⟨1, 5⟩⟩, ⟨.newline, ⟨1, 6⟩⟩, ⟨.indent, ⟨2, 2⟩⟩, ⟨.word "b", ⟨2, 2⟩⟩,
      ⟨.newline, ⟨2, 3⟩⟩, ⟨.dedent, ⟨2, 3⟩⟩, ⟨.eof, ⟨2, 3⟩⟩] := by
    decide +kernel
  exact ⟨_, htokens, tokenize_wellLaid htokens, rfl⟩

end Tilde
