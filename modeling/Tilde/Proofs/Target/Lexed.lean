import Tilde.Proofs.Joined.Lexer
import Tilde.Proofs.Lexer.Layout
import Tilde.Proofs.Lexer.LineEnds
import Tilde.Proofs.Template.Spec
import Tilde.Proofs.Written.Lexer

/-!
# The tokens of a target

The lexer reads a text behind the word `for` as it reads it at the front of a program, but for the
margin: at the front, a text that starts with blanks is indented, and a line end or a comment in front
of the first token leaves nothing, where behind the word it ends a line. Up to that, both runs are in
the same state after each character (`Beside`).
-/

namespace Tilde
namespace Lexer

/-- Whether no token is being read, so that there is no place where one starts. -/
def Mode.isBetween : Mode → Bool
  | .margin _ | .comment _ | .code => true
  | _ => false

theorem Mode.eq_of_unplaced {m n : Mode} (h : m.unplaced = (n.moved 0).unplaced)
    (hn : n.isBetween = true) : m = n := by
  cases n with
  | margin _ | comment _ | code => cases m <;> first | exact h | cases h
  | _ => cases hn

theorem Mode.isBetween_of_isBare {m : Mode} (h : m.isBare = true) : m.isBetween = true := by
  cases m <;> first | rfl | cases h

namespace State

variable {s t u v : State} {c : Char} {cs : List Char}

/-- The token in front of what a loop binds. -/
def forToken : Token := ⟨.word "for", .start⟩

/-- The state of the lexer in a text, and its state there behind the word `for`. -/
inductive Beside : State → State → Prop where
  /-- No token has begun in the text, and no line has ended. -/
  | blank {s u : State} (hs : s.Blank) (htokens : lexemes u.tokens = [.word "for"])
    (hdepth : u.depth = 0) (hindents : u.indents = [])
    (hmode : (∃ width, s.mode = .margin width ∧ u.mode = .code)
      ∨ s.mode = .comment true ∧ u.mode = .comment false) : Beside s u
  /-- The states are the same up to the token in front. -/
  | begun {s u : State} (h : u.unplaced = (s.onto 0 [forToken]).unplaced) : Beside s u

/-- The line has been ended right behind the word `for`. -/
def EndsHeader (u : State) : Prop := ∃ new, lexemes u.tokens = new ++ [.newline, .word "for"]

theorem EndsHeader.adds (hu : u.EndsHeader) (h : Adds u v) : v.EndsHeader := by
  obtain ⟨new, hnew⟩ := hu
  obtain ⟨more, htokens, -⟩ := h
  exact ⟨lexemes more ++ new, by rw [htokens, lexemes_append, hnew, List.append_assoc]⟩

theorem Beside.at (h : Beside s u) (p q : Pos) : Beside { s with pos := p } { u with pos := q } := by
  cases h with
  | blank hs htokens hdepth hindents hmode =>
    exact .blank (s := { s with pos := p }) ⟨hs.tokens, hs.indents, hs.depth, hs.mode⟩ htokens
      hdepth hindents hmode
  | begun h => exact .begun h

/-- A line end behind the word `for` ends the line. -/
theorem pushNewline_endsHeader (htokens : lexemes u.tokens = [.word "for"]) (pos : Pos) :
    (u.pushNewline pos).EndsHeader := by
  obtain ⟨t, ts, hu, ht, hts⟩ := List.map_eq_cons_iff.mp htokens
  obtain rfl := List.map_eq_nil_iff.mp hts
  refine ⟨[], ?_⟩
  rw [pushNewline, hu]
  simp [ht, Lexeme.isLayout, push, hu]

theorem code_endsHeader (htokens : lexemes u.tokens = [.word "for"]) (hdepth : u.depth = 0)
    (h : u.code '\n' = .ok v) : v.EndsHeader := by
  have hcode : u.code '\n' = .ok { u.pushNewline u.pos with mode := .margin 0 } := by
    rw [code, hdepth]
    rfl
  obtain rfl := Except.ok.inj (hcode.symm.trans h)
  exact pushNewline_endsHeader htokens u.pos

theorem Beside.depth_eq (h : u.unplaced = (s.onto 0 [forToken]).unplaced) : u.depth = s.depth := by
  have hdepth := congrArg State.depth h
  exact hdepth

theorem Beside.indents_eq (h : u.unplaced = (s.onto 0 [forToken]).unplaced) :
    u.indents = s.indents := by
  have hindents := congrArg State.indents h
  exact hindents

theorem Beside.lexemes_eq (h : u.unplaced = (s.onto 0 [forToken]).unplaced) :
    lexemes u.tokens = lexemes s.tokens ++ [.word "for"] := by
  have htokens := congrArg (fun s : State => lexemes s.tokens) h
  simpa [unplaced, onto, lexemes, Token.unplaced, Token.moved, forToken, Function.comp_def]
    using htokens

/-- Right behind the word `for` no line starts. -/
theorem Beside.exists_layout {ls : List Lexeme} (h : lexemes u.tokens = ls ++ [.word "for"])
    (hhead : ∀ t ∈ u.tokens.head?, t.lexeme.isLayout = true) : ∃ l ∈ ls, l.isLayout = true := by
  cases ls with
  | nil =>
    obtain ⟨t, ts, hu, ht, -⟩ := List.map_eq_cons_iff.mp h
    have hlayout := hhead t (by rw [hu]; rfl)
    rw [ht] at hlayout
    cases hlayout
  | cons l ls =>
    obtain ⟨t, ts, hu, ht, -⟩ := List.map_eq_cons_iff.mp h
    exact ⟨l, List.mem_cons_self .., ht ▸ hhead t (by rw [hu]; rfl)⟩

/-- A character that has been read alike in two states that are the same up to the token in front. -/
theorem Beside.of_bare {x y : Except LexError State}
    (h : bare y = bare (ontoResult 0 [forToken] x)) (hx : x = .ok t) (hy : y = .ok v) :
    Beside t v := by
  rw [hx, hy] at h
  exact .begun (Except.ok.inj h)

/-- Where the margin of the first line that has code is not empty, the line is indented. -/
theorem Blank.of_deeper {width : Nat} (hs : s.Blank) (h : s.applyMargin (width + 1) = .ok t) :
    t.StartsIndented := by
  have hwidth : s.indents.headD 0 < width + 1 := by rw [hs.indents]; exact Nat.succ_pos width
  rw [State.applyMargin, if_pos hwidth] at h
  cases h
  exact ⟨s.pos, by rw [push, hs.tokens]; rfl⟩

/-- The margin of the first line that has code is empty, or it is indented. -/
theorem Blank.of_margin {width : Nat} (hs : s.Blank) (h : s.applyMargin width = .ok t) :
    t.StartsIndented ∨ t = { s with mode := .code } := by
  cases width with
  | succ width => exact .inl (hs.of_deeper h)
  | zero =>
    rw [State.applyMargin, if_neg (Nat.not_lt_zero _), hs.indents] at h
    cases h
    exact .inr (by rw [hs.indents])

/-- The first character of code. -/
theorem Blank.beside {width : Nat} (hs : s.Blank) (htokens : lexemes u.tokens = [.word "for"])
    (hdepth : u.depth = 0) (hindents : u.indents = []) (hu : u.mode = .code) (hc : c ≠ '\n')
    (ht : (s.applyMargin width).bind (·.code c) = .ok t) (hv : u.code c = .ok v) :
    t.StartsIndented ∨ Beside t v := by
  cases hmargin : s.applyMargin width with
  | error e => rw [hmargin] at ht; cases ht
  | ok s' =>
    rw [hmargin] at ht
    have ht : s'.code c = .ok t := ht
    rcases hs.of_margin hmargin with hindented | rfl
    · exact .inl (hindented.adds (code_begins ht).adds.1)
    · -- the margin has closed nothing, so the text stands behind the word as it would alone
      have hlexemes : u.tokens.map Token.unplaced = [forToken] := by
        obtain ⟨t, ts, htokens, ht, hts⟩ := List.map_eq_cons_iff.mp htokens
        obtain rfl := List.map_eq_nil_iff.mp hts
        rw [htokens, List.map_singleton, Token.unplaced, ht, forToken]
      have hsame : u.unplaced = (State.onto 0 [forToken] { s with mode := .code }).unplaced := by
        simp [unplaced, onto, hu, hdepth, hindents, hs.tokens, hs.indents, hs.depth, hlexemes,
          Mode.moved, Mode.unplaced, forToken, Token.unplaced]
      have honto : (State.onto 0 [forToken] { s with mode := .code }).code c
          = ontoResult 0 [forToken] (State.code { s with mode := .code } c) :=
        code_onto fun hbare => hc hbare.1
      exact .inr (.of_bare ((code_alike hsame).trans (congrArg bare honto)) ht hv)

/-- **A character** that is read in both texts. -/
theorem Beside.step (h : Beside s u) (hs : s.step c = .ok t) (hu : u.step c = .ok v) :
    t.StartsIndented ∨ v.EndsHeader ∨ Beside t v := by
  cases h with
  | begun h =>
    by_cases hbare : s.mode.isBare = true ∧ s.EndsBare [forToken] c
    · -- a line end with no token in front of it ends the line of the word alone
      obtain ⟨hmode, rfl, hdepth, htokens, -, -, -⟩ := hbare
      have hlexemes : lexemes u.tokens = [.word "for"] := by
        rw [lexemes_eq h, htokens]
        rfl
      have hcode : u.code '\n' = .ok v := by
        have hum := Mode.eq_of_unplaced (congrArg State.mode h) (Mode.isBetween_of_isBare hmode)
        rw [State.step, hum] at hu
        cases hm : s.mode with
        | code => rwa [hm] at hu
        | comment alone =>
          rw [hm] at hu hmode
          cases alone with
          | false => exact hu
          | true => cases hmode
        | _ => rw [hm] at hmode; cases hmode
      exact .inr (.inl (code_endsHeader hlexemes ((depth_eq h).trans hdepth) hcode))
    · have honto : (s.onto 0 [forToken]).step c = ontoResult 0 [forToken] (s.step c) :=
        step_onto fun hm hb => hbare ⟨hm, hb⟩
      exact .inr (.inr (.of_bare ((step_alike h).trans (congrArg bare honto)) hs hu))
  | blank hblank htokens hdepth hindents hmode =>
    have hnext {m n : Mode} (hmodes : (∃ width, m = .margin width ∧ n = .code)
        ∨ m = .comment true ∧ n = .comment false) :
        Beside { s with mode := m } { u with mode := n } :=
      .blank ⟨hblank.tokens, hblank.indents, hblank.depth,
        by rcases hmodes with ⟨_, rfl, -⟩ | ⟨rfl, -⟩ <;> rfl⟩ htokens hdepth hindents hmodes
    rcases hmode with ⟨width, hm, hum⟩ | ⟨hm, hum⟩
    · rw [State.step, hm] at hs
      rw [State.step, hum] at hu
      dsimp only at hs hu
      by_cases hline : c = '\n'
      · subst hline
        exact .inr (.inl (code_endsHeader htokens hdepth hu))
      have hgap (hc : c = ' ' ∨ c = '\t' ∨ c = '\r' ∨ c = '\x0c') : v = { u with mode := .code } := by
        rw [code, if_pos (by rcases hc with rfl | rfl | rfl | rfl <;> rfl)] at hu
        exact (Except.ok.inj hu).symm
      unfold margin at hs
      split_ifs at hs with hspace htab hreturn hline' hcomment
      · cases hs
        rw [hgap (.inl (by simpa using hspace))]
        exact .inr (.inr (hnext (.inl ⟨_, rfl, rfl⟩)))
      · cases hs
        rw [hgap (.inr (.inl (by simpa using htab)))]
        exact .inr (.inr (hnext (.inl ⟨_, rfl, rfl⟩)))
      · cases hs
        rw [hgap (.inr (.inr (by simpa using hreturn)))]
        exact .inr (.inr (.blank hblank htokens hdepth hindents (.inl ⟨width, hm, rfl⟩)))
      · exact absurd (by simpa using hline') hline
      · cases hs
        obtain rfl : c = '#' := by simpa using hcomment
        cases hu
        exact .inr (.inr (hnext (.inr ⟨rfl, rfl⟩)))
      · exact (hblank.beside htokens hdepth hindents hum hline hs hu).imp_right .inr
    · rw [State.step, hm] at hs
      rw [State.step, hum] at hu
      dsimp only at hs hu
      by_cases hline : c = '\n'
      · subst hline
        exact .inr (.inl (code_endsHeader htokens hdepth hu))
      · have hline : (c == '\n') = false := by simpa using hline
        rw [hline] at hs hu
        cases hs
        cases hu
        exact .inr (.inr (.blank hblank htokens hdepth hindents (.inr ⟨hm, hum⟩)))

/-- **Some characters** that are read in both texts. -/
theorem Beside.foldlM (h : Beside s u) (hsc : s.Capped) (huc : u.Capped)
    (hs : cs.foldlM feed s = .ok t) (hu : cs.foldlM feed u = .ok v) :
    t.StartsIndented ∨ v.EndsHeader ∨ Beside t v := by
  induction cs generalizing s u with
  | nil =>
    cases hs
    cases hu
    exact .inr (.inr h)
  | cons c cs ih =>
    obtain ⟨_, hfeed, hs⟩ := foldlM_cons_ok.mp hs
    obtain ⟨s', hstep, rfl⟩ := feed_ok_iff.mp hfeed
    obtain ⟨_, hfeed', hu⟩ := foldlM_cons_ok.mp hu
    obtain ⟨u', hstep', rfl⟩ := feed_ok_iff.mp hfeed'
    have hsc' := (feed_adds hsc hfeed).2
    have huc' := (feed_adds huc hfeed').2
    rcases h.step hstep hstep' with hindented | hheader | hbeside
    · exact .inl (.adds (s := { s' with pos := s.pos.next c }) hindented (foldlM_adds hsc' hs).1)
    · exact .inr (.inl (.adds (u := { u' with pos := u.pos.next c }) hheader
        (foldlM_adds huc' hu).1))
    · exact ih (hbeside.at _ _) hsc' huc' hs hu

/-! ## What stands behind the target -/

/-- Behind a blank no word, number or operator goes on, and no margin is empty. -/
theorem mode_of_blank (h : s.step ' ' = .ok t) :
    (∃ width, t.mode = .margin (width + 1)) ∨ (∃ alone, t.mode = .comment alone) ∨ t.mode = .code
      ∨ ∃ l, t.mode = .literal l := by
  have hend (hs : s.step ' ' = s.endToken.bind (·.code ' ')) : t.mode = .code := by
    rw [hs] at h
    cases he : s.endToken with
    | error e => rw [he] at h; cases h
    | ok s' =>
      rw [he] at h
      cases h
      rfl
  cases hm : s.mode with
  | margin width =>
    rw [step, hm] at h
    cases h
    exact .inl ⟨width, rfl⟩
  | comment alone =>
    rw [step, hm] at h
    cases h
    exact .inr (.inl ⟨alone, hm⟩)
  | code =>
    rw [step, hm] at h
    cases h
    exact .inr (.inr (.inl rfl))
  | word start text => exact .inr (.inr (.inl (hend (by rw [step, hm]; rfl))))
  | number start value => exact .inr (.inr (.inl (hend (by rw [step, hm]; rfl))))
  | operator start first =>
    refine .inr (.inr (.inl (hend ?_)))
    rw [step, hm]
    have hnone : pairSymbol? first ' ' = none := by
      unfold pairSymbol?
      split <;> simp_all
    simp only [hnone]
  | literal l =>
    rw [step, hm] at h
    dsimp only at h
    unfold literal endLiteral at h
    split_ifs at h
    all_goals first
      | cases h; exact .inr (.inr (.inr ⟨_, rfl⟩))
      | cases h; exact .inr (.inr (.inl rfl))
      | (split at h <;> cases h; exact .inr (.inr (.inl rfl)))
  | continuation start seenReturn =>
    rw [step, hm] at h
    dsimp only at h
    split_ifs at h <;> simp_all

/-- What is being read behind a text and a blank. -/
theorem mode_behind_blank (h : (cs ++ [' ']).foldlM feed {} = .ok s) :
    (∃ width, s.mode = .margin (width + 1)) ∨ (∃ alone, s.mode = .comment alone) ∨ s.mode = .code
      ∨ ∃ l, s.mode = .literal l ∧ isQuote l.quote = true := by
  have hlands := foldlM_lands (cs ++ [' ']) .start rfl
  rw [h] at hlands
  obtain ⟨t, -, hblank⟩ := foldlM_append_ok.mp h
  obtain ⟨_, hfeed, hlast⟩ := foldlM_cons_ok.mp hblank
  obtain ⟨t', hstep, rfl⟩ := feed_ok_iff.mp hfeed
  cases hlast
  refine (mode_of_blank hstep).imp_right (Or.imp_right (Or.imp_right ?_))
  rintro ⟨l, hl⟩
  -- a literal that is being read has been opened by a quote
  obtain ⟨before, pending, -, -, ⟨opener, chars, -, hopened⟩, -⟩ := hlands.1.at hl
  exact ⟨l, hl, hopened.quote⟩

/-- A comment goes on up to the end of its line. -/
theorem foldlM_comment {alone : Bool} (hmode : s.mode = .comment alone) (hcs : '\n' ∉ cs)
    (h : cs.foldlM feed s = .ok t) : ∃ p, t = { s with pos := p } := by
  induction cs generalizing s with
  | nil =>
    cases h
    exact ⟨t.pos, rfl⟩
  | cons c cs ih =>
    rw [List.mem_cons, not_or] at hcs
    obtain ⟨_, hfeed, h⟩ := foldlM_cons_ok.mp h
    obtain ⟨s', hstep, rfl⟩ := feed_ok_iff.mp hfeed
    rw [step, hmode] at hstep
    dsimp only at hstep
    rw [if_neg (by simpa using Ne.symm hcs.1)] at hstep
    cases hstep
    exact ih (s := { s with pos := s.pos.next c }) hmode hcs.2 h

theorem literal_unclosed {l : Literal} (hquote : isQuote l.quote = true) (hc : isQuote c = false)
    (h : s.literal l c = .ok t) : ∃ l', t.mode = .literal l' ∧ isQuote l'.quote = true := by
  have hne : ¬(c == l.quote) = true := by
    rw [beq_iff_eq]
    rintro rfl
    rw [hquote] at hc
    cases hc
  unfold literal at h
  rw [if_neg hne] at h
  split_ifs at h
  all_goals
    cases h
    exact ⟨_, rfl, hquote⟩

/-- A string literal goes on up to its quote. -/
theorem foldlM_unclosed {l : Literal} (hmode : s.mode = .literal l) (hquote : isQuote l.quote = true)
    (hcs : ∀ c ∈ cs, isQuote c = false) (h : cs.foldlM feed s = .ok t) :
    ∃ l', t.mode = .literal l' := by
  induction cs generalizing s l with
  | nil =>
    cases h
    exact ⟨l, hmode⟩
  | cons c cs ih =>
    obtain ⟨hc, hcs⟩ := List.forall_mem_cons.mp hcs
    obtain ⟨_, hfeed, h⟩ := foldlM_cons_ok.mp h
    obtain ⟨s', hstep, rfl⟩ := feed_ok_iff.mp hfeed
    rw [step, hmode] at hstep
    obtain ⟨l', hmode', hquote'⟩ := literal_unclosed hquote hc hstep
    exact ih (s := { s' with pos := s.pos.next c }) hmode' hquote' hcs h

/-- The tokens of a text whose end is read as some lexemes. -/
theorem Lexes.finish {chars : List Char} {ls : List Lexeme} {ts : List Token}
    (h : Lexes chars true ls) (hneat : Neat ls) (hne : ls ≠ []) (hs : s.mode = .code)
    (ht : chars.foldlM feed s = .ok t) (hts : t.finish = .ok ts) :
    lexemes ts = lexemes s.tokens.reverse ++ (ls ++ .newline :: List.replicate s.indents.length .dedent
      ++ [.eof]) := by
  have hcapped : t.Capped := (foldlM_adds (.inLine (by rw [hs]; rfl)) ht).2
  obtain ⟨t', pos, hfeed, hmode, -, -, rfl⟩ := feed_newline_of_finish hcapped hts
  obtain ⟨u, hu, hwrote⟩ := h.reads rfl s '\n' [] hs (by decide)
  have hend : ['\n'].foldlM feed u = .ok t' := by
    rw [← hu]
    exact foldlM_append_ok.mpr ⟨t, ht, foldlM_cons_ok.mpr ⟨t', hfeed, rfl⟩⟩
  -- within brackets a line end would not end the line
  have hdepth : s.depth = 0 := by
    by_contra hne
    have hu' : u.depth ≠ 0 := by rwa [hwrote.depth, hneat.closed]
    obtain ⟨_, hfeed, hlast⟩ := foldlM_cons_ok.mp hend
    obtain ⟨u', hstep, rfl⟩ := feed_ok_iff.mp hfeed
    rw [step_code hwrote.mode, code] at hstep
    simp [hu'] at hstep
    subst hstep
    cases hlast
    cases hmode
  rw [hwrote.newline hneat hne hdepth] at hend
  cases hend
  obtain ⟨us, htokens, hmoved⟩ := hwrote.tokens
  have hls : lexemes us = ls := by
    rw [hmoved.lexemes]
    simp [lexemes, placed, Function.comp_def]
  simp [htokens, hwrote.indents, ending, ← hls, lexemes]

/-! ## How a text ends -/

/-- The tokens that have been read of a text stand at its front. -/
theorem finish_lexemes {ts : List Token} (hs : s.Capped) (ht : cs.foldlM feed s = .ok t)
    (hts : t.finish = .ok ts) : ∃ ms, lexemes ts = lexemes s.tokens.reverse ++ ms := by
  obtain ⟨-, t', hend, -, rfl⟩ := finish_eq_ok.mp hts
  have hadds := ((foldlM_adds hs ht).1.trans (endToken_ends hend).adds).trans (.pushNewline t'.pos)
  obtain ⟨new, htokens, -⟩ := hadds
  refine ⟨lexemes (new.reverse ++ ending t'.pos (t'.pushNewline t'.pos).indents.length), ?_⟩
  rw [htokens, List.reverse_append, List.append_assoc, lexemes_append, pushNewline_indents]

/-- Behind a comment, a text has no more tokens but those of its layout. -/
theorem finish_comment {alone : Bool} {ts : List Token} (hmode : s.mode = .comment alone)
    (hts : s.finish = .ok ts) :
    ∃ ms, lexemes ts = lexemes s.tokens.reverse ++ ms ∧ .symbol .colon ∉ ms := by
  obtain ⟨-, s', hend, -, rfl⟩ := finish_eq_ok.mp hts
  obtain rfl : s = s' := by
    rw [endToken, hmode] at hend
    exact Except.ok.inj hend
  have hending : .symbol .colon ∉ lexemes (ending s.pos s.indents.length) := by
    simp [ending, lexemes]
  unfold pushNewline
  split
  · exact ⟨_, lexemes_append .., hending⟩
  · split
    · exact ⟨_, lexemes_append .., hending⟩
    · refine ⟨.newline :: _, ?_, List.not_mem_cons_of_ne_of_not_mem (by decide) hending⟩
      simp [push, lexemes]

theorem EndsHeader.lexemes_eq (hu : u.EndsHeader) (ts : List Token) :
    ∃ ns, lexemes (u.tokens.reverse ++ ts) = .word "for" :: .newline :: ns := by
  obtain ⟨new, hnew⟩ := hu
  refine ⟨new.reverse ++ lexemes ts, ?_⟩
  rw [lexemes_append, lexemes, List.map_reverse, ← lexemes, hnew]
  simp

theorem EndsHeader.finish {ts : List Token} (hu : u.EndsHeader) (hts : u.finish = .ok ts) :
    ∃ ns, lexemes ts = .word "for" :: .newline :: ns := by
  obtain ⟨-, u', hend, -, rfl⟩ := finish_eq_ok.mp hts
  exact ((hu.adds (endToken_ends hend).adds).adds (.pushNewline u'.pos)).lexemes_eq _

/-- Behind `for` and a comment, the text ends the line. -/
theorem finish_header {alone : Bool} {ts : List Token} (htokens : lexemes u.tokens = [.word "for"])
    (hmode : u.mode = .comment alone) (hts : u.finish = .ok ts) :
    ∃ ns, lexemes ts = .word "for" :: .newline :: ns := by
  obtain ⟨-, u', hend, -, rfl⟩ := finish_eq_ok.mp hts
  rw [endToken, hmode] at hend
  cases hend
  exact (pushNewline_endsHeader htokens u.pos).lexemes_eq _

end State

/-! ## Both texts -/

/-- The lexemes of an assignment of the variable `w` to what a text binds, and those of a loop over
its value alone that binds the same. -/
inductive Sharing (w : String) : List Lexeme → List Lexeme → Prop where
  /-- The text starts with blanks. -/
  | indented (ts us : List Lexeme) : Sharing w (.indent :: ts) us
  /-- The text has a line end in front of its first token. -/
  | ended (ts us : List Lexeme) : Sharing w ts (.word "for" :: .newline :: us)
  /-- The text ends with a comment, or with the margin of a line. -/
  | apart (ls ts us : List Lexeme) (h : .symbol .colon ∉ us ∨ ∃ l ∈ ls, l.isLayout = true) :
    Sharing w (ls ++ ts) (.word "for" :: (ls ++ us))
  /-- The tokens of the text stand in both. -/
  | whole (ls : List Lexeme) (n : Nat) :
    Sharing w (ls ++ ([.symbol .assign, .word w] ++ .newline :: List.replicate n .dedent ++ [.eof]))
      (.word "for" :: (ls ++ ([.word "in", .symbol .openBracket, .word w, .symbol .closeBracket,
        .symbol .colon, .word "pass"] ++ .newline :: List.replicate n .dedent ++ [.eof])))

namespace State

variable {s t u v : State} {w : String}

theorem foldlM_for : "for ".toList.foldlM feed {}
    = .ok { pos := ⟨1, 5⟩, tokens := [forToken], mode := .code } := rfl

theorem beside_for : Beside {} { pos := ⟨1, 5⟩, tokens := [forToken], mode := .code } :=
  .blank ⟨rfl, rfl, rfl, rfl⟩ rfl rfl rfl (.inl ⟨0, rfl, rfl⟩)

theorem lexes_assigned (hw : isIdentifier w = true) :
    Lexes ('=' :: ' ' :: w.toList) true [.symbol .assign, .word w] :=
  (Lexes.lexeme (l := .symbol .assign) rfl).append (d := ' ') (by decide) (lexes_word hw).blank

theorem lexes_looped (hw : isIdentifier w = true) :
    Lexes ("in [".toList ++ w.toList ++ "]: pass".toList) true
      [.word "in", .symbol .openBracket, .word w, .symbol .closeBracket, .symbol .colon,
        .word "pass"] := by
  have hpass : Lexes "pass".toList true [.word "pass"] := lexes_word (by decide)
  have hin : Lexes "in".toList true [.word "in"] := lexes_word (by decide)
  have hbehind := hpass.blank.symbol .colon rfl
  have hitems := ((lexes_word hw).squares.append (d := ':') (by decide) hbehind).blank
  simpa using hin.append (d := ' ') (by decide) hitems

theorem neat_assigned (hw : isIdentifier w = true) : Neat [.symbol .assign, .word w] where
  spellable := by simpa [Lexeme.spellable] using hw
  closed _ := rfl

theorem neat_looped (hw : isIdentifier w = true) :
    Neat [.word "in", .symbol .openBracket, .word w, .symbol .closeBracket, .symbol .colon,
      .word "pass"] where
  spellable := by
    have hwords : isIdentifier "in" = true ∧ isIdentifier "pass" = true := by decide
    simpa [Lexeme.spellable, hwords] using hw
  closed _ := by simp [Lexeme.depthAfter, depthAfter]

/-! ### From the end of the text on -/

section Ends

variable {ts us : List Token}

/-- No line ends in what a loop has behind its target. -/
theorem looped_inline (hw : isIdentifier w = true) :
    '\n' ∉ "in [".toList ++ w.toList ++ "]: pass".toList := by
  have hname := Template.not_mem_name hw ['\n'] (by decide) '\n' (by simp)
  simp [hname]

/-- No quote stands in what an assignment has behind its target. -/
theorem assigned_unquoted (hw : isIdentifier w = true) :
    ∀ c ∈ '=' :: ' ' :: w.toList, isQuote c = false := by
  have hname := Template.not_mem_name hw ['\'', '"'] (by decide)
  intro c hc
  by_contra hquote
  have hmem : c ∈ ['\'', '"'] := by simpa [isQuote, or_iff_not_imp_left] using hquote
  have hplain : c ≠ '=' ∧ c ≠ ' ' := by
    constructor <;> rintro rfl <;> exact absurd hmem (by decide)
  simp [hplain, hname c hmem] at hc

/-- Behind a margin that is not empty the first character of code opens an indentation. -/
theorem Blank.deeper {width : Nat} (hs : s.Blank) (hmode : s.mode = .margin (width + 1))
    (h : s.step '=' = .ok t) : t.StartsIndented := by
  have hmargin : s.step '=' = (s.applyMargin (width + 1)).bind (·.code '=') := by
    rw [State.step, hmode]
    rfl
  rw [hmargin] at h
  cases happly : s.applyMargin (width + 1) with
  | error e => rw [happly] at h; cases h
  | ok s' =>
    rw [happly] at h
    exact (hs.of_deeper happly).adds (code_begins h).adds.1

variable (hw : isIdentifier w = true)
  (ht : ('=' :: ' ' :: w.toList).foldlM feed s = .ok t) (hts : t.finish = .ok ts)
  (hv : ("in [".toList ++ w.toList ++ "]: pass".toList).foldlM feed u = .ok v)
  (hus : v.finish = .ok us)
include hw ht hts hv hus

/-- The text has no token. -/
theorem sharing_of_blank (hs : s.Blank) (hsc : s.Capped) (htokens : lexemes u.tokens = [.word "for"])
    (hmode : (∃ width, s.mode = .margin (width + 1)) ∨ u.mode = .comment false) :
    Sharing w (lexemes ts) (lexemes us) := by
  rcases hmode with ⟨width, hmode⟩ | hmode
  · -- the text in front of the equals sign is the margin of its line
    obtain ⟨_, hfeed, hrest⟩ := foldlM_cons_ok.mp ht
    obtain ⟨s', hstep, rfl⟩ := feed_ok_iff.mp hfeed
    have hadds := (foldlM_adds (feed_adds hsc hfeed).2 hrest).1
    have hindented := (hs.deeper hmode hstep).adds (t := { s' with pos := s.pos.next '=' })
      (.none rfl rfl)
    obtain ⟨pos, hpos⟩ := (hindented.adds hadds).finish hts
    obtain ⟨more, rfl⟩ := List.head?_eq_some_iff.mp hpos
    exact .indented _ _
  · obtain ⟨p, rfl⟩ := foldlM_comment hmode (looped_inline hw) hv
    obtain ⟨ns, hns⟩ := finish_header (u := { u with pos := p }) htokens hmode hus
    rw [hns]
    exact .ended _ _

/-- The text has a token. -/
theorem sharing_of_begun (h : u.unplaced = (s.onto 0 [forToken]).unplaced) (hsc : s.Capped)
    (huc : u.Capped)
    (hmode : (∃ width, s.mode = .margin (width + 1)) ∨ (∃ alone, s.mode = .comment alone)
      ∨ s.mode = .code ∨ ∃ l, s.mode = .literal l ∧ isQuote l.quote = true) :
    Sharing w (lexemes ts) (lexemes us) := by
  have hlexemes : lexemes u.tokens.reverse = .word "for" :: lexemes s.tokens.reverse := by
    have htokens := Beside.lexemes_eq h
    rw [lexemes, List.map_reverse, ← lexemes, htokens]
    simp [lexemes]
  have humode {m : Mode} (hm : s.mode = m) (hbetween : m.isBetween = true) : u.mode = m := by
    have hmodes := congrArg State.mode h
    subst hm
    exact Mode.eq_of_unplaced hmodes hbetween
  obtain ⟨ms, hms⟩ := finish_lexemes hsc ht hts
  rcases hmode with ⟨width, hmode⟩ | ⟨alone, hmode⟩ | hmode | ⟨l, hmode, hquote⟩
  · obtain ⟨ns, hns⟩ := finish_lexemes huc hv hus
    rw [hms, hns, hlexemes]
    refine .apart _ _ _ (.inr ?_)
    simpa [lexemes] using
      Beside.exists_layout (Beside.lexemes_eq h) (huc (by rw [humode hmode rfl]; rfl))
  · obtain ⟨p, rfl⟩ := foldlM_comment (humode hmode rfl) (looped_inline hw) hv
    obtain ⟨ns, hns, hcolon⟩ := finish_comment (s := { u with pos := p }) (humode hmode rfl) hus
    rw [hms, hns, hlexemes]
    exact .apart _ _ _ (.inl hcolon)
  · rw [(lexes_assigned hw).finish (neat_assigned hw) (by simp) hmode ht hts,
      (lexes_looped hw).finish (neat_looped hw) (by simp) (humode hmode rfl) hv hus, hlexemes,
      Beside.indents_eq h]
    exact .whole _ _
  · obtain ⟨l', hmode'⟩ := foldlM_unclosed hmode hquote (assigned_unquoted hw) ht
    obtain ⟨hmay, -⟩ := finish_eq_ok.mp hts
    rw [hmode'] at hmay
    cases hmay

end Ends

end State
end Lexer

open Lexer Lexer.State

theorem tokenize_append {source : String} {ts : List Token} (cs ds : List Char)
    (hsource : source.toList = cs ++ ds) (h : tokenize source = .ok ts) :
    ∃ s t, cs.foldlM feed {} = .ok s ∧ ds.foldlM feed s = .ok t ∧ t.finish = .ok ts := by
  obtain ⟨t, hrun, hts⟩ := tokenize_ok_iff.mp h
  rw [hsource] at hrun
  obtain ⟨s, hs, ht⟩ := foldlM_append_ok.mp hrun
  exact ⟨s, t, hs, ht, hts⟩

/-- **The tokens of an assignment and of a loop with one text for their targets.** -/
theorem tokenize_sharing {text w : String} {ts us : List Token} (hw : isIdentifier w = true)
    (ha : tokenize (text ++ " = " ++ w) = .ok ts)
    (hb : tokenize ("for " ++ text ++ " in [" ++ w ++ "]: pass") = .ok us) :
    Sharing w (lexemes ts) (lexemes us) := by
  obtain ⟨s, t, hs, ht, hts⟩ := tokenize_append (text.toList ++ [' '])
    ('=' :: ' ' :: w.toList) (by simp) ha
  obtain ⟨u, v, hu, hv, hus⟩ := tokenize_append ("for ".toList ++ (text.toList ++ [' ']))
    ("in [".toList ++ w.toList ++ "]: pass".toList) (by simp) hb
  rw [List.foldlM_append, foldlM_for] at hu
  have hsc := (foldlM_adds (fun _ _ h => by cases h) hs).2
  have huc := (foldlM_adds (.inLine rfl) hu).2
  have hmode := mode_behind_blank hs
  rcases beside_for.foldlM (fun _ _ h => by cases h) (.inLine rfl) hs hu with h | h | h
  · obtain ⟨pos, hpos⟩ := (h.adds (foldlM_adds hsc ht).1).finish hts
    obtain ⟨more, rfl⟩ := List.head?_eq_some_iff.mp hpos
    exact .indented _ _
  · obtain ⟨ns, hns⟩ := (h.adds (foldlM_adds huc hv).1).finish hus
    rw [hns]
    exact .ended _ _
  · cases h with
    | begun h => exact sharing_of_begun hw ht hts hv hus h hsc huc hmode
    | blank hblank htokens hdepth hindents hmodes =>
      refine sharing_of_blank hw ht hts hv hus hblank hsc htokens ?_
      rcases hmodes with ⟨width, hm, -⟩ | ⟨-, hum⟩
      · rw [hm] at hmode
        obtain ⟨width', hm'⟩ | ⟨_, hm'⟩ | hm' | ⟨_, hm', -⟩ := hmode
        · exact .inl ⟨width', hm.trans hm'⟩
        all_goals cases hm'
      · exact .inr hum

end Tilde
