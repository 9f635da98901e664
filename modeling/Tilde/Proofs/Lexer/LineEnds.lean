import Mathlib.Tactic.SplitIfs
import Tilde.Proofs.Lexer.Step

/-!
# Line ends of two characters

A text may end its lines with a carriage return and a line feed instead of a line feed. The lexer
skips the return in margins, between tokens, within comments and behind the backslash that continues
a line, so the tokens are the same. In one place it does not. A string literal goes on behind a
backslash at the end of a line; where a return stands between the two, the backslash and the return
are kept as characters, and the line feed that follows breaks the literal off.

The argument has two parts. Where something stands in a text says nothing about what it is, so the
lexer may be followed without the places (`State.unplaced`). And a return in front of a line feed
changes nothing but places, unless a literal waits for the character behind a backslash.
-/

namespace Tilde

/-- A character, with a carriage return in front of it if it is a line feed. -/
def lineEnd (c : Char) : List Char := if c = '\n' then ['\r', '\n'] else [c]

/-- The text with a carriage return in front of every line feed. -/
def withReturns (source : String) : String := String.ofList (source.toList.flatMap lineEnd)

/-- What tokens are, or what is wrong with a text, without the places. -/
def lexemesOf (r : Except LexError (List Token)) : Except LexFault (List Lexeme) :=
  (r.map (·.map Token.lexeme)).mapError LexError.fault

/-- The token without its place. -/
def Token.unplaced (t : Token) : Token := ⟨t.lexeme, .start⟩

@[simp]
theorem Token.unplaced_mk (l : Lexeme) (p : Pos) : Token.unplaced ⟨l, p⟩ = ⟨l, .start⟩ := rfl

@[simp]
theorem Token.unplaced_unplaced (t : Token) : t.unplaced.unplaced = t.unplaced := rfl

namespace Lexer

/-- Whether a string literal waits for the character behind a backslash. -/
def Mode.isEscaping : Mode → Bool
  | .literal l => l.escaping
  | _ => false

/-- Whether the lexer, on its way through the characters, comes to a line feed behind a backslash in
a string literal. -/
def State.continuesLiteral (s : State) : List Char → Bool
  | [] => false
  | c :: cs =>
    c == '\n' && s.mode.isEscaping ||
      match s.feed c with
      | .ok t => t.continuesLiteral cs
      | .error _ => false

/-! ## Places -/

/-- What is being read, without the places. -/
def Mode.unplaced : Mode → Mode
  | .margin width => .margin width
  | .comment alone => .comment alone
  | .code => .code
  | .word _ text => .word .start text
  | .number _ value => .number .start value
  | .operator _ c => .operator .start c
  | .literal l => .literal { l with start := .start, opened := .start }
  | .continuation _ seenReturn => .continuation .start seenReturn

@[simp]
theorem Mode.unplaced_unplaced (m : Mode) : m.unplaced.unplaced = m.unplaced := by
  cases m <;> rfl

namespace State

variable {s t : State} {c : Char}

/-- The state without the places. -/
def unplaced (s : State) : State where
  pos := .start
  indents := s.indents
  depth := s.depth
  tokens := s.tokens.map Token.unplaced
  mode := s.mode.unplaced

/-- What comes of a step, without the places. -/
def bare (r : Except LexError State) : Except LexFault State :=
  (r.map unplaced).mapError LexError.fault

theorem bare_ok (h : s.unplaced = t.unplaced) : bare (.ok s) = bare (.ok t) :=
  congrArg Except.ok h

theorem bare_eq_ok {x : Except LexError State} (h : bare x = .ok t.unplaced) :
    ∃ u, x = .ok u ∧ u.unplaced = t.unplaced := by
  cases x with
  | error e => cases h
  | ok u => exact ⟨u, rfl, Except.ok.inj h⟩

theorem bare_eq_error {x : Except LexError State} {f : LexFault} (h : bare x = .error f) :
    ∃ e, x = .error e ∧ e.fault = f := by
  cases x with
  | error e => exact ⟨e, rfl, Except.error.inj h⟩
  | ok u => cases h

/-- Steps in a row, where each does the same without the places. -/
theorem bare_bind {x y : Except LexError State} {f g : State → Except LexError State}
    (hx : bare x = bare y) (hf : ∀ u v : State, u.unplaced = v.unplaced → bare (f u) = bare (g v)) :
    bare (x.bind f) = bare (y.bind g) := by
  cases x with
  | error e =>
    cases y with
    | error e' => exact hx
    | ok v => cases hx
  | ok u =>
    cases y with
    | error e' => cases hx
    | ok v => exact hf u v (Except.ok.inj hx)

theorem unplaced_unplaced : s.unplaced.unplaced = s.unplaced := by
  simp [unplaced]

/-- What is read next may change in both states alike. -/
theorem unplaced_mode (h : s.unplaced = t.unplaced) {m m' : Mode} (hm : m.unplaced = m'.unplaced) :
    ({ s with mode := m } : State).unplaced = ({ t with mode := m' } : State).unplaced := by
  simp only [unplaced, mk.injEq, true_and] at h ⊢
  exact ⟨h.1, h.2.1, h.2.2.1, hm⟩

theorem push_unplaced (l : Lexeme) (p q : Pos) :
    (s.unplaced.push l p).unplaced = (s.push l q).unplaced := by
  simp [push, unplaced, Mode.unplaced]

theorem pushNewline_unplaced (p q : Pos) :
    (s.unplaced.pushNewline p).unplaced = (s.pushNewline q).unplaced := by
  unfold pushNewline
  cases hs : s.tokens with
  | nil => simp [unplaced, hs]
  | cons t ts =>
    have htokens : s.unplaced.tokens = t.unplaced :: ts.map Token.unplaced := by
      simp [unplaced, hs]
    have hlexeme : t.unplaced.lexeme = t.lexeme := rfl
    rw [htokens]
    dsimp only
    rw [hlexeme]
    split_ifs
    · exact unplaced_unplaced
    · exact push_unplaced .newline p q

theorem endToken_unplaced : bare s.unplaced.endToken = bare s.endToken := by
  have hmode : s.unplaced.mode = s.mode.unplaced := rfl
  unfold endToken
  cases hm : s.mode with
  | word start text =>
    simp only [hmode, hm, Mode.unplaced]
    exact bare_ok (push_unplaced _ _ _)
  | number start value =>
    simp only [hmode, hm, Mode.unplaced]
    split_ifs
    · exact bare_ok (push_unplaced _ _ _)
    · rfl
  | operator start c =>
    simp only [hmode, hm, Mode.unplaced]
    split
    · exact bare_ok (push_unplaced _ _ _)
    · rfl
  | _ =>
    simp only [hmode, hm, Mode.unplaced]
    exact bare_ok unplaced_unplaced

theorem operator_unplaced : bare (s.unplaced.operator c) = bare (s.operator c) := by
  unfold operator
  split
  · exact bare_ok (by simp [push, unplaced, Mode.unplaced])
  · split_ifs
    · exact bare_ok (unplaced_mode unplaced_unplaced rfl)
    · rfl

theorem code_unplaced : bare (s.unplaced.code c) = bare (s.code c) := by
  have hdepth : s.unplaced.depth = s.depth := rfl
  unfold code
  rw [hdepth]
  split_ifs
  rotate_right
  · exact operator_unplaced
  all_goals refine bare_ok ?_
  rotate_left 3
  · exact unplaced_mode (pushNewline_unplaced _ _) rfl
  all_goals exact unplaced_mode unplaced_unplaced rfl

theorem code_alike (h : s.unplaced = t.unplaced) : bare (s.code c) = bare (t.code c) := by
  rw [← code_unplaced, h, code_unplaced]

theorem closeIndents_unplaced (width : Nat) (pos : Pos) (indents : List Nat) (tokens : List Token) :
    closeIndents width .start indents (tokens.map Token.unplaced)
      = ((closeIndents width pos indents tokens).1,
        (closeIndents width pos indents tokens).2.map Token.unplaced) := by
  induction indents generalizing tokens with
  | nil => rfl
  | cons w ws ih =>
    rw [closeIndents, closeIndents]
    split
    · exact ih (⟨.dedent, pos⟩ :: tokens)
    · rfl

theorem applyMargin_unplaced (width : Nat) :
    bare (s.unplaced.applyMargin width) = bare (s.applyMargin width) := by
  have hclose : closeIndents width s.unplaced.pos s.unplaced.indents s.unplaced.tokens = _ :=
    closeIndents_unplaced width s.pos s.indents s.tokens
  have hindents : s.unplaced.indents = s.indents := rfl
  unfold applyMargin
  rw [hclose, hindents]
  dsimp only
  split_ifs
  · exact bare_ok (by simp [push, unplaced, Mode.unplaced])
  · exact bare_ok (by simp [unplaced, Mode.unplaced])
  · rfl

/-- Ending a token and reading the character afresh. -/
theorem endToken_code_unplaced :
    bare (s.unplaced.endToken.bind (·.code c)) = bare (s.endToken.bind (·.code c)) :=
  bare_bind endToken_unplaced fun _ _ h => code_alike h

theorem margin_unplaced (width : Nat) :
    bare (s.unplaced.margin width c) = bare (s.margin width c) := by
  unfold margin
  split_ifs
  · exact bare_ok (unplaced_mode unplaced_unplaced rfl)
  · exact bare_ok (unplaced_mode unplaced_unplaced rfl)
  · exact bare_ok unplaced_unplaced
  · exact bare_ok (unplaced_mode unplaced_unplaced rfl)
  · exact bare_ok (unplaced_mode unplaced_unplaced rfl)
  · exact bare_bind (applyMargin_unplaced width) fun _ _ h => code_alike h

theorem endLiteral_unplaced (l : Literal) :
    bare (s.unplaced.endLiteral { l with start := .start, opened := .start })
      = bare (s.endLiteral l) := by
  unfold endLiteral
  dsimp only
  split
  · split
    · exact bare_ok (push_unplaced _ _ _)
    · rfl
  · exact bare_ok (push_unplaced _ _ _)

theorem literal_unplaced (l : Literal) :
    bare (s.unplaced.literal { l with start := .start, opened := .start } c)
      = bare (s.literal l c) := by
  unfold literal
  dsimp only
  split_ifs
  · exact bare_ok (unplaced_mode unplaced_unplaced rfl)
  · rfl
  · exact bare_ok (unplaced_mode unplaced_unplaced rfl)
  · exact endLiteral_unplaced l
  · exact bare_ok (unplaced_mode unplaced_unplaced rfl)

theorem step_unplaced : bare (s.unplaced.step c) = bare (s.step c) := by
  have hmode : s.unplaced.mode = s.mode.unplaced := rfl
  unfold step
  cases hm : s.mode with
  | margin width =>
    simp only [hmode, hm, Mode.unplaced]
    exact margin_unplaced width
  | comment alone =>
    simp only [hmode, hm, Mode.unplaced]
    split_ifs
    · exact bare_ok (unplaced_mode unplaced_unplaced rfl)
    · exact code_unplaced
    · exact bare_ok unplaced_unplaced
  | code =>
    simp only [hmode, hm, Mode.unplaced]
    exact code_unplaced
  | word start text =>
    simp only [hmode, hm, Mode.unplaced]
    split_ifs
    · exact bare_ok (unplaced_mode unplaced_unplaced rfl)
    · exact bare_ok (unplaced_mode unplaced_unplaced rfl)
    · exact endToken_code_unplaced
  | number start value =>
    simp only [hmode, hm, Mode.unplaced]
    split_ifs
    · exact bare_ok (unplaced_mode unplaced_unplaced rfl)
    · exact bare_ok unplaced_unplaced
    · exact endToken_code_unplaced
  | operator start first =>
    simp only [hmode, hm, Mode.unplaced]
    split
    · exact bare_ok (push_unplaced _ _ _)
    · exact endToken_code_unplaced
  | literal l =>
    simp only [hmode, hm, Mode.unplaced]
    exact literal_unplaced l
  | continuation start seenReturn =>
    simp only [hmode, hm, Mode.unplaced]
    split_ifs
    · exact bare_ok (unplaced_mode unplaced_unplaced rfl)
    · exact bare_ok (unplaced_mode unplaced_unplaced rfl)
    · rfl

theorem bare_feed : bare (s.feed c) = bare (s.step c) := by
  unfold feed
  cases s.step c with
  | error e => rfl
  | ok t => exact bare_ok rfl

/-- **What the lexer reads does not depend on where it is.** -/
theorem feed_alike (h : s.unplaced = t.unplaced) : bare (s.feed c) = bare (t.feed c) := by
  rw [bare_feed, bare_feed, ← step_unplaced, h, step_unplaced]

/-- The end of a text, where the lexer has stopped without the places. -/
theorem lexemesOf_bind {x y : Except LexError State} {f : State → Except LexError (List Token)}
    (hx : bare x = bare y)
    (hf : ∀ u v : State, u.unplaced = v.unplaced → lexemesOf (f u) = lexemesOf (f v)) :
    lexemesOf (x.bind f) = lexemesOf (y.bind f) := by
  cases x with
  | error e =>
    cases y with
    | error e' => exact congrArg Except.error (Except.error.inj hx)
    | ok v => cases hx
  | ok u =>
    cases y with
    | error e' => cases hx
    | ok v => exact hf u v (Except.ok.inj hx)

theorem map_lexeme_unplaced (ts : List Token) :
    (ts.map Token.unplaced).map Token.lexeme = ts.map Token.lexeme := by
  simp [Token.unplaced]

theorem finish_unplaced : lexemesOf s.unplaced.finish = lexemesOf s.finish := by
  have hmode : s.unplaced.mode = s.mode.unplaced := rfl
  -- the tokens that close the text depend on what has been read and what is open
  have hclose := lexemesOf_bind (endToken_unplaced (s := s))
    (f := fun s =>
      if s.depth > 0 then Except.error ⟨.unclosedBracket, s.pos⟩
      else
        let s := s.pushNewline s.pos
        Except.ok (s.tokens.reverse ++ List.replicate s.indents.length ⟨.dedent, s.pos⟩
          ++ [⟨.eof, s.pos⟩]))
    (fun u v h => by
      have hdepth : u.unplaced.depth = v.unplaced.depth := congrArg State.depth h
      change u.depth = v.depth at hdepth
      have hline : (u.pushNewline u.pos).unplaced = (v.pushNewline v.pos).unplaced := by
        rw [← pushNewline_unplaced .start, h, pushNewline_unplaced]
      have hindents : (u.pushNewline u.pos).unplaced.indents = (v.pushNewline v.pos).unplaced.indents :=
        congrArg State.indents hline
      change (u.pushNewline u.pos).indents = (v.pushNewline v.pos).indents at hindents
      have htokens := congrArg (fun s => s.tokens.map Token.lexeme) hline
      simp only [unplaced, map_lexeme_unplaced] at htokens
      dsimp only
      rw [hdepth]
      split_ifs
      · rfl
      · simp [lexemesOf, Except.map, Except.mapError, htokens, hindents])
  unfold finish
  cases hm : s.mode with
  | literal l =>
    simp only [hmode, hm, Mode.unplaced]
    rfl
  | continuation start seenReturn =>
    simp only [hmode, hm, Mode.unplaced]
    rfl
  | _ =>
    simp only [hmode, hm, Mode.unplaced]
    exact hclose

theorem finish_alike (h : s.unplaced = t.unplaced) : lexemesOf s.finish = lexemesOf t.finish := by
  rw [← finish_unplaced, h, finish_unplaced]

end State

/-! ## Returns -/

/-- What is being read of a text without carriage returns. -/
def Mode.Returnless : Mode → Prop
  | .literal l => isQuote l.quote = true
  | .continuation _ seenReturn => seenReturn = false
  | _ => True

theorem Mode.Turns.returnless {pos : Pos} {c : Char} {m m' : Mode} (h : m.Turns pos c m')
    (hm : m.Returnless) (hc : c ≠ '\r') : m'.Returnless := by
  cases h with
  | interpolated hquote => exact hquote
  | escaped | escape | char => exact hm
  | seen hreturn => exact absurd hreturn hc
  | _ => trivial

namespace State

variable {s t : State} {c : Char}

theorem Begins.returnless (h : s.Begins c t) : t.mode.Returnless := by
  cases h with
  | literal hquote => exact hquote
  | _ => trivial

/-- A character that is no return keeps the text without returns. -/
theorem step_returnless (hs : s.mode.Returnless) (hc : c ≠ '\r') (h : s.step c = .ok t) :
    t.mode.Returnless := by
  cases step_goes h with
  | turns hturns => exact hturns.returnless hs hc
  | begins _ hbegins | first _ _ _ hbegins | ends _ _ hbegins => exact hbegins.returnless
  | pair | string | template => trivial

theorem feed_returnless (hs : s.mode.Returnless) (hc : c ≠ '\r') (h : s.feed c = .ok t) :
    t.mode.Returnless := by
  obtain ⟨u, hu, rfl⟩ := feed_ok_iff.mp h
  have hmode : u.mode.Returnless := step_returnless hs hc hu
  exact hmode

/-! ### A return in front of a line feed -/

theorem step_alike (h : s.unplaced = t.unplaced) : bare (s.step c) = bare (t.step c) := by
  rw [← step_unplaced, h, step_unplaced]

/-- A line feed between two tokens is read alike whatever was being read before. -/
theorem code_line_mode (m : Mode) :
    ({ s with mode := m } : State).code '\n' = s.code '\n' := by
  have hline : ({ ({ s with mode := m } : State).pushNewline s.pos with mode := .margin 0 } : State)
      = { s.pushNewline s.pos with mode := .margin 0 } := by
    obtain ⟨pos, indents, depth, tokens, mode⟩ := s
    cases tokens with
    | nil => rfl
    | cons t ts =>
      simp only [pushNewline]
      split_ifs <;> rfl
  have hcode : ∀ s : State, s.code '\n' =
      if s.depth = 0 then .ok { s.pushNewline s.pos with mode := .margin 0 }
      else .ok { s with mode := .code } := fun _ => rfl
  rw [hcode, hcode, hline]

/-- A return ends the token in front of it, and the line feed ends the line. -/
theorem endToken_return_line :
    bare ((s.endToken.bind (·.code '\r')).bind (·.step '\n'))
      = bare (s.endToken.bind (·.code '\n')) := by
  cases s.endToken with
  | error e => rfl
  | ok u =>
    have hreturn : (u.code '\r').bind (·.step '\n')
        = ({ u with mode := .code } : State).code '\n' := rfl
    simp only [Except.bind] at hreturn ⊢
    rw [hreturn, code_line_mode]

theorem pairSymbol?_return (first : Char) : pairSymbol? first '\r' = none := by
  unfold pairSymbol?
  split <;> simp_all

theorem pairSymbol?_line (first : Char) : pairSymbol? first '\n' = none := by
  unfold pairSymbol?
  split <;> simp_all

theorem return_line (hs : s.mode.Returnless) (hescaping : s.mode.isEscaping = false) :
    bare ((s.step '\r').bind (·.step '\n')) = bare (s.step '\n') := by
  cases hm : s.mode with
  | margin width =>
    have hstep : s.step '\r' = .ok s := by rw [step, hm]; rfl
    rw [hstep]
    rfl
  | comment alone =>
    have hstep : s.step '\r' = .ok s := by rw [step, hm]; rfl
    rw [hstep]
    rfl
  | code =>
    have hstep : s.step '\r' = .ok { s with mode := .code } := by rw [step, hm]; rfl
    have hstep' : s.step '\n' = s.code '\n' := by rw [step, hm]
    rw [hstep, hstep']
    exact congrArg bare (code_line_mode .code)
  | word start text =>
    have hstep : ∀ c, isWordChar c = false → isQuote c = false →
        s.step c = s.endToken.bind (·.code c) := by
      intro c hword hquote
      simp [step, hm, hword, hquote]
    rw [hstep '\r' (by decide) (by decide), hstep '\n' (by decide) (by decide)]
    exact endToken_return_line
  | number start value =>
    have hstep : ∀ c, Text.isAsciiDigit c = false → (c == '_') = false →
        s.step c = s.endToken.bind (·.code c) := by
      intro c hdigit hline
      simp [step, hm, hdigit, hline]
    rw [hstep '\r' (by decide) (by decide), hstep '\n' (by decide) (by decide)]
    exact endToken_return_line
  | operator start first =>
    have hstep : ∀ c, pairSymbol? first c = none → s.step c = s.endToken.bind (·.code c) := by
      intro c hpair
      simp [step, hm, hpair]
    rw [hstep '\r' (pairSymbol?_return first), hstep '\n' (pairSymbol?_line first)]
    exact endToken_return_line
  | literal l =>
    rw [hm] at hs hescaping
    have hl : l.escaping = false := hescaping
    -- a return ends no literal, so it is kept until the line feed breaks the literal off
    have hquote : ('\r' == l.quote) = false := by
      refine beq_eq_false_iff_ne.mpr fun heq => ?_
      have : isQuote '\r' = true := heq ▸ hs
      cases this
    have hstep : s.step '\r' = .ok { s with mode := .literal { l with text := '\r' :: l.text } } := by
      simp [step, hm, literal, hl, hquote]
    rw [hstep]
    simp [step, hm, literal, hl, Except.bind]
  | continuation start seenReturn =>
    rw [hm] at hs
    cases hs
    simp only [step, hm]
    rfl

/-- The return is kept as a character, and the line feed breaks the literal off. -/
theorem return_line_escaping (h : s.mode.isEscaping = true) :
    bare ((s.step '\r').bind (·.step '\n')) = .error .unterminatedString := by
  cases hm : s.mode with
  | literal l =>
    rw [hm] at h
    have hl : l.escaping = true := h
    simp only [step, hm, literal, hl]
    rfl
  | _ => rw [hm] at h; cases h

/-! ### Whole texts -/

/-- A line feed with a return in front of it, read by a state that is alike. -/
theorem foldlM_return_line (hst : s.unplaced = t.unplaced) :
    bare (['\r', '\n'].foldlM feed t) = bare ((s.step '\r').bind (·.step '\n')) := by
  have hfeeds : ['\r', '\n'].foldlM feed t = (t.feed '\r').bind (·.feed '\n') := by
    simp only [List.foldlM_cons, List.foldlM_nil, bind_pure]
    rfl
  rw [hfeeds]
  refine bare_bind ?_ fun u v huv => ?_
  · rw [bare_feed, step_alike hst]
  · rw [bare_feed, step_alike huv]

/-- A character of the text with returns, read by a state that is alike. -/
theorem foldlM_lineEnd (hs : s.mode.Returnless) (hst : s.unplaced = t.unplaced)
    (h : (c == '\n' && s.mode.isEscaping) = false) :
    bare ((lineEnd c).foldlM feed t) = bare (s.feed c) := by
  rw [lineEnd]
  split_ifs with hc
  · subst hc
    rw [foldlM_return_line hst, return_line hs (by simpa using h), bare_feed]
  · simp only [List.foldlM_cons, List.foldlM_nil, bind_pure]
    exact (feed_alike hst).symm

/-- **A run over the text with returns.** Nothing changes but places, unless a literal goes on behind
a backslash at a line end. -/
theorem foldlM_returns (cs : List Char) (hcs : '\r' ∉ cs) (hs : s.mode.Returnless)
    (hst : s.unplaced = t.unplaced) :
    bare ((cs.flatMap lineEnd).foldlM feed t)
      = if s.continuesLiteral cs then .error .unterminatedString else bare (cs.foldlM feed s) := by
  induction cs generalizing s t with
  | nil => exact bare_ok hst.symm
  | cons c cs ih =>
    simp only [List.mem_cons, not_or] at hcs
    rw [List.flatMap_cons, List.foldlM_append, List.foldlM_cons, continuesLiteral]
    cases hc : c == '\n' && s.mode.isEscaping with
    | true =>
      obtain ⟨hline, hescaping⟩ := Bool.and_eq_true_iff.mp hc
      have hbreak : bare ((lineEnd c).foldlM feed t) = .error .unterminatedString := by
        rw [lineEnd, if_pos (eq_of_beq hline), foldlM_return_line hst]
        exact return_line_escaping hescaping
      obtain ⟨e, he, hfault⟩ := bare_eq_error hbreak
      rw [he]
      exact congrArg Except.error hfault
    | false =>
      -- the character leaves both runs in states that are alike
      have hread := foldlM_lineEnd hs hst hc
      rw [Bool.false_or]
      cases hfeed : s.feed c with
      | error e =>
        rw [hfeed] at hread
        obtain ⟨e', he', hfault⟩ := bare_eq_error hread
        rw [he']
        exact congrArg Except.error hfault
      | ok v =>
        rw [hfeed] at hread
        obtain ⟨u, hu, huv⟩ := bare_eq_ok hread
        rw [hu]
        exact ih hcs.2 (feed_returnless hs (Ne.symm hcs.1) hfeed) huv.symm

end State

end Lexer

/-- Whether a string literal of the text goes on behind a backslash at the end of a line. -/
def continuesLiteral (source : String) : Bool :=
  Lexer.State.continuesLiteral {} source.toList

/--
**When the line ends of a text matter.**

Of a text without carriage returns, and the same text with a return in front of each line feed, the
lexer makes the same tokens or finds the same fault. The one exception is a text in which a string
literal goes on behind a backslash at the end of a line: with the returns, that literal is found
never to be closed.
-/
theorem lexemes_withReturns {source : String} (h : '\r' ∉ source.toList) :
    lexemesOf (tokenize (withReturns source))
      = if continuesLiteral source then .error .unterminatedString
        else lexemesOf (tokenize source) := by
  have hrun := Lexer.State.foldlM_returns (s := {}) (t := {}) source.toList h trivial rfl
  unfold tokenize withReturns continuesLiteral
  rw [String.toList_ofList]
  split_ifs at hrun ⊢ with hcontinues
  · obtain ⟨e, he, hfault⟩ := Lexer.State.bare_eq_error hrun
    rw [he]
    exact congrArg Except.error hfault
  · exact Lexer.State.lexemesOf_bind hrun fun _ _ => Lexer.State.finish_alike

/-- The theorem at a text that has a literal over two lines, and at one that has none. -/
theorem lexemes_withReturns_of_lines :
    lexemesOf (tokenize (withReturns "x = 'a\\\nb'")) = .error .unterminatedString
      ∧ lexemesOf (tokenize (withReturns "if x:\n  y = \\\n'a'\n")) =
        lexemesOf (tokenize "if x:\n  y = \\\n'a'\n") :=
  ⟨(lexemes_withReturns (by decide)).trans (if_pos (by decide +kernel)),
    (lexemes_withReturns (by decide)).trans (if_neg (by decide +kernel))⟩

/-- The tokens of some texts depend on the line ends. -/
theorem lexemes_depend_on_lineEnd :
    ¬∀ source : String, '\r' ∉ source.toList →
      lexemesOf (tokenize (withReturns source)) = lexemesOf (tokenize source) := by
  intro hall
  have hsame := hall "x = 'a\\\nb'" (by decide)
  have hok : (lexemesOf (tokenize "x = 'a\\\nb'")).isOk = true := by decide +kernel
  have herror : (lexemesOf (tokenize (withReturns "x = 'a\\\nb'"))).isOk = false := by
    decide +kernel
  rw [hsame, hok] at herror
  cases herror

end Tilde
