import Mathlib.Tactic.SplitIfs
import Tilde.Token.Lexer

/-!
# What the lexer does at a character

A step that succeeds goes on with what is being read, or ends a token, or takes a margin for
indentations, and where nothing is being read any more the character begins something. All that a
step can do is listed here once (`State.Goes`), with what is known in each case, so that what steps
preserve is shown by cases on the list and not on the text of the lexer.

What one step preserves is preserved by every run (`foldlM_keeps`). A text has tokens where the run
over its characters succeeds and may end as it stands (`tokenize_ok_iff`, `finish_eq_ok`).
-/

namespace Tilde

/-- The tokens that close `k` blocks and the text. -/
def ending (pos : Pos) (k : Nat) : List Token :=
  List.replicate k ⟨.dedent, pos⟩ ++ [⟨.eof, pos⟩]

namespace Lexer

/-- How the character changes what is being read at the place, when no token comes of it. -/
inductive Mode.Turns (pos : Pos) (c : Char) : Mode → Mode → Prop where
  | space {width : Nat} (h : c = ' ') : Turns pos c (.margin width) (.margin (width + 1))
  | tab {width : Nat} (h : c = '\t') :
    Turns pos c (.margin width) (.margin ((width / 8 + 1) * 8))
  | blank {width : Nat} (h : c = '\r' ∨ c = '\x0c') : Turns pos c (.margin width) (.margin width)
  | emptyLine {width : Nat} (h : c = '\n') : Turns pos c (.margin width) (.margin 0)
  | remark {width : Nat} (h : c = '#') : Turns pos c (.margin width) (.comment true)
  | comment {alone : Bool} (h : c ≠ '\n') : Turns pos c (.comment alone) (.comment alone)
  | remarkEnd (h : c = '\n') : Turns pos c (.comment true) (.margin 0)
  | word {start : Pos} {text : List Char} (h : isWordChar c = true) :
    Turns pos c (.word start text) (.word start (c :: text))
  | interpolated {start : Pos} {text : List Char} (h : isQuote c = true)
    (hletter : text = ['f'] ∨ text = ['F']) :
    Turns pos c (.word start text) (.literal ⟨start, pos, true, c, [], false⟩)
  | digit {start : Pos} {value : Nat} (h : Text.isAsciiDigit c = true) :
    Turns pos c (.number start value) (.number start (10 * value + (c.toNat - '0'.toNat)))
  | underscore {start : Pos} {value : Nat} (h : c = '_') :
    Turns pos c (.number start value) (.number start value)
  | escaped {l : Literal} (hescaping : l.escaping = true) :
    Turns pos c (.literal l)
      (.literal { l with text := unescape c ++ l.text, escaping := false })
  | escape {l : Literal} (hescaping : l.escaping = false) (h : c = '\\') :
    Turns pos c (.literal l) (.literal { l with escaping := true })
  | char {l : Literal} (hescaping : l.escaping = false) (hline : c ≠ '\n') (hbackslash : c ≠ '\\')
    (hquote : c ≠ l.quote) : Turns pos c (.literal l) (.literal { l with text := c :: l.text })
  | carried {start : Pos} {seenReturn : Bool} (h : c = '\n') :
    Turns pos c (.continuation start seenReturn) .code
  | seen {start : Pos} (h : c = '\r') :
    Turns pos c (.continuation start false) (.continuation start true)

namespace State

variable {s t u : State} {c : Char}

/-- What a character between two tokens begins. -/
inductive Begins (s : State) (c : Char) : State → Prop where
  | blank (h : c = ' ' ∨ c = '\t' ∨ c = '\r' ∨ c = '\x0c') : Begins s c { s with mode := .code }
  | comment (h : c = '#') : Begins s c { s with mode := .comment false }
  | backslash (h : c = '\\') : Begins s c { s with mode := .continuation s.pos false }
  | line (h : c = '\n') (hdepth : s.depth = 0) :
    Begins s c { s.pushNewline s.pos with mode := .margin 0 }
  | lineInBrackets (h : c = '\n') (hdepth : s.depth ≠ 0) : Begins s c { s with mode := .code }
  | literal (h : isQuote c = true) :
    Begins s c { s with mode := .literal ⟨s.pos, s.pos, false, c, [], false⟩ }
  | word (h : isWordStart c = true) : Begins s c { s with mode := .word s.pos [c] }
  | number (h : Text.isAsciiDigit c = true) :
    Begins s c { s with mode := .number s.pos (c.toNat - '0'.toNat) }
  | symbol {symbol : Symbol} (h : loneSymbol? c = some symbol) :
    Begins s c { s.push (.symbol symbol) s.pos with depth := depthAfter s.depth symbol }
  | half (h : startsPair c = true) : Begins s c { s with mode := .operator s.pos c }

theorem code_begins (h : s.code c = .ok t) : s.Begins c t := by
  unfold code at h
  split_ifs at h with hblank hcomment hback hline hdepth hquote hword hdigit
  · cases h
    refine .blank ?_
    simpa [or_assoc] using hblank
  · cases h
    exact .comment (eq_of_beq hcomment)
  · cases h
    exact .backslash (eq_of_beq hback)
  · cases h
    exact .line (eq_of_beq hline) hdepth
  · cases h
    exact .lineInBrackets (eq_of_beq hline) hdepth
  · cases h
    exact .literal hquote
  · cases h
    exact .word hword
  · cases h
    exact .number hdigit
  · unfold operator at h
    split at h
    · next symbol hsymbol =>
      cases h
      exact .symbol hsymbol
    · split_ifs at h with hpair
      cases h
      exact .half hpair

/-- The token that ends where the next character does not continue it, if one is being read. -/
inductive Ends (s : State) : State → Prop where
  | word {start : Pos} {text : List Char} (hmode : s.mode = .word start text) :
    Ends s (s.push (.word (String.ofList text.reverse)) start)
  | number {start : Pos} {value : Nat} (hmode : s.mode = .number start value)
    (hfits : value ≤ Int64.maxValue.toInt) : Ends s (s.push (.int (Int64.ofNat value)) start)
  | symbol {start : Pos} {first : Char} {symbol : Symbol} (hmode : s.mode = .operator start first)
    (h : halfSymbol? first = some symbol) : Ends s (s.push (.symbol symbol) start)
  | none (hword : ∀ start text, s.mode ≠ .word start text)
    (hnumber : ∀ start value, s.mode ≠ .number start value)
    (hoperator : ∀ start first, s.mode ≠ .operator start first) : Ends s s

theorem endToken_ends (h : s.endToken = .ok t) : s.Ends t := by
  unfold endToken at h
  split at h
  · next hmode =>
    cases h
    exact .word hmode
  · next hmode =>
    split_ifs at h with hfits
    cases h
    exact .number hmode hfits
  · next hmode =>
    split at h
    · next hsymbol =>
      cases h
      exact .symbol hmode hsymbol
    · cases h
  · next hword hnumber hoperator =>
    cases h
    exact .none hword hnumber hoperator

/-- The indentations that a margin opens or closes. -/
inductive Indents (s : State) (width : Nat) : State → Prop where
  | opens (h : s.indents.headD 0 < width) :
    Indents s width { s.push .indent s.pos with indents := width :: s.indents }
  | closes {indents : List Nat} {tokens : List Token} (h : ¬s.indents.headD 0 < width)
    (hclose : closeIndents width s.pos s.indents s.tokens = (indents, tokens))
    (hwidth : indents.headD 0 = width) :
    Indents s width { s with indents, tokens, mode := .code }

theorem applyMargin_indents {width : Nat} (h : s.applyMargin width = .ok t) :
    s.Indents width t := by
  unfold applyMargin at h
  split_ifs at h with hdeeper
  · cases h
    exact .opens hdeeper
  · dsimp only at h
    split_ifs at h with hwidth
    cases h
    exact .closes hdeeper rfl hwidth

/-- What a step makes of the state. -/
inductive Goes (s : State) (c : Char) : State → Prop where
  /-- No token comes of the character. -/
  | turns {mode : Mode} (h : s.mode.Turns s.pos c mode) : Goes s c { s with mode }
  | begins {t : State} (hmode : s.mode = .code ∨ s.mode = .comment false ∧ c = '\n')
    (h : s.Begins c t) : Goes s c t
  /-- The margin ends at the first character of code. -/
  | first {width : Nat} {u t : State} (hmode : s.mode = .margin width)
    (hcode : c ∉ [' ', '\t', '\r', '\x0c', '\n', '#']) (hu : s.Indents width u)
    (h : u.Begins c t) : Goes s c t
  /-- A token ends in front of the character. -/
  | ends {u t : State} (hliteral : ∀ l, s.mode ≠ .literal l) (hu : s.Ends u) (h : u.Begins c t) :
    Goes s c t
  | pair {start : Pos} {first : Char} {symbol : Symbol} (hmode : s.mode = .operator start first)
    (h : pairSymbol? first c = some symbol) : Goes s c (s.push (.symbol symbol) start)
  | string {l : Literal} (hmode : s.mode = .literal l) (hescaping : l.escaping = false)
    (hquote : c = l.quote) (hplain : l.interpolated = false) :
    Goes s c (s.push (.str (String.ofList l.text.reverse)) l.start)
  | template {l : Literal} {pieces : List Template.Piece} (hmode : s.mode = .literal l)
    (hescaping : l.escaping = false) (hquote : c = l.quote) (hinterpolated : l.interpolated = true)
    (hpieces : Template.split l.text.reverse = .ok pieces) :
    Goes s c (s.push (.template pieces) l.start)

theorem margin_goes {width : Nat} (hmode : s.mode = .margin width) (h : s.margin width c = .ok t) :
    s.Goes c t := by
  unfold margin at h
  split_ifs at h with hspace htab hblank hline hcomment
  · cases h
    exact .turns (hmode ▸ .space (eq_of_beq hspace))
  · cases h
    exact .turns (hmode ▸ .tab (eq_of_beq htab))
  · cases h
    have hstays : s.mode.Turns s.pos c s.mode := by
      rw [hmode]
      exact .blank (by simpa using hblank)
    exact .turns hstays
  · cases h
    exact .turns (hmode ▸ .emptyLine (eq_of_beq hline))
  · cases h
    exact .turns (hmode ▸ .remark (eq_of_beq hcomment))
  · cases hu : s.applyMargin width with
    | error e => rw [hu] at h; cases h
    | ok u =>
      rw [hu] at h
      exact .first hmode (by simp_all) (applyMargin_indents hu) (code_begins h)

theorem literal_goes {l : Literal} (hmode : s.mode = .literal l) (h : s.literal l c = .ok t) :
    s.Goes c t := by
  unfold literal endLiteral at h
  split_ifs at h with hescaping hline hback hquote hinterpolated
  · cases h
    exact .turns (hmode ▸ .escaped hescaping)
  · cases h
    exact .turns (hmode ▸ .escape (by simpa using hescaping) (eq_of_beq hback))
  · split at h
    · next hpieces =>
      cases h
      exact .template hmode (by simpa using hescaping) (eq_of_beq hquote) hinterpolated hpieces
    · cases h
  · cases h
    exact .string hmode (by simpa using hescaping) (eq_of_beq hquote) (by simpa using hinterpolated)
  · cases h
    exact .turns (hmode ▸ .char (by simpa using hescaping) (by simpa using hline)
      (by simpa using hback) (by simpa using hquote))

theorem endToken_code_goes (hliteral : ∀ l, s.mode ≠ .literal l)
    (h : s.endToken.bind (·.code c) = .ok t) : s.Goes c t := by
  cases hu : s.endToken with
  | error e => rw [hu] at h; cases h
  | ok u =>
    rw [hu] at h
    exact .ends hliteral (endToken_ends hu) (code_begins h)

/-- **What a step does** is on the list. -/
theorem step_goes (h : s.step c = .ok t) : s.Goes c t := by
  unfold step at h
  cases hmode : s.mode with
  | margin width =>
    rw [hmode] at h
    exact margin_goes hmode h
  | comment alone =>
    simp only [hmode] at h
    split_ifs at h with hline halone
    · cases h
      subst halone
      exact .turns (hmode ▸ .remarkEnd (eq_of_beq hline))
    · refine .begins (.inr ⟨?_, eq_of_beq hline⟩) (code_begins h)
      rw [hmode, Bool.eq_false_iff.mpr halone]
    · cases h
      have hstays : s.mode.Turns s.pos c s.mode := by
        rw [hmode]
        exact .comment (by simpa using hline)
      exact .turns hstays
  | code =>
    simp only [hmode] at h
    exact .begins (.inl hmode) (code_begins h)
  | word start text =>
    simp only [hmode] at h
    split_ifs at h with hword hquote
    · cases h
      exact .turns (hmode ▸ .word hword)
    · cases h
      obtain ⟨hquote, hletter⟩ := Bool.and_eq_true_iff.mp hquote
      exact .turns (hmode ▸ .interpolated hquote (by simpa using hletter))
    · exact endToken_code_goes (by simp [hmode]) h
  | number start value =>
    simp only [hmode] at h
    split_ifs at h with hdigit hunderscore
    · cases h
      exact .turns (hmode ▸ .digit hdigit)
    · cases h
      have hstays : s.mode.Turns s.pos c s.mode := by
        rw [hmode]
        exact .underscore (eq_of_beq hunderscore)
      exact .turns hstays
    · exact endToken_code_goes (by simp [hmode]) h
  | operator start first =>
    simp only [hmode] at h
    split at h
    · next hsymbol =>
      cases h
      exact .pair hmode hsymbol
    · exact endToken_code_goes (by simp [hmode]) h
  | literal l =>
    rw [hmode] at h
    exact literal_goes hmode h
  | continuation start seenReturn =>
    simp only [hmode] at h
    split_ifs at h with hline hreturn
    · cases h
      exact .turns (hmode ▸ .carried (eq_of_beq hline))
    · cases h
      obtain ⟨hchar, hseen⟩ := Bool.and_eq_true_iff.mp hreturn
      rw [Bool.not_eq_true'] at hseen
      subst hseen
      exact .turns (hmode ▸ .seen (eq_of_beq hchar))

/-! ## Runs -/

theorem feed_ok_iff :
    s.feed c = .ok t ↔ ∃ u, s.step c = .ok u ∧ t = { u with pos := s.pos.next c } := by
  unfold feed
  cases s.step c with
  | error e => exact ⟨nofun, nofun⟩
  | ok u =>
    constructor
    · rintro ⟨⟩
      exact ⟨u, rfl, rfl⟩
    · rintro ⟨_, ⟨⟩, rfl⟩
      rfl

theorem foldlM_cons_ok {cs : List Char} :
    (c :: cs).foldlM feed s = .ok t ↔ ∃ u, s.feed c = .ok u ∧ cs.foldlM feed u = .ok t := by
  rw [List.foldlM_cons]
  cases s.feed c with
  | error e => exact ⟨nofun, nofun⟩
  | ok u =>
    constructor
    · exact fun h => ⟨u, rfl, h⟩
    · rintro ⟨_, ⟨⟩, h⟩
      exact h

/-- Characters are read one part after the other. -/
theorem foldlM_append_ok {cs ds : List Char} :
    (cs ++ ds).foldlM feed s = .ok t ↔
      ∃ u, cs.foldlM feed s = .ok u ∧ ds.foldlM feed u = .ok t := by
  rw [List.foldlM_append]
  cases cs.foldlM feed s with
  | error e => exact ⟨nofun, nofun⟩
  | ok u =>
    constructor
    · exact fun h => ⟨u, rfl, h⟩
    · rintro ⟨_, ⟨⟩, h⟩
      exact h

/-- What every character preserves holds at the end of a run. It may be told how many characters
have been read. -/
theorem foldlM_keeps {P : Nat → State → Prop}
    (hfeed : ∀ {n : Nat} {s t : State} {c : Char}, P n s → s.feed c = .ok t → P (n + 1) t)
    {n : Nat} {cs : List Char} (hs : P n s) (h : cs.foldlM feed s = .ok t) : P (n + cs.length) t := by
  induction cs generalizing n s with
  | nil =>
    cases h
    exact hs
  | cons c cs ih =>
    obtain ⟨u, hu, h⟩ := foldlM_cons_ok.mp h
    have ht := ih (hfeed hs hu) h
    rwa [List.length_cons, Nat.add_comm cs.length, ← Nat.add_assoc]

/-! ## The end of the text -/

theorem pushNewline_indents (pos : Pos) : (s.pushNewline pos).indents = s.indents := by
  unfold State.pushNewline
  split
  · rfl
  · split <;> rfl

theorem pushNewline_pos (pos : Pos) : (s.pushNewline pos).pos = s.pos := by
  unfold pushNewline
  split
  · rfl
  · split <;> rfl

end State

/-- Whether a text may end while this is being read. -/
def Mode.mayEnd : Mode → Bool
  | .literal _ | .continuation .. => false
  | _ => true

namespace State

variable {s : State}

/-- When a text may end, and how. -/
theorem finish_eq_ok {ts : List Token} :
    s.finish = .ok ts ↔ s.mode.mayEnd = true ∧ ∃ s', s.endToken = .ok s' ∧ s'.depth = 0
      ∧ ts = (s'.pushNewline s'.pos).tokens.reverse ++ ending s'.pos s'.indents.length := by
  have hend : (do
      let s' ← s.endToken
      if s'.depth > 0 then Except.error ⟨LexFault.unclosedBracket, s'.pos⟩
      else
        let u := s'.pushNewline s'.pos
        Except.ok (u.tokens.reverse ++ List.replicate u.indents.length ⟨.dedent, u.pos⟩
          ++ [⟨.eof, u.pos⟩])) = Except.ok ts
      ↔ ∃ s', s.endToken = .ok s' ∧ s'.depth = 0
        ∧ ts = (s'.pushNewline s'.pos).tokens.reverse ++ ending s'.pos s'.indents.length := by
    cases s.endToken with
    | error e => simp [bind, Except.bind]
    | ok s' =>
      simp only [bind, Except.bind, pushNewline_indents, pushNewline_pos, List.append_assoc, ending]
      by_cases hdepth : s'.depth = 0
      · simp [hdepth, eq_comm]
      · simp [hdepth, Nat.pos_of_ne_zero hdepth]
  unfold finish
  cases s.mode with
  | literal l => simp [Mode.mayEnd]
  | continuation start seenReturn => simp [Mode.mayEnd]
  | _ => exact hend.trans (and_iff_right rfl).symm

end State
end Lexer

/-- The tokens of a text come of a run over its characters. -/
theorem tokenize_ok_iff {source : String} {ts : List Token} : tokenize source = .ok ts ↔
    ∃ s, source.toList.foldlM Lexer.State.feed {} = .ok s ∧ s.finish = .ok ts := by
  unfold tokenize
  cases source.toList.foldlM Lexer.State.feed {} with
  | error e => exact ⟨nofun, nofun⟩
  | ok s =>
    constructor
    · exact fun h => ⟨s, rfl, h⟩
    · rintro ⟨_, ⟨⟩, h⟩
      exact h

end Tilde
