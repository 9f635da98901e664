import Mathlib.Tactic.SplitIfs
import Tilde.Proofs.Joined.Carries
import Tilde.Proofs.Lexer.Contents
import Tilde.Proofs.Prefix.Lexer

/-!
# The tokens of a text that follows another one

The lexer reads a text behind another one as it reads the text alone, only further down. At the line
end between the two, the text in front leaves no open bracket and nothing that is being read; it may
leave open indentations. They stay open over blank lines and comments, and the first character of
code that stands in no margin closes them.

So the tokens of both texts joined are those of the first one, of which the end alone is missing,
and those of the second one, moved down.
-/

namespace Tilde

/-- The place `k` lines further down. -/
def Pos.moved (k : Nat) (p : Pos) : Pos := ⟨p.line + k, p.column⟩

theorem Pos.next_moved (k : Nat) (p : Pos) (c : Char) :
    (p.moved k).next c = (p.next c).moved k := by
  unfold Pos.next Pos.moved
  split
  · rw [Pos.mk.injEq]
    exact ⟨Nat.add_right_comm .., rfl⟩
  · rfl

/-- A line end is what moves a place down. -/
theorem Pos.foldl_next_line (cs : List Char) (p : Pos) :
    (cs.foldl Pos.next p).line = p.line + cs.count '\n' := by
  induction cs generalizing p with
  | nil => rfl
  | cons c cs ih =>
    rw [List.foldl_cons, ih, List.count_cons, Pos.next]
    by_cases hc : c = '\n'
    · rw [if_pos hc, hc, beq_self_eq_true, if_pos rfl, Nat.add_right_comm, Nat.add_assoc]
    · rw [if_neg hc, if_neg (by simpa using hc)]
      rfl

/-- The token, moved down by `k` lines. -/
def Token.moved (k : Nat) (t : Token) : Token := ⟨t.lexeme, t.pos.moved k⟩

theorem moved_map (k : Nat) (ts : List Token) : Moved k ts (ts.map (Token.moved k)) := by
  induction ts with
  | nil => exact .nil
  | cons t ts ih => exact .cons ⟨rfl, fun _ => rfl⟩ ih

/-- The error, reported `k` lines further down. -/
def LexError.moved (k : Nat) (e : LexError) : LexError := ⟨e.fault, e.pos.moved k⟩

namespace Lexer

/-- What is being read, `k` lines further down. -/
def Mode.moved (k : Nat) : Mode → Mode
  | .margin width => .margin width
  | .comment alone => .comment alone
  | .code => .code
  | .word start text => .word (start.moved k) text
  | .number start value => .number (start.moved k) value
  | .operator start c => .operator (start.moved k) c
  | .literal l => .literal { l with start := l.start.moved k, opened := l.opened.moved k }
  | .continuation start seenReturn => .continuation (start.moved k) seenReturn

/-- Whether a line end ends a line here, and no token. -/
def Mode.isBare : Mode → Bool
  | .code | .comment false => true
  | _ => false

theorem Mode.mayEnd_moved (k : Nat) (m : Mode) : (m.moved k).mayEnd = m.mayEnd := by
  cases m <;> rfl

theorem Mode.startsLine_moved (k : Nat) (m : Mode) : (m.moved k).startsLine = m.startsLine := by
  cases m <;> rfl

namespace State

variable {s t : State} {c : Char} {k : Nat} {base : List Token}

/-- The state in which the lexer is `k` lines further down, when `base` has been read before. -/
def onto (k : Nat) (base : List Token) (s : State) : State where
  pos := s.pos.moved k
  indents := s.indents
  depth := s.depth
  tokens := s.tokens.map (Token.moved k) ++ base
  mode := s.mode.moved k

/-- What becomes of a step when the lexer is `k` lines further down. -/
def ontoResult (k : Nat) (base : List Token) : Except LexError State → Except LexError State
  | .ok t => .ok (t.onto k base)
  | .error e => .error (e.moved k)

theorem ontoResult_bind {r : Except LexError State} {f g : State → Except LexError State}
    (h : ∀ t, g (t.onto k base) = ontoResult k base (f t)) :
    (ontoResult k base r).bind g = ontoResult k base (r.bind f) := by
  cases r with
  | ok t => exact h t
  | error e => rfl

theorem endToken_onto : (s.onto k base).endToken = ontoResult k base s.endToken := by
  have hmode : (s.onto k base).mode = s.mode.moved k := rfl
  unfold endToken
  cases hm : s.mode with
  | number start value =>
    simp only [hmode, hm, Mode.moved]
    split <;> rfl
  | operator start c =>
    simp only [hmode, hm, Mode.moved]
    split <;> rfl
  | _ =>
    simp only [hmode, hm, Mode.moved]
    rfl

theorem endLiteral_onto (l : Literal) :
    (s.onto k base).endLiteral { l with start := l.start.moved k, opened := l.opened.moved k }
      = ontoResult k base (s.endLiteral l) := by
  unfold endLiteral
  dsimp only
  split
  · split <;> rfl
  · rfl

theorem literal_onto (l : Literal) :
    (s.onto k base).literal { l with start := l.start.moved k, opened := l.opened.moved k } c
      = ontoResult k base (s.literal l c) := by
  unfold literal
  dsimp only
  split_ifs
  · rfl
  · rfl
  · rfl
  · exact endLiteral_onto l
  · rfl

theorem operator_onto : (s.onto k base).operator c = ontoResult k base (s.operator c) := by
  unfold operator
  split
  · rfl
  · split_ifs <;> rfl

theorem closeIndents_onto (width : Nat) (pos : Pos) (indents : List Nat) (tokens : List Token) :
    closeIndents width (pos.moved k) indents (tokens.map (Token.moved k) ++ base)
      = ((closeIndents width pos indents tokens).1,
        (closeIndents width pos indents tokens).2.map (Token.moved k) ++ base) := by
  induction indents generalizing tokens with
  | nil => rfl
  | cons w ws ih =>
    rw [closeIndents, closeIndents]
    split
    · exact ih (⟨.dedent, pos⟩ :: tokens)
    · rfl

theorem applyMargin_onto (width : Nat) :
    (s.onto k base).applyMargin width = ontoResult k base (s.applyMargin width) := by
  have hclose : closeIndents width (s.onto k base).pos (s.onto k base).indents
      (s.onto k base).tokens = _ := closeIndents_onto width s.pos s.indents s.tokens
  have hindents : (s.onto k base).indents = s.indents := rfl
  unfold applyMargin
  rw [hclose, hindents]
  dsimp only
  split_ifs <;> rfl

theorem pushNewline_onto
    (hbase : s.tokens = [] → ∀ t ∈ base.head?, t.lexeme.isLayout = true) (pos : Pos) :
    (s.onto k base).pushNewline (pos.moved k) = (s.pushNewline pos).onto k base := by
  cases hs : s.tokens with
  | nil =>
    -- no token has been read here: what stands in front is layout already
    rw [pushNewline_of_layout (s := s) pos (by simp [hs]),
      pushNewline_of_layout (s := s.onto k base) _ (by simpa [onto, hs] using hbase hs)]
  | cons t ts =>
    have h : (s.onto k base).tokens = t.moved k :: (ts.map (Token.moved k) ++ base) := by
      simp [onto, hs]
    have hlexeme : (t.moved k).lexeme = t.lexeme := rfl
    rw [pushNewline, pushNewline, hs, h]
    dsimp only
    rw [hlexeme]
    split_ifs <;> rfl

/-- The character ends a line, and no token has been read in the text: if the last token in front is no
layout, its line is ended. -/
def EndsBare (base : List Token) (s : State) (c : Char) : Prop :=
  c = '\n' ∧ s.depth = 0 ∧ s.tokens = [] ∧ ∃ t ∈ base.head?, t.lexeme.isLayout = false

theorem code_onto (hbase : ¬s.EndsBare base c) :
    (s.onto k base).code c = ontoResult k base (s.code c) := by
  unfold code
  have hdepth : (s.onto k base).depth = s.depth := rfl
  have hpos : (s.onto k base).pos = s.pos.moved k := rfl
  rw [hdepth, hpos]
  split_ifs with hblank hcomment hback hline hzero
  rotate_left 3
  · have hlayout : s.tokens = [] → ∀ t ∈ base.head?, t.lexeme.isLayout = true := by
      intro hnil t ht
      by_contra hne
      exact hbase ⟨by simpa using hline, hzero, hnil, t, ht, by simpa using hne⟩
    rw [pushNewline_onto hlayout]
    rfl
  rotate_left 4
  · exact operator_onto
  all_goals rfl

theorem margin_onto (width : Nat) :
    (s.onto k base).margin width c = ontoResult k base (s.margin width c) := by
  unfold margin
  split_ifs with hspace htab hreturn hline hcomment
  case neg =>
    rw [applyMargin_onto]
    exact ontoResult_bind fun _ => code_onto fun h => hline (by simp [h.1])
  all_goals rfl

theorem step_onto (hbase : s.mode.isBare = true → ¬s.EndsBare base c) :
    (s.onto k base).step c = ontoResult k base (s.step c) := by
  have hmode : (s.onto k base).mode = s.mode.moved k := rfl
  -- behind a token of this text no line end is bare, so it may be read there as it is alone
  have hend (hs : ∀ s', s.endToken = .ok s' → s'.tokens ≠ []) :
      (s.onto k base).endToken.bind (·.code c) = ontoResult k base (s.endToken.bind (·.code c)) := by
    rw [endToken_onto]
    cases h : s.endToken with
    | error e => rfl
    | ok s' => exact code_onto fun hbare => hs s' h hbare.2.2.1
  unfold step
  cases hm : s.mode with
  | margin width =>
    simp only [hmode, hm, Mode.moved]
    exact margin_onto width
  | comment alone =>
    simp only [hmode, hm, Mode.moved]
    split_ifs with hline halone
    · rfl
    · have hbare : s.mode.isBare = true := by
        rw [hm]
        cases alone with
        | true => exact absurd rfl halone
        | false => rfl
      exact code_onto (hbase hbare)
    · rfl
  | code =>
    simp only [hmode, hm, Mode.moved]
    exact code_onto (hbase (by rw [hm]; rfl))
  | word start text =>
    simp only [hmode, hm, Mode.moved]
    split_ifs
    · rfl
    · rfl
    · refine hend fun s' hs' => ?_
      rw [endToken, hm] at hs'
      cases hs'
      exact List.cons_ne_nil _ _
  | number start value =>
    simp only [hmode, hm, Mode.moved]
    split_ifs
    · rfl
    · rfl
    · refine hend fun s' hs' => ?_
      rw [endToken, hm] at hs'
      dsimp only at hs'
      split at hs' <;> cases hs'
      exact List.cons_ne_nil _ _
  | operator start first =>
    simp only [hmode, hm, Mode.moved]
    split
    · rfl
    · refine hend fun s' hs' => ?_
      rw [endToken, hm] at hs'
      dsimp only at hs'
      split at hs' <;> cases hs'
      exact List.cons_ne_nil _ _
  | literal l =>
    simp only [hmode, hm, Mode.moved]
    exact literal_onto l
  | continuation start seenReturn =>
    simp only [hmode, hm, Mode.moved]
    split_ifs <;> rfl

theorem feed_onto (hbase : s.mode.isBare = true → ¬s.EndsBare base c) (h : s.feed c = .ok t) :
    (s.onto k base).feed c = .ok (t.onto k base) := by
  unfold feed at h ⊢
  rw [step_onto hbase]
  cases hs : s.step c with
  | error e => rw [hs] at h; cases h
  | ok s' =>
    rw [hs] at h
    cases h
    simp only [ontoResult, Except.map, onto, Pos.next_moved]

/-- Behind layout, a line without tokens is not ended. -/
theorem not_endsBare (hbase : ∀ t ∈ base.head?, t.lexeme.isLayout = true) : ¬s.EndsBare base c := by
  rintro ⟨-, -, -, t, ht, hlayout⟩
  rw [hbase t ht] at hlayout
  cases hlayout

theorem finish_onto (hbase : ∀ t ∈ base.head?, t.lexeme.isLayout = true) {ts : List Token}
    (h : s.finish = .ok ts) :
    (s.onto k base).finish = .ok (base.reverse ++ ts.map (Token.moved k)) := by
  obtain ⟨hmode, s', hs', hdepth, rfl⟩ := finish_eq_ok.mp h
  have hpos : (s'.onto k base).pos = s'.pos.moved k := rfl
  refine finish_eq_ok.mpr ⟨(Mode.mayEnd_moved k s.mode).trans hmode, s'.onto k base,
    by rw [endToken_onto, hs']; rfl, hdepth, ?_⟩
  rw [hpos, pushNewline_onto fun _ => hbase]
  simp [onto, ending, Token.moved]

/-! ## Open indentations -/

/-- Every open indentation has some width. -/
def Wide (s : State) : Prop := ∀ w ∈ s.indents, 0 < w

theorem Wide.of_eq (hs : s.Wide) (h : t.indents = s.indents) : t.Wide := by
  unfold Wide
  rw [h]
  exact hs

theorem closeIndents_mem {width w : Nat} {pos : Pos} {indents : List Nat} {tokens : List Token}
    (h : w ∈ (closeIndents width pos indents tokens).1) : w ∈ indents := by
  induction indents generalizing tokens with
  | nil => exact h
  | cons v vs ih =>
    rw [closeIndents] at h
    split at h
    · exact List.mem_cons_of_mem v (ih h)
    · exact h

theorem Indents.wide {width : Nat} (h : s.Indents width t) (hs : s.Wide) : t.Wide := by
  cases h with
  | opens hwidth =>
    intro w hw
    rcases List.mem_cons.mp hw with rfl | hw
    · exact Nat.lt_of_le_of_lt (Nat.zero_le _) hwidth
    · exact hs w hw
  | closes _ hclose =>
    intro w hw
    have hmem : w ∈ (closeIndents width s.pos s.indents s.tokens).1 := by rwa [hclose]
    exact hs w (closeIndents_mem hmem)

/-- Between two tokens no indentation is opened or closed. -/
theorem Begins.indents (h : s.Begins c t) : t.indents = s.indents := by
  cases h with
  | line => exact pushNewline_indents s.pos
  | _ => rfl

theorem Ends.indents (h : s.Ends t) : t.indents = s.indents := by
  cases h <;> rfl

theorem step_wide (hs : s.Wide) (h : s.step c = .ok t) : t.Wide := by
  cases step_goes h with
  | begins _ hbegins => exact hs.of_eq hbegins.indents
  | first _ _ hindents hbegins => exact (hindents.wide hs).of_eq hbegins.indents
  | ends _ hends hbegins => exact hs.of_eq (hbegins.indents.trans hends.indents)
  | turns | pair | string | template => exact hs

theorem feed_wide (hs : s.Wide) (h : s.feed c = .ok t) : t.Wide := by
  obtain ⟨u, hu, rfl⟩ := feed_ok_iff.mp h
  exact (step_wide hs hu).of_eq rfl

theorem foldlM_wide {cs : List Char} (hs : s.Wide) (h : cs.foldlM feed s = .ok t) : t.Wide :=
  foldlM_keeps (P := fun _ s => s.Wide) feed_wide (n := 0) hs h

/-- In the margin zero all open indentations are closed. -/
theorem closeIndents_zero {indents : List Nat} (h : ∀ w ∈ indents, 0 < w) (pos : Pos)
    (tokens : List Token) :
    closeIndents 0 pos indents tokens
      = ([], List.replicate indents.length ⟨.dedent, pos⟩ ++ tokens) := by
  induction indents generalizing tokens with
  | nil => rfl
  | cons w ws ih =>
    rw [closeIndents, if_pos (h w (List.mem_cons_self ..)),
      ih fun v hv => h v (List.mem_cons_of_mem w hv), List.length_cons, List.replicate_succ']
    simp

/-! ## Behind another text -/

/-- Nothing has been read but blank lines and comments. -/
structure Blank (s : State) : Prop where
  tokens : s.tokens = []
  indents : s.indents = []
  depth : s.depth = 0
  mode : s.mode.startsLine = true

/-- The first token is an `indent`. -/
def StartsIndented (s : State) : Prop := ∃ pos, s.tokens.getLast? = some ⟨.indent, pos⟩

theorem StartsIndented.adds (hs : s.StartsIndented) (h : Adds s t) : t.StartsIndented := by
  obtain ⟨pos, hpos⟩ := hs
  obtain ⟨new, htokens, -⟩ := h
  exact ⟨pos, by rw [htokens, List.getLast?_append, hpos]; rfl⟩

/-- The second state is that of the lexer in a text behind another one, which has left the open
indentations `indents` and the tokens `base`; the first one is its state in the text alone. -/
inductive Behind (k : Nat) (indents : List Nat) (base : List Token) : State → State → Prop where
  /-- The indentations stay open. -/
  | blank {s : State} (hs : s.Blank) : Behind k indents base s { s.onto k base with indents }
  /-- The indentations have been closed. -/
  | begun (s : State) (pos : Pos) :
    Behind k indents base s (s.onto k (List.replicate indents.length ⟨.dedent, pos⟩ ++ base))

variable {u : State} {indents : List Nat}

/-- A text starts behind another one where the line of that one has been ended. -/
theorem Behind.start (hmode : u.mode = .margin 0) (hdepth : u.depth = 0)
    (hpos : u.pos = Pos.start.moved k) : Behind k u.indents u.tokens {} u := by
  have hu : u = { onto k u.tokens {} with indents := u.indents } := by
    cases u
    cases hmode
    cases hdepth
    cases hpos
    rfl
  have hblank : Behind k u.indents u.tokens {} { onto k u.tokens {} with indents := u.indents } :=
    .blank ⟨rfl, rfl, rfl, rfl⟩
  rwa [← hu] at hblank

theorem StartsIndented.finish {ts : List Token} (hs : s.StartsIndented) (h : s.finish = .ok ts) :
    ∃ pos, ⟨.indent, pos⟩ ∈ ts.head? := by
  obtain ⟨-, s', hend, -, rfl⟩ := finish_eq_ok.mp h
  obtain ⟨pos, hpos⟩ := (hs.adds (endToken_ends hend).adds).adds (.pushNewline s'.pos)
  exact ⟨pos, by rw [List.head?_append, List.head?_reverse, hpos]; rfl⟩

theorem Blank.applyMargin {width : Nat} (k : Nat) (base : List Token)
    (hindents : ∀ w ∈ indents, 0 < w) (hs : s.Blank) (h : s.applyMargin width = .ok t) :
    t.StartsIndented ∨ ∃ pos, State.applyMargin { s.onto k base with indents } width
      = .ok (t.onto k (List.replicate indents.length ⟨.dedent, pos⟩ ++ base)) := by
  cases width with
  | succ width =>
    left
    have hwidth : s.indents.headD 0 < width + 1 := by rw [hs.indents]; exact Nat.succ_pos width
    rw [State.applyMargin, if_pos hwidth] at h
    cases h
    exact ⟨s.pos, by rw [push, hs.tokens]; rfl⟩
  | zero =>
    right
    refine ⟨s.pos.moved k, ?_⟩
    rw [State.applyMargin, if_neg (Nat.not_lt_zero _), hs.indents] at h
    cases h
    rw [State.applyMargin, if_neg (Nat.not_lt_zero _)]
    dsimp only
    rw [closeIndents_zero hindents]
    simp [onto, hs.tokens, Mode.moved]

theorem head_closed (hbase : ∀ t ∈ base.head?, t.lexeme.isLayout = true) (n : Nat) (pos : Pos) :
    ∀ t ∈ (List.replicate n (⟨.dedent, pos⟩ : Token) ++ base).head?,
      t.lexeme.isLayout = true := by
  cases n with
  | zero => exact hbase
  | succ n =>
    rintro t ⟨⟩
    rfl

section Seam

variable (hbase : ∀ t ∈ base.head?, t.lexeme.isLayout = true) (hindents : ∀ w ∈ indents, 0 < w)
include hbase hindents

theorem Blank.step (hs : s.Blank) (h : s.step c = .ok t) :
    t.StartsIndented ∨ ∃ u, State.step { s.onto k base with indents } c = .ok u
      ∧ Behind k indents base t u := by
  have hmode : (s.onto k base).mode = s.mode.moved k := rfl
  have hstart := hs.mode
  unfold State.step at h ⊢
  rw [hmode]
  cases hm : s.mode with
  | margin width =>
    simp only [hm, Mode.moved] at h ⊢
    unfold margin at h ⊢
    split_ifs at h ⊢
    rotate_right
    · -- the first character of code
      cases hmargin : s.applyMargin width with
      | error e => rw [hmargin] at h; cases h
      | ok s' =>
        rw [hmargin] at h
        rcases hs.applyMargin k base hindents hmargin with hs' | ⟨pos, hs'⟩
        · exact .inl (hs'.adds (code_begins h).adds.1)
        · right
          rw [hs']
          refine ⟨_, (code_onto (not_endsBare (head_closed hbase _ pos))).trans ?_, .begun t pos⟩
          rw [show s'.code c = .ok t from h, ontoResult]
    all_goals
      cases h
      exact .inr ⟨_, rfl, .blank ⟨hs.tokens, hs.indents, hs.depth, by simp [hm, Mode.startsLine]⟩⟩
  | comment alone =>
    rw [hm] at hstart
    cases alone with
    | false => cases hstart
    | true =>
      simp only [hm, Mode.moved, if_true] at h ⊢
      split_ifs at h ⊢
      all_goals
        cases h
        exact .inr ⟨_, rfl, .blank ⟨hs.tokens, hs.indents, hs.depth, by simp [hm, Mode.startsLine]⟩⟩
  | _ =>
    rw [hm] at hstart
    cases hstart

omit hbase hindents in
theorem Behind.at (h : Behind k indents base s u) (pos : Pos) :
    Behind k indents base { s with pos } { u with pos := pos.moved k } := by
  cases h with
  | blank hs => exact .blank (s := { s with pos }) ⟨hs.tokens, hs.indents, hs.depth, hs.mode⟩
  | begun closed => exact .begun { s with pos } closed

theorem feed_behind (hs : Behind k indents base s u) (h : s.feed c = .ok t) :
    t.StartsIndented ∨ ∃ u', u.feed c = .ok u' ∧ Behind k indents base t u' := by
  cases hs with
  | begun pos =>
    exact .inr ⟨_, feed_onto (fun _ => not_endsBare (head_closed hbase _ pos)) h, .begun t pos⟩
  | blank hs =>
    obtain ⟨s', hm, rfl⟩ := feed_ok_iff.mp h
    rcases hs.step (k := k) hbase hindents hm with hindented | ⟨u', hu', hbehind⟩
    · exact .inl hindented
    · right
      have hpos : (s.onto k base).pos.next c = (s.pos.next c).moved k := Pos.next_moved ..
      refine ⟨{ u' with pos := (s.pos.next c).moved k }, ?_, hbehind.at _⟩
      exact feed_ok_iff.mpr ⟨u', hu', by rw [← hpos]⟩

theorem foldlM_behind {cs : List Char} (hcapped : s.Capped) (hs : Behind k indents base s u)
    (h : cs.foldlM feed s = .ok t) :
    t.StartsIndented ∨ ∃ u', cs.foldlM feed u = .ok u' ∧ Behind k indents base t u' := by
  induction cs generalizing s u with
  | nil => cases h; exact .inr ⟨u, rfl, hs⟩
  | cons c cs ih =>
    obtain ⟨s', hc, h⟩ := foldlM_cons_ok.mp h
    have hcapped' := (feed_adds hcapped hc).2
    rcases feed_behind hbase hindents hs hc with hindented | ⟨u', hu', hs'⟩
    · exact .inl (hindented.adds (foldlM_adds hcapped' h).1)
    · rw [List.foldlM_cons, hu']
      exact ih hcapped' hs' h

omit hindents in
theorem finish_behind {ts : List Token} (hs : Behind k indents base s u)
    (h : s.finish = .ok ts) :
    ∃ pos, u.finish = .ok (base.reverse ++ List.replicate indents.length ⟨.dedent, pos⟩
      ++ ts.map (Token.moved k)) := by
  cases hs with
  | begun pos =>
    refine ⟨pos, (finish_onto (head_closed hbase _ pos) h).trans ?_⟩
    rw [List.reverse_append, List.reverse_replicate]
  | blank hs =>
    -- nothing but the end of the text follows, and closes the indentations
    have hend : ∀ v : State, v.mode.startsLine = true → v.endToken = .ok v := by
      intro v hv
      cases hm : v.mode with
      | margin _ | comment _ => simp only [endToken, hm]
      | _ => rw [hm] at hv; cases hv
    obtain ⟨hmay, s', hs', -, rfl⟩ := finish_eq_ok.mp h
    rw [hend s hs.mode] at hs'
    cases hs'
    have hmode : (s.mode.moved k).startsLine = true :=
      (Mode.startsLine_moved k s.mode).trans hs.mode
    refine ⟨s.pos.moved k, finish_eq_ok.mpr ⟨(Mode.mayEnd_moved k s.mode).trans hmay, _,
      hend _ hmode, hs.depth, ?_⟩⟩
    rw [pushNewline_of_layout (s := s) _ (by simp [hs.tokens]),
      pushNewline_of_layout _ (by simpa [onto, hs.tokens] using hbase)]
    simp [onto, hs.tokens, hs.indents, ending, Token.moved]

end Seam

/-! ## The line end between two texts -/

/-- A text that may end may go on with a line end, which closes what is being read. -/
theorem feed_newline_of_finish {ts : List Token} (hs : s.Capped) (h : s.finish = .ok ts) :
    ∃ t pos, s.feed '\n' = .ok t ∧ t.mode = .margin 0 ∧ t.depth = 0
      ∧ t.pos = s.pos.next '\n' ∧ ts = t.tokens.reverse ++ ending pos t.indents.length := by
  obtain ⟨hmay, s', hend, hdepth, -⟩ := finish_eq_ok.mp h
  have hstep : ∃ t, s.step '\n' = .ok t ∧ t.depth = 0 := by
    cases hstart : s.mode.startsLine with
    | true =>
      -- in a margin or a comment there is no token to end
      have hs' : s' = s := by
        cases hm : s.mode with
        | margin _ | comment _ => simp only [endToken, hm] at hend; cases hend; rfl
        | _ => rw [hm] at hstart; cases hstart
      refine ⟨{ s with mode := .margin 0 }, ?_, hs' ▸ hdepth⟩
      cases hm : s.mode with
      | margin width => simp [step, margin, hm]
      | comment alone =>
        cases alone with
        | true => simp [step, hm]
        | false => rw [hm] at hstart; cases hstart
      | _ => rw [hm] at hstart; cases hstart
    | false =>
      rw [step_newline hstart (fun l hm => by rw [hm] at hmay; cases hmay)
        (fun p b hm => by rw [hm] at hmay; cases hmay), hend]
      refine ⟨{ s'.pushNewline s'.pos with mode := .margin 0 }, by simp [Except.bind, code, hdepth],
        ?_⟩
      unfold pushNewline
      split
      · exact hdepth
      · split <;> exact hdepth
  obtain ⟨t, ht, hdepth⟩ := hstep
  have hfeed : s.feed '\n' = .ok { t with pos := s.pos.next '\n' } :=
    feed_ok_iff.mpr ⟨t, ht, rfl⟩
  obtain ⟨hmode, pos, hts⟩ := finish_of_newline hs hfeed h
  exact ⟨_, pos, hfeed, hmode, hdepth, rfl, hts⟩

theorem foldlM_pos {cs : List Char} (h : cs.foldlM feed s = .ok t) :
    t.pos = cs.foldl Pos.next s.pos := by
  induction cs generalizing s with
  | nil => cases h; rfl
  | cons c cs ih =>
    obtain ⟨s', hc, h⟩ := foldlM_cons_ok.mp h
    obtain ⟨u, -, rfl⟩ := feed_ok_iff.mp hc
    rw [ih h, List.foldl_cons]

end State
end Lexer

/-- The tokens of a text: some whole lines, and the end of the text. -/
theorem tokenize_lines {source : String} {ts : List Token} (h : tokenize source = .ok ts) :
    ∃ cs pos, ts = cs ++ [⟨.eof, pos⟩]
      ∧ Parser.Lines (fun t => t.lexeme.Sound source.length) cs := by
  have hsound := tokenize_sound h
  obtain ⟨s, hs, hts⟩ := tokenize_ok_iff.mp h
  obtain ⟨-, s', hend, -, rfl⟩ := Lexer.State.finish_eq_ok.mp hts
  obtain ⟨new, htokens, heof, -⟩ := ((Lexer.State.foldlM_adds (fun _ _ h => by cases h) hs).1.trans
    (Lexer.State.endToken_ends hend).adds).trans (.pushNewline s'.pos)
  rw [List.append_nil] at htokens
  have hcapped := Lexer.State.pushNewline_head (s := s') s'.pos
  rw [htokens] at hcapped hsound ⊢
  -- the lines are all that stands in front of the end, what closes their blocks included
  refine ⟨new.reverse ++ List.replicate s'.indents.length ⟨.dedent, s'.pos⟩, s'.pos,
    by rw [ending, List.append_assoc], fun t ht => ?_, fun t ht => hsound t ?_, fun t ht => ?_⟩
  · rw [← List.head?_reverse, List.reverse_append, List.reverse_replicate,
      List.reverse_reverse] at ht
    exact Lexer.State.head_closed hcapped _ _ t ht
  · rw [ending, ← List.append_assoc]
    exact List.mem_append_left _ ht
  · rcases List.mem_append.mp ht with ht | ht
    · exact heof t (List.mem_reverse.mp ht)
    · rw [List.eq_of_mem_replicate ht]
      exact Lexeme.noConfusion

/-- **The tokens of two texts joined by a line end.** They are those of the first text up to its
end, which comes further down, and those of the second one, moved down. -/
theorem tokenize_joined {a b : String} {ts us : List Token} (ha : tokenize a = .ok ts)
    (hb : tokenize b = .ok us) (hindent : ∀ t ∈ us.head?, t.lexeme ≠ .indent) :
    ∃ cs pos pos' d, ts = cs ++ ending pos d
      ∧ tokenize (a ++ "\n" ++ b) = .ok (cs ++ List.replicate d ⟨.dedent, pos'⟩
        ++ us.map (Token.moved (a.toList.count '\n' + 1))) := by
  obtain ⟨s, hs, hfinish⟩ := tokenize_ok_iff.mp ha
  obtain ⟨t, ht, hfinish'⟩ := tokenize_ok_iff.mp hb
  have hstart : Lexer.State.Capped {} := fun _ _ h => by cases h
  obtain ⟨-, hcapped⟩ := Lexer.State.foldlM_adds hstart hs
  obtain ⟨s', pos, hfeed, hmode, hdepth, hpos, rfl⟩ :=
    Lexer.State.feed_newline_of_finish hcapped hfinish
  have hwide : s'.Wide := Lexer.State.feed_wide
    (Lexer.State.foldlM_wide (s := {}) (fun _ h => by cases h) hs) hfeed
  have hlayout : ∀ t ∈ s'.tokens.head?, t.lexeme.isLayout = true :=
    (Lexer.State.feed_adds hcapped hfeed).2 (by rw [hmode]; rfl)
  have hline : s.pos.line = 1 + a.toList.count '\n' := by
    rw [Lexer.State.foldlM_pos hs, Pos.foldl_next_line]
    rfl
  have hbehind : Lexer.State.Behind (a.toList.count '\n' + 1) s'.indents s'.tokens {} s' := by
    refine .start hmode hdepth ?_
    rw [hpos, Pos.next, if_pos rfl, hline]
    rfl
  -- what the first text leaves open is closed by the second one, unless that begins deeper
  rcases Lexer.State.foldlM_behind hlayout hwide hstart hbehind ht with hindented | ⟨u, hu, hu'⟩
  · obtain ⟨pos', hpos'⟩ := hindented.finish hfinish'
    exact absurd rfl (hindent _ hpos')
  · obtain ⟨pos', hend⟩ := Lexer.State.finish_behind hlayout hu' hfinish'
    have hall : (a ++ "\n" ++ b).toList = a.toList ++ '\n' :: b.toList := by simp
    have hrun : (a ++ "\n" ++ b).toList.foldlM Lexer.State.feed {} = .ok u := by
      rw [hall]
      exact Lexer.State.foldlM_append_ok.mpr ⟨s, hs, Lexer.State.foldlM_cons_ok.mpr ⟨s', hfeed, hu⟩⟩
    exact ⟨s'.tokens.reverse, pos, pos', s'.indents.length, rfl, tokenize_ok_iff.mpr ⟨u, hrun, hend⟩⟩

end Tilde
