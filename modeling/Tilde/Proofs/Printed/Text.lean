import Tilde.Proofs.Joined.Lexer
import Tilde.Proofs.Printed.Spelling

/-!
# Reading printed lines back

The lexer reads a printed line back as its lexemes. Where two of them touch, the second one starts
with a character that goes on with nothing, or nothing goes on with the first one. The line end ends
the last lexeme, and as every bracket is closed by then, it ends the line.

The margin of a line is four columns wide for every block the line stands in. So the widths that
are open behind a line in `d` blocks are those of the blocks, and what the margin of the next line
becomes is what the layout has in front of that line.
-/

namespace Tilde

/-- The characters that mean something else in a margin than that code starts. -/
def blanks : List Char := [' ', '\t', '\r', '\x0c', '\n', '#']

/-- A spelled token starts with a character of code, and stands within a line. -/
theorem Lexeme.spelling_eq {l : Lexeme} (hl : l.spellable = true) :
    ∃ c cs, l.spelling = c :: cs ∧ c ∉ blanks ∧ '\n' ∉ l.spelling := by
  -- no blank is among the characters that any token starts with
  have hclass : ∀ {p : Char → Bool} {c : Char}, p c = true → blanks.all (!p ·) = true →
      c ∉ blanks := by
    intro p c hc hp hmem
    have hnot := List.all_eq_true.mp hp c hmem
    rw [hc] at hnot
    cases hnot
  cases l with
  | word text =>
    have htext : isIdentifier text = true := hl
    unfold isIdentifier at htext
    split at htext
    · cases htext
    · next c cs hlist =>
      rw [Bool.and_eq_true, List.all_eq_true] at htext
      refine ⟨c, cs, hlist, hclass htext.1 (by decide), ?_⟩
      rw [Lexeme.spelling, hlist, List.mem_cons, not_or]
      constructor
      · rintro rfl
        exact absurd htext.1 (by decide)
      · intro hmem
        exact absurd (htext.2 _ hmem) (by decide)
  | int value =>
    have hdigits : ∀ d ∈ Nat.toDigits 10 value.toInt.toNat, d.isDigit = true :=
      fun d hd => Nat.isDigit_of_mem_toDigits (by decide) (by decide) hd
    have hnewline : '\n' ∉ Nat.toDigits 10 value.toInt.toNat :=
      fun hmem => absurd (hdigits _ hmem) (by decide)
    cases hlist : Nat.toDigits 10 value.toInt.toNat with
    | nil => exact absurd hlist Nat.toDigits_ne_nil
    | cons d ds =>
      have hd : d.isDigit = true := hdigits d (hlist ▸ List.mem_cons_self ..)
      exact ⟨d, ds, hlist, hclass hd (by decide), hnewline⟩
  | str text =>
    have hinline := (Lexer.State.escaped_reads text.toList).inline
    refine ⟨'\'', _, rfl, by decide, ?_⟩
    simpa [Lexeme.spelling] using hinline
  | symbol symbol =>
    have hall : ∀ c ∈ Lexer.State.firsts, c ∉ blanks := fun c hc =>
      hclass (p := Lexer.State.firsts.contains) (List.contains_iff_mem.mpr hc) (by decide)
    have hnewline : '\n' ∉ symbol.text.toList := by cases symbol <;> decide
    obtain ⟨c, hc, ⟨htext, -⟩ | ⟨-, ⟨d, htext, -⟩ | ⟨htext, -⟩⟩⟩ := Lexer.State.text_eq symbol
    all_goals exact ⟨c, _, htext, hall c hc, hnewline⟩
  | _ => cases hl

/-- Where two tokens touch, the second one does not go on with the first one. -/
theorem Lexeme.of_touches {l next : Lexeme} (h : l.touches next = true) :
    l.closed = true ∨ ∃ c ∈ Lexer.breaks, ∃ cs, next.spelling = c :: cs := by
  unfold Lexeme.touches at h
  rw [Bool.or_eq_true, Bool.or_eq_true, Bool.and_eq_true] at h
  simp only [List.any_eq_true, decide_eq_true_eq] at h
  -- the next lexeme is one of some symbols, each of which starts with a character that ends a token
  have hnext : ∀ symbols : List Symbol,
      (∀ symbol ∈ symbols, symbol.text.toList.head?.any Lexer.breaks.contains = true) →
      ∀ symbol ∈ symbols, next = .symbol symbol →
        ∃ c ∈ Lexer.breaks, ∃ cs, next.spelling = c :: cs := by
    rintro symbols hsymbols symbol hsymbol rfl
    have hfront := hsymbols symbol hsymbol
    cases hlist : symbol.text.toList with
    | nil => rw [hlist] at hfront; cases hfront
    | cons c cs =>
      rw [hlist] at hfront
      exact ⟨c, List.contains_iff_mem.mp hfront, cs, hlist⟩
  obtain (⟨symbol, hsymbol, rfl⟩ | ⟨symbol, hsymbol, hl⟩) | ⟨-, symbol, hsymbol, hl⟩ := h
  · have hall : ∀ symbol ∈ [Symbol.openParen, .openBracket, .dot, .tilde],
        (Lexeme.symbol symbol).closed = true := by decide
    exact .inl (hall symbol hsymbol)
  · exact .inr (hnext _ (by decide) symbol hsymbol hl)
  · exact .inr (hnext _ (by decide) symbol hsymbol hl)

/-- The tokens of a line: each can be spelled, and the brackets are closed. -/
structure Neat (ls : List Lexeme) : Prop where
  spellable : ∀ l ∈ ls, l.spellable = true
  closed : ∀ depth, ls.foldl Lexeme.depthAfter depth = depth

/-- Each line holds some neat tokens, and stands at most one block deeper than the one before. -/
def Regular (d : Nat) : List Line → Prop
  | [] => True
  | line :: lines =>
    line.depth ≤ d + 1 ∧ line.lexemes ≠ [] ∧ Neat line.lexemes ∧ Regular line.depth lines

/-- A token of the layout stands anywhere. -/
theorem layoutToken_moved {l : Lexeme} (hl : l.isInline = false) (pos : Pos) :
    Token.Moved 0 (layoutToken l) ⟨l, pos⟩ :=
  ⟨rfl, fun h => by rw [show (layoutToken l).lexeme = l from rfl, hl] at h; cases h⟩

theorem Token.Moved.replicate {k : Nat} {t u : Token} (h : Token.Moved k t u) (m : Nat) :
    Tilde.Moved k (List.replicate m t) (List.replicate m u) := by
  induction m with
  | zero => exact .nil
  | succ m ih => exact .cons h ih

/-- A line starts with its first token. -/
theorem spell_cons (l : Lexeme) (ls : List Lexeme) :
    ∃ rest, spell (l :: ls) = l.spelling ++ rest := by
  cases ls with
  | nil => exact ⟨[], (List.append_nil _).symm⟩
  | cons next ls => exact ⟨_, by rw [spell, List.append_assoc]⟩

namespace Lexer.State

variable {s t : State} {c : Char} {cs : List Char} {l : Lexeme} {ls : List Lexeme}

/-- Between two tokens a blank is read over. -/
theorem foldlM_blank (hs : s.mode = .code) :
    (' ' :: cs).foldlM feed s = cs.foldlM feed { s with pos := s.pos.next ' ' } := by
  have hstep : s.step ' ' = .ok s := by
    rw [step_code hs, code]
    cases s
    cases hs
    rfl
  rw [foldlM_step hstep]

/-- Some tokens have been read on the line of the first state. -/
structure Wrote (s : State) (ls : List Lexeme) (t : State) : Prop where
  mode : t.mode = .code
  indents : t.indents = s.indents
  depth : t.depth = ls.foldl Lexeme.depthAfter s.depth
  line : t.pos.line = s.pos.line
  tokens : ∃ us, t.tokens = us.reverse ++ s.tokens ∧ Moved 0 (placed s.pos.line ls) us

theorem having_line (hl : l.spellable = true) : (s.having l).pos.line = s.pos.line := by
  obtain ⟨-, -, -, -, hnewline⟩ := Lexeme.spelling_eq hl
  rw [having, Pos.foldl_next_line, List.count_eq_zero_of_not_mem hnewline, Nat.add_zero]

/-- One more token in front, with a blank behind it or none. -/
theorem Wrote.cons {p : Pos} (hpos : p.line = s.pos.line)
    (h : Wrote { s.having l with pos := p } ls t) : Wrote s (l :: ls) t where
  mode := h.mode
  indents := h.indents
  depth := h.depth
  line := h.line.trans hpos
  tokens := by
    obtain ⟨us, htokens, hmoved⟩ := h.tokens
    refine ⟨⟨l, s.pos⟩ :: us, ?_, ?_⟩
    · rw [htokens, having, List.reverse_cons, List.append_assoc]
      rfl
    · rw [placed_cons]
      refine .cons ⟨rfl, fun _ => rfl⟩ ?_
      dsimp only at hmoved
      rwa [hpos] at hmoved

variable (cs) in
/-- **A spelled line is read back**, if what follows goes on with no token. -/
theorem foldlM_spell (hs : s.mode = .code) (hls : ∀ l ∈ ls, l.spellable = true)
    (hc : c ∈ breaks) :
    ∃ t, (spell ls ++ c :: cs).foldlM feed s = (c :: cs).foldlM feed t ∧ Wrote s ls t := by
  induction ls generalizing s with
  | nil => exact ⟨s, rfl, hs, rfl, rfl, rfl, [], rfl, .nil⟩
  | cons l ls ih =>
    have hl : l.spellable = true := hls l (List.mem_cons_self ..)
    have htail : ∀ l ∈ ls, l.spellable = true := fun l hl => hls l (List.mem_cons_of_mem _ hl)
    cases ls with
    | nil =>
      refine ⟨s.having l, foldlM_spelling hs hl (.inr hc), ?_⟩
      exact .cons (p := (s.having l).pos) (having_line hl) ⟨rfl, rfl, rfl, rfl, [], rfl, .nil⟩
    | cons next ls =>
      rw [spell, List.append_assoc, List.append_assoc]
      split
      · next htouches =>
        obtain ⟨t, ht, hwrote⟩ := ih (s := s.having l) rfl htail
        refine ⟨t, ?_, .cons (p := (s.having l).pos) (having_line hl) hwrote⟩
        -- where two lexemes touch, the first is complete or the second one breaks it off
        obtain ⟨c', cs', hfront, hc'⟩ : ∃ c' cs', spell (next :: ls) ++ c :: cs = c' :: cs'
            ∧ (l.closed = true ∨ c' ∈ breaks) := by
          rcases Lexeme.of_touches htouches with hclosed | ⟨c', hc', cs', hspelling⟩
          · obtain ⟨c', cs', h⟩ := List.exists_cons_of_ne_nil (l := spell (next :: ls) ++ c :: cs)
              (by simp)
            exact ⟨c', cs', h, .inl hclosed⟩
          · obtain ⟨rest, hrest⟩ := spell_cons next ls
            exact ⟨c', _, by rw [hrest, hspelling]; rfl, .inr hc'⟩
        rw [← ht, List.nil_append, hfront, foldlM_spelling hs hl hc']
      · have hblank : ((s.having l).pos.next ' ').line = s.pos.line := having_line hl
        obtain ⟨t, ht, hwrote⟩ := ih (s := { s.having l with pos := (s.having l).pos.next ' ' }) rfl
          htail
        refine ⟨t, ?_, .cons hblank hwrote⟩
        rw [← ht, List.singleton_append, foldlM_spelling hs hl (.inr (by decide)), foldlM_blank rfl]

/-! ## Margins -/

/-- The widths of the open blocks, the innermost first. -/
def widths : Nat → List Nat
  | 0 => []
  | d + 1 => 4 * (d + 1) :: widths d

theorem widths_headD (d : Nat) : (widths d).headD 0 = 4 * d := by
  cases d <;> rfl

theorem widths_length (d : Nat) : (widths d).length = d := by
  induction d with
  | zero => rfl
  | succ d ih => rw [widths, List.length_cons, ih]

/-- A margin closes the blocks that the line does not stand in. -/
theorem closeIndents_widths {d e : Nat} (h : e ≤ d) (pos : Pos) (tokens : List Token) :
    closeIndents (4 * e) pos (widths d) tokens
      = (widths e, List.replicate (d - e) ⟨.dedent, pos⟩ ++ tokens) := by
  induction d generalizing tokens with
  | zero =>
    cases Nat.le_zero.mp h
    rfl
  | succ d ih =>
    rw [widths, closeIndents]
    by_cases he : e = d + 1
    · rw [he, if_neg (Nat.lt_irrefl _), Nat.sub_self, widths]
      rfl
    · rw [if_pos (by omega), ih (by omega), Nat.succ_sub (by omega), List.replicate_succ']
      simp

variable (cs) in
theorem foldlM_margin {width : Nat} (hs : s.mode = .margin width) (k : Nat) :
    ∃ pos, pos.line = s.pos.line ∧ (List.replicate k ' ' ++ cs).foldlM feed s
      = cs.foldlM feed { s with mode := .margin (width + k), pos } := by
  induction k generalizing s width with
  | zero =>
    refine ⟨s.pos, rfl, ?_⟩
    cases s
    cases hs
    rfl
  | succ k ih =>
    have hstep : s.step ' ' = .ok { s with mode := .margin (width + 1) } := by
      rw [step, hs]
      rfl
    obtain ⟨pos, hpos, hrun⟩ :=
      ih (s := { s with mode := .margin (width + 1), pos := s.pos.next ' ' }) rfl
    refine ⟨pos, hpos, ?_⟩
    rw [List.replicate_succ, List.cons_append, foldlM_step hstep, hrun, Nat.add_right_comm]
    rfl

/-- The first character of code is read when its margin has become indentation tokens. -/
theorem foldlM_applied {width : Nat} (hs : s.mode = .margin width) (hc : c ∉ blanks)
    (h : s.applyMargin width = .ok t) (hmode : t.mode = .code) (hpos : t.pos = s.pos) :
    (c :: cs).foldlM feed s = (c :: cs).foldlM feed t := by
  have hfeed : s.feed c = t.feed c := by
    simp only [blanks, List.mem_cons, List.not_mem_nil, or_false, not_or] at hc
    rw [feed, feed, step, hs, step_code hmode, hpos]
    simp only [State.margin, hc, beq_iff_eq, or_self, if_false, Bool.or_eq_true, h]
    rfl
  rw [List.foldlM_cons, List.foldlM_cons, hfeed]

/-! ## Lines -/

/-- Behind a line in `d` blocks, at the start of the line `n`. -/
structure AtLine (d n : Nat) (s : State) : Prop where
  mode : s.mode = .margin 0
  indents : s.indents = widths d
  depth : s.depth = 0
  line : s.pos.line = n
  capped : ∀ t ∈ s.tokens.head?, t.lexeme.isLayout = true

/-- What the margin of a line becomes. -/
theorem AtLine.applyMargin {d n e : Nat} (hs : AtLine d n s) (he : e ≤ d + 1) (pos : Pos) :
    ∃ t us, State.applyMargin { s with mode := .margin (4 * e), pos } (4 * e) = .ok t
      ∧ t.mode = .code ∧ t.pos = pos ∧ t.indents = widths e ∧ t.depth = 0
      ∧ t.tokens = us.reverse ++ s.tokens ∧ Moved 0 (Tilde.margin d e) us := by
  unfold State.applyMargin Tilde.margin
  simp only [hs.indents, widths_headD]
  -- one block deeper opens an indentation, and any other line closes what is too deep
  by_cases hlt : d < e
  · obtain rfl : e = d + 1 := by omega
    rw [if_pos (by omega), if_pos hlt]
    exact ⟨_, [⟨.indent, pos⟩], rfl, rfl, rfl, rfl, hs.depth, rfl,
      .cons (layoutToken_moved (l := .indent) rfl pos) .nil⟩
  · rw [if_neg (by omega), if_neg hlt, closeIndents_widths (by omega)]
    simp only [widths_headD, if_true]
    refine ⟨_, List.replicate (d - e) ⟨.dedent, pos⟩, rfl, rfl, rfl, rfl, hs.depth, ?_,
      (layoutToken_moved (l := .dedent) rfl pos).replicate _⟩
    rw [List.reverse_replicate]

/-- The line end behind some tokens of a line. -/
theorem Wrote.newline (hwrote : Wrote s ls t) (hls : Neat ls) (hne : ls ≠ []) (hs : s.depth = 0) :
    ('\n' :: cs).foldlM feed t = cs.foldlM feed
      { t with tokens := ⟨.newline, t.pos⟩ :: t.tokens, mode := .margin 0,
               pos := t.pos.next '\n' } := by
  have hdepth : t.depth = 0 := hwrote.depth.trans (by rw [hs, hls.closed])
  obtain ⟨us, htokens, hmoved⟩ := hwrote.tokens
  have hlexemes : ∀ u ∈ us.reverse, u.lexeme.isLayout = false := by
    intro u hu
    have hmem : u.lexeme ∈ lexemes us := List.mem_map_of_mem (List.mem_reverse.mp hu)
    rw [hmoved.lexemes, lexemes, placed, List.map_map] at hmem
    obtain ⟨l, hl, heq⟩ := List.mem_map.mp hmem
    have hspellable := hls.spellable l hl
    rw [← heq]
    cases l with
    | word | int | str | symbol => rfl
    | _ => cases hspellable
  -- the line has a last token, which is no layout, so that the line end becomes a token
  have hpush : t.pushNewline t.pos = t.push .newline t.pos := by
    cases hreverse : us.reverse with
    | nil =>
      have hlength := hmoved.length_eq
      rw [placed_length, ← us.length_reverse, hreverse] at hlength
      exact absurd (List.length_eq_zero_iff.mp hlength) hne
    | cons u us' =>
      rw [hreverse] at hlexemes htokens
      rw [pushNewline, htokens]
      simp only [List.cons_append, hlexemes u (List.mem_cons_self ..), Bool.false_eq_true, if_false]
  have hstep : t.step '\n' = .ok { t.push .newline t.pos with mode := .margin 0 } := by
    rw [step_code hwrote.mode, code, hdepth, hpush]
    rfl
  rw [foldlM_step hstep]
  rfl

variable (cs) in
/-- **A printed line is read back.** -/
theorem AtLine.line_reads {d n : Nat} {line : Line} (hs : AtLine d n s)
    (hdepth : line.depth ≤ d + 1) (hne : line.lexemes ≠ []) (hneat : Neat line.lexemes) :
    ∃ t us, (line.chars ++ cs).foldlM feed s = cs.foldlM feed t ∧ AtLine line.depth (n + 1) t
      ∧ t.tokens = us.reverse ++ s.tokens
      ∧ Moved 0 (Tilde.margin d line.depth
          ++ (placed n line.lexemes ++ [layoutToken .newline])) us := by
  obtain ⟨pos, hpos, hmargin⟩ := foldlM_margin (spell line.lexemes ++ '\n' :: cs) hs.mode
    (4 * line.depth)
  obtain ⟨t, us, happly, hmode, htpos, hindents, ht, htokens, hmoved⟩ := hs.applyMargin hdepth pos
  obtain ⟨u, hrun, hwrote⟩ := foldlM_spell (c := '\n') cs hmode hneat.spellable (by decide)
  obtain ⟨ks, hktokens, hkmoved⟩ := hwrote.tokens
  have hline : u.pos.line = n := by rw [hwrote.line, htpos, hpos, hs.line]
  obtain ⟨c, cs', hfront, hc⟩ :
      ∃ c cs', spell line.lexemes ++ '\n' :: cs = c :: cs' ∧ c ∉ blanks := by
    obtain ⟨l, ls, hls⟩ := List.exists_cons_of_ne_nil hne
    obtain ⟨rest, hrest⟩ := spell_cons l ls
    obtain ⟨c, cs', hspelling, hc, -⟩ :=
      Lexeme.spelling_eq (hneat.spellable l (hls ▸ List.mem_cons_self ..))
    exact ⟨c, _, by rw [hls, hrest, hspelling]; rfl, hc⟩
  refine ⟨{ u with tokens := ⟨.newline, u.pos⟩ :: u.tokens, mode := .margin 0,
                   pos := u.pos.next '\n' },
    us ++ (ks ++ [⟨.newline, u.pos⟩]), ?_, ⟨rfl, ?_, ?_, ?_, ?_⟩, ?_, ?_⟩
  · -- the margin, the lexemes and the line end, one after the other
    have hchars : line.chars ++ cs
        = List.replicate (4 * line.depth) ' ' ++ (spell line.lexemes ++ '\n' :: cs) := by
      rw [Line.chars, List.append_assoc, List.append_assoc, List.singleton_append]
    rw [hchars, hmargin, hfront, Nat.zero_add, foldlM_applied rfl hc happly hmode htpos, ← hfront,
      hrun, hwrote.newline hneat hne ht]
  · exact hwrote.indents.trans hindents
  · exact hwrote.depth.trans (by rw [ht, hneat.closed])
  · rw [← hline]
    rfl
  · rintro _ ⟨⟩
    rfl
  · simp [hktokens, htokens]
  · rw [htpos, hpos, hs.line] at hkmoved
    exact List.rel_append hmoved
      (List.rel_append hkmoved (.cons (layoutToken_moved rfl u.pos) .nil))

/-- The tokens of printed lines are those of the layout. -/
theorem AtLine.lines_read {d n : Nat} {lines : List Line} (hs : AtLine d n s)
    (h : Regular d lines) :
    ∃ t us, (lines.flatMap Line.chars).foldlM feed s = .ok t
      ∧ t.finish = .ok (s.tokens.reverse ++ us) ∧ Moved 0 (layout d n lines) us := by
  induction lines generalizing s d n with
  | nil =>
    refine ⟨s, ending s.pos d, rfl, ?_, ?_⟩
    · refine finish_eq_ok.mpr ⟨by rw [hs.mode]; rfl, s, ?_, hs.depth, ?_⟩
      · rw [endToken, hs.mode]
      · rw [pushNewline_of_layout _ hs.capped, hs.indents, widths_length]
    · exact List.rel_append ((layoutToken_moved (l := .dedent) rfl s.pos).replicate d)
        (.cons (layoutToken_moved rfl s.pos) .nil)
  | cons line lines ih =>
    obtain ⟨hdepth, hne, hneat, hrest⟩ := h
    obtain ⟨t, us, hrun, ht, htokens, hmoved⟩ :=
      hs.line_reads (lines.flatMap Line.chars) hdepth hne hneat
    obtain ⟨u, ks, hrun', hfinish, hmoved'⟩ := ih ht hrest
    refine ⟨u, us ++ ks, ?_, ?_, ?_⟩
    · rw [List.flatMap_cons, hrun, hrun']
    · rw [hfinish, htokens, List.reverse_append, List.reverse_reverse, List.append_assoc]
    · have := List.rel_append hmoved hmoved'
      simpa [layout] using this

end Lexer.State

/-- **A printed text is read back**: its tokens are those of the layout of its lines. -/
theorem tokenize_lines_chars {lines : List Line} (h : Regular 0 lines) :
    ∃ us, tokenize (String.ofList (lines.flatMap Line.chars)) = .ok us
      ∧ Moved 0 (layout 0 1 lines) us := by
  have hstart : Lexer.State.AtLine 0 1 {} := ⟨rfl, rfl, rfl, rfl, fun _ h => by cases h⟩
  obtain ⟨t, us, hrun, hfinish, hmoved⟩ := hstart.lines_read h
  refine ⟨us, ?_, hmoved⟩
  unfold tokenize
  rw [String.toList_ofList, hrun]
  exact hfinish

end Tilde
