import Mathlib.Data.List.Induction
import Mathlib.Tactic.SplitIfs
import Tilde.Proofs.Joined.Lexer
import Tilde.Proofs.Lexer.Spelled

/-!
# The layout of tokens

The line ends and changes of indentation among the tokens of a text are well formed: line ends stand
behind tokens of a line only, indentations are nested, and none of these tokens stands in brackets.
Each condition is one on a token and on what stands in front of it (`Lexeme.Fits`).

The lexer keeps to them character by character. What it has read to the end of a token spells its
tokens, and the brackets and indentations that it counts are those that the tokens leave open
(`Settled`); behind that stand the characters of the token it is reading (`State.Reached`). A step
leads from such a state to another one, or to an error at the place of its fault (`State.Lands`).
-/

namespace Tilde

variable {ts front rest : List Token} {t : Token} {l : Lexeme}

/-- The number of brackets that are open behind some tokens. A closing bracket too many changes
nothing. -/
def openBrackets (ts : List Token) : Nat := ts.foldl (fun depth t => t.lexeme.depthAfter depth) 0

/-- How often a token occurs among others. -/
def occurrences (l : Lexeme) (ts : List Token) : Nat := ts.countP fun t => t.lexeme = l

/-- The last token, if there is one, ends a line or changes the indentation. -/
def EndsLine (ts : List Token) : Prop := ∀ t ∈ ts.getLast?, t.lexeme.isLayout = true

/-- What the layout of a text asks of the tokens in front of a token. -/
def Lexeme.Fits (front : List Token) : Lexeme → Prop
  | .newline => openBrackets front = 0 ∧ ¬EndsLine front
  | .indent => openBrackets front = 0 ∧ EndsLine front
  | .dedent => openBrackets front = 0 ∧ EndsLine front
    ∧ occurrences .dedent front < occurrences .indent front
  | .eof => openBrackets front = 0 ∧ EndsLine front
    ∧ occurrences .dedent front = occurrences .indent front
  | _ => True

/-- Every token fits behind those in front of it. -/
def Laid (ts : List Token) : Prop := ∀ front t rest, ts = front ++ t :: rest → t.lexeme.Fits front

@[simp] theorem openBrackets_concat :
    openBrackets (ts ++ [t]) = t.lexeme.depthAfter (openBrackets ts) := by
  rw [openBrackets, List.foldl_append]
  rfl

@[simp] theorem occurrences_concat : occurrences l (ts ++ [t])
    = occurrences l ts + if t.lexeme = l then 1 else 0 := by
  rw [occurrences, List.countP_append, List.countP_singleton]
  simp [occurrences]

theorem endsLine_nil : EndsLine [] := by simp [EndsLine]

@[simp] theorem endsLine_concat : EndsLine (ts ++ [t]) ↔ t.lexeme.isLayout = true := by
  simp [EndsLine]

theorem Laid.nil : Laid [] := by
  intro front t rest h
  simp at h

theorem Laid.concat (h : Laid ts) (ht : t.lexeme.Fits ts) : Laid (ts ++ [t]) := by
  intro front u rest heq
  cases rest using List.reverseRecOn with
  | nil =>
    obtain ⟨rfl, hlast⟩ := List.append_inj' heq rfl
    cases hlast
    exact ht
  | append_singleton rest v =>
    rw [← List.cons_append, ← List.append_assoc] at heq
    exact h front u rest (List.append_inj' heq rfl).1

/-- In front of every place, no more indentations are closed than opened. -/
theorem Laid.nested (h : Laid ts) (hfront : front <+: ts) :
    occurrences .dedent front ≤ occurrences .indent front := by
  induction front using List.reverseRecOn with
  | nil => exact Nat.le_refl _
  | append_singleton front t ih =>
    obtain ⟨rest, rfl⟩ := hfront
    have hfits := h front t rest (by simp)
    have hfront := ih ⟨t :: rest, by simp⟩
    rw [occurrences_concat, occurrences_concat]
    by_cases hdedent : t.lexeme = .dedent
    · rw [hdedent] at hfits
      rw [if_pos hdedent]
      exact Nat.le_trans hfits.2.2 (Nat.le_add_right ..)
    · rw [if_neg hdedent]
      omega

namespace Lexer

variable {read before pending : List Char} {c : Char}

/-! ## What has been read -/

/-- Some characters have been read to the end of a token: they spell the tokens, which are kept last
first, and the brackets and indentations that are open are those that the tokens leave open. -/
structure Settled (read : List Char) (tokens : List Token) (depth : Nat) (indents : List Nat) :
    Prop where
  spelled : Spelled read tokens.reverse
  laid : Laid tokens.reverse
  depth : openBrackets tokens.reverse = depth
  indents : occurrences .dedent tokens.reverse + indents.length
    = occurrences .indent tokens.reverse

namespace Settled

variable {tokens : List Token} {depth : Nat} {indents : List Nat}

theorem gaps (h : Settled read tokens depth indents) (cs : List Char) :
    Settled (read ++ cs) tokens depth indents :=
  ⟨h.spelled.gaps cs, h.laid, h.depth, h.indents⟩

/-- One more token. -/
theorem add {more : List Char} {indents' : List Nat} (h : Settled read tokens depth indents)
    (hspelled : Spelled more (tokens.reverse ++ [t])) (hfits : t.lexeme.Fits tokens.reverse)
    (hindents : occurrences .dedent (tokens.reverse ++ [t]) + indents'.length
      = occurrences .indent (tokens.reverse ++ [t])) :
    Settled more (t :: tokens) (t.lexeme.depthAfter depth) indents' where
  spelled := by rwa [List.reverse_cons]
  laid := by
    rw [List.reverse_cons]
    exact h.laid.concat hfits
  depth := by rw [List.reverse_cons, openBrackets_concat, h.depth]
  indents := by rwa [List.reverse_cons]

/-- A token of a line. -/
theorem push {text : List Char} (h : Settled read tokens depth indents) (hl : l.SpelledBy text)
    (hlayout : l.isLayout = false) :
    Settled (read ++ text) (⟨l, .after read⟩ :: tokens) (l.depthAfter depth) indents := by
  refine h.add (h.spelled.token hl) ?_ ?_
  · cases l with
    | newline | indent | dedent => cases hlayout
    | eof => exact hl.elim
    | _ => trivial
  · have hne : l ≠ .dedent ∧ l ≠ .indent := by
      constructor <;> rintro rfl <;> cases hlayout
    rw [occurrences_concat, occurrences_concat, if_neg hne.1, if_neg hne.2]
    exact h.indents

/-- The end of a line behind tokens of the line. -/
theorem newline (h : Settled read tokens 0 indents) (hline : ¬EndsLine tokens.reverse) :
    Settled (read ++ ['\n']) (⟨.newline, .after read⟩ :: tokens) 0 indents := by
  refine h.add (h.spelled.token (l := .newline) rfl) ⟨h.depth, hline⟩ ?_
  rw [occurrences_concat, occurrences_concat]
  exact h.indents

/-- An indentation that is opened at the start of a line. -/
theorem indent (h : Settled read tokens 0 indents) (hline : EndsLine tokens.reverse) (width : Nat) :
    Settled read (⟨.indent, .after read⟩ :: tokens) 0 (width :: indents) := by
  refine h.add (h.spelled.margin (.inl rfl)) ⟨h.depth, hline⟩ ?_
  rw [occurrences_concat, occurrences_concat, if_neg (by simp), if_pos rfl, List.length_cons,
    ← h.indents]
  omega

/-- An indentation that is closed there. -/
theorem dedent {width : Nat} (h : Settled read tokens 0 (width :: indents))
    (hline : EndsLine tokens.reverse) :
    Settled read (⟨.dedent, .after read⟩ :: tokens) 0 indents := by
  have hindents := h.indents
  rw [List.length_cons] at hindents
  refine h.add (h.spelled.margin (.inr rfl)) ⟨h.depth, hline, by omega⟩ ?_
  rw [occurrences_concat, occurrences_concat, if_pos rfl, if_neg (by simp)]
  omega

end Settled

/-- Closing indentations at the start of a line. -/
theorem closeIndents_settled {tokens : List Token} {indents : List Nat} (width : Nat)
    (h : Settled read tokens 0 indents) (hline : EndsLine tokens.reverse) :
    Settled read (closeIndents width (.after read) indents tokens).2 0
      (closeIndents width (.after read) indents tokens).1 := by
  induction indents generalizing tokens with
  | nil => exact h
  | cons w ws ih =>
    rw [closeIndents]
    split_ifs
    · refine ih (h.dedent hline) ?_
      rw [List.reverse_cons, endsLine_concat]
      rfl
    · exact h

/-- A string literal is being read: what stands in front of its quote, and the characters of it so
far. -/
structure Literal.Opened (before opener chars : List Char) (l : Literal) : Prop where
  quote : isQuote l.quote = true
  start : l.start = .after before
  opened : l.opened = .after (before ++ opener)
  opener : if l.interpolated then opener = ['f'] ∨ opener = ['F'] else opener = []
  chars : if l.escaping then ∃ cs, chars = cs ++ ['\\'] ∧ Denotes l.quote cs l.text.reverse
    else Denotes l.quote chars l.text.reverse

/-- The characters that belong to the token being read. -/
def Mode.Begun (before pending : List Char) : Mode → Prop
  | .margin _ | .comment _ | .code => pending = []
  | .word start text => start = .after before ∧ pending = text.reverse
    ∧ isIdentifier (String.ofList pending) = true
  | .number start value => start = .after before ∧ Numeral pending value
  | .operator start c => start = .after before ∧ pending = [c] ∧ startsPair c = true
  | .literal l => ∃ opener chars, pending = opener ++ l.quote :: chars
    ∧ l.Opened before opener chars
  | .continuation start seenReturn => start = .after before
    ∧ pending = '\\' :: if seenReturn then ['\r'] else []

namespace State

variable {s t : State}

/-- The state of the lexer behind some characters, but for its place. -/
def Reached (read : List Char) (s : State) : Prop :=
  ∃ before pending, read = before ++ pending ∧ Settled before s.tokens s.depth s.indents
    ∧ s.mode.Begun before pending
    ∧ (s.mode.startsLine = true → s.depth = 0 ∧ EndsLine s.tokens.reverse)

end State

end Lexer

/-! ## What is read next -/

/-- What the text has at the place of a fault. -/
def LexFault.At : LexFault → List Char → Prop
  | .badTemplate fault, rest => ∃ letter quote chars body more, (letter = 'f' ∨ letter = 'F')
    ∧ Lexer.isQuote quote = true ∧ rest = letter :: quote :: chars ++ quote :: more
    ∧ Denotes quote chars body ∧ Template.split body = .error fault
  | .danglingContinuation, rest => rest = ['\\'] ∨ rest = ['\\', '\r']
  | .unclosedBracket, rest => rest = []
  | _, _ => True

/-- The error is reported at a place of the text, and the text has there what the fault is about. -/
def LexError.Faults (source : List Char) (e : LexError) : Prop :=
  ∃ before rest, source = before ++ rest ∧ e.pos = .after before ∧ e.fault.At rest

/-- A fault that more text cannot mend stays where it is when the text goes on. -/
theorem LexError.Faults.append {source more : List Char} {e : LexError} (h : e.Faults source)
    (hcomplete : e.isIncomplete = false) : e.Faults (source ++ more) := by
  obtain ⟨before, rest, rfl, hpos, hat⟩ := h
  refine ⟨before, rest ++ more, List.append_assoc .., hpos, ?_⟩
  obtain ⟨fault, pos⟩ := e
  cases fault with
  | badTemplate =>
    obtain ⟨letter, quote, chars, body, tail, hletter, hquote, rfl, hbody⟩ := hat
    exact ⟨letter, quote, chars, body, tail ++ more, hletter, hquote, by simp, hbody⟩
  | danglingContinuation | unclosedBracket => cases hcomplete
  | _ => trivial

namespace Lexer.State

variable {read before pending : List Char} {c : Char} {s t : State}

/-- A step of the lexer: it reads on, or it stops at a fault that more text cannot mend. -/
def Lands (read : List Char) : Except LexError State → Prop
  | .ok t => t.Reached read
  | .error e => e.Faults read ∧ e.isIncomplete = false

theorem Reached.at {m : Mode} (hs : s.Reached read) (hmode : s.mode = m) :
    ∃ before pending, read = before ++ pending ∧ Settled before s.tokens s.depth s.indents
      ∧ m.Begun before pending
      ∧ (m.startsLine = true → s.depth = 0 ∧ EndsLine s.tokens.reverse) :=
  hmode ▸ hs

/-- The start of a text. -/
theorem Reached.start : Reached [] {} :=
  ⟨[], [], rfl, ⟨.nil, .nil, rfl, rfl⟩, rfl, fun _ => ⟨rfl, endsLine_nil⟩⟩

/-- A token begins. -/
theorem Reached.begin (m : Mode) (hs : Settled read s.tokens s.depth s.indents)
    (hbegun : m.Begun read [c]) (hline : m.startsLine = false) :
    Reached (read ++ [c]) { s with mode := m } :=
  ⟨read, [c], rfl, hs, hbegun, fun h => by rw [hline] at h; cases h⟩

/-- A token goes on. -/
theorem Reached.more (m : Mode) (hs : Settled before s.tokens s.depth s.indents)
    (hbegun : m.Begun before (pending ++ [c])) (hline : m.startsLine = false) :
    Reached (before ++ pending ++ [c]) { s with mode := m } :=
  ⟨before, pending ++ [c], List.append_assoc .., hs, hbegun, fun h => by rw [hline] at h; cases h⟩

/-- Between two tokens. -/
theorem Reached.between (h : Settled read s.tokens s.depth s.indents)
    (hbegun : s.mode.Begun read [])
    (hstart : s.mode.startsLine = true → s.depth = 0 ∧ EndsLine s.tokens.reverse) :
    s.Reached read :=
  ⟨read, [], (List.append_nil _).symm, h, hbegun, hstart⟩

/-- Between two tokens of a line. -/
theorem Reached.code (h : Settled read s.tokens s.depth s.indents) (hbegun : s.mode.Begun read [])
    (hline : s.mode.startsLine = false) : s.Reached read :=
  .between h hbegun fun h => by rw [hline] at h; cases h

theorem loneSymbol?_text {symbol : Symbol} (h : loneSymbol? c = some symbol) :
    symbol.text.toList = [c] := by
  unfold loneSymbol? at h
  split at h <;> cases h <;> rfl

theorem halfSymbol?_text {symbol : Symbol} (h : halfSymbol? c = some symbol) :
    symbol.text.toList = [c] ∧ ∀ depth, depthAfter depth symbol = depth := by
  unfold halfSymbol? at h
  split at h <;> cases h <;> exact ⟨rfl, fun _ => rfl⟩

theorem pairSymbol?_text {first : Char} {symbol : Symbol} (h : pairSymbol? first c = some symbol) :
    symbol.text.toList = [first, c] ∧ ∀ depth, depthAfter depth symbol = depth := by
  unfold pairSymbol? at h
  split at h <;> cases h <;> exact ⟨rfl, fun _ => rfl⟩

theorem operator_lands (hs : Settled read s.tokens s.depth s.indents) (hpos : s.pos = .after read) :
    Lands (read ++ [c]) (s.operator c) := by
  unfold operator
  split
  · next symbol hsymbol =>
    rw [hpos]
    refine .code ?_ rfl rfl
    exact hs.push (l := .symbol symbol) (loneSymbol?_text hsymbol).symm rfl
  · split_ifs with hpair
    · exact .begin (.operator s.pos c) hs ⟨hpos, rfl, hpair⟩ rfl
    · exact ⟨⟨read, [c], rfl, hpos, trivial⟩, rfl⟩

/-- The end of a line. -/
theorem pushNewline_settled (hs : Settled read s.tokens s.depth s.indents) (hdepth : s.depth = 0)
    (ht : t = s.pushNewline (.after read)) :
    Settled (read ++ ['\n']) t.tokens t.depth t.indents ∧ t.depth = 0
      ∧ EndsLine t.tokens.reverse := by
  subst ht
  unfold pushNewline
  split
  · next hnil => exact ⟨hs.gaps _, hdepth, hnil ▸ endsLine_nil⟩
  · next u us htokens =>
    split_ifs with hlayout
    · refine ⟨hs.gaps _, hdepth, ?_⟩
      rw [htokens, List.reverse_cons, endsLine_concat]
      exact hlayout
    · -- the last token is no layout, so that the line has not been ended
      have hline : ¬EndsLine s.tokens.reverse := by
        rwa [htokens, List.reverse_cons, endsLine_concat]
      refine ⟨?_, hdepth, ?_⟩
      · rw [hdepth] at hs
        exact hdepth.symm ▸ hs.newline hline
      · rw [push, List.reverse_cons, endsLine_concat]
        rfl

theorem code_lands (hs : Settled read s.tokens s.depth s.indents) (hpos : s.pos = .after read) :
    Lands (read ++ [c]) (s.code c) := by
  unfold code
  split_ifs with _ _ hback hline hdepth hquote hword hdigit
  · exact .code (hs.gaps [c]) rfl rfl
  · exact .code (hs.gaps [c]) rfl rfl
  · exact .begin (.continuation s.pos false) hs ⟨hpos, by rw [beq_iff_eq.mp hback]; rfl⟩ rfl
  · obtain ⟨hsettled, hends⟩ := pushNewline_settled hs hdepth rfl
    rw [beq_iff_eq.mp hline, hpos]
    exact .between hsettled rfl fun _ => hends
  · exact .code (hs.gaps [c]) rfl rfl
  · refine .begin (.literal ⟨s.pos, s.pos, false, c, [], false⟩) hs
      ⟨[], [], rfl, hquote, hpos, ?_, rfl, .nil⟩ rfl
    rw [List.append_nil]
    exact hpos
  · refine .begin (.word s.pos [c]) hs ⟨hpos, rfl, ?_⟩ rfl
    simp [isIdentifier, hword]
  · exact .begin (.number s.pos _) hs ⟨hpos, .digit hdigit⟩ rfl
  · exact operator_lands hs hpos

/-- Where the next character does not go on with a token, the token is ended. -/
theorem endToken_settled (hs : s.Reached read) (h : s.endToken = .ok t) :
    Settled read t.tokens t.depth t.indents ∧ t.pos = s.pos := by
  obtain ⟨before, pending, rfl, hsettled, hbegun, -⟩ := hs
  unfold endToken at h
  split at h
  · next start text hmode =>
    cases h
    rw [hmode] at hbegun
    obtain ⟨rfl, rfl, hword⟩ := hbegun
    refine ⟨?_, rfl⟩
    exact hsettled.push (l := .word _) ⟨hword, (String.toList_ofList).symm⟩ rfl
  · next start value hmode =>
    split_ifs at h with hfits
    cases h
    rw [hmode] at hbegun
    obtain ⟨rfl, hnumeral⟩ := hbegun
    refine ⟨?_, rfl⟩
    exact hsettled.push (l := .int _) ⟨value, hnumeral, hfits, rfl⟩ rfl
  · next start c hmode =>
    split at h
    · next symbol hsymbol =>
      cases h
      rw [hmode] at hbegun
      obtain ⟨rfl, rfl, -⟩ := hbegun
      -- no bracket is half of a pair, so the depth stays
      obtain ⟨htext, hdepth⟩ := halfSymbol?_text hsymbol
      have hpush := hsettled.push (l := .symbol symbol) htext.symm rfl
      rw [Lexeme.depthAfter, hdepth] at hpush
      exact ⟨hpush, rfl⟩
    · cases h
  · cases h
    exact ⟨hsettled.gaps pending, rfl⟩

theorem endToken_faults {e : LexError} (hs : s.Reached read) (h : s.endToken = .error e) :
    e.Faults read ∧ e.isIncomplete = false := by
  obtain ⟨before, pending, rfl, -, hbegun, -⟩ := hs
  unfold endToken at h
  split at h
  · cases h
  · next start value hmode =>
    split_ifs at h with hfits
    cases h
    rw [hmode] at hbegun
    exact ⟨⟨before, pending, rfl, hbegun.1, trivial⟩, rfl⟩
  · next start c hmode =>
    split at h
    · cases h
    · cases h
      rw [hmode] at hbegun
      exact ⟨⟨before, pending, rfl, hbegun.1, trivial⟩, rfl⟩
  · cases h

theorem endToken_code_lands (hs : s.Reached read) (hpos : s.pos = .after read) :
    Lands (read ++ [c]) (s.endToken.bind (·.code c)) := by
  cases h : s.endToken with
  | error e =>
    obtain ⟨hfaults, hcomplete⟩ := endToken_faults hs h
    exact ⟨hfaults.append hcomplete, hcomplete⟩
  | ok t =>
    obtain ⟨hsettled, ht⟩ := endToken_settled hs h
    exact code_lands hsettled (ht.trans hpos)

/-- A literal is ended by its quote. -/
theorem endLiteral_lands {l : Literal} {opener chars : List Char}
    (hs : Settled before s.tokens s.depth s.indents) (hl : l.Opened before opener chars)
    (hescaping : ¬l.escaping = true) :
    Lands (before ++ (opener ++ l.quote :: chars ++ [l.quote])) (s.endLiteral l) := by
  have hchars := hl.chars
  have hopener := hl.opener
  rw [if_neg hescaping] at hchars
  unfold endLiteral
  split_ifs with hinterpolated
  · rw [if_pos hinterpolated] at hopener
    obtain ⟨letter, hletter, rfl⟩ :
        ∃ letter, (letter = 'f' ∨ letter = 'F') ∧ opener = [letter] := by
      rcases hopener with rfl | rfl
      · exact ⟨'f', .inl rfl, rfl⟩
      · exact ⟨'F', .inr rfl, rfl⟩
    split
    · next pieces hpieces =>
      rw [hl.start]
      refine .code ?_ rfl rfl
      exact hs.push (l := .template pieces)
        ⟨letter, l.quote, chars, _, hletter, hl.quote, rfl, hchars, hpieces⟩ rfl
    · -- fields that cannot be read are a fault of the whole literal
      next fault hfault =>
      exact ⟨⟨before, _, rfl, hl.start, letter, l.quote, chars, _, [], hletter, hl.quote, rfl,
        hchars, hfault⟩, rfl⟩
  · rw [if_neg hinterpolated] at hopener
    subst hopener
    rw [hl.start]
    refine .code ?_ rfl rfl
    refine hs.push (l := .str _) ⟨l.quote, chars, hl.quote, rfl, ?_⟩ rfl
    rwa [String.toList_ofList]

theorem literal_lands {l : Literal} (hs : s.Reached read) (hmode : s.mode = .literal l) :
    Lands (read ++ [c]) (s.literal l c) := by
  obtain ⟨before, pending, rfl, hsettled, hbegun, -⟩ := hs
  rw [hmode] at hbegun
  obtain ⟨opener, chars, rfl, hl⟩ := hbegun
  have hchars := hl.chars
  -- one more character of the literal
  have hgoes : ∀ l' : Literal, l'.quote = l.quote → l'.Opened before opener (chars ++ [c]) →
      Lands (before ++ (opener ++ l.quote :: chars) ++ [c])
        (.ok { s with mode := .literal l' }) := by
    intro l' hquote hl'
    exact .more (.literal l') hsettled ⟨opener, chars ++ [c], by simp [hquote], hl'⟩ rfl
  unfold literal
  split_ifs with hescaping hline hbackslash hquote
  · rw [if_pos hescaping] at hchars
    obtain ⟨cs, rfl, hdenotes⟩ := hchars
    refine hgoes _ rfl ⟨hl.quote, hl.start, hl.opened, hl.opener, ?_⟩
    rw [if_neg nofun, List.reverse_append, List.append_assoc]
    exact hdenotes.escape c
  · exact ⟨⟨before ++ opener, l.quote :: chars ++ [c], by simp, hl.opened, trivial⟩, rfl⟩
  · rw [if_neg hescaping] at hchars
    refine hgoes _ rfl ⟨hl.quote, hl.start, hl.opened, hl.opener, ?_⟩
    rw [if_pos rfl, beq_iff_eq.mp hbackslash]
    exact ⟨chars, rfl, hchars⟩
  · rw [beq_iff_eq.mp hquote, List.append_assoc]
    exact endLiteral_lands hsettled hl hescaping
  · rw [if_neg hescaping] at hchars
    refine hgoes _ rfl ⟨hl.quote, hl.start, hl.opened, hl.opener, ?_⟩
    rw [if_neg hescaping, List.reverse_cons]
    exact hchars.char (by simpa using hline) (by simpa using hbackslash) (by simpa using hquote)

/-- The margin of a line becomes indentation tokens. -/
theorem applyMargin_settled {width : Nat} (hs : Settled read s.tokens s.depth s.indents)
    (hline : s.depth = 0 ∧ EndsLine s.tokens.reverse) (hpos : s.pos = .after read)
    (h : s.applyMargin width = .ok t) :
    Settled read t.tokens t.depth t.indents ∧ t.pos = .after read := by
  obtain ⟨hdepth, hends⟩ := hline
  rw [hdepth] at hs
  unfold applyMargin at h
  rw [hpos] at h
  split_ifs at h
  · cases h
    exact ⟨hdepth ▸ hs.indent hends width, hpos⟩
  · dsimp only at h
    split_ifs at h
    cases h
    exact ⟨hdepth ▸ closeIndents_settled width hs hends, rfl⟩

theorem margin_lands {width : Nat} (hs : s.Reached read) (hpos : s.pos = .after read)
    (hmode : s.mode = .margin width) : Lands (read ++ [c]) (s.margin width c) := by
  obtain ⟨before, pending, rfl, hsettled, hbegun, hstart⟩ := hs
  rw [hmode] at hbegun hstart
  obtain rfl : pending = [] := hbegun
  have hline := hstart rfl
  rw [List.append_nil] at hpos ⊢
  -- a character of the margin
  have hgoes : ∀ m : Mode, m.Begun (before ++ [c]) [] →
      Lands (before ++ [c]) (.ok { s with mode := m }) := fun m hm =>
    .between (hsettled.gaps [c]) hm fun _ => hline
  unfold margin
  split_ifs
  · exact hgoes _ rfl
  · exact hgoes _ rfl
  · refine .between (hsettled.gaps [c]) ?_ fun _ => hline
    rw [hmode]
    rfl
  · exact hgoes _ rfl
  · exact hgoes _ rfl
  · cases h : s.applyMargin width with
    | error e =>
      have hfault : e = ⟨.inconsistentDedent, s.pos⟩ := by
        unfold applyMargin at h
        split_ifs at h
        dsimp only at h
        split_ifs at h
        exact (Except.error.inj h).symm
      rw [hfault]
      exact ⟨⟨before, [c], rfl, hpos, trivial⟩, rfl⟩
    | ok t =>
      obtain ⟨ht, htpos⟩ := applyMargin_settled hsettled hline hpos h
      exact code_lands ht htpos

/-- A word is as far as it goes. -/
theorem isIdentifier_concat {cs : List Char} (h : isIdentifier (String.ofList cs) = true)
    (hc : isWordChar c = true) : isIdentifier (String.ofList (cs ++ [c])) = true := by
  unfold isIdentifier at h ⊢
  rw [String.toList_ofList] at h ⊢
  cases cs with
  | nil => cases h
  | cons w ws =>
    obtain ⟨hw, hws⟩ := Bool.and_eq_true_iff.mp h
    rw [List.cons_append]
    simp only [hw, List.all_append, hws, List.all_cons, hc, List.all_nil, Bool.and_self]

theorem word_lands {start : Pos} {text : List Char} (hs : s.Reached read)
    (hpos : s.pos = .after read) (hmode : s.mode = .word start text) :
    Lands (read ++ [c]) (s.step c) := by
  obtain ⟨before, pending, rfl, hsettled, ⟨rfl, rfl, hword⟩, -⟩ := hs.at hmode
  rw [step, hmode]
  dsimp only
  split_ifs with hchar hquote
  · refine .more (.word _ (c :: text)) hsettled ⟨rfl, List.reverse_cons.symm, ?_⟩ rfl
    exact isIdentifier_concat hword hchar
  · obtain ⟨hquote, hletter⟩ := Bool.and_eq_true_iff.mp hquote
    have hopener : text = ['f'] ∨ text = ['F'] := by simpa using hletter
    -- a letter for an interpolated string has been read as a word
    have hreverse : text.reverse = ['f'] ∨ text.reverse = ['F'] := by
      rcases hopener with rfl | rfl
      · exact .inl rfl
      · exact .inr rfl
    exact .more (.literal ⟨.after before, s.pos, true, c, [], false⟩) hsettled
      ⟨text.reverse, [], rfl, hquote, rfl, hpos, hreverse, .nil⟩ rfl
  · exact endToken_code_lands hs hpos

theorem number_lands {start : Pos} {value : Nat} (hs : s.Reached read)
    (hpos : s.pos = .after read) (hmode : s.mode = .number start value) :
    Lands (read ++ [c]) (s.step c) := by
  obtain ⟨before, pending, rfl, hsettled, ⟨rfl, hnumeral⟩, -⟩ := hs.at hmode
  rw [step, hmode]
  dsimp only
  split_ifs with hdigit hunderscore
  · exact .more (.number _ _) hsettled ⟨rfl, hnumeral.more hdigit⟩ rfl
  · rw [beq_iff_eq.mp hunderscore]
    refine ⟨before, _, List.append_assoc .., hsettled, ?_, ?_⟩
    · rw [hmode]
      exact ⟨rfl, hnumeral.underscore⟩
    · rw [hmode]
      intro hstart
      cases hstart
  · exact endToken_code_lands hs hpos

theorem pair_lands {start : Pos} {first : Char} (hs : s.Reached read) (hpos : s.pos = .after read)
    (hmode : s.mode = .operator start first) : Lands (read ++ [c]) (s.step c) := by
  obtain ⟨before, pending, rfl, hsettled, ⟨rfl, rfl, -⟩, -⟩ := hs.at hmode
  rw [step, hmode]
  dsimp only
  split
  · next symbol hsymbol =>
    obtain ⟨htext, hdepth⟩ := pairSymbol?_text hsymbol
    have hpush := hsettled.push (l := .symbol symbol) htext.symm rfl
    rw [Lexeme.depthAfter, hdepth] at hpush
    rw [List.append_assoc]
    exact .code hpush rfl rfl
  · exact endToken_code_lands hs hpos

theorem continuation_lands {start : Pos} {seenReturn : Bool} (hs : s.Reached read)
    (hmode : s.mode = .continuation start seenReturn) : Lands (read ++ [c]) (s.step c) := by
  obtain ⟨before, pending, rfl, hsettled, ⟨rfl, hpending⟩, -⟩ := hs.at hmode
  rw [step, hmode]
  dsimp only
  split_ifs with hline hreturn
  · rw [List.append_assoc]
    exact .code (hsettled.gaps _) rfl rfl
  · obtain ⟨hreturn, hunseen⟩ := Bool.and_eq_true_iff.mp hreturn
    have hfirst : seenReturn = false := by simpa using hunseen
    refine .more (.continuation _ true) hsettled ⟨rfl, ?_⟩ rfl
    rw [hpending, hfirst, beq_iff_eq.mp hreturn]
    rfl
  · exact ⟨⟨before, _, List.append_assoc .., rfl, trivial⟩, rfl⟩

theorem comment_lands {alone : Bool} (hs : s.Reached read) (hpos : s.pos = .after read)
    (hmode : s.mode = .comment alone) : Lands (read ++ [c]) (s.step c) := by
  obtain ⟨before, pending, rfl, hsettled, hbegun, hstart⟩ := hs.at hmode
  obtain rfl : pending = [] := hbegun
  rw [List.append_nil] at hpos ⊢
  rw [step, hmode]
  dsimp only
  split_ifs with hline halone
  · exact .between (hsettled.gaps [c]) rfl fun _ => hstart (by rw [halone]; rfl)
  · exact code_lands hsettled hpos
  · refine .between (hsettled.gaps [c]) ?_ (hmode ▸ hstart)
    rw [hmode]
    rfl

/-- **A step** reads one character on, whatever is being read. -/
theorem step_lands (hs : s.Reached read) (hpos : s.pos = .after read) :
    Lands (read ++ [c]) (s.step c) := by
  cases hmode : s.mode with
  | margin width =>
    rw [step, hmode]
    exact margin_lands hs hpos hmode
  | comment alone => exact comment_lands hs hpos hmode
  | code =>
    obtain ⟨before, pending, rfl, hsettled, hbegun, -⟩ := hs.at hmode
    obtain rfl : pending = [] := hbegun
    rw [List.append_nil] at hpos ⊢
    rw [step_code hmode]
    exact code_lands hsettled hpos
  | word start text => exact word_lands hs hpos hmode
  | number start value => exact number_lands hs hpos hmode
  | operator start first => exact pair_lands hs hpos hmode
  | literal l =>
    rw [step, hmode]
    exact literal_lands hs hmode
  | continuation start seenReturn => exact continuation_lands hs hmode

/-- **A run** over some characters, from the start of a text. -/
theorem foldlM_lands (cs : List Char) (hs : s.Reached read) (hpos : s.pos = .after read) :
    match cs.foldlM feed s with
    | .ok t => t.Reached (read ++ cs) ∧ t.pos = .after (read ++ cs)
    | .error e => e.Faults (read ++ cs) ∧ e.isIncomplete = false := by
  induction cs generalizing s read with
  | nil => simpa using ⟨hs, hpos⟩
  | cons c cs ih =>
    have hstep := step_lands (c := c) hs hpos
    rw [List.foldlM_cons, feed, List.append_cons]
    cases h : s.step c with
    | error e =>
      rw [h] at hstep
      -- the error stays where it is when more of the text follows
      exact ⟨hstep.1.append hstep.2, hstep.2⟩
    | ok t =>
      rw [h] at hstep
      refine ih (s := { t with pos := s.pos.next c }) hstep ?_
      rw [Pos.after_concat, ← hpos]

end Lexer.State
end Tilde
