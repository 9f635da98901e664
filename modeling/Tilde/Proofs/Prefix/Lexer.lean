import Tilde.Proofs.Lexer.Step

/-!
# Texts that are cut off

What the tokens of some lines say of the blocks that are open behind them, and what the lexer makes
of a text that ends there.

## The outline of a text

How deep in blocks a list of tokens ends, and whether something is due there: after a line that
ends with a colon an indented block is due, and after a guarded block a handler. The outline is read
off the tokens one by one, without a grammar.

The tokens of a text end with one `dedent` for each open block and the end of the text. If something
is due where the tokens of the last line end, the first of the closing tokens meets it: this is the
end of the text if no block is open, and a `dedent` otherwise. The same holds again after each
`dedent`, where the block that is closed may be a guarded one. `verdict` says in which of these ways
a reader of the tokens comes to its end.
-/

namespace Tilde

/-- Where a list of tokens ends. -/
structure Outline where
  /-- The open blocks, the innermost first: whether each is a guarded block. -/
  blocks : List Bool := []
  /-- The line that was last begun in the innermost block starts a guarded block. -/
  guarded : Bool := false
  /-- The last token of that line is a colon. -/
  header : Bool := false
  /-- A line starts here. -/
  fresh : Bool := true
  /-- A block was closed in which something was due. -/
  broken : Bool := false
  deriving DecidableEq, Repr

namespace Outline

/-- Whether an indented block or a handler is due. -/
def owes (o : Outline) : Bool := o.guarded || o.header

/-- Reads a token. -/
def next (o : Outline) : Lexeme → Outline
  | .newline => { o with fresh := true }
  | .indent =>
    { o with blocks := o.guarded :: o.blocks, guarded := false, header := false, fresh := true }
  | .dedent =>
    { blocks := o.blocks.tail, guarded := o.blocks.headD false, header := false, fresh := true,
      broken := o.broken || o.owes }
  | .eof => o
  | l =>
    { o with
      guarded := if o.fresh then l = .word "try" else o.guarded
      header := l = .symbol .colon
      fresh := false }

/-- Reads tokens. -/
def after (o : Outline) (ts : List Token) : Outline := ts.foldl (fun o t => o.next t.lexeme) o

/-- The outline of a list of tokens. -/
def of (ts : List Token) : Outline := Outline.after {} ts

/-- Within a line of the innermost block; `g` says whether it starts a guarded block. -/
def inLine (o : Outline) (g : Bool) : Outline :=
  { o with guarded := g, header := false, fresh := false }

/-- Between two lines of the innermost block, where nothing but perhaps a handler is due. -/
def between (o : Outline) (g : Bool) : Outline :=
  { o with guarded := g, header := false, fresh := true }

/-- Behind the line that starts a block: an indented block is due. -/
def due (o : Outline) (g : Bool) : Outline :=
  { o with guarded := g, header := true, fresh := true }

/-- Inside a block. -/
def opened (o : Outline) (g : Bool) : Outline := { o with blocks := g :: o.blocks }

variable {o : Outline} {g : Bool} {ts us : List Token} {t : Token}

@[simp] theorem after_nil : o.after [] = o := rfl

@[simp] theorem after_cons : o.after (t :: ts) = (o.next t.lexeme).after ts := rfl

@[simp] theorem after_append : o.after (ts ++ us) = (o.after ts).after us := List.foldl_append

@[simp] theorem between_owes : (o.between g).owes = g := Bool.or_false g

@[simp] theorem due_owes : (o.due g).owes = true := Bool.or_true g

/-- A blank line changes nothing. -/
@[simp] theorem between_newline : (o.between g).next .newline = o.between g := rfl

@[simp] theorem inLine_newline : (o.inLine g).next .newline = o.between g := rfl

@[simp] theorem inLine_colon_newline :
    ((o.inLine g).next (.symbol .colon)).next .newline = o.due g := rfl

@[simp] theorem due_indent : (o.due g).next .indent = (o.opened g).between false := rfl

/-- The end of a block in which nothing is due. -/
@[simp] theorem opened_dedent : ((o.opened g).between false).next .dedent = o.between g := by
  simp [next, opened, between, owes]

theorem broken_next (h : o.broken = true) (l : Lexeme) : (o.next l).broken = true := by
  unfold next
  split <;> simp [h]

/-- What is broken stays broken. -/
theorem broken_after (h : o.broken = true) : (o.after ts).broken = true := by
  induction ts generalizing o with
  | nil => exact h
  | cons t ts ih => exact ih (broken_next h t.lexeme)

end Outline

/-! ### Coming to the end -/

theorem ending_succ (pos : Pos) (k : Nat) :
    ending pos (k + 1) = ⟨.dedent, pos⟩ :: ending pos k := rfl

/-- How a reader that stands in some blocks comes to the end of the text. -/
inductive Verdict where
  /-- It leaves its blocks, with so many `dedent`s left. -/
  | finished (left : Nat)
  /-- It misses what is due, at the end of the text or at a `dedent`. -/
  | stuck (atEnd : Bool)
  deriving DecidableEq, Repr

/-- What follows a reader that leaves its blocks. -/
def Verdict.bind (v : Verdict) (f : Nat → Verdict) : Verdict :=
  match v with
  | .finished left => f left
  | .stuck atEnd => .stuck atEnd

/-- How a reader comes to the end over `k` `dedent`s. `due` says whether something is due where it
stands, and the list says the same of what its blocks stand in, the innermost first. -/
def verdict (due : Bool) (outer : List Bool) (k : Nat) : Verdict :=
  match due, outer with
  | true, _ => .stuck (k = 0)
  | false, [] => .finished k
  | false, g :: gs => verdict g gs (k - 1)

theorem verdict_true (outer : List Bool) (k : Nat) : verdict true outer k = .stuck (k = 0) := by
  cases outer <;> rfl

/-- Leaving some blocks, and then those around them. -/
theorem verdict_append (due : Bool) (inner outer : List Bool) (k : Nat) :
    verdict due (inner ++ outer) k = (verdict due inner k).bind (verdict false outer) := by
  induction inner generalizing due k with
  | nil => cases due <;> simp [verdict, verdict_true, Verdict.bind]
  | cons g inner ih =>
    cases due with
    | true => simp [verdict_true, Verdict.bind]
    | false => exact ih g (k - 1)

/-- A reader that leaves its blocks has read a `dedent` for each. -/
theorem verdict_finished {due : Bool} {outer : List Bool} {k left : Nat}
    (h : verdict due outer k = .finished left) : left = k - outer.length := by
  induction outer generalizing due k with
  | nil => cases due <;> simp_all [verdict]
  | cons g outer ih =>
    cases due with
    | true => simp [verdict_true] at h
    | false =>
      have := ih (h : verdict g outer (k - 1) = .finished left)
      rw [List.length_cons]
      omega

/-- The outline is broken by the end of the text just if a reader gets stuck at a `dedent`. -/
theorem broken_ending {o : Outline} (pos : Pos) (h : o.broken = false) :
    (o.after (ending pos o.blocks.length)).broken = true
      ↔ verdict o.owes o.blocks o.blocks.length = .stuck false := by
  generalize hblocks : o.blocks = blocks
  induction blocks generalizing o with
  | nil =>
    have hbroken : (o.after (ending pos 0)).broken = false := h
    rw [List.length_nil, hbroken]
    cases o.owes <;> simp [verdict]
  | cons g blocks ih =>
    rw [List.length_cons, ending_succ, Outline.after_cons]
    cases howes : o.owes with
    | true =>
      -- the first `dedent` closes a block in which something is due
      have hbroken : (o.next .dedent).broken = true := by simp [Outline.next, howes]
      simp [Outline.broken_after hbroken, verdict_true]
    | false =>
      have hbroken : (o.next .dedent).broken = false := by simp [Outline.next, h, howes]
      have hg : (o.next .dedent).owes = g := by simp [Outline.next, Outline.owes, hblocks]
      have := ih hbroken (by simp [Outline.next, hblocks])
      rwa [hg] at this

end Tilde

/-!
## The tokens of a text that is cut off

The lexer never takes back a token. So if a text ends at a line end of another one and can be cut
into tokens, its tokens are those that the longer text has up to this line end, closed by one
`dedent` for each open indentation. What the lexer counts as open indentations, the outline of the
tokens counts as open blocks.

A text that ends there but cannot be cut into tokens ends within a bracket, behind a backslash or
within a string literal.
-/

namespace Tilde

variable {o : Outline}

theorem Outline.next_blocks {l : Lexeme} (h : l.isLayout = false) : (o.next l).blocks = o.blocks := by
  cases l <;> first | rfl | cases h

namespace Lexer

/-- Whether no token of the line has been read. -/
def Mode.startsLine : Mode → Bool
  | .margin _ | .comment true => true
  | _ => false

/-- Whether a string literal is being read. -/
def Mode.isLiteral : Mode → Bool
  | .literal _ => true
  | _ => false

theorem Mode.isLiteral_iff {m : Mode} : m.isLiteral = true ↔ ∃ l, m = .literal l := by
  cases m <;> simp [Mode.isLiteral]

/-- A line that has begun begins no more. -/
theorem Mode.Turns.startsLine {pos : Pos} {c : Char} {m m' : Mode} (h : m.Turns pos c m') :
    m'.startsLine = true → m.startsLine = true := by
  cases h with
  | comment => exact id
  | space | tab | blank | emptyLine | remark | remarkEnd => exact fun _ => rfl
  | _ => exact nofun

namespace State

variable {s t u : State} {c : Char}

/-! ### Reading on -/

/-- At the start of a line the last token, if there is one, ends a line or changes the
indentation. -/
def Capped (s : State) : Prop :=
  s.mode.startsLine = true → ∀ t ∈ s.tokens.head?, t.lexeme.isLayout = true

/-- Some tokens are added, which change the open blocks as they change the open indentations. -/
def Adds (s t : State) : Prop :=
  ∃ new, t.tokens = new ++ s.tokens ∧ (∀ x ∈ new, x.lexeme ≠ .eof)
    ∧ ∀ o : Outline, o.blocks.length = s.indents.length →
      (o.after new.reverse).blocks.length = t.indents.length

theorem Adds.none (htokens : t.tokens = s.tokens) (hindents : t.indents = s.indents) :
    Adds s t :=
  ⟨[], htokens, by simp, fun o h => by rw [hindents, ← h]; rfl⟩

theorem Adds.trans (h : Adds s t) (h' : Adds t u) : Adds s u := by
  obtain ⟨new, htokens, heof, hblocks⟩ := h
  obtain ⟨new', htokens', heof', hblocks'⟩ := h'
  refine ⟨new' ++ new, ?_, fun x hx => ?_, fun o ho => ?_⟩
  · rw [htokens', htokens, List.append_assoc]
  · exact (List.mem_append.mp hx).elim (heof' x) (heof x)
  · rw [List.reverse_append, Outline.after_append]
    exact hblocks' _ (hblocks o ho)

theorem Adds.push {l : Lexeme} (pos : Pos) (hlayout : l.isLayout = false) (heof : l ≠ .eof) :
    Adds s (s.push l pos) := by
  refine ⟨[⟨l, pos⟩], rfl, by simpa using heof, fun o ho => ?_⟩
  rw [List.reverse_singleton, Outline.after_cons, Outline.after_nil, Outline.next_blocks hlayout]
  exact ho

theorem Adds.pushNewline (pos : Pos) : Adds s (s.pushNewline pos) := by
  unfold State.pushNewline
  split
  · exact .none rfl rfl
  · split
    · exact .none rfl rfl
    · exact ⟨[⟨.newline, pos⟩], rfl, by simp, fun o ho => ho⟩

theorem closeIndents_adds (width : Nat) (pos : Pos) (indents : List Nat) (tokens : List Token) :
    ∃ new, (closeIndents width pos indents tokens).2 = new ++ tokens ∧ (∀ x ∈ new, x.lexeme ≠ .eof)
      ∧ ∀ o : Outline, o.blocks.length = indents.length →
        (o.after new.reverse).blocks.length = (closeIndents width pos indents tokens).1.length := by
  induction indents generalizing tokens with
  | nil => exact ⟨[], rfl, by simp, fun o ho => ho⟩
  | cons w ws ih =>
    rw [closeIndents]
    split
    · obtain ⟨new, htokens, heof, hblocks⟩ := ih (⟨.dedent, pos⟩ :: tokens)
      refine ⟨new ++ [⟨.dedent, pos⟩], by rw [htokens, List.append_assoc]; rfl, ?_, fun o ho => ?_⟩
      · intro x hx
        rcases List.mem_append.mp hx with hx | hx
        · exact heof x hx
        · rw [List.mem_singleton.mp hx]
          exact Lexeme.noConfusion
      · -- the `dedent` takes one block away, as the width is taken from the indentations
        rw [List.reverse_append, Outline.after_append]
        refine hblocks _ ?_
        have : (o.next .dedent).blocks.length = o.blocks.length - 1 := List.length_tail
        rw [List.reverse_singleton, Outline.after_cons, Outline.after_nil, this, ho]
        rfl
    · exact ⟨[], rfl, by simp, fun o ho => ho⟩

theorem Indents.adds {width : Nat} (h : s.Indents width t) : Adds s t := by
  cases h with
  | opens =>
    refine ⟨[⟨.indent, s.pos⟩], rfl, by simp, fun o ho => ?_⟩
    exact congrArg (· + 1) ho
  | closes _ hclose =>
    have hadds := closeIndents_adds width s.pos s.indents s.tokens
    rwa [hclose] at hadds

/-! ### Characters -/

/-- Within a line nothing is said of the last token. -/
theorem Capped.inLine (h : s.mode.startsLine = false) : s.Capped :=
  fun hstart => absurd hstart (by rw [h]; exact Bool.false_ne_true)

theorem pushNewline_head (pos : Pos) :
    ∀ t ∈ (s.pushNewline pos).tokens.head?, t.lexeme.isLayout = true := by
  unfold State.pushNewline
  split
  · next h => simp [h]
  · next u us h =>
    split
    · next hlayout =>
      rw [h]
      rintro _ ⟨⟩
      exact hlayout
    · rintro _ ⟨⟩
      rfl

theorem Begins.adds (h : s.Begins c t) : Adds s t ∧ t.Capped := by
  cases h with
  | line =>
    have hadds : Adds s (s.pushNewline s.pos) := .pushNewline s.pos
    exact ⟨hadds, fun _ => pushNewline_head s.pos⟩
  | @symbol symbol =>
    have hpush : Adds s (s.push (.symbol symbol) s.pos) := .push s.pos rfl nofun
    exact ⟨hpush, .inLine rfl⟩
  | _ => exact ⟨.none rfl rfl, .inLine rfl⟩

theorem Ends.adds (h : s.Ends t) : Adds s t := by
  cases h with
  | word | number | symbol => exact .push _ rfl nofun
  | none => exact .none rfl rfl

theorem step_adds (hs : s.Capped) (h : s.step c = .ok t) : Adds s t ∧ t.Capped := by
  cases step_goes h with
  | turns hturns => exact ⟨.none rfl rfl, fun hstart => hs (hturns.startsLine hstart)⟩
  | begins _ hbegins => exact hbegins.adds
  | first _ _ hindents hbegins =>
    obtain ⟨hadds, hcapped⟩ := hbegins.adds
    exact ⟨hindents.adds.trans hadds, hcapped⟩
  | ends _ hends hbegins =>
    obtain ⟨hadds, hcapped⟩ := hbegins.adds
    exact ⟨hends.adds.trans hadds, hcapped⟩
  | pair | string | template => exact ⟨.push _ rfl nofun, .inLine rfl⟩

theorem feed_adds (hs : s.Capped) (h : s.feed c = .ok t) : Adds s t ∧ t.Capped := by
  obtain ⟨u, hu, rfl⟩ := feed_ok_iff.mp h
  have hadds : Adds s u ∧ u.Capped := step_adds hs hu
  exact hadds

/-- **Reading on only adds tokens**, and the open blocks stay the open indentations. -/
theorem foldlM_adds {cs : List Char} (hs : s.Capped) (h : cs.foldlM feed s = .ok t) :
    Adds s t ∧ t.Capped := by
  refine foldlM_keeps (P := fun _ t => Adds s t ∧ t.Capped) ?_ (n := 0) ⟨.none rfl rfl, hs⟩ h
  rintro _ u v c ⟨hadds, hcapped⟩ hv
  obtain ⟨hadds', hcapped'⟩ := feed_adds hcapped hv
  exact ⟨hadds.trans hadds', hcapped'⟩

/-! ### The end of the text -/

/-- At a line end within a line, the token that is being read is ended. -/
theorem step_newline (hmode : s.mode.startsLine = false)
    (hliteral : ∀ l, s.mode ≠ .literal l) (hcontinuation : ∀ p b, s.mode ≠ .continuation p b) :
    s.step '\n' = s.endToken.bind (·.code '\n') := by
  cases hm : s.mode with
  | margin width => rw [hm] at hmode; cases hmode
  | comment alone =>
    cases alone with
    | true => rw [hm] at hmode; cases hmode
    | false => simp [step, endToken, hm, Except.bind]
  | literal l => exact absurd hm (hliteral l)
  | continuation start seenReturn => exact absurd hm (hcontinuation start seenReturn)
  | operator start first =>
    have hpair : pairSymbol? first '\n' = none := by
      unfold pairSymbol?
      split <;> simp_all
    simp only [step, hm, hpair]
  | code => simp [step, endToken, hm, Except.bind]
  | word start text =>
    have hword : isWordChar '\n' = false := by decide
    have hquote : isQuote '\n' = false := by decide
    simp [step, hm, hword, hquote]
  | number start value =>
    have hdigit : Text.isAsciiDigit '\n' = false := by decide
    simp [step, hm, hdigit]

theorem pushNewline_of_layout (pos : Pos) (h : ∀ t ∈ s.tokens.head?, t.lexeme.isLayout = true) :
    s.pushNewline pos = s := by
  unfold State.pushNewline
  split
  · rfl
  · next t ts heq => rw [if_pos (h t (by rw [heq]; rfl))]

/-- **The end of the text at a line end.** The tokens are those that a line end gives, and the
closing ones. -/
theorem finish_of_newline {ts : List Token} (hs : s.Capped) (hfeed : s.feed '\n' = .ok t)
    (hfinish : s.finish = .ok ts) :
    t.mode = .margin 0 ∧ ∃ pos, ts = t.tokens.reverse ++ ending pos t.indents.length := by
  obtain ⟨hmay, s', hend, hdepth, rfl⟩ := finish_eq_ok.mp hfinish
  unfold feed at hfeed
  cases hstart : s.mode.startsLine with
  | true =>
    -- no token is being read, and the line before has been ended: neither end adds a token
    have hs' : s' = s := by
      cases hm : s.mode with
      | margin _ | comment _ => simp only [endToken, hm] at hend; cases hend; rfl
      | _ => rw [hm] at hstart; cases hstart
    have hstep : s.step '\n' = .ok { s with mode := .margin 0 } := by
      cases hm : s.mode with
      | margin width => simp [step, margin, hm]
      | comment alone => cases alone <;> simp_all [step, Mode.startsLine]
      | _ => rw [hm] at hstart; cases hstart
    rw [hstep] at hfeed
    cases hfeed
    rw [hs', pushNewline_of_layout s.pos (hs hstart)]
    exact ⟨rfl, s.pos, rfl⟩
  | false =>
    -- both ends end the token that is being read, and then the line
    have hliteral : ∀ l, s.mode ≠ .literal l := fun l hm => by rw [hm] at hmay; cases hmay
    have hcontinuation : ∀ p b, s.mode ≠ .continuation p b := fun p b hm => by
      rw [hm] at hmay
      cases hmay
    have hcode : s'.code '\n' = .ok { s'.pushNewline s'.pos with mode := .margin 0 } := by
      simp [code, hdepth]
    rw [step_newline hstart hliteral hcontinuation, hend] at hfeed
    simp only [Except.bind, hcode, Except.map] at hfeed
    cases hfeed
    exact ⟨rfl, s'.pos, by rw [pushNewline_indents]⟩

/-- A text that cannot be ended, but can go on with a line end, ends in a string literal, or lacks
something that is still to come. -/
theorem finish_error {e : LexError} (hfeed : s.feed '\n' = .ok t) (h : s.finish = .error e) :
    e.isIncomplete = !s.mode.isLiteral := by
  unfold finish at h
  split at h
  · next l hm =>
    cases h
    rw [hm]
    rfl
  · next start seenReturn hm =>
    cases h
    rw [hm]
    rfl
  · next hliteral hcontinuation =>
    cases hend : s.endToken with
    | error e' =>
      -- a token that cannot be ended here cannot be ended by a line end either
      have hstart : s.mode.startsLine = false := by
        unfold endToken at hend
        cases hm : s.mode <;> first | rfl | (rw [hm] at hend; cases hend)
      unfold feed at hfeed
      rw [step_newline hstart hliteral hcontinuation, hend] at hfeed
      cases hfeed
    | ok s' =>
      simp only [hend, bind, Except.bind] at h
      split at h
      · cases h
        have : s.mode.isLiteral = false :=
          Bool.eq_false_iff.mpr fun h => (Mode.isLiteral_iff.mp h).elim hliteral
        rw [this]
        rfl
      · cases h

end State
end Lexer

/-- Whether a string literal is open where the text ends. -/
def endsInLiteral (source : String) : Bool :=
  match source.toList.foldlM Lexer.State.feed {} with
  | .ok s => s.mode.isLiteral
  | .error _ => false

/-- What becomes of the tokens of a text that is cut off at a line end. -/
inductive TokensCut (ts : List Token) : Except LexError (List Token) → Bool → Prop where
  /-- They are the tokens up to there, and the closing ones. -/
  | lines {cs rest : List Token} {pos : Pos} (all : ts = cs ++ rest)
    (capped : ∀ t ∈ cs.getLast?, t.lexeme.isLayout = true) (unended : ∀ t ∈ cs, t.lexeme ≠ .eof) :
    TokensCut ts (.ok (cs ++ ending pos (Outline.of cs).blocks.length)) false
  /-- Something is open, which is a string literal just if no further text is asked for. -/
  | opened {e : LexError} : TokensCut ts (.error e) !e.isIncomplete

/-- A text is read up to each of its line ends first. -/
theorem tokenize_stages {s t : String} {ts : List Token} (h : tokenize (s ++ "\n" ++ t) = .ok ts) :
    ∃ σ σ' σ'' : Lexer.State, s.toList.foldlM Lexer.State.feed {} = .ok σ
      ∧ σ.feed '\n' = .ok σ' ∧ t.toList.foldlM Lexer.State.feed σ' = .ok σ''
      ∧ σ''.finish = .ok ts := by
  have hall : (s ++ "\n" ++ t).toList = s.toList ++ '\n' :: t.toList := by simp
  obtain ⟨σ'', hrun, hts⟩ := tokenize_ok_iff.mp h
  rw [hall] at hrun
  obtain ⟨σ, hs, hrun⟩ := Lexer.State.foldlM_append_ok.mp hrun
  obtain ⟨σ', hnewline, ht⟩ := Lexer.State.foldlM_cons_ok.mp hrun
  exact ⟨σ, σ', σ'', hs, hnewline, ht, hts⟩

/-- The tokens of a text that is cut off at a line end. -/
theorem tokenize_cut {s t : String} {ts : List Token} (h : tokenize (s ++ "\n" ++ t) = .ok ts) :
    TokensCut ts (tokenize s) (endsInLiteral s) := by
  obtain ⟨σ, σ', σ'', hs, hnewline, ht, hts⟩ := tokenize_stages h
  have hstart : Lexer.State.Capped {} := fun _ _ h => by cases h
  obtain ⟨hadds, hσ⟩ := Lexer.State.foldlM_adds hstart hs
  obtain ⟨hadds', hσ'⟩ := Lexer.State.feed_adds hσ hnewline
  obtain ⟨hadds'', -⟩ := Lexer.State.foldlM_adds hσ' ht
  have htokenize : tokenize s = σ.finish := by
    unfold tokenize
    rw [hs]
    rfl
  have hliteral : endsInLiteral s = σ.mode.isLiteral := by
    unfold endsInLiteral
    rw [hs]
  rw [htokenize, hliteral]
  cases hfinish : σ.finish with
  | error e =>
    have herror : σ.mode.isLiteral = !e.isIncomplete := by
      rw [Lexer.State.finish_error hnewline hfinish, Bool.not_not]
    rw [herror]
    exact .opened
  | ok cut =>
    have hnone : σ.mode.isLiteral = false :=
      Bool.eq_false_iff.mpr fun h => by
        obtain ⟨l, hl⟩ := Lexer.Mode.isLiteral_iff.mp h
        obtain ⟨hmay, -⟩ := Lexer.State.finish_eq_ok.mp hfinish
        rw [hl] at hmay
        cases hmay
    obtain ⟨hmargin, pos, rfl⟩ := Lexer.State.finish_of_newline hσ hnewline hfinish
    obtain ⟨new, htokens, heof, hblocks⟩ := hadds.trans hadds'
    rw [List.append_nil] at htokens
    obtain ⟨-, τ, hend, -, rfl⟩ := Lexer.State.finish_eq_ok.mp hts
    obtain ⟨new', htokens', -, -⟩ :=
      (hadds''.trans (Lexer.State.endToken_ends hend).adds).trans (.pushNewline τ.pos)
    rw [hnone, htokens, ← hblocks {} rfl]
    -- the tokens are kept in reverse, so those up to the line end are the last ones here
    have hall : (τ.pushNewline τ.pos).tokens.reverse ++ ending τ.pos τ.indents.length
        = new.reverse ++ (new'.reverse ++ ending τ.pos τ.indents.length) := by
      rw [htokens', htokens, List.reverse_append, List.append_assoc]
    refine .lines hall ?_ fun x hx => heof x (List.mem_reverse.mp hx)
    rw [List.getLast?_reverse, ← htokens]
    exact hσ' (by rw [hmargin]; rfl)

end Tilde
