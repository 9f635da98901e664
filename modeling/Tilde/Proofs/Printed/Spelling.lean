import Tilde.Proofs.Printed.Level

/-!
# From printed lines to tokens

The tokens of printed lines in their layout, and the spelling of a single token.

## The layout of printed lines

The tokens of printed lines, as the parser of statements sees them: where a line stands in more
blocks than the one before, it has an `indent` in front, and where it stands in fewer, a `dedent`
for each block that ends. Every line ends with a `newline`, and all blocks end where the lines do.

Tokens here stand in column zero, since a parser never asks for the column of a token it accepts.
-/

namespace Tilde

/-- A token of the layout. -/
def layoutToken (l : Lexeme) : Token := ⟨l, ⟨0, 0⟩⟩

/-- The tokens in front of a line in `d` blocks, behind one in `depth` blocks. -/
def margin (depth d : Nat) : List Token :=
  if depth < d then [layoutToken .indent] else List.replicate (depth - d) (layoutToken .dedent)

/-- The tokens of lines of which the first is the line `n`, behind a line in `depth` blocks, and of
the end of the text. -/
def layout (depth n : Nat) : List Line → List Token
  | [] => List.replicate depth (layoutToken .dedent) ++ [layoutToken .eof]
  | line :: lines =>
    margin depth line.depth ++
      (placed n line.lexemes ++ layoutToken .newline :: layout line.depth (n + 1) lines)

variable {d n : Nat} {ls : List Lexeme} {lines more : List Line}

/-- A line in as many blocks as the one before. -/
theorem layout_line : layout d n (⟨d, ls⟩ :: lines)
    = placed n ls ++ layoutToken .newline :: layout d (n + 1) lines := by
  rw [layout, margin, if_neg (Nat.lt_irrefl d), Nat.sub_self]
  rfl

/-- The first line of a block. -/
theorem layout_open : layout d n (⟨d + 1, ls⟩ :: lines)
    = layoutToken .indent :: layout (d + 1) n (⟨d + 1, ls⟩ :: lines) := by
  rw [layout_line, layout, margin, if_pos (Nat.lt_succ_self d)]
  rfl

/-- What follows stands in at most `d` blocks. -/
def Closes (d : Nat) (more : List Line) : Prop := ∀ line ∈ more.head?, line.depth ≤ d

/-- The end of a block. -/
theorem layout_close (h : Closes d more) :
    layout (d + 1) n more = layoutToken .dedent :: layout d n more := by
  cases more with
  | nil => rfl
  | cons line more =>
    have hle : line.depth ≤ d := h line rfl
    rw [layout, layout, margin, margin, if_neg (by omega), if_neg (by omega),
      Nat.succ_sub hle, List.replicate_succ]
    rfl

/-- The line starts with a statement in `d` blocks. -/
def Line.Begins (d : Nat) (line : Line) : Prop :=
  line.depth = d ∧ ∃ l ls, line.lexemes = l :: ls ∧ l.startsStmt = true

/-- What follows a statement in `d` blocks starts another one there, or stands in fewer blocks. -/
def GoesOn (d : Nat) (more : List Line) : Prop :=
  ∀ line ∈ more.head?, line.depth < d ∨ line.Begins d

theorem GoesOn.closes (h : GoesOn d more) : Closes d more := by
  intro line hline
  rcases h line hline with hlt | hbegins
  · exact Nat.le_of_lt hlt
  · exact Nat.le_of_eq hbegins.1

theorem Closes.goesOn (h : Closes d more) : GoesOn (d + 1) more :=
  fun line hline => .inl (Nat.lt_succ_of_le (h line hline))

/-- No alternative and no handler follows, and no layout either but the end of blocks. -/
theorem GoesOn.front (h : GoesOn d more) :
    (Parser.frontToken (layout d n more)).lexeme = .dedent
      ∨ (Parser.frontToken (layout d n more)).lexeme = .eof
      ∨ (Parser.frontToken (layout d n more)).lexeme.startsStmt = true := by
  cases more with
  | nil =>
    cases d with
    | zero => exact .inr (.inl rfl)
    | succ d => exact .inl rfl
  | cons line more =>
    rcases h line rfl with hlt | ⟨hdepth, l, ls, hls, hstart⟩
    · -- a line that stands less deep closes a block first
      obtain ⟨k, hk⟩ := Nat.exists_eq_add_of_lt hlt
      have hcount : line.depth + k + 1 - line.depth = k + 1 := by omega
      rw [layout, margin, if_neg (by omega), hk, hcount, List.replicate_succ]
      exact .inl rfl
    · obtain ⟨depth, lexemes⟩ := line
      cases hdepth
      cases hls
      rw [layout_line]
      exact .inr (.inr hstart)

theorem GoesOn.front_ne {l : Lexeme} (h : GoesOn d more) (hdedent : l ≠ .dedent) (heof : l ≠ .eof)
    (hstart : l.startsStmt = false) : (Parser.frontToken (layout d n more)).lexeme ≠ l := by
  rintro rfl
  rcases h.front (n := n) with h | h | h
  · exact hdedent h
  · exact heof h
  · rw [h] at hstart
    cases hstart

theorem GoesOn.append (h : GoesOn d more) (hlines : ∀ line ∈ lines.head?, line.Begins d) :
    GoesOn d (lines ++ more) := by
  cases lines with
  | nil => exact h
  | cons line lines => exact fun _ hline => .inr (hlines _ hline)

theorem Closes.append (h : Closes d more) (hlines : ∀ line ∈ lines.head?, line.depth ≤ d) :
    Closes d (lines ++ more) := by
  cases lines with
  | nil => exact h
  | cons line lines => exact fun _ hline => hlines _ hline

end Tilde

/-!
## Reading spelled tokens back

The lexer reads the spelling of a token back as the token, if the character behind it does not go
on with it. A word, a number and a symbol that may be half of another one stay open until that
character comes; so the lemmas say that the spelling and the character behind it are read as that
character alone is read in a state that has the token already.
-/

namespace Tilde

theorem Int64.ofNat_toInt {v : Int64} (h : 0 ≤ v.toInt) : Int64.ofNat v.toInt.toNat = v := by
  rw [← Int64.ofInt_eq_ofNat, Int.toNat_of_nonneg h, Int64.ofInt_toInt]

/-- Whether the spelling of the token is read back. -/
def Lexeme.spellable : Lexeme → Bool
  | .word text => isIdentifier text
  | .int value => 0 ≤ value.toInt
  | .str _ | .symbol _ => true
  | _ => false

/-- The number of open brackets after a token. -/
def Lexeme.depthAfter (depth : Nat) : Lexeme → Nat
  | .symbol s => Lexer.depthAfter depth s
  | _ => depth

/-- Whether nothing goes on with the token. -/
def Lexeme.closed : Lexeme → Bool
  | .symbol .assign | .symbol .less | .symbol .greater => false
  | .symbol _ | .str _ => true
  | _ => false

namespace Lexer

/-- Characters that go on with no word, no number and no symbol. -/
def breaks : List Char := [' ', '\n', '(', ')', '[', ']', ',', ':', '.']

/-- What the lexer asks about a character that may go on with a token. -/
theorem of_mem_breaks {c : Char} (hc : c ∈ breaks) : isWordChar c = false ∧ isQuote c = false
    ∧ Text.isAsciiDigit c = false ∧ (c == '_') = false
    ∧ ∀ first ∈ ['/', '=', '!', '<', '>'], pairSymbol? first c = none := by
  have hall : breaks.all (fun c => !isWordChar c && !isQuote c && !Text.isAsciiDigit c && !(c == '_')
      && ['/', '=', '!', '<', '>'].all (pairSymbol? · c = none)) = true := by decide
  simpa only [Bool.and_eq_true, Bool.not_eq_true', List.all_eq_true, decide_eq_true_eq, and_assoc]
    using List.all_eq_true.mp hall c hc

namespace State

variable {s t : State} {c : Char} {cs : List Char}

/-- The state when a token has been read that started in the first one. -/
def having (s : State) (l : Lexeme) : State where
  pos := l.spelling.foldl Pos.next s.pos
  indents := s.indents
  depth := l.depthAfter s.depth
  tokens := ⟨l, s.pos⟩ :: s.tokens
  mode := .code

theorem foldlM_step (h : s.step c = .ok t) :
    (c :: cs).foldlM feed s = cs.foldlM feed { t with pos := s.pos.next c } := by
  rw [List.foldlM_cons, feed, h]
  rfl

theorem step_code (hs : s.mode = .code) : s.step c = s.code c := by
  rw [step, hs]

/-- A character that does not go on with a token is read when the token has been ended. -/
theorem foldlM_ended (hstep : s.step c = s.endToken.bind (·.code c)) (hend : s.endToken = .ok t)
    (hmode : t.mode = .code) (hpos : t.pos = s.pos) :
    (c :: cs).foldlM feed s = (c :: cs).foldlM feed t := by
  have hfeed : s.feed c = t.feed c := by
    rw [feed, feed, hstep, hend, step_code hmode, hpos]
    rfl
  rw [List.foldlM_cons, List.foldlM_cons, hfeed]

/-- The characters that the lexer asks for before those that start a word or a number. -/
def plain : List Char := [' ', '\t', '\r', '\x0c', '#', '\\', '\n', '\'', '"']

/-- A character of a class with none of them is none of them. -/
theorem ne_of_class {p : Char → Bool} (hc : p c = true) (hp : plain.all (!p ·) = true) :
    (c == ' ') = false ∧ (c == '\t') = false ∧ (c == '\r') = false ∧ (c == '\x0c') = false
      ∧ (c == '#') = false ∧ (c == '\\') = false ∧ (c == '\n') = false ∧ (c == '\'') = false
      ∧ (c == '"') = false := by
  have hne : ∀ c' ∈ plain, (c == c') = false := by
    intro c' hc'
    rw [beq_eq_false_iff_ne]
    rintro rfl
    have hclass := List.all_eq_true.mp hp c hc'
    rw [hc] at hclass
    cases hclass
  simpa only [plain, List.forall_mem_cons, List.not_mem_nil, false_implies, implies_true,
    and_true] using hne

/-! ### Words -/

/-- The first character of a word is none that the lexer asks for before. -/
theorem code_word (hc : isWordStart c = true) :
    s.code c = .ok { s with mode := .word s.pos [c] } := by
  obtain ⟨h₁, h₂, h₃, h₄, h₅, h₆, h₇, h₈, h₉⟩ := ne_of_class hc (by decide)
  simp [code, isQuote, h₁, h₂, h₃, h₄, h₅, h₆, h₇, h₈, h₉, hc]

theorem foldlM_word {start : Pos} {text ws : List Char} (hmode : s.mode = .word start text)
    (hws : ∀ w ∈ ws, isWordChar w = true) :
    (ws ++ cs).foldlM feed s = cs.foldlM feed
      { s with mode := .word start (ws.reverse ++ text), pos := ws.foldl Pos.next s.pos } := by
  induction ws generalizing s text with
  | nil =>
    cases s
    cases hmode
    rfl
  | cons w ws ih =>
    have hstep : s.step w = .ok { s with mode := .word start (w :: text) } := by
      rw [step, hmode]
      simp only [hws w (List.mem_cons_self ..), if_true]
    rw [List.cons_append, foldlM_step hstep, ih rfl fun w hw => hws w (List.mem_cons_of_mem _ hw)]
    simp

theorem foldlM_identifier {text : String} (hs : s.mode = .code) (htext : isIdentifier text = true)
    (hc : c ∈ breaks) :
    (text.toList ++ c :: cs).foldlM feed s = (c :: cs).foldlM feed (s.having (.word text)) := by
  obtain ⟨hword, hquote, -⟩ := of_mem_breaks hc
  unfold isIdentifier at htext
  split at htext
  · cases htext
  · next w ws hlist =>
    rw [Bool.and_eq_true, List.all_eq_true] at htext
    rw [hlist, List.cons_append, foldlM_step ((step_code hs).trans (code_word htext.1)),
      foldlM_word rfl htext.2]
    refine foldlM_ended ?_ ?_ rfl ?_
    · rw [step]
      simp only [hword, hquote, Bool.false_and, Bool.false_eq_true, if_false]
    · -- the lexer keeps the word in reverse
      have hback : String.ofList (ws.reverse ++ [w]).reverse = text := by
        rw [List.reverse_append, List.reverse_reverse, List.reverse_singleton,
          List.singleton_append, ← hlist, String.ofList_toList]
      simp only [endToken, hback, having, push, Lexeme.spelling, hlist]
      rfl
    · rw [having, Lexeme.spelling, hlist]
      rfl

/-! ### Numbers -/

/-- The first digit of a number is no character that the lexer asks for before. -/
theorem code_digit (hc : Text.isAsciiDigit c = true) :
    s.code c = .ok { s with mode := .number s.pos (c.toNat - '0'.toNat) } := by
  have hbounds : 48 ≤ c.toNat ∧ c.toNat ≤ 57 := by
    simpa [Text.isAsciiDigit, Char.le_def, UInt32.le_iff_toNat_le] using hc
  have hword : isWordStart c = false := by
    have hletter : Text.isAsciiLetter c = false := by
      have : (97 ≤ c.toNat → 122 < c.toNat) ∧ (65 ≤ c.toNat → 90 < c.toNat) := by omega
      simpa [Text.isAsciiLetter, Char.le_def, UInt32.le_iff_toNat_le] using this
    have hline : (c == '_') = false := by
      rw [beq_eq_false_iff_ne]
      rintro rfl
      exact absurd hbounds.2 (by decide)
    rw [isWordStart, Text.isAlphabetic, if_pos (by omega), hletter, hline, Bool.or_false]
  obtain ⟨h₁, h₂, h₃, h₄, h₅, h₆, h₇, h₈, h₉⟩ := ne_of_class hc (by decide)
  simp [code, isQuote, h₁, h₂, h₃, h₄, h₅, h₆, h₇, h₈, h₉, hword, hc]

theorem foldlM_number {start : Pos} {value : Nat} {ds : List Char}
    (hmode : s.mode = .number start value) (hds : ∀ d ∈ ds, Text.isAsciiDigit d = true) :
    (ds ++ cs).foldlM feed s = cs.foldlM feed
      { s with mode := .number start (Nat.ofDigitChars 10 ds value),
               pos := ds.foldl Pos.next s.pos } := by
  induction ds generalizing s value with
  | nil =>
    cases s
    cases hmode
    rfl
  | cons d ds ih =>
    have hstep : s.step d
        = .ok { s with mode := .number start (10 * value + (d.toNat - '0'.toNat)) } := by
      rw [step, hmode]
      simp only [hds d (List.mem_cons_self ..), if_true]
    rw [List.cons_append, foldlM_step hstep, ih rfl fun d hd => hds d (List.mem_cons_of_mem _ hd),
      Nat.ofDigitChars_cons]
    rfl

theorem foldlM_digits {value : Int64} (hs : s.mode = .code) (hvalue : 0 ≤ value.toInt)
    (hc : c ∈ breaks) :
    (Nat.toDigits 10 value.toInt.toNat ++ c :: cs).foldlM feed s
      = (c :: cs).foldlM feed (s.having (.int value)) := by
  obtain ⟨-, -, hdigit, hline, -⟩ := of_mem_breaks hc
  have hds : ∀ d ∈ Nat.toDigits 10 value.toInt.toNat, Text.isAsciiDigit d = true :=
    fun d hd => Nat.isDigit_of_mem_toDigits (by decide) (by decide) hd
  cases hlist : Nat.toDigits 10 value.toInt.toNat with
  | nil => exact absurd hlist Nat.toDigits_ne_nil
  | cons d ds =>
    rw [hlist, List.forall_mem_cons] at hds
    rw [List.cons_append, foldlM_step ((step_code hs).trans (code_digit hds.1)),
      foldlM_number rfl hds.2]
    have hback : Nat.ofDigitChars 10 ds (d.toNat - '0'.toNat) = value.toInt.toNat := by
      rw [← Nat.ofDigitChars_toDigits (b := 10) (n := value.toInt.toNat) (by decide) (by decide),
        hlist, Nat.ofDigitChars_cons, Nat.mul_zero, Nat.zero_add]
    -- the digits are those of a value in bounds, so the literal fits
    have hmax : (value.toInt.toNat : Int) ≤ Int64.maxValue.toInt := by
      rw [Int.toNat_of_nonneg hvalue]
      exact Int64.toInt_le value
    refine foldlM_ended ?_ ?_ rfl ?_
    · rw [step]
      simp only [hdigit, hline, Bool.false_eq_true, if_false]
    · simp only [endToken, hback, hmax, if_true, Int64.ofNat_toInt hvalue, having, push,
        Lexeme.spelling, hlist]
      rfl
    · rw [having, Lexeme.spelling, hlist]
      rfl

/-! ### Strings -/

variable {quote : Char} {chars text chars' text' : List Char}

/-- In a string literal with this quote, the characters are read as the text. -/
structure ReadsIn (quote : Char) (chars text : List Char) : Prop where
  inline : '\n' ∉ chars
  run : ∀ s l cs, s.mode = .literal l → l.quote = quote → l.escaping = false →
    (chars ++ cs).foldlM feed s = cs.foldlM feed
      { s with mode := .literal { l with text := text.reverse ++ l.text },
               pos := chars.foldl Pos.next s.pos }

namespace ReadsIn

theorem nil : ReadsIn quote [] [] where
  inline := nofun
  run s l cs hmode _ _ := by
    cases s
    cases hmode
    rfl

theorem append (h : ReadsIn quote chars text) (h' : ReadsIn quote chars' text') :
    ReadsIn quote (chars ++ chars') (text ++ text') where
  inline := List.not_mem_append h.inline h'.inline
  run s l cs hmode hquote hescaping := by
    rw [List.append_assoc, h.run s l _ hmode hquote hescaping,
      h'.run _ { l with text := text.reverse ++ l.text } cs rfl hquote hescaping]
    simp only [List.reverse_append, List.append_assoc, List.foldl_append]

/-- A character that stands for itself. -/
theorem itself (hline : c ≠ '\n') (hbackslash : c ≠ '\\') (hquote : c ≠ quote) :
    ReadsIn quote [c] [c] where
  inline := by simpa using hline.symm
  run s l cs hmode hlquote hescaping := by
    obtain ⟨start, opened, interpolated, q, text, escaping⟩ := l
    obtain rfl : q = quote := hlquote
    obtain rfl : escaping = false := hescaping
    have hstep : s.step c = .ok
        { s with mode := .literal ⟨start, opened, interpolated, q, c :: text, false⟩ } := by
      rw [step, hmode]
      simp only [literal, Bool.false_eq_true, if_false, beq_iff_eq, hline, hbackslash, hquote]
    rw [List.singleton_append, foldlM_step hstep]
    rfl

/-- A character behind a backslash. -/
theorem escape (hline : c ≠ '\n') : ReadsIn quote ['\\', c] (unescape c).reverse where
  inline := by simpa using hline.symm
  run s l cs hmode hlquote hescaping := by
    obtain ⟨start, opened, interpolated, q, text, escaping⟩ := l
    obtain rfl : q = quote := hlquote
    obtain rfl : escaping = false := hescaping
    have hfirst : s.step '\\' = .ok
        { s with mode := .literal ⟨start, opened, interpolated, q, text, true⟩ } := by
      rw [step, hmode]
      rfl
    rw [List.cons_append, foldlM_step hfirst, List.singleton_append, foldlM_step (t :=
      { s with mode := .literal ⟨start, opened, interpolated, q, unescape c ++ text, false⟩,
               pos := s.pos.next '\\' })]
    · rw [List.reverse_reverse]
      rfl
    · rw [step]
      simp only [literal, if_true]

/-- A string that is written character by character. -/
theorem flatMap {f g : Char → List Char} (h : ∀ c, ReadsIn quote (f c) (g c)) (cs : List Char) :
    ReadsIn quote (cs.flatMap f) (cs.flatMap g) := by
  induction cs with
  | nil => exact nil
  | cons c cs ih => exact (h c).append ih

end ReadsIn

/-- The quotes that a string literal may stand in. -/
def quotes : List Char := ['\'', '"']

/-- A string literal is closed by its quote, whatever follows. -/
theorem foldlM_literal {text : String} (hquote : quote ∈ quotes) (hs : s.mode = .code)
    (h : ReadsIn quote chars text.toList) :
    (quote :: chars ++ [quote] ++ cs).foldlM feed s = cs.foldlM feed
      { s.having (.str text) with pos := (quote :: chars ++ [quote]).foldl Pos.next s.pos } := by
  have hquote : quote = '\'' ∨ quote = '"' := by simpa [quotes] using hquote
  have hopen : s.step quote = .ok
      { s with mode := .literal ⟨s.pos, s.pos, false, quote, [], false⟩ } := by
    rw [step_code hs]
    obtain rfl | rfl := hquote <;> rfl
  rw [List.append_assoc, List.cons_append, foldlM_step hopen, h.run _ _ _ rfl rfl rfl,
    List.singleton_append, foldlM_step (t :=
      { s.having (.str text) with pos := chars.foldl Pos.next (s.pos.next quote) })]
  · rw [List.foldl_append]
    rfl
  · rw [step]
    obtain rfl | rfl := hquote
    · simp [literal, endLiteral, push, having, Lexeme.depthAfter]
    · simp [literal, endLiteral, push, having, Lexeme.depthAfter]

/-- An escaped character is read back as the character. -/
theorem escape_reads (c : Char) : ReadsIn '\'' (escape c) [c] := by
  unfold Tilde.escape
  split
  · exact .escape (by decide)
  · exact .escape (by decide)
  · exact .escape (by decide)
  · exact .escape (by decide)
  · exact .escape (by decide)
  · exact .escape (by decide)
  · next hline _ _ _ hbackslash hquote => exact .itself hline hbackslash hquote

theorem escaped_reads (text : List Char) : ReadsIn '\'' (text.flatMap escape) text := by
  have h := ReadsIn.flatMap escape_reads text
  rwa [List.flatMap_singleton'] at h

theorem foldlM_quoted (hs : s.mode = .code) (text : String) :
    ((Lexeme.str text).spelling ++ cs).foldlM feed s = cs.foldlM feed (s.having (.str text)) := by
  rw [Lexeme.spelling, foldlM_literal (by decide) hs (escaped_reads text.toList)]
  rfl

/-! ### Symbols -/

/-- The characters that a symbol may start with. -/
def firsts : List Char :=
  ['(', ')', '[', ']', ',', ':', '.', '+', '-', '*', '%', '~', '/', '=', '!', '<', '>']

/-- The first character of a symbol is none that the lexer asks for before. -/
theorem code_first (hc : c ∈ firsts) : s.code c = s.operator c := by
  have hall : firsts.all (fun c => !isWordStart c && !Text.isAsciiDigit c) = true := by decide
  have hclass := List.all_eq_true.mp hall c hc
  rw [Bool.and_eq_true, Bool.not_eq_true', Bool.not_eq_true'] at hclass
  obtain ⟨hword, hdigit⟩ := hclass
  obtain ⟨h₁, h₂, h₃, h₄, h₅, h₆, h₇, h₈, h₉⟩ :=
    ne_of_class (p := firsts.contains) (List.contains_iff_mem.mpr hc) (by decide)
  simp [code, isQuote, h₁, h₂, h₃, h₄, h₅, h₆, h₇, h₈, h₉, hword, hdigit]

/-- A symbol is one character, which makes it alone, or starts with a character that may be the
first half of a pair. It is that pair, or that half, which something may go on with. -/
theorem text_eq (symbol : Symbol) : ∃ c ∈ firsts,
    symbol.text.toList = [c] ∧ loneSymbol? c = some symbol
    ∨ (loneSymbol? c = none ∧ startsPair c = true ∧ ∀ depth, depthAfter depth symbol = depth)
      ∧ ((∃ d, symbol.text.toList = [c, d] ∧ pairSymbol? c d = some symbol)
        ∨ symbol.text.toList = [c] ∧ halfSymbol? c = some symbol
          ∧ (Lexeme.symbol symbol).closed = false) := by
  cases symbol with
  | doubleSlash =>
    exact ⟨'/', by decide, .inr ⟨⟨rfl, rfl, fun _ => rfl⟩, .inl ⟨'/', rfl, rfl⟩⟩⟩
  | equal => exact ⟨'=', by decide, .inr ⟨⟨rfl, rfl, fun _ => rfl⟩, .inl ⟨'=', rfl, rfl⟩⟩⟩
  | notEqual => exact ⟨'!', by decide, .inr ⟨⟨rfl, rfl, fun _ => rfl⟩, .inl ⟨'=', rfl, rfl⟩⟩⟩
  | lessEqual => exact ⟨'<', by decide, .inr ⟨⟨rfl, rfl, fun _ => rfl⟩, .inl ⟨'=', rfl, rfl⟩⟩⟩
  | greaterEqual => exact ⟨'>', by decide, .inr ⟨⟨rfl, rfl, fun _ => rfl⟩, .inl ⟨'=', rfl, rfl⟩⟩⟩
  | assign => exact ⟨'=', by decide, .inr ⟨⟨rfl, rfl, fun _ => rfl⟩, .inr ⟨rfl, rfl, rfl⟩⟩⟩
  | less => exact ⟨'<', by decide, .inr ⟨⟨rfl, rfl, fun _ => rfl⟩, .inr ⟨rfl, rfl, rfl⟩⟩⟩
  | greater => exact ⟨'>', by decide, .inr ⟨⟨rfl, rfl, fun _ => rfl⟩, .inr ⟨rfl, rfl, rfl⟩⟩⟩
  | _ => exact ⟨_, by decide, .inl ⟨rfl, rfl⟩⟩

theorem foldlM_symbol (hs : s.mode = .code) (symbol : Symbol)
    (hc : (Lexeme.symbol symbol).closed = true ∨ c ∈ breaks) :
    (symbol.text.toList ++ c :: cs).foldlM feed s
      = (c :: cs).foldlM feed (s.having (.symbol symbol)) := by
  obtain ⟨first, hfirst, ⟨htext, hlone⟩ | ⟨⟨hlone, hpair, hdepth⟩, hrest⟩⟩ := text_eq symbol
  · have hstep : s.step first = .ok
        { s.push (.symbol symbol) s.pos with depth := depthAfter s.depth symbol } := by
      rw [step_code hs, code_first hfirst, operator, hlone]
    rw [htext, List.singleton_append, foldlM_step hstep, having, Lexeme.spelling, htext]
    rfl
  · have hstep : s.step first = .ok { s with mode := .operator s.pos first } := by
      rw [step_code hs, code_first hfirst, operator, hlone]
      exact if_pos hpair
    -- the first character may begin a pair, which the next character completes or breaks off
    obtain ⟨second, htext, hsecond⟩ | ⟨htext, hhalf, hopen⟩ := hrest
    · rw [htext, List.cons_append, foldlM_step hstep, List.singleton_append, foldlM_step (t :=
        { s.push (.symbol symbol) s.pos with pos := s.pos.next first })]
      · rw [having, Lexeme.spelling, htext, Lexeme.depthAfter, hdepth]
        rfl
      · rw [step]
        simp only [hsecond]
        rfl
    · have hbreak : c ∈ breaks := hc.resolve_left (by rw [hopen]; exact Bool.false_ne_true)
      obtain ⟨-, -, -, -, hnone⟩ := of_mem_breaks hbreak
      rw [htext, List.singleton_append, foldlM_step hstep]
      refine foldlM_ended ?_ ?_ rfl ?_
      · have hmem : first ∈ ['/', '=', '!', '<', '>'] := by simpa [startsPair] using hpair
        rw [step]
        simp only [hnone first hmem]
      · simp only [endToken, hhalf, having, push, Lexeme.spelling, htext, Lexeme.depthAfter,
          hdepth]
        rfl
      · rw [having, Lexeme.spelling, htext]
        rfl

/-- **A spelled token is read back**, if what follows does not go on with it. -/
theorem foldlM_spelling (hs : s.mode = .code) {l : Lexeme} (hl : l.spellable = true)
    (hc : l.closed = true ∨ c ∈ breaks) :
    (l.spelling ++ c :: cs).foldlM feed s = (c :: cs).foldlM feed (s.having l) := by
  cases l with
  | word text => exact foldlM_identifier hs hl (hc.resolve_left nofun)
  | int value => exact foldlM_digits hs (of_decide_eq_true hl) (hc.resolve_left nofun)
  | str text => exact foldlM_quoted hs text
  | symbol symbol => exact foldlM_symbol hs symbol hc
  | _ => cases hl

end State
end Lexer
end Tilde
