import Mathlib.Tactic.SplitIfs
import Mathlib.Tactic.Tauto
import Tilde.Eval
import Tilde.Proofs.Joined.Program
import Tilde.Proofs.Printed.Statement
import Tilde.Proofs.Template.Rendered
import Tilde.Proofs.Value.Padding
import Tilde.Proofs.Written.Lexer

/-!
# Format specs in interpolated strings

A text that is one interpolated string has the program that its body is split into. A field that is a
name alone is that variable: a name holds no blank, so none is cut off around it, and its text is
read as the one token that it is.

A spec may have any character but a line end for a fill. A field, though, is read to its end without
regard to what its spec means: quotes and brackets count in the spec as they do in front of it. A
spec that a value can be formatted by holds at most one character that could count, and that is its
fill. Where it is a quote or an opening bracket, the field has no end; every other spec is read as it
is, a closing bracket too, since no bracket is open.
-/

namespace Tilde

variable {name source : String}

/-! ## The characters of names -/

namespace Text

variable {c : Char} {n : Nat}

theorem CodePointSet.contains_eq (s : CodePointSet) :
    s.contains c = (s.flips.toList.countP (· ≤ c.toNat) % 2 == 1) := by
  rw [contains, Array.countP_toList]

/-- The number is in one of the ranges that begin and end in turn at the numbers of the list. -/
def InRange (n : Nat) : List Nat → Prop
  | a :: b :: flips => a ≤ n ∧ n < b ∨ InRange n flips
  | [] | [_] => False

/-- A number at an odd number of changes is in a range. -/
theorem inRange_of_odd : (flips : List Nat) → flips.length % 2 = 0 → flips.Pairwise (· ≤ ·) →
    flips.countP (· ≤ n) % 2 = 1 → InRange n flips
  | [], _, _, h => by cases h
  | [_], hlen, _, _ => by cases hlen
  | a :: b :: flips, hlen, hsorted, h => by
    have hab : a ≤ b := List.rel_of_pairwise_cons hsorted (List.mem_cons_self ..)
    rw [List.length_cons, List.length_cons] at hlen
    have ih := inRange_of_odd flips (by omega) hsorted.tail.tail
    rw [List.countP_cons, List.countP_cons] at h
    simp only [decide_eq_true_eq] at h
    rw [InRange]
    by_cases hb : b ≤ n
    · rw [if_pos hb, if_pos (Nat.le_trans hab hb)] at h
      exact .inr (ih (by omega))
    · rw [if_neg hb] at h
      by_cases ha : a ≤ n
      · exact .inl ⟨ha, Nat.lt_of_not_le hb⟩
      · rw [if_neg ha] at h
        exact .inr (ih h)

/-- The number is in none of those ranges. The list, which is in order, is followed up to the first
number beyond. -/
def isOutside (n : Nat) : List Nat → Bool
  | a :: b :: flips => n < a || b ≤ n && isOutside n flips
  | [_] => false
  | [] => true

theorem countP_of_isOutside : (flips : List Nat) → flips.Pairwise (· ≤ ·) →
    isOutside n flips = true → flips.countP (· ≤ n) % 2 = 0
  | [], _, _ => rfl
  | [_], _, h => by cases h
  | a :: b :: flips, hsorted, h => by
    rw [isOutside, Bool.or_eq_true, Bool.and_eq_true, decide_eq_true_eq, decide_eq_true_eq] at h
    have hab : a ≤ b := List.rel_of_pairwise_cons hsorted (List.mem_cons_self ..)
    rcases h with hlt | ⟨hb, hrest⟩
    · have hnone : (a :: b :: flips).countP (· ≤ n) = 0 := by
        rw [List.countP_eq_zero]
        intro k hk
        have hak : a ≤ k := by
          rcases List.mem_cons.mp hk with rfl | hk
          · exact Nat.le_refl _
          · exact List.rel_of_pairwise_cons hsorted hk
        rw [decide_eq_true_eq]
        omega
      rw [hnone]
    · have ih := countP_of_isOutside flips hsorted.tail.tail hrest
      rw [List.countP_cons_of_pos (by simpa using Nat.le_trans hab hb),
        List.countP_cons_of_pos (by simpa using hb)]
      omega

/-- The code points of the characters that are white space. -/
def blanks : List Nat :=
  [0x09, 0x0A, 0x0B, 0x0C, 0x0D, 0x20, 0x85, 0xA0, 0x1680, 0x2000, 0x2001, 0x2002, 0x2003, 0x2004,
    0x2005, 0x2006, 0x2007, 0x2008, 0x2009, 0x200A, 0x2028, 0x2029, 0x202F, 0x205F, 0x3000]

theorem toNat_mem_blanks (h : isBlank c = true) : c.toNat ∈ blanks := by
  simp only [blanks, List.mem_cons, List.not_mem_nil, or_false]
  unfold isBlank at h
  split at h
  · simp only [Bool.or_eq_true, Bool.and_eq_true, beq_iff_eq, decide_eq_true_eq] at h
    rcases h with rfl | h
    · decide
    · omega
  · rw [CodePointSet.contains_eq, beq_iff_eq, blankSet] at h
    have hrange := inRange_of_odd _ (by decide) (by decide) h
    simp only [InRange, or_false] at hrange
    omega

/-- A word holds no white space. -/
theorem isBlank_of_isWordChar (h : Lexer.isWordChar c = true) : isBlank c = false := by
  rw [Bool.eq_false_iff]
  intro hblank
  have hmem := toNat_mem_blanks hblank
  by_cases hascii : c.toNat < 128
  · have hall : ∀ n ∈ blanks, n < 128 → Lexer.isWordChar (Char.ofNat n) = false := by decide
    have hnot := hall _ hmem hascii
    rw [Char.ofNat_toNat, h] at hnot
    cases hnot
  · -- beyond those characters, the two classes are sets of code points
    have hsorted : alphabeticSet.flips.toList.IsChain (· ≤ ·)
        ∧ numericSet.flips.toList.IsChain (· ≤ ·) := by decide +kernel
    have hall : ∀ n ∈ blanks, ¬n < 128 → isOutside n alphabeticSet.flips.toList = true
        ∧ isOutside n numericSet.flips.toList = true := by decide +kernel
    obtain ⟨hletters, hnumbers⟩ := hall _ hmem hascii
    have hletter := countP_of_isOutside _ (List.isChain_iff_pairwise.mp hsorted.1) hletters
    have hnumber := countP_of_isOutside _ (List.isChain_iff_pairwise.mp hsorted.2) hnumbers
    have hline : c ≠ '_' := by
      rintro rfl
      exact hascii (by decide)
    rw [Lexer.isWordChar, isAlphanumeric, isAlphabetic, isNumeric, if_neg hascii, if_neg hascii,
      CodePointSet.contains_eq, CodePointSet.contains_eq, hletter, hnumber] at h
    simp [hline] at h

/-- No blank is cut off around a word. -/
theorem trim_word (h : ∀ c ∈ source.toList, Lexer.isWordChar c = true) : trim source = source := by
  have hblank : ∀ c ∈ source.toList, ¬isBlank c = true := by
    intro c hc
    rw [isBlank_of_isWordChar (h c hc)]
    exact Bool.false_ne_true
  have hdrop : ∀ cs : List Char, (∀ c ∈ cs, ¬isBlank c = true) → cs.dropWhile isBlank = cs := by
    intro cs hcs
    cases cs with
    | nil => rfl
    | cons c cs => exact List.dropWhile_cons_of_neg (hcs c (List.mem_cons_self ..))
  rw [trim, trimEndWhere, trimStartWhere, hdrop _ hblank, hdrop, List.reverse_reverse,
    String.ofList_toList]
  simpa using hblank

end Text

/-! ## Tokens -/

namespace Lexer.State

variable {s t : State} {c : Char} {cs : List Char}

/-- The end of a text that is one token. -/
theorem finish_single {l : Lexeme} {start pos : Pos} (hl : l.isLayout = false)
    (hmay : s.mode.mayEnd = true)
    (hend : s.endToken = .ok { pos, tokens := [⟨l, start⟩], mode := .code }) :
    s.finish = .ok [⟨l, start⟩, ⟨.newline, pos⟩, ⟨.eof, pos⟩] := by
  refine finish_eq_ok.mpr ⟨hmay, _, hend, rfl, ?_⟩
  simp only [pushNewline, hl]
  rfl

/-- No margin stands in front of a token. -/
theorem foldlM_front (hc : c ∉ blanks) :
    (c :: cs).foldlM feed {} = (c :: cs).foldlM feed { mode := .code } :=
  foldlM_applied rfl hc rfl rfl rfl

/-- Characters of a literal that stand for themselves. -/
theorem ReadsIn.all {quote : Char} (h : ∀ c ∈ cs, c ≠ '\n' ∧ c ≠ '\\' ∧ c ≠ quote) :
    ReadsIn quote cs cs := by
  induction cs with
  | nil => exact .nil
  | cons c cs ih =>
    obtain ⟨⟨hline, hbackslash, hquote⟩, hcs⟩ := List.forall_mem_cons.mp h
    exact (ReadsIn.itself hline hbackslash hquote).append (ih hcs)

end Lexer.State

open Lexer.State

/-- A text that is one word. -/
theorem tokenize_word (h : isIdentifier source = true) :
    ∃ pos, tokenize source
      = .ok [⟨.word source, .start⟩, ⟨.newline, pos⟩, ⟨.eof, pos⟩] := by
  obtain ⟨c, cs, hsource, hc, -⟩ := Lexeme.spelling_eq (l := .word source) h
  rw [Lexeme.spelling] at hsource
  unfold isIdentifier at h
  rw [hsource] at h
  obtain ⟨hstart, hchars⟩ := Bool.and_eq_true_iff.mp h
  have hback : String.ofList (cs.reverse ++ [c]).reverse = source := by
    rw [List.reverse_append, List.reverse_reverse, List.reverse_singleton, List.singleton_append,
      ← hsource, String.ofList_toList]
  have hrun : (cs ++ []).foldlM feed ({ pos := Pos.start.next c, mode := .word .start [c] }) = _ :=
    foldlM_word rfl (List.all_eq_true.mp hchars)
  rw [List.append_nil] at hrun
  refine ⟨cs.foldl Pos.next (Pos.start.next c), ?_⟩
  unfold tokenize
  rw [hsource, foldlM_front hc, foldlM_step ((step_code rfl).trans (code_word hstart)), hrun,
    ← hback]
  exact finish_single (s := { pos := cs.foldl Pos.next (Pos.start.next c),
                              mode := .word .start (cs.reverse ++ [c]) }) rfl rfl rfl

/-- A text that is one interpolated string, whose characters stand for themselves. -/
theorem tokenize_template {body : List Char} (h : ∀ c ∈ body, c ≠ '\n' ∧ c ≠ '\\' ∧ c ≠ '"')
    (hsource : source.toList = 'f' :: '"' :: body ++ ['"']) :
    (∀ pieces, Template.split body = .ok pieces → ∃ pos, tokenize source
      = .ok [⟨.template pieces, .start⟩, ⟨.newline, pos⟩, ⟨.eof, pos⟩])
    ∧ ∀ fault, Template.split body = .error fault →
      tokenize source = .error ⟨.badTemplate fault, .start⟩ := by
  -- the state in front of the closing quote
  obtain ⟨p, hopened⟩ : ∃ p, source.toList.foldlM feed {} = ['"'].foldlM feed
      { pos := p, mode := .literal ⟨.start, ⟨1, 2⟩, true, '"', body.reverse, false⟩ } := by
    have hrun := (ReadsIn.all h).run
      { pos := ⟨1, 3⟩, mode := .literal ⟨.start, ⟨1, 2⟩, true, '"', [], false⟩ } _ ['"'] rfl rfl rfl
    rw [List.append_nil] at hrun
    rw [hsource, List.cons_append, foldlM_front (by decide)]
    exact ⟨_, hrun⟩
  have hstep : ∀ s : Lexer.State, s.mode
      = .literal ⟨.start, ⟨1, 2⟩, true, '"', body.reverse, false⟩ →
      s.step '"' = s.endLiteral ⟨.start, ⟨1, 2⟩, true, '"', body.reverse, false⟩ := by
    intro s hs
    rw [step, hs]
    rfl
  unfold tokenize
  rw [hopened, List.foldlM_cons, feed, hstep _ rfl, endLiteral, List.reverse_reverse]
  constructor
  · intro pieces hsplit
    rw [hsplit]
    exact ⟨_, finish_single (s := { pos := p.next '"', tokens := [⟨.template pieces, .start⟩],
                                    mode := .code }) rfl rfl rfl⟩
  · intro fault hsplit
    rw [hsplit]
    rfl

/-! ## Programs -/

namespace Parser

variable {n bound : Nat} {field : FieldParser} {inner : Inner} {e : Expr} {t : Token}
  {ts : List Token}

/-- An expression that is one token. -/
theorem expression_single (h : Reads (atom field inner) n [t] e ts)
    (hsign : signOp? t.lexeme = none) (hnot : notOp? t.lexeme = none) (hn : 1 ≤ n)
    (hstop : Stops 0 ts) : Reads (expression field inner) n [t] e ts := by
  have hstops : ∀ k, Stops k ts := fun k => hstop.mono (Nat.zero_le k)
  -- every level passes the token on to the next one, and sees nothing to go on with
  have h₇ : Reads (ranked field inner 7) n [t] e ts :=
    (Chains.single h).reads hn (operandRound_none (hstops 7))
  have h₆ : Reads (ranked field inner 6) n [t] e ts := (Prefixes.single hsign h₇).reads hn
  have h₅ : Reads (ranked field inner 5) n [t] e ts :=
    (Chains.single h₆).reads hn (leftRound_none (leftOp?_none (hstops 5)))
  have h₄ : Reads (ranked field inner 4) n [t] e ts :=
    (Chains.single h₅).reads hn (leftRound_none (leftOp?_none (hstops 4)))
  have h₃ : Reads (ranked field inner 3) n [t] e ts := by
    refine .bind_nil h₄ (.peek (.peekSecond ?_))
    rw [List.nil_append, comparison?_none (hstops 3)]
    exact .pure
  have h₂ : Reads (ranked field inner 2) n [t] e ts := (Prefixes.single hnot h₃).reads hn
  have h₁ : Reads (ranked field inner 1) n [t] e ts :=
    (Chains.single h₂).reads hn (leftRound_none (leftOp?_none (hstops 1)))
  exact (Chains.single h₁).reads hn (leftRound_none (leftOp?_none hstop))

/-- A list of expressions that is one token. -/
theorem exprList_single (h : Reads (atom field (exprAt field bound)) n [t] e ts)
    (hstart : t.lexeme.startsOperand = true) (hn : 1 ≤ n) (hstop : Stops 0 ts)
    (hcomma : (frontToken ts).lexeme ≠ .symbol .comma) :
    Reads (exprList (exprAt field (bound + 1))) n [t] e ts := by
  have hne : ∀ l : Lexeme, l.startsOperand = false → t.lexeme ≠ l := by
    rintro l hl rfl
    rw [hstart] at hl
    cases hl
  have hone := expression_single h (signOp?_none (hne _ rfl) (hne _ rfl)) (notOp?_none (hne _ rfl)) hn
    hstop
  refine .bind_nil (.miss ?_ hone) (.peek (.ifTrue hcomma .pure))
  exact hne (.symbol .star) rfl

/-- The characters of an identifier are those of words. -/
theorem isWordChar_of_mem {c : Char} (h : isIdentifier source = true) (hc : c ∈ source.toList) :
    Lexer.isWordChar c = true := by
  unfold isIdentifier at h
  split at h
  · cases h
  · next d ds hlist =>
    rw [Bool.and_eq_true, List.all_eq_true] at h
    rw [hlist] at hc
    rcases List.mem_cons.mp hc with rfl | hc
    · exact Lexer.isWordChar_of_start h.1
    · exact h.2 c hc

/-- The field that is a name alone. -/
theorem fieldExpr_name {name : String} (hname : isName name = true) (bound : Nat) :
    fieldExpr (bound + 1) name = .ok (.name name) := by
  obtain ⟨hidentifier, hkeyword⟩ : isIdentifier name = true ∧ isKeyword name = false :=
    ⟨isIdentifier_of_isName hname, isKeyword_of_isName hname⟩
  obtain ⟨pos, htokens⟩ := tokenize_word hidentifier
  have hread : Reads (exprList (exprAt (fieldExpr bound) 3)) 3 [⟨.word name, .start⟩] (.name name)
      [⟨.newline, pos⟩, ⟨.eof, pos⟩] :=
    exprList_single (atom_name hkeyword rfl) (by simp [startsOperand_word, hkeyword]) (by decide)
      (stops_of_none rfl) nofun
  have hfield : fieldTokens (fieldExpr bound) [⟨.word name, .start⟩, ⟨.newline, pos⟩, ⟨.eof, pos⟩]
      = .ok (.name name) :=
    parseTokens_ok.mpr ⟨_, (bind_ok hread).trans rfl⟩
  refine fieldExpr_eq_ok.mpr ⟨_, ?_, hfield⟩
  rw [Text.trim_word fun c hc => isWordChar_of_mem hidentifier hc, htokens]

/-- An interpolated string alone on its line. -/
theorem programTokens_template {nesting : Nat} {pieces : List Template.Piece} {ps : List Part}
    {start pos : Pos} (hparts : parts (fieldExpr nesting) pieces = .ok ps) :
    programTokens nesting [⟨.template pieces, start⟩, ⟨.newline, pos⟩, ⟨.eof, pos⟩]
      = .ok [.evaluate start.line (.template ps)] := by
  have hatom : ∀ inner, Reads (atom (fieldExpr nesting) inner) 3 [⟨.template pieces, start⟩]
      (.template ps) [⟨.newline, pos⟩, ⟨.eof, pos⟩] := by
    refine fun inner => .peekToken (.advance ?_)
    simp only [hparts]
    exact .pure
  have hlist : Reads (exprList (exprAt (fieldExpr nesting) 3)) 3 [⟨.template pieces, start⟩]
      (.template ps) [⟨.newline, pos⟩, ⟨.eof, pos⟩] :=
    exprList_single (hatom _) rfl (by decide) (stops_of_none rfl) nofun
  have hsimple : Reads (simple (exprAt (fieldExpr nesting) 3)) 3 [⟨.template pieces, start⟩]
      (.evaluate start.line (.template ps)) [⟨.newline, pos⟩, ⟨.eof, pos⟩] :=
    .simple rfl (.bind_nil hlist (.miss nofun (.ifFalse nofun .pure)))
  have hstmt : Reads (stmtAt (exprAt (fieldExpr nesting) 3) 3) 3
      ([⟨.template pieces, start⟩] ++ [⟨.newline, pos⟩]) (.evaluate start.line (.template ps))
      [⟨.eof, pos⟩] :=
    .peekToken (.bind hsimple ((bind_ok (lineEnd_hit (by rfl))).trans rfl))
  refine parseTokens_ok.mpr ⟨[⟨.eof, pos⟩], ?_⟩
  change repeatUpTo (textRound _) 4 [] 3 _ = _
  -- one round reads the statement, and the next one the end of the text
  refine (text_stmt (t := ⟨.template pieces, start⟩) nofun nofun _ _ _ _ _).trans ?_
  refine (bind_ok hstmt).trans ?_
  rw [text_step]
  rfl

end Parser
end Tilde

namespace Tilde

/-! ## The specs that a value is formatted by -/

namespace Value

variable {v : Value} {spec text : String}

theorem Align.sign_mem (a : Align) : a.sign ∈ ['<', '>', '^'] := by
  cases a <;> decide

/-- The characters behind the fill are signs and digits. -/
theorem format_cases (h : v.format (some spec) = .ok text) :
    ∃ fill rest, spec.toList = fill ++ rest ∧ (fill = [] ∨ ∃ c, c ≠ '\n' ∧ fill = [c])
      ∧ ∀ c ∈ rest, c ∈ ['<', '>', '^'] ∨ Text.isAsciiDigit c = true := by
  obtain ⟨fill, align, width, hspells⟩ := spells_of_format h
  have hdigits : ∀ {digits : List Char} {w : Nat}, IsWidth digits w → ∀ c ∈ digits,
      c ∈ ['<', '>', '^'] ∨ Text.isAsciiDigit c = true :=
    fun hw c hc => .inr (isAsciiDigit_iff.mpr (hw.1 c hc))
  generalize spec.toList = cs at hspells ⊢
  cases hspells with
  | width hw => exact ⟨[], _, rfl, .inl rfl, hdigits hw⟩
  | aligned a hw =>
    exact ⟨[], _, rfl, .inl rfl, List.forall_mem_cons.mpr ⟨.inl a.sign_mem, hdigits hw⟩⟩
  | filled fill a hfill hw =>
    exact ⟨[fill], _, rfl, .inr ⟨fill, hfill, rfl⟩,
      List.forall_mem_cons.mpr ⟨.inl a.sign_mem, hdigits hw⟩⟩

end Value

/-! ## The field -/

namespace Template

variable {pieces : List Piece} {c : Char} {cs rest source kept : List Char}

/-- What the reader asks about a character that opens nothing and does not close the field. -/
theorem of_not_mem_opening (h : c ∉ '\x7d' :: openers ++ quotes) :
    c ≠ '\x7d' ∧ ¬(c = '\'' ∨ c = '"') ∧ ¬((c = '(' ∨ c = '[') ∨ c = '\x7b') := by
  simp only [openers, quotes, List.cons_append, List.nil_append, List.mem_cons, List.not_mem_nil,
    or_false] at h
  tauto

/-- Behind the colon, and outside of quotes and brackets, every character is kept that opens neither
and does not close the field. -/
theorem read_unopened (h : ∀ c ∈ cs, c ∉ '\x7d' :: openers ++ quotes) :
    read pieces (.field { source, spec := some kept }) (cs ++ rest)
      = read pieces (.field { source, spec := some (cs.reverse ++ kept) }) rest := by
  induction cs generalizing kept with
  | nil => rfl
  | cons c cs ih =>
    obtain ⟨hc, hcs⟩ := List.forall_mem_cons.mp h
    obtain ⟨hclose, hquote, hopener⟩ := of_not_mem_opening hc
    have hfeed : ({ source, spec := some kept } : Field).feed c
        = { source, spec := some (c :: kept) } := by
      simp [Field.feed, Field.keep, hquote, hopener]
    rw [List.cons_append, read_feed (by simp [Field.closes, hclose]), hfeed, ih hcs]
    simp

/-- Where a quote is open and not closed, the field has no end. -/
theorem read_openQuote {f : Field} {q : Char} (hf : f.quote = some q) (h : q ∉ cs) :
    read pieces (.field f) cs = .error .unterminatedField := by
  rw [← List.append_nil cs, read_quoted hf h, read]

/-- Where more brackets are open than closed, the field has no end. -/
theorem read_openBracket (h : ∀ d ∈ cs, d ∉ openers ++ closers ++ quotes) :
    read pieces (.field { source, spec := some kept, depth := 1 }) (cs ++ ['\x7d'])
      = .error .unterminatedField := by
  have hbalanced : Balanced true cs := .of_plain fun d hd => ⟨h d hd, fun _ => rfl⟩
  rw [read_balanced hbalanced rfl fun _ => .inr rfl, read_feed (by simp [Field.closes]), read]

/-- **A spec that starts with a quote or an opening bracket** takes what closes the field. -/
theorem read_opening (hc : c ∈ openers ++ quotes) (h : ∀ d ∈ cs, d ∉ openers ++ closers ++ quotes) :
    read pieces (.field { source, spec := some [] }) (c :: cs ++ ['\x7d'])
      = .error .unterminatedField := by
  -- neither the brace that ends the field nor what stands in front of it is a quote
  have hmissing : c ∈ quotes → c ∉ cs ++ ['\x7d'] := by
    intro hquote hmem
    rcases List.mem_append.mp hmem with hmem | hmem
    · exact h c hmem (List.mem_append_right _ hquote)
    · rw [List.mem_singleton.mp hmem] at hquote
      exact absurd hquote (by decide)
  rw [List.cons_append]
  rcases List.mem_append.mp hc with hopener | hquote
  · have hfeed : ({ source, spec := some [] } : Field).feed c
        = { source, spec := some [c], depth := 1 } := by
      obtain rfl | rfl | rfl : c = '(' ∨ c = '[' ∨ c = '\x7b' := by simpa [openers] using hopener
      all_goals rfl
    have hcloses : ({ source, spec := some [] } : Field).closes c = false := by
      obtain rfl | rfl | rfl : c = '(' ∨ c = '[' ∨ c = '\x7b' := by simpa [openers] using hopener
      all_goals rfl
    rw [read_feed hcloses, hfeed, read_openBracket h]
  · have hfeed : ({ source, spec := some [] } : Field).feed c
        = { source, spec := some [c], quote := some c } := by
      obtain rfl | rfl : c = '\'' ∨ c = '"' := by simpa [quotes] using hquote
      all_goals rfl
    have hcloses : ({ source, spec := some [] } : Field).closes c = false := by
      obtain rfl | rfl : c = '\'' ∨ c = '"' := by simpa [quotes] using hquote
      all_goals rfl
    rw [read_feed hcloses, hfeed]
    exact read_openQuote rfl (hmissing hquote)

/-- What stands in no word stands in no name. -/
theorem not_mem_name {name : String} (hname : isIdentifier name = true) (marks : List Char)
    (h : marks.all (fun c => !Lexer.isWordChar c) = true) : ∀ c ∈ marks, c ∉ name.toList := by
  intro c hc hmem
  have hnot := List.all_eq_true.mp h c hc
  rw [Parser.isWordChar_of_mem hname hmem] at hnot
  cases hnot

/-- A name is not blank. -/
theorem name_not_blank {name : String} (hname : isIdentifier name = true) :
    ∃ c ∈ name.toList, Text.isBlank c = false := by
  cases hlist : name.toList with
  | nil =>
    rw [isIdentifier, hlist] at hname
    cases hname
  | cons c cs =>
    have hc : c ∈ name.toList := hlist ▸ List.mem_cons_self ..
    exact ⟨c, List.mem_cons_self .., Text.isBlank_of_isWordChar (Parser.isWordChar_of_mem hname hc)⟩

/-- The body of a field that is a name with a spec. -/
def fieldBody (name spec : List Char) : List Char := '\x7b' :: name ++ ':' :: spec ++ ['\x7d']

/-- A name is read up to the colon behind it. -/
theorem split_fieldBody {name : String} (hname : isIdentifier name = true) {spec : List Char} :
    split (fieldBody name.toList spec)
      = read [] (.field { source := name.toList.reverse, spec := some [] }) (spec ++ ['\x7d']) := by
  have hmarks := not_mem_name hname (':' :: openers ++ closers ++ quotes) (by decide)
  have hbalanced : Balanced false name.toList := by
    refine .of_plain fun c hc => ⟨fun hmark => hmarks c (List.mem_cons_of_mem _ hmark) hc, ?_⟩
    rintro rfl
    exact absurd hc (hmarks ':' (by decide))
  have hne : name.toList ≠ [] := by
    obtain ⟨c, hc, -⟩ := name_not_blank hname
    exact List.ne_nil_of_mem hc
  have hhead : name.toList.head? ≠ some '\x7b' :=
    fun h => hmarks '\x7b' (by decide) (List.mem_of_head? h)
  rw [split, fieldBody, List.append_assoc, read_source hne hhead hbalanced, List.cons_append,
    read_colon]
  rfl

/-- The field of a name and a spec that opens nothing. -/
theorem split_plain {name spec : String} (hname : isIdentifier name = true)
    (hspec : ∀ c ∈ spec.toList, c ∉ '\x7d' :: openers ++ quotes) :
    split (fieldBody name.toList spec.toList) = .ok [.field name (some spec)] := by
  rw [split_fieldBody hname, read_unopened hspec, List.append_nil]
  refine (read_close (some spec.toList) (name_not_blank hname)).trans ?_
  simp [read, flush]

/-- The characters of such a body stand for themselves in a literal. -/
theorem fieldBody_inline {name : String} (hname : isIdentifier name = true) {spec : List Char}
    (hspec : ∀ c ∈ ['\n', '\\', '"'], c ∉ spec) :
    ∀ c ∈ fieldBody name.toList spec, c ≠ '\n' ∧ c ≠ '\\' ∧ c ≠ '"' := by
  have hmissing : ∀ c ∈ ['\n', '\\', '"'], c ∉ fieldBody name.toList spec := by
    intro c hc hmem
    have hinName := not_mem_name hname ['\n', '\\', '"'] (by decide) c hc
    have hinSpec := hspec c hc
    have hsigns : ∀ c ∈ ['\n', '\\', '"'], c ∉ ['\x7b', ':', '\x7d'] :=
      List.all_iff_forall_prop.mp (by decide)
    have hsign := hsigns c hc
    simp only [List.mem_cons, List.not_mem_nil, or_false, not_or] at hsign
    simp only [fieldBody, List.cons_append, List.mem_cons, List.mem_append, List.not_mem_nil,
      hinName, hinSpec, hsign, or_self] at hmem
  intro c hc
  refine ⟨?_, ?_, ?_⟩
  all_goals
    rintro rfl
    exact absurd hc (hmissing _ (by decide))

end Template

/-! ## The expression -/

open Template

/-- What a value can be formatted by is on one line. What opens a quote or a bracket in it stands at
its front, and nothing behind that counts. -/
theorem Value.format_marks {v : Value} {spec text : String} (h : v.format (some spec) = .ok text) :
    '\n' ∉ spec.toList ∧ ∀ c ∈ openers ++ quotes, c ∈ spec.toList →
      ∃ rest, spec.toList = c :: rest ∧ ∀ d ∈ rest, d ∉ openers ++ closers ++ quotes := by
  obtain ⟨fill, rest, hspec, hfill, hrest⟩ := format_cases h
  have hclass : ∀ c ∈ '\n' :: openers ++ closers ++ quotes,
      ¬(c ∈ ['<', '>', '^'] ∨ Text.isAsciiDigit c = true) := List.all_iff_forall_prop.mp (by decide)
  have hplain : ∀ c ∈ '\n' :: openers ++ closers ++ quotes, c ∉ rest :=
    fun c hc hmem => hclass c hc (hrest c hmem)
  have hopening : ∀ c ∈ openers ++ quotes, c ∉ rest := by
    intro c hc
    refine hplain c (List.mem_cons_of_mem _ ?_)
    rcases List.mem_append.mp hc with hc | hc
    · exact List.mem_append_left _ (List.mem_append_left _ hc)
    · exact List.mem_append_right _ hc
  rw [hspec]
  rcases hfill with rfl | ⟨c, hline, rfl⟩
  · exact ⟨hplain '\n' (by decide), fun c hc hmem => absurd hmem (hopening c hc)⟩
  · refine ⟨?_, fun d hd hmem => ?_⟩
    · rw [List.singleton_append, List.mem_cons]
      exact not_or.mpr ⟨hline.symm, hplain '\n' (by decide)⟩
    · rcases List.mem_cons.mp hmem with rfl | hmem
      · exact ⟨rest, rfl, fun d hd hmark => hplain d (List.mem_cons_of_mem _ hmark) hd⟩
      · exact absurd hmem (hopening d hd)

/-- The text of an expression that formats a variable by a spec. -/
def formatting (name spec : String) : String := "f\"\x7b" ++ name ++ ":" ++ spec ++ "\x7d\""

theorem toList_formatting (name spec : String) : (formatting name spec).toList
    = 'f' :: '"' :: fieldBody name.toList spec.toList ++ ['"'] := by
  simp [formatting, fieldBody, String.toList_append]

variable {ω : Type}

/--
**Format specs within interpolated strings.**

A spec that a value can be formatted by, and that holds no brace, backslash or double quote, is read
in the field of a variable that has the value, and the string is what the value is formatted to. The
exceptions are the specs that hold a single quote or an opening bracket, which is then their fill: of
them the field has no end, and the text is no program.
-/
theorem formatting_evaluates (host : Host ω) (ns : Namespace) (mode : Mode) {name spec text : String}
    {v : Value} (hname : isName name = true) (hv : ns.get? name = some v)
    (hformat : v.format (some spec) = .ok text)
    (hspec : ∀ c ∈ ['\x7b', '\x7d', '\\', '"'], c ∉ spec.toList) :
    ((∀ c ∈ ['\'', '(', '['], c ∉ spec.toList) →
      ∃ e, parse (formatting name spec) mode = .ok ⟨[.evaluate 1 e], mode⟩
        ∧ e.eval host ns = pure (.str text))
    ∧ ((∃ c ∈ ['\'', '(', '['], c ∈ spec.toList) →
      parse (formatting name spec) mode = .error (.lex ⟨.badTemplate .unterminatedField, .start⟩)) := by
  have hidentifier := isIdentifier_of_isName hname
  obtain ⟨hline, hmarks⟩ := Value.format_marks hformat
  have hinline : ∀ c ∈ ['\n', '\\', '"'], c ∉ spec.toList :=
    List.forall_mem_cons.mpr ⟨hline, fun c hc => hspec c (List.mem_append_right ['\x7b', '\x7d'] hc)⟩
  obtain ⟨hreads, hfails⟩ :=
    tokenize_template (fieldBody_inline hidentifier hinline) (toList_formatting name spec)
  constructor
  · intro hplain
    have hunopened : ∀ c ∈ spec.toList, c ∉ '\x7d' :: openers ++ quotes := by
      have hcases : ∀ c ∈ '\x7d' :: openers ++ quotes,
          c ∈ ['\'', '(', '['] ∨ c ∈ ['\x7b', '\x7d', '\\', '"'] :=
        List.all_iff_forall_prop.mp (by decide)
      intro c hc hmem
      exact (hcases c hmem).elim (fun h => hplain c h hc) fun h => hspec c h hc
    obtain ⟨pos, htokens⟩ := hreads _ (split_plain hidentifier hunopened)
    have hlength : (formatting name spec).length
        = (fieldBody name.toList spec.toList).length + 2 + 1 := by
      rw [← String.length_toList, toList_formatting]
      simp
    refine ⟨.template [.field (.name name) (some spec)], ?_, ?_⟩
    · refine parse_eq_ok.mpr ⟨_, htokens, ?_, rfl⟩
      rw [hlength]
      refine Parser.programTokens_template ?_
      rw [Parser.parts, Parser.fieldExpr_name hname]
      rfl
    · have hfind : ns.find name = .ok v := by rw [Namespace.find, hv]
      simp only [Expr.eval, evalParts, hfind, EvalM.ofExcept, pure_bind, hformat, String.append_empty]
  · -- a fill that opens a bracket or a string keeps the brace behind it from ending the field
    rintro ⟨c, hc, hmem⟩
    have hall : ∀ c ∈ ['\'', '(', '['], c ∈ openers ++ quotes := List.all_iff_forall_prop.mp (by decide)
    obtain ⟨rest, hfront, hrest⟩ := hmarks c (hall c hc) hmem
    have hsplit : split (fieldBody name.toList spec.toList) = .error .unterminatedField := by
      rw [split_fieldBody hidentifier, hfront, read_opening (hall c hc) hrest]
    rw [parse, hfails _ hsplit]

/-- A closing bracket is a fill that is read, and an opening one is not. -/
theorem formatting_evaluates_of_brackets :
    let ns := Namespace.fresh.set "v" (.str "x")
    ns.get? "v" = some (.str "x")
      ∧ (∃ e, parse "f\"\x7bv:)<4\x7d\"" .file = .ok ⟨[.evaluate 1 e], .file⟩
          ∧ e.eval (.silent : Host Unit) ns = pure (.str "x)))"))
      ∧ parse "f\"\x7bv:(<4\x7d\"" .file = .error (.lex ⟨.badTemplate .unterminatedField, .start⟩) := by
  intro ns
  have hv : ns.get? "v" = some (.str "x") := rfl
  have hclosing : (Value.str "x").format (some ")<4") = .ok "x)))" := by decide
  have hopening : (Value.str "x").format (some "(<4") = .ok "x(((" := by decide
  have hfree : ∀ c ∈ ['\x7b', '\x7d', '\\', '"'], c ∉ ")<4".toList ∧ c ∉ "(<4".toList :=
    List.all_iff_forall_prop.mp (by decide)
  have hreads := formatting_evaluates (.silent : Host Unit) ns .file (by decide) hv hclosing
    fun c hc => (hfree c hc).1
  have hfails := formatting_evaluates (.silent : Host Unit) ns .file (by decide) hv hopening
    fun c hc => (hfree c hc).2
  exact ⟨hv, hreads.1 (List.all_iff_forall_prop.mp (by decide)), hfails.2 ⟨'(', by decide, by decide⟩⟩

/-- A value can be formatted with a quote for a fill, but not within an interpolated string. -/
theorem formatting_not_always_evaluates :
    ¬∀ (ns : Namespace) (name spec text : String) (v : Value), isName name = true →
      ns.get? name = some v → v.format (some spec) = .ok text →
      (∀ c ∈ ['\x7b', '\x7d', '\\', '"'], c ∉ spec.toList) →
      ∃ e, parse (formatting name spec) .file = .ok ⟨[.evaluate 1 e], .file⟩
        ∧ e.eval (.silent : Host Unit) ns = pure (.str text) := by
  intro h
  obtain ⟨e, he, -⟩ := h (Namespace.fresh.set "v" (.str "x")) "v" "'<5" "x''''" (.str "x") (by decide)
    rfl (by decide) (List.all_iff_forall_prop.mp (by decide))
  have hfails : (parse (formatting "v" "'<5") .file).isOk = false := by decide +kernel
  rw [he] at hfails
  cases hfails

end Tilde
