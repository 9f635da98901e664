import Tilde.Proofs.Printed.Printer
import Tilde.Proofs.Printed.Regular
import Tilde.Proofs.Printed.Text
import Tilde.Value

/-!
# Texts on one line

The tokens of what is written for a value, and of any text that a line end would complete.
-/

/-!
## Values as source text

What is written for a value is the text of an expression (`Value.source`), which stands in it as
some lexemes. A string is written with escapes that a string literal knows, but for the control
characters that have none: these are written in hexadecimal, which a literal reads as the four
characters that stand there. So the value that comes of the expression is the written one with such
characters spelled out (`Value.readBack`). A number literal has no sign, so a negative number is the
negation of one, and there is none for the least number.
-/

namespace Tilde

/-! ### Strings -/

/-- Whether a string literal has no escape for the character, although it is written with one. -/
def isUnreadable (c : Char) : Bool :=
  Text.isControl c && !(['\n', '\r', '\t'].contains c)

/-- What a string literal reads for a written character. -/
def readChar (c : Char) : List Char :=
  if isUnreadable c then ['\\', 'x', Nat.digitChar (c.toNat / 16), Nat.digitChar (c.toNat % 16)]
  else [c]

/-- What a string literal reads for a written string. -/
def readString (s : String) : String := String.ofList (s.toList.flatMap readChar)

theorem toList_readString (s : String) : (readString s).toList = s.toList.flatMap readChar :=
  String.toList_ofList

/-- A written string is read as itself if and only if all its characters are. -/
theorem readString_eq_iff {s : String} :
    readString s = s ↔ ∀ c ∈ s.toList, isUnreadable c = false := by
  rw [← String.toList_inj, toList_readString]
  induction s.toList with
  | nil => simp
  | cons c cs ih =>
    rw [List.forall_mem_cons, List.flatMap_cons, readChar]
    cases hc : isUnreadable c with
    | true =>
      -- the text that is read starts with a backslash
      have hne : '\\' ≠ c := by
        rintro rfl
        exact absurd hc (by decide)
      simp [hne]
    | false => simpa using ih

/-! ### Values -/

mutual

/-- The parts of a value that have no parts: what its tuples and lists are made of in the end. -/
def Value.leaves : Value → List Value
  | .tuple items | .list items => allLeaves items
  | v => [v]

/-- The leaves of values. -/
def allLeaves : List Value → List Value
  | [] => []
  | v :: vs => v.leaves ++ allLeaves vs

end

/-- Whether the value is no function. -/
def Value.isDatum : Value → Bool
  | .builtin _ | .method .. => false
  | _ => true

/-- Whether the value is no number without a literal. -/
def Value.hasLiteral : Value → Bool
  | .int i => i != Int64.minValue
  | _ => true

mutual

/-- The expression that is written for a value. A function has none. -/
def Value.source : Value → Expr
  | .none | .builtin _ | .method .. => .none
  | .bool b => .bool b
  | .int i => if 0 ≤ i.toInt then .int i else .unary .neg (.int (-i))
  | .str s => .str (readString s)
  | .tuple items => .tuple (sources items)
  | .list items => .list (sources items)

/-- The expressions that are written for values. -/
def sources : List Value → List Expr
  | [] => []
  | v :: vs => v.source :: sources vs

end

mutual

/-- The lexemes that are written for a value. -/
def Value.lexemes : Value → List Lexeme
  | .none => [.word "None"]
  | .bool b => [.word (if b then "True" else "False")]
  | .int i => if 0 ≤ i.toInt then [.int i] else [.symbol .minus, .int (-i)]
  | .str s => [.str (readString s)]
  | .tuple [v] => .symbol .openParen :: v.lexemes ++ [.symbol .comma, .symbol .closeParen]
  | .tuple items =>
    .symbol .openParen :: commaBetween (valueLexemes items) ++ [.symbol .closeParen]
  | .list items =>
    .symbol .openBracket :: commaBetween (valueLexemes items) ++ [.symbol .closeBracket]
  | .builtin _ | .method .. => []

/-- The lexemes that are written for values. -/
def valueLexemes : List Value → List (List Lexeme)
  | [] => []
  | v :: vs => v.lexemes :: valueLexemes vs

end

/-- A tuple of a single item has a comma behind it. -/
theorem Value.repr_single (v : Value) : (tuple [v]).repr = "(" ++ v.repr ++ ",)" := rfl

theorem Value.repr_tuple {items : List Value} (h : items.length ≠ 1) :
    (tuple items).repr = "(" ++ ", ".intercalate (reprs items) ++ ")" :=
  match items, h with
  | [], _ => rfl
  | _ :: _ :: _, _ => rfl

theorem Value.repr_list (items : List Value) :
    (list items).repr = "[" ++ ", ".intercalate (reprs items) ++ "]" := rfl

theorem Value.reprs_nil : reprs [] = [] := rfl

theorem Value.reprs_cons (v : Value) (vs : List Value) : reprs (v :: vs) = v.repr :: reprs vs := rfl

theorem Value.lexemes_tuple {items : List Value} (h : items.length ≠ 1) :
    (tuple items).lexemes
      = .symbol .openParen :: commaBetween (valueLexemes items) ++ [.symbol .closeParen] :=
  match items, h with
  | [], _ => rfl
  | _ :: _ :: _, _ => rfl

mutual

/-- The value that is read where a value has been written. -/
def Value.readBack : Value → Value
  | .str s => .str (readString s)
  | .tuple items => .tuple (allReadBack items)
  | .list items => .list (allReadBack items)
  | v => v

/-- The values that are read where values have been written. -/
def allReadBack : List Value → List Value
  | [] => []
  | v :: vs => v.readBack :: allReadBack vs

end

/-- Whether every character of a string is read as itself. -/
def Value.isReadable : Value → Bool
  | .str s => s.toList.all fun c => !isUnreadable c
  | _ => true

mutual

/-- A value is read back if and only if all its strings are. -/
theorem Value.readBack_eq_iff : ∀ v : Value,
    v.readBack = v ↔ ∀ w ∈ v.leaves, w.isReadable = true
  | .str s => by
    simp [Value.readBack, Value.leaves, Value.isReadable, readString_eq_iff]
  | .tuple items => by
    rw [Value.readBack, Value.leaves, ← allReadBack_eq_iff items, Value.tuple.injEq]
  | .list items => by
    rw [Value.readBack, Value.leaves, ← allReadBack_eq_iff items, Value.list.injEq]
  | .none | .bool _ | .int _ | .builtin _ | .method .. => by
    simp [Value.readBack, Value.leaves, Value.isReadable]

theorem allReadBack_eq_iff : ∀ vs : List Value,
    allReadBack vs = vs ↔ ∀ w ∈ allLeaves vs, w.isReadable = true
  | [] => by simp [allReadBack, allLeaves]
  | v :: vs => by
    rw [allReadBack, allLeaves, List.forall_mem_append, ← Value.readBack_eq_iff v,
      ← allReadBack_eq_iff vs, List.cons.injEq]

end

end Tilde

/-!
## The tokens of a written value

The lexer reads what is written for a value as the lexemes of the value, or stops at a number that
has no literal.
-/

namespace Tilde.Lexer.State

variable {s t u : State} {c : Char} {cs chars more : List Char} {l : Lexeme} {ls ks : List Lexeme}
  {fits fits' : Bool}

/-! ### Texts one after the other -/

theorem Wrote.nil (hs : s.mode = .code) : Wrote s [] s := ⟨hs, rfl, rfl, rfl, [], rfl, .nil⟩

theorem Wrote.one {p : Pos} (hp : p.line = s.pos.line) : Wrote s [l] { s.having l with pos := p } :=
  .cons hp (.nil rfl)

/-- Of the place where tokens start, only the line matters. -/
theorem Wrote.at {p : Pos} (hp : p.line = s.pos.line) (h : Wrote { s with pos := p } ls t) :
    Wrote s ls t where
  mode := h.mode
  indents := h.indents
  depth := h.depth
  line := h.line.trans hp
  tokens := hp ▸ h.tokens

theorem Wrote.append (h : Wrote s ls t) (h' : Wrote t ks u) : Wrote s (ls ++ ks) u where
  mode := h'.mode
  indents := h'.indents.trans h.indents
  depth := by rw [h'.depth, h.depth, List.foldl_append]
  line := h'.line.trans h.line
  tokens := by
    obtain ⟨us, hus, hmoved⟩ := h.tokens
    obtain ⟨vs, hvs, hmoved'⟩ := h'.tokens
    refine ⟨us ++ vs, by rw [hvs, hus, List.reverse_append, List.append_assoc], ?_⟩
    rw [placed_append]
    rw [h.line] at hmoved'
    exact List.rel_append hmoved hmoved'

/-- The characters are read as the lexemes between two tokens, if what follows goes on with none of
them; or they cannot be read, because a number in them does not fit. -/
structure Lexes (chars : List Char) (fits : Bool) (ls : List Lexeme) : Prop where
  reads : fits = true → ∀ s c cs, s.mode = .code → c ∈ breaks →
    ∃ t, (chars ++ c :: cs).foldlM feed s = (c :: cs).foldlM feed t ∧ Wrote s ls t
  fails : fits = false → ∀ s c cs, s.mode = .code → c ∈ breaks →
    ∃ e, (chars ++ c :: cs).foldlM feed s = .error e

namespace Lexes

theorem nil : Lexes [] true [] where
  reads _ s _ _ hs _ := ⟨s, rfl, .nil hs⟩
  fails := nofun

/-- A token in its spelling. -/
theorem lexeme (hl : l.spellable = true) : Lexes l.spelling true [l] where
  reads _ s _ _ hs hc := ⟨s.having l, foldlM_spelling hs hl (.inr hc), .one (having_line hl)⟩
  fails := nofun

/-- A token that nothing goes on with stands in front of anything. -/
theorem cons (hl : l.spellable = true) (hclosed : l.closed = true) (h : Lexes chars fits ls) :
    Lexes (l.spelling ++ chars) fits (l :: ls) where
  reads hfits s c cs hs hc := by
    obtain ⟨t, ht, hwrote⟩ := h.reads hfits (s.having l) c cs rfl hc
    obtain ⟨d, ds, hfront⟩ := List.exists_cons_of_ne_nil (l := chars ++ c :: cs) (by simp)
    refine ⟨t, ?_, .cons (p := (s.having l).pos) (having_line hl) hwrote⟩
    rw [List.append_assoc, hfront, foldlM_spelling hs hl (.inl hclosed), ← hfront, ht]
  fails hfits s c cs hs hc := by
    obtain ⟨e, he⟩ := h.fails hfits (s.having l) c cs rfl hc
    obtain ⟨d, ds, hfront⟩ := List.exists_cons_of_ne_nil (l := chars ++ c :: cs) (by simp)
    refine ⟨e, ?_⟩
    rw [List.append_assoc, hfront, foldlM_spelling hs hl (.inl hclosed), ← hfront, he]

theorem blank (h : Lexes chars fits ls) : Lexes (' ' :: chars) fits ls where
  reads hfits s c cs hs hc := by
    obtain ⟨t, ht, hwrote⟩ := h.reads hfits { s with pos := s.pos.next ' ' } c cs hs hc
    exact ⟨t, (foldlM_blank hs).trans ht, .at (p := s.pos.next ' ') rfl hwrote⟩
  fails hfits s c cs hs hc := by
    obtain ⟨e, he⟩ := h.fails hfits { s with pos := s.pos.next ' ' } c cs hs hc
    exact ⟨e, (foldlM_blank hs).trans he⟩

/-- A text, and one that starts with a character that goes on with nothing. -/
theorem append {d : Char} (h : Lexes chars fits ls) (hd : d ∈ breaks)
    (h' : Lexes (d :: more) fits' ks) : Lexes (chars ++ d :: more) (fits && fits') (ls ++ ks) where
  reads hfits s c cs hs hc := by
    obtain ⟨hfits, hfits'⟩ := Bool.and_eq_true_iff.mp hfits
    obtain ⟨t, ht, hwrote⟩ := h.reads hfits s d (more ++ c :: cs) hs hd
    obtain ⟨u, hu, hwrote'⟩ := h'.reads hfits' t c cs hwrote.mode hc
    refine ⟨u, ?_, hwrote.append hwrote'⟩
    rw [List.append_assoc, List.cons_append, ht]
    exact hu
  fails hfits s c cs hs hc := by
    rw [List.append_assoc, List.cons_append]
    cases hfront : fits with
    | false => exact h.fails hfront s d (more ++ c :: cs) hs hd
    | true =>
      rw [hfront, Bool.true_and] at hfits
      obtain ⟨t, ht, hwrote⟩ := h.reads hfront s d (more ++ c :: cs) hs hd
      rw [ht]
      exact h'.fails hfits t c cs hwrote.mode hc

end Lexes

/-! ### Numbers -/

/-- The digits of a number that is too large. -/
theorem lexes_large {n : Nat} (hn : Int64.maxValue.toInt < n) (ls : List Lexeme) :
    Lexes (Nat.toDigits 10 n) false ls where
  reads := nofun
  fails _ s c cs hs hc := by
    obtain ⟨-, -, hdigit, hline, -⟩ := of_mem_breaks hc
    have hds : ∀ d ∈ Nat.toDigits 10 n, Text.isAsciiDigit d = true :=
      fun d hd => Nat.isDigit_of_mem_toDigits (by decide) (by decide) hd
    cases hlist : Nat.toDigits 10 n with
    | nil => exact absurd hlist Nat.toDigits_ne_nil
    | cons d ds =>
      rw [hlist, List.forall_mem_cons] at hds
      have hback : Nat.ofDigitChars 10 ds (d.toNat - '0'.toNat) = n := by
        rw [← Nat.ofDigitChars_toDigits (b := 10) (n := n) (by decide) (by decide), hlist,
          Nat.ofDigitChars_cons, Nat.mul_zero, Nat.zero_add]
      refine ⟨⟨.integerOverflow, s.pos⟩, ?_⟩
      rw [List.cons_append, foldlM_step ((step_code hs).trans (code_digit hds.1)),
        foldlM_number rfl hds.2, hback, List.foldlM_cons, feed, step]
      simp only [hdigit, hline, Bool.false_eq_true, if_false, endToken, Int.not_le.mpr hn]
      rfl

/-! ### Strings -/

variable {quote : Char}

/-- A hexadecimal digit. -/
theorem hexDigit_reads (hquote : quote ∈ quotes) {n : Nat} (hn : n < 16) :
    ReadsIn quote [Nat.digitChar n] [Nat.digitChar n] := by
  have hall : ∀ n < 16, Nat.digitChar n ∉ '\n' :: '\\' :: quotes := by decide
  have hdigit := hall n hn
  simp only [List.mem_cons, not_or] at hdigit
  exact .itself hdigit.1 hdigit.2.1 fun heq => hdigit.2.2 (heq ▸ hquote)

/-- A written character. -/
theorem writeChar_reads (hquote : quote ∈ quotes) (c : Char) :
    ReadsIn quote (Value.writeChar quote c) (readChar c) := by
  unfold Value.writeChar
  split
  · exact .escape (by decide)
  · exact .escape (by decide)
  · exact .escape (by decide)
  · exact .escape (by decide)
  next hbackslash hline hreturn htab =>
    split
    next heq =>
      obtain rfl | rfl : c = '\'' ∨ c = '"' := by simpa [heq, quotes] using hquote
      · exact .escape (by decide)
      · exact .escape (by decide)
    next hne =>
      have hunreadable : isUnreadable c = Text.isControl c := by
        simp only [isUnreadable, List.contains_eq_mem, Bool.and_eq_left_iff_imp]
        simpa using fun _ => ⟨hline, hreturn, htab⟩
      rw [readChar, hunreadable]
      split
      next hcontrol =>
        -- no escape is meant by an `x`, so it stands for itself, and so do the digits
        have hlt : c.toNat < 256 := by
          simp [Text.isControl] at hcontrol
          omega
        exact (ReadsIn.escape (c := 'x') (by decide)).append
          ((hexDigit_reads hquote (by omega)).append
            (hexDigit_reads hquote (Nat.mod_lt _ (by decide))))
      next => exact .itself hline hbackslash hne

theorem quoteFor_mem (cs : List Char) : Value.quoteFor cs ∈ quotes := by
  unfold Value.quoteFor
  split <;> decide

/-- A written string. -/
theorem Lexes.string (text : String) :
    Lexes (Value.writeString text).toList true [.str (readString text)] where
  reads _ s c cs hs hc := by
    have hquote := quoteFor_mem text.toList
    generalize hq : Value.quoteFor text.toList = quote at hquote
    have hwritten : (Value.writeString text).toList
        = quote :: text.toList.flatMap (Value.writeChar quote) ++ [quote] :=
      hq ▸ String.toList_ofList
    have hchars := ReadsIn.flatMap (writeChar_reads hquote) text.toList
    rw [← toList_readString] at hchars
    have hinline : '\n' ∉ quote :: text.toList.flatMap (Value.writeChar quote) ++ [quote] := by
      have hline : '\n' ≠ quote := by
        rintro rfl
        exact absurd hquote (by decide)
      simp [hline, hchars.inline]
    rw [hwritten]
    refine ⟨_, foldlM_literal hquote hs hchars, .one ?_⟩
    rw [Pos.foldl_next_line, List.count_eq_zero.mpr hinline, Nat.add_zero]
  fails := nofun

/-! ### Values -/

theorem lexes_word {text : String} (htext : isIdentifier text = true) :
    Lexes text.toList true [.word text] :=
  Lexes.lexeme (l := .word text) htext

theorem toInt_neg {i : Int64} (hi : i ≠ Int64.minValue) : (-i).toInt = -i.toInt := by
  have hlow := i.le_toInt
  have hhigh := i.toInt_lt
  have hne : i.toInt ≠ Int64.minValue.toInt := fun h => hi (Int64.toInt_inj.mp h)
  rw [Int64.toInt_minValue] at hne
  rw [Int64.toInt_neg]
  exact Int.bmod_eq_of_le (by omega) (by omega)

theorem toString_of_nonneg {n : Int} (hn : 0 ≤ n) :
    (toString n).toList = Nat.toDigits 10 n.toNat := by
  obtain ⟨k, rfl⟩ := Int.eq_ofNat_of_zero_le hn
  exact String.toList_ofList

theorem toString_of_neg {n : Int} (hn : n < 0) :
    (toString n).toList = '-' :: Nat.toDigits 10 (-n).toNat := by
  obtain ⟨k, rfl⟩ := Int.eq_negSucc_of_lt_zero hn
  rw [Int.toString_eq_repr]
  simp [Int.repr]

/-- A written number. -/
theorem lexes_int (i : Int64) :
    Lexes (toString i.toInt).toList (i != Int64.minValue) (Value.lexemes (.int i)) := by
  rw [Value.lexemes]
  split
  next hi =>
    have hne : (i != Int64.minValue) = true := by
      rw [bne_iff_ne]
      rintro rfl
      exact absurd hi (by decide)
    rw [toString_of_nonneg hi, hne]
    exact .lexeme (l := .int i) (decide_eq_true hi)
  next hi =>
    rw [toString_of_neg (Int.not_le.mp hi)]
    cases hmin : i != Int64.minValue with
    | true =>
      rw [bne_iff_ne] at hmin
      have hneg := toInt_neg hmin
      have hdigits := Lexes.lexeme (l := .int (-i)) (decide_eq_true (by omega))
      rw [Lexeme.spelling, hneg] at hdigits
      exact hdigits.cons (l := .symbol .minus) rfl rfl
    | false =>
      obtain rfl : i = Int64.minValue := by simpa using hmin
      exact (lexes_large (by decide) _).cons (l := .symbol .minus) rfl rfl

namespace Lexes

/-- A symbol in front of a text. -/
theorem symbol (symbol : Symbol) (hclosed : (Lexeme.symbol symbol).closed = true)
    (h : Lexes chars fits ls) :
    Lexes (symbol.text.toList ++ chars) fits (.symbol symbol :: ls) :=
  h.cons (l := .symbol symbol) rfl hclosed

/-- A text in parentheses. -/
theorem parens (h : Lexes chars fits ls) :
    Lexes ('(' :: chars ++ [')']) fits (.symbol .openParen :: ls ++ [.symbol .closeParen]) := by
  have hback := h.append (d := ')') (by decide) (.symbol .closeParen rfl .nil)
  rw [Bool.and_true] at hback
  exact hback.symbol .openParen rfl

/-- A text in square brackets. -/
theorem squares (h : Lexes chars fits ls) :
    Lexes ('[' :: chars ++ [']']) fits (.symbol .openBracket :: ls ++ [.symbol .closeBracket]) := by
  have hback := h.append (d := ']') (by decide) (.symbol .closeBracket rfl .nil)
  rw [Bool.and_true] at hback
  exact hback.symbol .openBracket rfl

/-- A text with a comma behind it. -/
theorem comma (h : Lexes chars fits ls) :
    Lexes (chars ++ [',']) fits (ls ++ [.symbol .comma]) := by
  have hback := h.append (d := ',') (by decide) (.symbol .comma rfl .nil)
  rwa [Bool.and_true] at hback

/-- Two texts with a comma and a blank between them. -/
theorem between (h : Lexes chars fits ls) (h' : Lexes more fits' ks) :
    Lexes (chars ++ ',' :: ' ' :: more) (fits && fits') (ls ++ .symbol .comma :: ks) :=
  h.append (by decide) (h'.blank.symbol .comma rfl)

end Lexes

/-- Written values with a comma and a blank between them. -/
def writtenItems (vs : List Value) : List Char :=
  [',', ' '].intercalate ((Value.reprs vs).map String.toList)

theorem toList_brackets (front back : String) (vs : List Value) :
    (front ++ ", ".intercalate (Value.reprs vs) ++ back).toList
      = front.toList ++ writtenItems vs ++ back.toList := by
  rw [String.toList_append, String.toList_append, String.toList_intercalate]
  rfl

mutual

/-- **What is written for a value is read as its lexemes**, unless a number in it has no literal. -/
theorem lexes_value : ∀ v : Value, (∀ w ∈ v.leaves, w.isDatum = true) →
    Lexes v.repr.toList (v.leaves.all Value.hasLiteral) v.lexemes
  | .none, _ => lexes_word (by decide)
  | .bool b, _ => by cases b <;> exact lexes_word (by decide)
  | .int i, _ => by
    have hint := lexes_int i
    rwa [← Bool.and_true (_ != _)] at hint
  | .str text, _ => Lexes.string text
  | .tuple [v], h => by
    have hleaves : (Value.tuple [v]).leaves = v.leaves := by simp [Value.leaves, allLeaves]
    have hv := (lexes_value v (hleaves ▸ h)).comma.parens
    rw [Value.repr_single, Value.lexemes, hleaves]
    simpa using hv
  | .tuple [], h => by
    rw [Value.repr_tuple (by simp), Value.lexemes_tuple (by simp), toList_brackets]
    exact (lexes_items [] h).parens
  | .tuple (v :: w :: vs), h => by
    rw [Value.repr_tuple (by simp), Value.lexemes_tuple (by simp), toList_brackets]
    exact (lexes_items (v :: w :: vs) h).parens
  | .list items, h => by
    rw [Value.repr_list, Value.lexemes, toList_brackets]
    exact (lexes_items items h).squares
  | .builtin _, h | .method .., h => by simp [Value.leaves, Value.isDatum] at h

theorem lexes_items : ∀ vs : List Value, (∀ w ∈ allLeaves vs, w.isDatum = true) →
    Lexes (writtenItems vs) ((allLeaves vs).all Value.hasLiteral) (commaBetween (valueLexemes vs))
  | [], _ => Lexes.nil
  | [v], h => by
    have hleaves : allLeaves [v] = v.leaves := by simp [allLeaves]
    have hv := lexes_value v (hleaves ▸ h)
    rw [hleaves]
    simpa [writtenItems, commaBetween, valueLexemes, Value.reprs_cons, Value.reprs_nil] using hv
  | v :: w :: vs, h => by
    rw [allLeaves, List.forall_mem_append] at h
    have hv := (lexes_value v h.1).between (lexes_items (w :: vs) h.2)
    rw [allLeaves, List.all_append]
    simpa [writtenItems, commaBetween, valueLexemes, Value.reprs_cons, List.intercalate_cons_cons]
      using hv

end

end Tilde.Lexer.State

/-!
## The tokens of a text on one line

A text without a line end at its end is read like the line that it is with one: where the line end
would end a line, the text may end.
-/

namespace Tilde

namespace Lexer.State

variable {s t u : State}

/-- A line end that ends a line leaves no literal open, and the line does not go on. -/
theorem mayEnd_of_margin (hu : s.step '\n' = .ok u) (hmode : u.mode = .margin 0) :
    s.mode.mayEnd = true := by
  cases hm : s.mode with
  | literal l =>
    rw [step, hm] at hu
    dsimp only at hu
    unfold literal at hu
    split at hu
    · cases hu
      cases hmode
    · cases hu
  | continuation p b =>
    rw [step, hm] at hu
    cases hu
    cases hmode
  | _ => rfl

/-- A line end that ends a line ends the token that is being read, and no bracket is open then. -/
theorem endToken_of_margin (hu : s.step '\n' = .ok u) (hmode : u.mode = .margin 0)
    (hdepth : u.depth = 0) : ∃ s', s.endToken = .ok s' ∧ s'.depth = 0 := by
  have hmay := mayEnd_of_margin hu hmode
  cases hstart : s.mode.startsLine with
  | true =>
    -- the line end changes the mode alone, and no token is being read
    cases hm : s.mode with
    | margin width =>
      rw [step, hm] at hu
      cases hu
      exact ⟨s, by rw [endToken, hm], hdepth⟩
    | comment alone =>
      cases alone with
      | false => rw [hm] at hstart; cases hstart
      | true =>
        rw [step, hm] at hu
        cases hu
        exact ⟨s, by rw [endToken, hm], hdepth⟩
    | _ => rw [hm] at hstart; cases hstart
  | false =>
    rw [step_newline hstart (fun l hm => by rw [hm] at hmay; cases hmay)
      (fun p b hm => by rw [hm] at hmay; cases hmay)] at hu
    cases hend : s.endToken with
    | error e => rw [hend] at hu; cases hu
    | ok s' =>
      rw [hend] at hu
      refine ⟨s', rfl, ?_⟩
      by_contra hne
      -- within brackets a line end is a blank
      have hu : s'.code '\n' = .ok u := hu
      simp [code, hne] at hu
      subst hu
      cases hmode

/-- Where a line end ends a line, the text may end. -/
theorem finish_of_feed (h : s.feed '\n' = .ok t) (hmode : t.mode = .margin 0)
    (hdepth : t.depth = 0) : ∃ ts, s.finish = .ok ts := by
  obtain ⟨u, hu, rfl⟩ := feed_ok_iff.mp h
  obtain ⟨s', hend, hclosed⟩ := endToken_of_margin hu hmode hdepth
  exact ⟨_, finish_eq_ok.mpr ⟨mayEnd_of_margin hu hmode, s', hend, hclosed, rfl⟩⟩

end Lexer.State

open Lexer.State in
/-- **A text on one line**, whose tokens are read up to where a line end would stand. -/
theorem tokenize_line {source : String} {fits : Bool} {ls : List Lexeme}
    (h : Lexes source.toList fits ls) (hfront : ∃ c cs, source.toList = c :: cs ∧ c ∉ blanks) :
    (fits = true → Neat ls → ls ≠ [] →
      ∃ ts, tokenize source = .ok ts ∧ Moved 0 (layout 0 1 [⟨0, ls⟩]) ts)
    ∧ (fits = false → ∃ e, tokenize source = .error e) := by
  obtain ⟨c, cs, hsource, hc⟩ := hfront
  -- no blank stands in front, so the margin is empty and code begins
  have hstart : (source.toList ++ ['\n']).foldlM Lexer.State.feed {}
      = (source.toList ++ ['\n']).foldlM Lexer.State.feed { mode := .code } := by
    rw [hsource, List.cons_append]
    exact foldlM_applied rfl hc rfl rfl rfl
  have hcapped : Lexer.State.Capped {} := fun _ _ h => by cases h
  constructor
  · intro hfits hneat hne
    obtain ⟨t, ht, hwrote⟩ := h.reads hfits { mode := .code } '\n' [] rfl (by decide)
    obtain ⟨us, htokens, hmoved⟩ := hwrote.tokens
    rw [hwrote.newline hneat hne rfl, ← hstart] at ht
    obtain ⟨s, hs, hline⟩ := foldlM_append_ok.mp ht
    obtain ⟨_, hfeed, ⟨⟩⟩ := foldlM_cons_ok.mp hline
    -- the tokens in front of the end are the same with the line end and without it
    obtain ⟨ts, hts⟩ := finish_of_feed hfeed rfl (hwrote.depth.trans (hneat.closed 0))
    obtain ⟨-, pos, rfl⟩ := finish_of_newline (foldlM_adds hcapped hs).2 hfeed hts
    refine ⟨_, tokenize_ok_iff.mpr ⟨s, hs, hts⟩, ?_⟩
    rw [layout_line, htokens, hwrote.indents, List.append_nil, List.reverse_cons,
      List.reverse_reverse, List.append_assoc]
    exact List.rel_append hmoved (.cons (layoutToken_moved rfl t.pos)
      (.cons (layoutToken_moved rfl pos) .nil))
  · intro hfits
    obtain ⟨e, he⟩ := h.fails hfits { mode := .code } '\n' [] rfl (by decide)
    rw [← hstart] at he
    cases htokenize : tokenize source with
    | error e => exact ⟨e, rfl⟩
    | ok ts =>
      -- a text that may end may go on with a line end
      obtain ⟨s, hs, hts⟩ := tokenize_ok_iff.mp htokenize
      obtain ⟨t, -, hfeed, -⟩ := feed_newline_of_finish (foldlM_adds hcapped hs).2 hts
      have hrun : (source.toList ++ ['\n']).foldlM Lexer.State.feed {} = .ok t :=
        foldlM_append_ok.mpr ⟨s, hs, foldlM_cons_ok.mpr ⟨t, hfeed, rfl⟩⟩
      cases he.symm.trans hrun

end Tilde
