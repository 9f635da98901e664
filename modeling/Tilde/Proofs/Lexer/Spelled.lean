import Tilde.Proofs.Printed.Spelling

/-!
# Where tokens stand

A text is made of the spellings of its tokens and of what stands between them, and each token has
the place of the first character of its spelling (`Spelled`). From this alone it follows that tokens
stand in the order of their places. A change of indentation is not spelled by any characters; it has
the place where it is noticed.

Places are said without the lexer: the place behind some characters is on the line after as many line
ends as there are among them, and in the column after as many characters as stand behind the last
line end.
-/

namespace Tilde

/-! ## Places -/

namespace Pos

variable {p q r : Pos} {c : Char} {cs ds : List Char}

/-- The place behind some characters at the start of a text. -/
def after (cs : List Char) : Pos :=
  ⟨cs.count '\n' + 1, (cs.reverse.takeWhile (· ≠ '\n')).length + 1⟩

/-- A place is not behind another one: it is on a line in front, or on the same line and in no column
behind. -/
instance : LE Pos := ⟨fun p q => p.line < q.line ∨ p.line = q.line ∧ p.column ≤ q.column⟩

theorem le_def : p ≤ q ↔ p.line < q.line ∨ p.line = q.line ∧ p.column ≤ q.column := Iff.rfl

theorem le_refl (p : Pos) : p ≤ p := .inr ⟨rfl, Nat.le_refl _⟩

theorem le_trans (h : p ≤ q) (h' : q ≤ r) : p ≤ r := by
  rw [le_def] at *
  omega

theorem le_next (p : Pos) (c : Char) : p ≤ p.next c := by
  unfold next
  split
  · exact .inl (Nat.lt_succ_self _)
  · exact .inr ⟨rfl, Nat.le_succ _⟩

/-- The place is moved on by every character. -/
theorem after_concat : after (cs ++ [c]) = (after cs).next c := by
  unfold after next
  rw [List.count_append, List.reverse_append, List.reverse_singleton, List.singleton_append,
    List.takeWhile_cons, List.count_singleton]
  by_cases hc : c = '\n'
  · simp [hc]
  · simp [hc]

theorem after_le_append : after cs ≤ after (cs ++ ds) := by
  induction ds generalizing cs with
  | nil => rw [List.append_nil]; exact le_refl _
  | cons d ds ih =>
    rw [List.append_cons]
    exact le_trans (after_concat ▸ le_next _ d) ih

end Pos

/-! ## Spellings -/

/-- Within quotes of a kind, the characters stand for the text. -/
inductive Denotes (quote : Char) : List Char → List Char → Prop where
  | nil : Denotes quote [] []
  | char {cs text : List Char} {c : Char} (h : Denotes quote cs text) (hline : c ≠ '\n')
    (hbackslash : c ≠ '\\') (hquote : c ≠ quote) : Denotes quote (cs ++ [c]) (text ++ [c])
  | escape {cs text : List Char} (c : Char) (h : Denotes quote cs text) :
    Denotes quote (cs ++ ['\\', c]) (text ++ (Lexer.unescape c).reverse)

/-- The characters are the digits of a number, perhaps with underscores behind the first digit. -/
inductive Numeral : List Char → Nat → Prop where
  | digit {d : Char} (hd : Text.isAsciiDigit d = true) : Numeral [d] (d.toNat - '0'.toNat)
  | more {cs : List Char} {n : Nat} {d : Char} (h : Numeral cs n) (hd : Text.isAsciiDigit d = true) :
    Numeral (cs ++ [d]) (10 * n + (d.toNat - '0'.toNat))
  | underscore {cs : List Char} {n : Nat} (h : Numeral cs n) : Numeral (cs ++ ['_']) n

/-- The characters that a token is written with. -/
def Lexeme.SpelledBy : Lexeme → List Char → Prop
  | .word name, text => isIdentifier name = true ∧ text = name.toList
  | .int value, text => ∃ n, Numeral text n ∧ n ≤ Int64.maxValue.toInt ∧ value = Int64.ofNat n
  | .str s, text => ∃ quote chars, Lexer.isQuote quote = true ∧ text = quote :: chars ++ [quote]
    ∧ Denotes quote chars s.toList
  | .template pieces, text => ∃ letter quote chars body, (letter = 'f' ∨ letter = 'F')
    ∧ Lexer.isQuote quote = true ∧ text = letter :: quote :: chars ++ [quote]
    ∧ Denotes quote chars body ∧ Template.split body = .ok pieces
  | .symbol s, text => text = s.text.toList
  | .newline, text => text = ['\n']
  | .indent, _ | .dedent, _ | .eof, _ => False

/-- Characters are made of the spellings of tokens and of what stands between them, and each token
stands where its spelling starts. A change of indentation stands between two characters. -/
inductive Spelled : List Char → List Token → Prop where
  | nil : Spelled [] []
  | gap {cs : List Char} {ts : List Token} (c : Char) (h : Spelled cs ts) : Spelled (cs ++ [c]) ts
  | token {cs text : List Char} {ts : List Token} {l : Lexeme} (h : Spelled cs ts)
    (hl : l.SpelledBy text) : Spelled (cs ++ text) (ts ++ [⟨l, .after cs⟩])
  | margin {cs : List Char} {ts : List Token} {l : Lexeme} (h : Spelled cs ts)
    (hl : l = .indent ∨ l = .dedent) : Spelled cs (ts ++ [⟨l, .after cs⟩])

namespace Spelled

variable {cs ds : List Char} {ts : List Token}

theorem gaps (h : Spelled cs ts) (ds : List Char) : Spelled (cs ++ ds) ts := by
  induction ds generalizing cs with
  | nil => rwa [List.append_nil]
  | cons d ds ih =>
    rw [List.append_cons]
    exact ih (h.gap d)

/-- A token stands where its spelling starts. -/
theorem stands (h : Spelled cs ts) :
    ∀ t ∈ ts, ∃ before text rest, cs = before ++ text ++ rest ∧ t.pos = .after before
      ∧ (t.lexeme.SpelledBy text ∨ text = [] ∧ (t.lexeme = .indent ∨ t.lexeme = .dedent)) := by
  induction h with
  | nil => nofun
  | gap c _ ih =>
    intro t ht
    obtain ⟨before, text, rest, rfl, hpos, htext⟩ := ih t ht
    exact ⟨before, text, rest ++ [c], List.append_assoc .., hpos, htext⟩
  | @token cs text ts l _ hl ih =>
    intro t ht
    rcases List.mem_append.mp ht with ht | ht
    · obtain ⟨before, text', rest, rfl, hpos, htext⟩ := ih t ht
      exact ⟨before, text', rest ++ text, List.append_assoc .., hpos, htext⟩
    · rw [List.mem_singleton.mp ht]
      exact ⟨cs, text, [], (List.append_nil _).symm, rfl, .inl hl⟩
  | @margin cs ts l _ hl ih =>
    intro t ht
    rcases List.mem_append.mp ht with ht | ht
    · exact ih t ht
    · rw [List.mem_singleton.mp ht]
      exact ⟨cs, [], [], by simp, rfl, .inr ⟨rfl, hl⟩⟩

/-- No token stands behind the characters. -/
theorem le_after (h : Spelled cs ts) : ∀ t ∈ ts, t.pos ≤ .after cs := by
  intro t ht
  obtain ⟨before, text, rest, rfl, hpos, -⟩ := h.stands t ht
  rw [hpos, List.append_assoc]
  exact Pos.after_le_append

/-- Tokens stand in the order of their places. -/
theorem ordered (h : Spelled cs ts) : ts.Pairwise fun t u => t.pos ≤ u.pos := by
  have hconcat : ∀ {cs : List Char} {ts : List Token} {l : Lexeme}, Spelled cs ts →
      ts.Pairwise (fun t u => t.pos ≤ u.pos) →
      (ts ++ [(⟨l, .after cs⟩ : Token)]).Pairwise fun t u => t.pos ≤ u.pos := by
    intro cs ts l hts ih
    refine List.pairwise_append.mpr ⟨ih, List.pairwise_singleton _ _, fun t ht u hu => ?_⟩
    rw [List.mem_singleton.mp hu]
    exact hts.le_after t ht
  induction h with
  | nil => exact .nil
  | gap _ _ ih => exact ih
  | token h _ ih => exact hconcat h ih
  | margin h _ ih => exact hconcat h ih

/-- The end of a text is not among the tokens that it spells. -/
theorem ne_eof (h : Spelled cs ts) : ∀ t ∈ ts, t.lexeme ≠ .eof := by
  intro t ht heof
  obtain ⟨before, text, rest, -, -, hl⟩ := h.stands t ht
  rw [heof] at hl
  rcases hl with hl | ⟨-, hl | hl⟩
  · exact hl
  · cases hl
  · cases hl

end Spelled
end Tilde
