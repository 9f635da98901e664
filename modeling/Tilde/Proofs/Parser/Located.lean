import Mathlib.Data.List.TakeWhile
import Tilde.Proofs.Lexer.WellLaid
import Tilde.Proofs.Parser.Blame

/-!
# Errors are located

Every error of a text stands at a place of the text: on one of its lines, at one of the characters
there or behind the last one. An error that more text could mend stands at the end, but for a
backslash that awaits its line end. An error in an interpolated string stands at the first character
of the outermost one, however deep its fault lies; the places within the text of a field are never
seen, nor is the end of that text taken for the end of the whole.

Three facts come together here: places count characters, the lexer reports its errors where their
faults are, and so does the parser, whose tokens the text spells.
-/

namespace Tilde

/-- The place is on a line of the text, at a character of the line or right behind it. -/
structure Pos.Within (source : List Char) (p : Pos) : Prop where
  line : 1 ≤ p.line ∧ p.line ≤ source.count '\n' + 1
  column : 1 ≤ p.column ∧ ∃ line, (source.splitOn '\n')[p.line - 1]? = some line
    ∧ p.column ≤ line.length + 1

/-- On a line of the text stands what is in front of a place since the last line end. -/
theorem exists_line (before rest : List Char) :
    ∃ line, ((before ++ rest).splitOn '\n')[before.count '\n']? = some line
      ∧ (before.reverse.takeWhile (· ≠ '\n')).length ≤ line.length := by
  induction before with
  | nil =>
    obtain ⟨line, lines, heq⟩ := List.exists_cons_of_ne_nil (List.splitOn_ne_nil '\n' rest)
    exact ⟨line, by rw [List.nil_append, heq]; rfl, Nat.zero_le _⟩
  | cons c cs ih =>
    obtain ⟨line, hline, hlen⟩ := ih
    rw [List.cons_append, List.splitOn_cons_eq_if_modifyHead, List.reverse_cons,
      List.takeWhile_append]
    -- a line end in front adds a line and leaves the others as they are
    by_cases hc : c = '\n'
    · refine ⟨line, by simpa [hc] using hline, ?_⟩
      split
      · next hall =>
        rw [List.takeWhile_cons, if_neg (by simpa using hc), List.append_nil, ← hall]
        exact hlen
      · exact hlen
    rw [if_neg (by simpa using hc), List.count_cons_of_ne hc, List.getElem?_modifyHead, hline]
    by_cases hfirst : cs.count '\n' = 0
    · -- the first line, which starts with the character
      rw [if_pos hfirst]
      refine ⟨c :: line, rfl, ?_⟩
      split
      · next hall =>
        rw [hall] at hlen
        rw [List.takeWhile_cons, if_pos (by simpa using hc), List.length_append]
        exact Nat.succ_le_succ hlen
      · exact Nat.le_succ_of_le hlen
    · -- a line further down, where a line end is in between
      rw [if_neg hfirst]
      refine ⟨line, rfl, ?_⟩
      rw [if_neg]
      · exact hlen
      · intro hall
        have hmem : '\n' ∈ cs.reverse :=
          List.mem_reverse.mpr (List.count_pos_iff.mp (Nat.pos_of_ne_zero hfirst))
        have heq := (List.takeWhile_prefix (l := cs.reverse) (· ≠ '\n')).eq_of_length hall
        have hne := List.takeWhile_eq_self_iff.mp heq '\n' hmem
        simp at hne

/-- **A place of a text** is on one of its lines. -/
theorem Pos.within_after (before rest : List Char) : (after before).Within (before ++ rest) := by
  refine ⟨⟨Nat.le_add_left .., ?_⟩, Nat.le_add_left .., ?_⟩
  · rw [List.count_append]
    exact Nat.succ_le_succ (Nat.le_add_right ..)
  · obtain ⟨line, hline, hlen⟩ := exists_line before rest
    exact ⟨line, hline, Nat.succ_le_succ hlen⟩

namespace SyntaxError

/-- Whether the error lies in an interpolated string: its body is malformed, or a field of it is no
expression. -/
def inTemplate : SyntaxError → Bool
  | lex ⟨.badTemplate _, _⟩ => true
  | lex _ => false
  | parse e => e.fault.inField

/-- A field of an interpolated string fails with the fault, and the string is a token of the text itself
that stands at the place. -/
def FieldFails (source : String) (fault : ParseFault) (pos : Pos) : Prop :=
  ∃ ts pieces, tokenize source = .ok ts ∧ ⟨.template pieces, pos⟩ ∈ ts
    ∧ ∃ text spec, .field text spec ∈ pieces
      ∧ Parser.fieldExpr source.length text = .error fault

/-- The error stands where its fault is in the text. -/
structure Located (source : String) (e : SyntaxError) : Prop where
  /-- It stands on a line of the text. -/
  within : e.pos.Within source.toList
  /-- If more text could mend it, it stands at the end of the text, or it is about a backslash. -/
  incomplete : e.isIncomplete = true → e.pos = .after source.toList
    ∨ ∃ pos, e = .lex ⟨.danglingContinuation, pos⟩
  /-- That backslash has nothing behind it but perhaps a carriage return. -/
  dangling : ∀ pos, e = .lex ⟨.danglingContinuation, pos⟩ → ∃ before, pos = .after before
    ∧ (source.toList = before ++ ['\\'] ∨ source.toList = before ++ ['\\', '\r'])
  /-- An error in an interpolated string stands at the letter in front of the quote, and no text
  behind it could mend it. -/
  template : e.inTemplate = true → e.isIncomplete = false ∧ ∃ before letter quote chars rest,
    source.toList = before ++ (letter :: quote :: chars ++ [quote]) ++ rest ∧ e.pos = .after before
      ∧ (letter = 'f' ∨ letter = 'F') ∧ Lexer.isQuote quote = true
      ∧ ∃ body, Denotes quote chars body
  /-- The string that it stands at is a token of the text itself, and its fault is that of a field of
  this string. -/
  field : ∀ fault pos, e = .parse ⟨fault, pos⟩ →
    (fault.inField = true ↔ FieldFails source fault pos)

end SyntaxError

/-! ## Errors of the lexer -/

theorem LexError.Faults.located {source : String} {e : LexError} (h : e.Faults source.toList) :
    (SyntaxError.lex e).Located source := by
  obtain ⟨fault, pos⟩ := e
  obtain ⟨before, rest, hsource, rfl, hat⟩ := h
  exact
    { within := hsource ▸ Pos.within_after before rest
      incomplete := by
        intro hincomplete
        cases fault with
        | danglingContinuation => exact .inr ⟨_, rfl⟩
        | unclosedBracket =>
          have hrest : rest = [] := hat
          rw [hsource, hrest, List.append_nil]
          exact .inl rfl
        | _ => cases hincomplete
      dangling := by
        intro pos heq
        cases heq
        refine ⟨before, rfl, ?_⟩
        rw [hsource]
        rcases hat with rfl | rfl
        · exact .inl rfl
        · exact .inr rfl
      template := by
        intro htemplate
        cases fault with
        | badTemplate fault =>
          obtain ⟨letter, quote, chars, body, more, hletter, hquote, rfl, hbody, -⟩ := hat
          refine ⟨rfl, before, letter, quote, chars, more, ?_, rfl, hletter, hquote, body, hbody⟩
          rw [hsource]
          simp
        | _ => cases htemplate
      field := nofun }

/-! ## Errors of the parser -/

namespace Parser

/-- What is wrong with the text of a field is told as a fault of the field. -/
theorem fieldExpr_inField {bound : Nat} {text : String} {fault : ParseFault}
    (h : fieldExpr (bound + 1) text = .error fault) : fault.inField = true := by
  rw [fieldExpr] at h
  split at h
  · cases h
    rfl
  · split at h <;> cases h
    rfl

end Parser

/-- The fields of a string are shorter than the text, so that the parser of a field is in its bound. -/
theorem SyntaxError.FieldFails.inField {source : String} {fault : ParseFault} {pos : Pos}
    (h : FieldFails source fault pos) : fault.inField = true := by
  obtain ⟨ts, pieces, hts, ht, text, spec, -, htext⟩ := h
  obtain ⟨k, hk, -⟩ := tokenize_sound hts _ ht
  obtain ⟨bound, hbound⟩ := Nat.exists_eq_succ_of_ne_zero (Nat.ne_of_gt (Nat.zero_lt_of_lt hk))
  rw [hbound] at htext
  exact Parser.fieldExpr_inField htext

/-- The place of a token is a place of the text. -/
theorem WellLaid.pos_eq {source : List Char} {ts : List Token} (h : WellLaid source ts) :
    ∀ t ∈ ts, ∃ before rest, source = before ++ rest ∧ t.pos = .after before := by
  intro t ht
  obtain ⟨body, line, n, rfl, hbody, hline⟩ := h.spelled
  rw [List.append_assoc, List.append_assoc] at ht
  rcases List.mem_append.mp ht with ht | ht
  · obtain ⟨before, text, rest, hsource, hpos, -⟩ := hbody.stands t ht
    exact ⟨before, text ++ rest, by rw [hsource, List.append_assoc], hpos⟩
  · refine ⟨source, [], (List.append_nil _).symm, ?_⟩
    rw [← List.append_assoc] at ht
    rcases List.mem_append.mp ht with ht | ht
    · exact (added_at_end hline t ht).1
    · rw [List.mem_singleton.mp ht]

theorem Parser.Blames.located {source : String} {ts : List Token} {e : ParseError}
    (hts : tokenize source = .ok ts)
    (h : Parser.Blames ⟨ts, .after source.toList, Parser.fieldExpr source.length⟩ e) :
    (SyntaxError.parse e).Located source := by
  have hlaid := Lexer.State.run_wellLaid hts
  have hwithin : ∀ t ∈ ts, t.pos.Within source.toList := by
    intro t ht
    obtain ⟨before, rest, hsource, hpos⟩ := hlaid.pos_eq t ht
    rw [hpos, hsource]
    exact Pos.within_after before rest
  cases h with
  | @token t fault ht hfault =>
    -- the fault of a token is neither one of a field nor the end of the text
    have hplain : fault ≠ .unexpectedEnd ∧ fault.inField = false := by
      simpa [ParseFault.isPlain] using hfault
    refine ⟨hwithin t ht, fun h => ?_, nofun, fun h => ?_, fun fault' pos heq => ?_⟩
    · exact absurd (beq_iff_eq.mp h) hplain.1
    · exact absurd (hplain.2.symm.trans h) nofun
    · cases heq
      exact ⟨fun h => absurd (hplain.2.symm.trans h) nofun, fun h => h.inField⟩
  | ending =>
    refine ⟨?_, fun _ => .inl rfl, nofun, nofun, fun fault' pos heq => ?_⟩
    · have hend := Pos.within_after source.toList []
      rwa [List.append_nil] at hend
    · cases heq
      exact ⟨nofun, fun h => h.inField⟩
  | @field pieces pos fault ht hfault =>
    obtain ⟨text, spec, hmem, htext⟩ := Parser.parts_error hfault
    have hfails : SyntaxError.FieldFails source fault pos :=
      ⟨ts, pieces, hts, ht, text, spec, hmem, htext⟩
    have hcomplete : (SyntaxError.parse ⟨fault, pos⟩).isIncomplete = false := by
      refine beq_eq_false_iff_ne.mpr ?_
      rintro rfl
      cases hfails.inField
    refine ⟨hwithin _ ht, fun h => ?_, nofun, fun _ => ⟨hcomplete, ?_⟩, fun fault' pos' heq => ?_⟩
    · exact absurd (hcomplete.symm.trans h) nofun
    · -- the text spells the string where its token stands
      rcases hlaid.stands _ ht with h | h | h | ⟨h, -⟩ | ⟨before, text, rest, hsource, hpos, hl⟩
      case inr.inr.inr.inr =>
        obtain ⟨letter, quote, chars, body, hletter, hquote, rfl, hbody, -⟩ := hl
        exact ⟨before, letter, quote, chars, rest, hsource, hpos, hletter, hquote, body, hbody⟩
      all_goals cases h
    · cases heq
      exact ⟨fun _ => hfails, fun h => h.inField⟩

/--
**Errors point into the text.** An error stands on a line of the text, at a character of the line or
right behind it. If more text could mend it, it stands at the end of the text; only a backslash that
awaits its line end is told by its own place, with nothing behind it but perhaps a carriage return.
An error in an interpolated string stands at the first character of that string, which is a token of
the text itself, and it is never taken for one that more text could mend.
-/
theorem parse_located {source : String} {mode : Mode} {e : SyntaxError}
    (h : parse source mode = .error e) : e.Located source := by
  unfold parse at h
  cases hts : tokenize source with
  | error lexError =>
    simp only [hts] at h
    cases h
    exact (tokenize_faults hts).located
  | ok ts =>
    simp only [hts] at h
    split at h
    · next parseError hparse =>
      cases h
      exact (Parser.programTokens_blames (Lexer.State.run_wellLaid hts).ended hparse).located hts
    · cases h

/-- A field that breaks off in a string within a string is reported where the outer string starts. -/
theorem parse_located_of_nested :
    ∃ e, parse "if x:\n y = f'\x7bf\"\x7ba \\\x7d\"\x7d'" .file = .error e
      ∧ e.Located "if x:\n y = f'\x7bf\"\x7ba \\\x7d\"\x7d'"
      ∧ e = .parse ⟨.field (.fieldTokens .danglingContinuation), ⟨2, 6⟩⟩ := by
  have hrun : (parse "if x:\n y = f'\x7bf\"\x7ba \\\x7d\"\x7d'" .file).map (fun _ => ())
      = .error (.parse ⟨.field (.fieldTokens .danglingContinuation), ⟨2, 6⟩⟩) := by
    decide +kernel
  cases herror : parse "if x:\n y = f'\x7bf\"\x7ba \\\x7d\"\x7d'" .file with
  | ok p =>
    rw [herror] at hrun
    cases hrun
  | error e =>
    rw [herror] at hrun
    cases hrun
    exact ⟨_, rfl, parse_located herror, rfl⟩

end Tilde
