import Tilde.Proofs.Lexer.Step

/-!
# What tokens hold

A word consists of word characters, so in particular no word holds a dollar sign. The text of a
field of an interpolated string is shorter than the text that holds it, so that reading the fields
of fields comes to an end.

Both follow from one invariant of the lexer, kept by every character it reads. Besides the tokens
it speaks of the word or the literal being read: a literal holds fewer characters than have been
read, its opening quote being one of them.
-/

namespace Tilde

/-! ## The fields of a body -/

namespace Template

variable {pieces out : List Piece} {cs : List Char}

/-- Every field among the pieces has a text of at most `n` characters. -/
def FieldsWithin (n : Nat) (pieces : List Piece) : Prop :=
  ∀ source spec, Piece.field source spec ∈ pieces → source.length ≤ n

theorem fieldsWithin_flush {n : Nat} {text : List Char} (h : FieldsWithin n pieces) :
    FieldsWithin n (flush text pieces) := by
  unfold flush
  split
  · exact h
  · intro source spec hmem
    rcases List.mem_cons.mp hmem with heq | hmem
    · cases heq
    · exact h source spec hmem

theorem Field.length_keep (f : Field) (c : Char) :
    (f.keep c).source.length ≤ f.source.length + 1 := by
  unfold Field.keep
  split <;> simp

/-- A character adds at most itself to the text of a field. -/
theorem Field.length_feed (f : Field) (c : Char) :
    (f.feed c).source.length ≤ f.source.length + 1 := by
  unfold Field.feed
  split
  · exact Field.length_keep _ c
  · split
    · simp
    · repeat' split
      all_goals exact Field.length_keep _ c

theorem Field.close_ok {f : Field} {piece : Piece} (h : f.close = .ok piece) :
    ∃ spec, piece = .field (String.ofList f.source.reverse) spec := by
  unfold Field.close at h
  split at h
  · cases h
  · cases h
    exact ⟨_, rfl⟩

/-- The characters of the field being read, if there is one. -/
def Reading.pending : Reading → Nat
  | .literal _ => 0
  | .field f => f.source.length

/-- Reading on makes no field longer than what was pending and what was left to read. -/
theorem read_fieldsWithin {n : Nat} (r : Reading) (h : read pieces r cs = .ok out)
    (hpieces : FieldsWithin n pieces) (hlen : r.pending + cs.length ≤ n) :
    FieldsWithin n out := by
  fun_induction read pieces r cs with
  | case1 pieces text rest ih | case2 pieces text rest ih =>
    exact ih h hpieces (by simp [Reading.pending] at hlen ⊢; omega)
  | case3 pieces text rest _ ih =>
    refine ih h (fieldsWithin_flush hpieces) ?_
    simp [Reading.pending] at hlen ⊢
    omega
  | case4 => cases h
  | case5 pieces text c rest _ _ _ _ ih =>
    exact ih h hpieces (by simp [Reading.pending] at hlen ⊢; omega)
  | case6 pieces text =>
    cases h
    intro source spec hmem
    exact fieldsWithin_flush hpieces source spec (List.mem_reverse.mp hmem)
  | case7 pieces f c rest _ piece hclose ih =>
    refine ih h (fun source spec hmem => ?_) (by simp [Reading.pending] at hlen ⊢; omega)
    obtain ⟨spec', rfl⟩ := Field.close_ok hclose
    rcases List.mem_cons.mp hmem with heq | hmem
    · cases heq
      simp [Reading.pending] at hlen ⊢
      omega
    · exact hpieces source spec hmem
  | case8 => cases h
  | case9 pieces f c rest _ ih =>
    refine ih h hpieces ?_
    have := Field.length_feed f c
    simp [Reading.pending] at hlen ⊢
    omega
  | case10 => cases h

/-- No field is longer than the body it stands in. -/
theorem split_fieldsWithin (h : split cs = .ok out) : FieldsWithin cs.length out :=
  read_fieldsWithin (.literal []) h (fun _ _ hmem => by cases hmem) (by simp [Reading.pending])

end Template

/-! ## The invariant of the lexer -/

/-- Whether a word consists of word characters. -/
def IsWord (word : String) : Prop := ∀ c ∈ word.toList, Lexer.isWordChar c = true

instance (word : String) : Decidable (IsWord word) :=
  List.decidableBAll _ word.toList

/-- What a token holds, in a text of which `n` characters have been read. -/
def Lexeme.Sound (n : Nat) : Lexeme → Prop
  | .word text => IsWord text
  | .template pieces => ∃ k, k < n ∧ Template.FieldsWithin k pieces
  | _ => True

theorem Lexeme.Sound.succ {n : Nat} {l : Lexeme} (h : l.Sound n) : l.Sound (n + 1) := by
  cases l with
  | template pieces =>
    obtain ⟨k, hk, hfields⟩ := h
    exact ⟨k, Nat.lt_succ_of_lt hk, hfields⟩
  | _ => exact h

namespace Lexer

theorem isWordChar_of_start {c : Char} (h : isWordStart c = true) : isWordChar c = true := by
  simp only [isWordStart, isWordChar, Text.isAlphanumeric, Bool.or_eq_true] at h ⊢
  rcases h with h | h
  · exact .inl (.inl h)
  · exact .inr h

/-- What the word or the literal being read holds after `n` characters. -/
def Mode.Sound (n : Nat) : Mode → Prop
  | .word _ text => ∀ c ∈ text, isWordChar c = true
  | .literal l => l.text.length + (if l.escaping then 1 else 0) < n
  | _ => True

theorem length_unescape (c : Char) : (unescape c).length ≤ 2 := by
  unfold unescape
  split <;> simp

/-- With one more character read, what is being read may be longer by one. -/
theorem Mode.Turns.sound {n : Nat} {pos : Pos} {c : Char} {m m' : Mode} (h : m.Turns pos c m')
    (hm : m.Sound n) : m'.Sound (n + 1) := by
  cases h with
  | word hword =>
    intro d hd
    rcases List.mem_cons.mp hd with rfl | hd
    · exact hword
    · exact hm d hd
  | interpolated => simp [Mode.Sound]
  | escaped hescaping =>
    -- an unknown escape keeps its backslash, which was read one character earlier
    have := length_unescape c
    simp [Mode.Sound, hescaping] at hm ⊢
    omega
  | escape hescaping | char hescaping =>
    simp [Mode.Sound, hescaping] at hm ⊢
    omega
  | _ => trivial

namespace State

/-- What a state holds after `n` characters. -/
structure Sound (n : Nat) (s : State) : Prop where
  tokens : ∀ t ∈ s.tokens, t.lexeme.Sound n
  mode : s.mode.Sound n

variable {n : Nat} {s t : State} {c : Char}

/-- Reading on keeps what the tokens hold. -/
theorem Sound.tokens_succ (h : s.Sound n) : ∀ t ∈ s.tokens, t.lexeme.Sound (n + 1) :=
  fun t ht => (h.tokens t ht).succ

theorem Sound.push (pos : Pos) {l : Lexeme} (h : ∀ t ∈ s.tokens, t.lexeme.Sound n)
    (hl : l.Sound n) : (s.push l pos).Sound n := by
  refine ⟨fun t ht => ?_, trivial⟩
  rcases List.mem_cons.mp ht with rfl | ht
  · exact hl
  · exact h t ht

theorem pushNewline_tokens_sound (pos : Pos) (h : ∀ t ∈ s.tokens, t.lexeme.Sound n) :
    ∀ t ∈ (s.pushNewline pos).tokens, t.lexeme.Sound n := by
  unfold pushNewline
  split
  · exact h
  · split
    · exact h
    · exact (Sound.push pos h (l := .newline) trivial).tokens

theorem closeIndents_sound {width : Nat} {pos : Pos} {indents : List Nat} {tokens : List Token}
    (h : ∀ t ∈ tokens, t.lexeme.Sound n) :
    ∀ t ∈ (closeIndents width pos indents tokens).2, t.lexeme.Sound n := by
  induction indents generalizing tokens with
  | nil => exact h
  | cons w ws ih =>
    rw [closeIndents]
    split
    · refine ih fun t ht => ?_
      rcases List.mem_cons.mp ht with rfl | ht
      · trivial
      · exact h t ht
    · exact h

theorem Indents.tokens_sound {width : Nat} (h : s.Indents width t)
    (hs : ∀ t ∈ s.tokens, t.lexeme.Sound n) : ∀ t' ∈ t.tokens, t'.lexeme.Sound n := by
  cases h with
  | opens => exact (Sound.push s.pos hs (l := .indent) trivial).tokens
  | closes _ hclose =>
    have hclosed : ∀ t' ∈ (closeIndents width s.pos s.indents s.tokens).2, t'.lexeme.Sound n :=
      closeIndents_sound hs
    rwa [hclose] at hclosed

/-- Between two tokens a character starts a new token or none. -/
theorem Begins.sound (h : s.Begins c t) (hs : ∀ t ∈ s.tokens, t.lexeme.Sound n) (hn : 0 < n) :
    t.Sound n := by
  cases h with
  | line => exact ⟨pushNewline_tokens_sound _ hs, trivial⟩
  | literal => exact ⟨hs, by simpa [Mode.Sound] using hn⟩
  | word hstart =>
    refine ⟨hs, fun d hd => ?_⟩
    rw [List.mem_singleton.mp hd]
    exact isWordChar_of_start hstart
  | symbol => exact ⟨(Sound.push s.pos hs (l := .symbol _) trivial).tokens, trivial⟩
  | _ => exact ⟨hs, trivial⟩

theorem Ends.tokens_sound (h : s.Ends t) (hs : s.Sound n) :
    ∀ t' ∈ t.tokens, t'.lexeme.Sound n := by
  cases h with
  | word hmode =>
    have hword := hs.mode
    rw [hmode] at hword
    exact (Sound.push _ hs.tokens (l := .word _) fun c hc => hword c (by simpa using hc)).tokens
  | number => exact (Sound.push _ hs.tokens (l := .int _) trivial).tokens
  | symbol => exact (Sound.push _ hs.tokens (l := .symbol _) trivial).tokens
  | none => exact hs.tokens

/-- **Every character keeps the invariant.** -/
theorem step_sound (h : s.Sound n) (hs : s.step c = .ok t) : t.Sound (n + 1) := by
  have htokens := h.tokens_succ
  cases step_goes hs with
  | turns hturns => exact ⟨htokens, hturns.sound h.mode⟩
  | begins _ hbegins => exact hbegins.sound htokens (Nat.succ_pos n)
  | first _ _ hindents hbegins =>
    exact hbegins.sound (hindents.tokens_sound htokens) (Nat.succ_pos n)
  | ends _ hends hbegins =>
    exact hbegins.sound (fun t ht => (hends.tokens_sound h t ht).succ) (Nat.succ_pos n)
  | pair => exact Sound.push _ htokens (l := .symbol _) trivial
  | string => exact Sound.push _ htokens (l := .str _) trivial
  | @template l pieces hmode hescaping _ _ hpieces =>
    have hl := h.mode
    rw [hmode] at hl
    -- the fields of a literal are shorter than its text
    have hlen : l.text.length < n + 1 := by simpa [Mode.Sound, hescaping] using Nat.lt_succ_of_lt hl
    refine Sound.push _ htokens (l := .template pieces) ⟨l.text.length, hlen, ?_⟩
    simpa using Template.split_fieldsWithin hpieces

theorem feed_sound (h : s.Sound n) (hs : s.feed c = .ok t) : t.Sound (n + 1) := by
  obtain ⟨u, hu, rfl⟩ := feed_ok_iff.mp hs
  have hsound := step_sound h hu
  exact ⟨hsound.tokens, hsound.mode⟩

theorem foldlM_sound {cs : List Char} (h : s.Sound n) (hs : cs.foldlM feed s = .ok t) :
    t.Sound (n + cs.length) :=
  foldlM_keeps (P := fun n s => s.Sound n) feed_sound h hs

/-- Ending the text adds tokens that hold nothing. -/
theorem finish_sound {ts : List Token} (h : s.Sound n) (hs : s.finish = .ok ts) :
    ∀ t ∈ ts, t.lexeme.Sound n := by
  obtain ⟨-, s', hend, -, rfl⟩ := finish_eq_ok.mp hs
  intro t ht
  have htokens := pushNewline_tokens_sound s'.pos ((endToken_ends hend).tokens_sound h)
  simp only [ending, List.mem_append, List.mem_reverse, List.mem_singleton] at ht
  rcases ht with ht | ht | rfl
  · exact htokens t ht
  · rw [List.eq_of_mem_replicate ht]
    trivial
  · trivial

end State
end Lexer

/-- What the tokens of a text hold. -/
theorem tokenize_sound {source : String} {ts : List Token} (h : tokenize source = .ok ts) :
    ∀ t ∈ ts, t.lexeme.Sound source.length := by
  obtain ⟨s, hs, hts⟩ := tokenize_ok_iff.mp h
  have hstart : Lexer.State.Sound 0 {} := ⟨fun _ ht => (by cases ht), trivial⟩
  have hsound := Lexer.State.foldlM_sound hstart hs
  rw [Nat.zero_add, String.length_toList] at hsound
  exact Lexer.State.finish_sound hsound hts

/-- No word holds a dollar sign. -/
theorem IsWord.no_dollar {word : String} (h : IsWord word) : '$' ∉ word.toList := fun hmem =>
  absurd (h '$' hmem) (by decide)

end Tilde
