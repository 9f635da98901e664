import Tilde.Proofs.Parser.Alike
import Tilde.Proofs.Prefix.Lexer

/-!
# Parsers on a text that is cut off

Of two texts that begin with the same lines, the second one ends there: its tokens are those of the
lines, and then one `dedent` for each open block and the end of the text. Where a parser succeeds on
the first text, `Cuts` says what becomes of it on the second one. Either it comes to its end within
the lines, and then gives the same on both; or the lines end before it does, and then `verdict` says
how it comes to the end of the second text, on the ground of the outline of the lines alone.

The relation composes along the text of a parser, as that of parsers that read expressions does.
-/

namespace Tilde.Parser

variable {α β : Type} {T : Token → Prop} {cs : List Token} {pos : Pos}

/-! ## Lines -/

/-- The tokens of some whole lines, each of which satisfies `T`. -/
structure Lines (T : Token → Prop) (cs : List Token) : Prop where
  capped : ∀ t ∈ cs.getLast?, t.lexeme.isLayout = true
  tokens : ∀ t ∈ cs, T t
  unended : ∀ t ∈ cs, t.lexeme ≠ .eof

theorem Lines.tail {t : Token} (h : Lines T (t :: cs)) : Lines T cs := by
  refine ⟨fun u hu => h.capped u ?_, fun u hu => h.tokens u (List.mem_cons_of_mem t hu),
    fun u hu => h.unended u (List.mem_cons_of_mem t hu)⟩
  cases cs with
  | nil => cases hu
  | cons v vs => rwa [List.getLast?_cons_cons]

theorem Lines.append {used : List Token} (h : Lines T (used ++ cs)) : Lines T cs := by
  induction used with
  | nil => exact h
  | cons t used ih => exact ih h.tail

theorem isInline_of_layout {l : Lexeme} (h : l.isLayout = true) : l.isInline = false := by
  cases l <;> first | rfl | cases h

theorem Lines.fit (h : Lines T cs) (hne : cs ≠ []) : Fit T cs := by
  have ht : cs.getLast hne ∈ cs.getLast? := List.getLast?_eq_some_getLast hne
  exact ⟨⟨_, ht, isInline_of_layout (h.capped _ ht)⟩, h.tokens⟩

/-- A token that ends no line is not the last one. -/
theorem Lines.ne_nil {t : Token} (h : Lines T (t :: cs)) (ht : t.lexeme.isLayout = false) :
    cs ≠ [] := by
  rintro rfl
  rw [h.capped t rfl] at ht
  cases ht

/-! ## The outline of a line -/

/-- A token of an expression at the start of a line. -/
theorem between_next {o : Outline} {g : Bool} {l : Lexeme} (hl : l.isInline = true) :
    (o.between g).next l = o.inLine (l = .word "try") := by
  cases l with
  | symbol s => cases s <;> first | rfl | cases hl
  | _ => first | rfl | cases hl

theorem inLine_next {o : Outline} {g : Bool} {l : Lexeme} (hl : l.isInline = true) :
    (o.inLine g).next l = o.inLine g := by
  cases l with
  | symbol s => cases s <;> first | rfl | cases hl
  | _ => first | rfl | cases hl

/-- Tokens of an expression change nothing within a line. -/
theorem inLine_after {o : Outline} {g : Bool} {used : List Token}
    (h : ∀ t ∈ used, t.lexeme.isInline = true) : (o.inLine g).after used = o.inLine g := by
  induction used with
  | nil => rfl
  | cons t used ih =>
    rw [Outline.after_cons, inLine_next (h t (List.mem_cons_self ..))]
    exact ih fun t' ht' => h t' (List.mem_cons_of_mem t ht')

/-- A statement on the line of the head of its block. -/
theorem colon_after {o : Outline} {g : Bool} {used : List Token} (hne : used ≠ [])
    (h : ∀ t ∈ used, t.lexeme.isInline = true) :
    ((o.inLine g).next (.symbol .colon)).after used = o.inLine g := by
  obtain ⟨t, used, rfl⟩ := List.exists_cons_of_ne_nil hne
  have hnext : ((o.inLine g).next (.symbol .colon)).next t.lexeme = (o.inLine g).next t.lexeme := by
    have ht := h t (List.mem_cons_self ..)
    cases hl : t.lexeme <;> first | rfl | (rw [hl] at ht; cases ht)
  rw [Outline.after_cons, hnext, ← Outline.after_cons]
  exact inLine_after h

/-! ## The relation -/

/-- What a verdict says of the outcome of a parser. -/
def Meets (pos : Pos) : Verdict → Except ParseError (α × List Token) → Prop
  | .finished left, r => ∃ a, r = .ok (a, ending pos left)
  | .stuck atEnd, r => ∃ e, r = .error e ∧ (e.fault = .unexpectedEnd ↔ atEnd = true)

/-- The parser that may run as `q` on `cs` with anything behind it comes to its end within `cs`. -/
structure Whole (k : Nat) (start stop : Outline) (q : List Token → Except ParseError (α × List Token))
    (cs cs' : List Token) (a : α) : Prop where
  outline : ∃ used, cs = used ++ cs' ∧ start.after used = stop
  shorter : cs'.length < k
  ne_nil : cs' ≠ []
  run : ∀ Y, q (cs ++ Y) = .ok (a, cs' ++ Y)

/-- The list `cs` ends before the parser does. -/
def Cut (pos : Pos) (start stop : Outline) (q : List Token → Except ParseError (α × List Token))
    (cs : List Token) : Prop :=
  ∃ opened, (start.after cs).blocks = opened ++ stop.blocks
    ∧ (start.after cs).broken = stop.broken
    ∧ ∀ k, opened.length ≤ k → ∃ v, Meets pos v (q (cs ++ ending pos k))
      ∧ v.bind (verdict stop.owes []) = verdict (start.after cs).owes opened k

/-- The parser comes to its end within `cs`, with the result and the rest that are given, or it is
cut off. -/
def Course (pos : Pos) (k : Nat) (start stop : Outline)
    (q : List Token → Except ParseError (α × List Token)) (cs X : List Token) (a : α)
    (rest : List Token) : Prop :=
  (∃ cs', rest = cs' ++ X ∧ Whole k start stop q cs cs' a) ∨ Cut pos start stop q cs

theorem Course.prepend {u X rest : List Token} {k : Nat} {start stop : Outline} {a : α}
    {q q' : List Token → Except ParseError (α × List Token)}
    (hrun : ∀ Y, q (u ++ cs ++ Y) = q' (cs ++ Y))
    (h : Course pos k (start.after u) stop q' cs X a rest) :
    Course pos k start stop q (u ++ cs) X a rest := by
  rcases h with ⟨cs', hrest, ⟨used', hcs, houtline⟩, hshort, hne, hq⟩ | ⟨opened, hblocks, hbroken, hq⟩
  · refine .inl ⟨cs', hrest, ⟨u ++ used', ?_, ?_⟩, hshort, hne, fun Y => ?_⟩
    · rw [hcs, List.append_assoc]
    · rw [Outline.after_append, houtline]
    · rw [hrun, hq]
  · rw [← Outline.after_append] at hblocks hbroken hq
    exact .inr ⟨opened, hblocks, hbroken, fun k hk => by rw [hrun]; exact hq k hk⟩

/-- Wherever the first parser succeeds on `cs` with something behind it, the second parser either
gives the same on `cs` with anything behind it, and leaves a part of `cs` of fewer than `k` tokens,
or is cut off. `start` is the outline in front of `cs`, and `stop` the one where the parser ends. -/
def Cuts (pos : Pos) (k : Nat) (start stop : Outline) (p q : Parser α) (cs : List Token) : Prop :=
  ∀ n m X a rest, cs.length ≤ m → p n (cs ++ X) = .ok (a, rest) →
    Course pos k start stop (q m) cs X a rest

namespace Cuts

variable {k : Nat} {start stop mid : Outline} {p q : Parser α} {f g : α → Parser β}

/-- A parser that reads nothing more. -/
theorem pure {a : α} (h : cs.length < k) :
    Cuts pos k stop stop (pure a) (pure a) cs := by
  intro n m X a' rest _ heq
  rw [pure_apply] at heq
  cases heq
  by_cases hne : cs = []
  · -- where the lines end with the parser, it counts as cut off with nothing open
    subst hne
    exact .inr ⟨[], rfl, rfl, fun k _ => ⟨.finished k, ⟨a, rfl⟩, rfl⟩⟩
  · exact .inl ⟨cs, rfl, ⟨[], rfl, rfl⟩, h, hne, fun _ => rfl⟩

theorem failHere {fault : ParseFault} : Cuts pos k start stop (failHere fault) q cs := by
  intro n m X a rest _ heq
  rw [failHere_apply] at heq
  cases heq

theorem throw {e : ParseError} : Cuts pos k start stop (throw e) q cs := by
  intro n m X a rest _ heq
  rw [throw_apply] at heq
  cases heq

theorem unexpected {expected : String} : Cuts pos k start stop (unexpected expected) q cs := by
  intro n m X a rest _ heq
  rw [unexpected_apply] at heq
  cases heq

theorem ite {c : Prop} [Decidable c] {p' q' : Parser α} (ht : c → Cuts pos k start stop p q cs)
    (he : ¬c → Cuts pos k start stop p' q' cs) :
    Cuts pos k start stop (if c then p else p') (if c then q else q') cs := by
  by_cases h : c
  · rw [if_pos h, if_pos h]; exact ht h
  · rw [if_neg h, if_neg h]; exact he h

/-- A parser of an expression, and what follows it. -/
theorem after_alike {P : α → List Token → Prop} (hp : Alike P p q cs)
    (hf : ∀ a used cs', cs = used ++ cs' → (∀ t ∈ used, t.lexeme.isInline = true) → P a cs' →
      Cuts pos k (start.after used) stop (f a) (g a) cs') :
    Cuts pos k start stop (p >>= f) (q >>= g) cs := by
  intro n m X b rest hm heq
  obtain ⟨a, rest₁, h1, h2⟩ := bind_ok_iff.mp heq
  obtain ⟨used, cs', rfl, hused, rfl, ha, hq⟩ := hp n m X a rest₁ hm h1
  have hm' : cs'.length ≤ m := by rw [List.length_append] at hm; omega
  exact (hf a used cs' rfl hused ha n m X b rest hm' h2).prepend fun Y => bind_ok (hq Y)

/-- Both parsers see the same token at the front. -/
theorem peekToken {f g : Token → Parser β} {t : Token}
    (h : Cuts pos k start stop (f t) (g t) (t :: cs)) :
    Cuts pos k start stop (peekToken >>= f) (peekToken >>= g) (t :: cs) := by
  intro n m X b rest hm heq
  rw [bind_ok peekToken_apply] at heq
  exact (h n m X b rest hm heq).prepend (u := []) fun Y => bind_ok peekToken_apply

theorem peek {f g : Lexeme → Parser β} {t : Token}
    (h : Cuts pos k start stop (f t.lexeme) (g t.lexeme) (t :: cs)) :
    Cuts pos k start stop (peek >>= f) (peek >>= g) (t :: cs) := by
  intro n m X b rest hm heq
  rw [bind_ok peek_apply] at heq
  exact (h n m X b rest hm heq).prepend (u := []) fun Y => bind_ok peek_apply

/-- Both parsers read a token. -/
theorem advance {f g : Unit → Parser β} {t : Token}
    (h : Cuts pos k (start.next t.lexeme) stop (f ()) (g ()) cs) :
    Cuts pos k start stop (advance >>= f) (advance >>= g) (t :: cs) := by
  intro n m X b rest hm heq
  rw [bind_ok advance_apply] at heq
  have hm' : cs.length ≤ m := by rw [List.length_cons] at hm; omega
  exact (h n m X b rest hm' heq).prepend (u := [t]) fun Y => bind_ok advance_apply

theorem accept {f g : Bool → Parser β} {t : Token} {l : Lexeme}
    (hhit : t.lexeme = l → Cuts pos k (start.next l) stop (f true) (g true) cs)
    (hmiss : t.lexeme ≠ l → Cuts pos k start stop (f false) (g false) (t :: cs)) :
    Cuts pos k start stop (accept l >>= f) (accept l >>= g) (t :: cs) := by
  intro n m X b rest hm heq
  by_cases ht : t.lexeme = l
  · have hrun : ∀ n X, Parser.accept l n (t :: cs ++ X) = .ok (true, cs ++ X) :=
      fun n X => accept_hit ht
    rw [bind_ok (hrun n X)] at heq
    have hm' : cs.length ≤ m := by rw [List.length_cons] at hm; omega
    have hcourse := hhit ht n m X b rest hm' heq
    rw [← ht] at hcourse
    exact hcourse.prepend (u := [t]) fun Y => bind_ok (hrun m Y)
  · have hrun : ∀ n X, Parser.accept l n (t :: cs ++ X) = .ok (false, t :: cs ++ X) :=
      fun n X => accept_miss ht
    rw [bind_ok (hrun n X)] at heq
    exact (hmiss ht n m X b rest hm heq).prepend (u := []) fun Y => bind_ok (hrun m Y)

/-- Both parsers read the token that has to be there. -/
theorem expect {f g : Unit → Parser β} {t : Token} {l : Lexeme} {expected : String}
    (h : t.lexeme = l → Cuts pos k (start.next l) stop (f ()) (g ()) cs) :
    Cuts pos k start stop (expect l expected >>= f) (expect l expected >>= g) (t :: cs) := by
  intro n m X b rest hm heq
  obtain ⟨_, _, hexpect, _⟩ := bind_ok_iff.mp heq
  have ht : t.lexeme = l := (expect_ok hexpect).1
  have hrun : ∀ n X, Parser.expect l expected n (t :: cs ++ X) = .ok ((), cs ++ X) :=
    fun n X => expect_hit ht
  rw [bind_ok (hrun n X)] at heq
  have hm' : cs.length ≤ m := by rw [List.length_cons] at hm; omega
  have hcourse := h ht n m X b rest hm' heq
  rw [← ht] at hcourse
  exact hcourse.prepend (u := [t]) fun Y => bind_ok (hrun m Y)

/-- The end of a line, where the text goes on. -/
theorem lineEnd {f g : Unit → Parser β} {t : Token} (ht : t.lexeme ≠ .eof)
    (h : Cuts pos k (start.next .newline) stop (f ()) (g ()) cs) :
    Cuts pos k start stop (lineEnd >>= f) (lineEnd >>= g) (t :: cs) := by
  intro n m X b rest hm heq
  obtain ⟨_, _, hline, _⟩ := bind_ok_iff.mp heq
  have hl : t.lexeme = .newline := (lineEnd_ok hline).resolve_right ht
  have hrun : ∀ n X, Parser.lineEnd n (t :: cs ++ X) = .ok ((), cs ++ X) :=
    fun n X => lineEnd_hit hl
  rw [bind_ok (hrun n X)] at heq
  have hm' : cs.length ≤ m := by rw [List.length_cons] at hm; omega
  have hcourse := h n m X b rest hm' heq
  rw [← hl] at hcourse
  exact hcourse.prepend (u := [t]) fun Y => bind_ok (hrun m Y)

/-- A parser may know its bound. -/
theorem read {f g : Nat → Parser β}
    (h : ∀ n m, cs.length ≤ m → Cuts pos k start stop (f n) (g m) cs) :
    Cuts pos k start stop (read >>= f) (read >>= g) cs := by
  intro n m X b rest hm heq
  rw [bind_ok read_apply] at heq
  exact (h n m hm n m X b rest hm heq).prepend (u := []) fun Y => bind_ok read_apply

/-- Nothing is left of the lines, and something is due. -/
theorem stuck (howes : start.owes = true) (hblocks : start.blocks = stop.blocks)
    (hbroken : start.broken = stop.broken)
    (h : ∀ m k, Meets pos (.stuck (k = 0)) (q m (ending pos k))) :
    Cuts pos k start stop p q [] := by
  intro n m X a rest _ _
  refine .inr ⟨[], hblocks, hbroken, fun k _ => ⟨.stuck (k = 0), h m k, ?_⟩⟩
  rw [Outline.after_nil, howes, verdict_true]
  rfl

/-- One parser after another. The second one starts on what the first one leaves; where the first one
is cut off, it starts on the tokens that are left of the end. -/
theorem bind {j : Nat} (outer : List Bool) (hp : Cuts pos j start mid p q cs)
    (hblocks : mid.blocks = outer ++ stop.blocks) (hbroken : mid.broken = stop.broken)
    (hf : ∀ a used cs', cs = used ++ cs' → cs' ≠ [] → cs'.length < j →
      Cuts pos k mid stop (f a) (g a) cs')
    (hend : ∀ a m left, (mid.owes = false → outer.length ≤ left) →
      ∃ v, Meets pos v (g a m (ending pos left))
        ∧ v.bind (verdict stop.owes []) = verdict mid.owes outer left) :
    Cuts pos k start stop (p >>= f) (q >>= g) cs := by
  intro n m X b rest hm heq
  obtain ⟨a, rest₁, h1, h2⟩ := bind_ok_iff.mp heq
  rcases hp n m X a rest₁ hm h1 with ⟨cs', rfl, hwhole⟩ | ⟨opened, hopened, hbroken', hcut⟩
  · obtain ⟨⟨used, rfl, houtline⟩, hshort, hne, hq⟩ := hwhole
    have hm' : cs'.length ≤ m := by rw [List.length_append] at hm; omega
    have hcourse := hf a used cs' rfl hne hshort n m X b rest hm' h2
    rw [← houtline] at hcourse
    exact hcourse.prepend fun Y => bind_ok (hq Y)
  · -- the second parser starts on what the first one leaves of the end, if it finishes there
    refine .inr ⟨opened ++ outer, ?_, hbroken'.trans hbroken, fun k hk => ?_⟩
    · rw [hopened, hblocks, List.append_assoc]
    rw [List.length_append] at hk
    obtain ⟨v, hv, hverdict⟩ := hcut k (by omega)
    cases v with
    | stuck atEnd =>
      obtain ⟨e, hrun, he⟩ := hv
      refine ⟨.stuck atEnd, ⟨e, bind_error hrun, he⟩, ?_⟩
      rw [verdict_append, ← hverdict]
      rfl
    | finished left =>
      obtain ⟨a', hrun⟩ := hv
      have hverdict : verdict mid.owes [] left = verdict (start.after cs).owes opened k := hverdict
      have hleft : mid.owes = false → outer.length ≤ left := fun howes => by
        rw [howes] at hverdict
        have := verdict_finished hverdict.symm
        omega
      obtain ⟨w, hw, hstop⟩ := hend a' m left hleft
      refine ⟨w, by rw [bind_ok hrun]; exact hw, ?_⟩
      rw [hstop, verdict_append, ← hverdict, ← verdict_append, List.nil_append]

/-- A parser whose result is put into a tree. -/
theorem map {h : α → β} (hp : Cuts pos k start stop p q cs) :
    Cuts pos k start stop (p >>= fun a => Pure.pure (h a)) (q >>= fun a => Pure.pure (h a)) cs :=
  bind [] hp rfl rfl (fun _ _ _ _ _ hlt => pure hlt)
    fun a _ left _ => ⟨.finished left, ⟨h a, rfl⟩, rfl⟩

end Cuts

end Tilde.Parser
