import Mathlib.Data.List.Forall2
import Tilde.Expand
import Tilde.Proofs.Parser.Places
import Tilde.Proofs.Parser.Run
import Tilde.Proofs.Prefix.Cuts

/-!
# Lines that stand in another text

Programs that are moved down with their lines, and parsers that read the lines alike at both places.

## Programs that are moved down

The same program on lines further down in a text. Its shell literals are expanded alike there.
-/

namespace Tilde

mutual

/-- The statement, moved down by `k` lines. -/
def Stmt.moved (k : Nat) : Stmt → Stmt
  | .evaluate line e => .evaluate (line + k) e
  | .assign line target e => .assign (line + k) target e
  | .assert line test message => .assert (line + k) test message
  | .pass line => .pass (line + k)
  | .breakLoop line => .breakLoop (line + k)
  | .continueLoop line => .continueLoop (line + k)
  | .branch line test body orelse =>
    .branch (line + k) test (movedBody k body) (movedBody k orelse)
  | .whileLoop line test body => .whileLoop (line + k) test (movedBody k body)
  | .forEach line target items body => .forEach (line + k) target items (movedBody k body)
  | .attempt line body handlers =>
    .attempt (line + k) (movedBody k body) (movedHandlers k handlers)

/-- The statements of a block, moved down by `k` lines. -/
def movedBody (k : Nat) : List Stmt → List Stmt
  | [] => []
  | s :: ss => s.moved k :: movedBody k ss

/-- Handlers whose blocks are moved down by `k` lines. -/
def movedHandlers (k : Nat) : List Handler → List Handler
  | [] => []
  | .mk kind name body :: hs => .mk kind name (movedBody k body) :: movedHandlers k hs

end

/-- The handler, its block moved down by `k` lines. -/
def Handler.moved (k : Nat) : Handler → Handler
  | .mk kind name body => .mk kind name (movedBody k body)

theorem movedBody_eq_map (k : Nat) (ss : List Stmt) : movedBody k ss = ss.map (Stmt.moved k) := by
  induction ss with
  | nil => rfl
  | cons s ss ih => rw [movedBody, ih, List.map_cons]

theorem movedBody_reverse (k : Nat) (ss : List Stmt) :
    movedBody k ss.reverse = (movedBody k ss).reverse := by
  simp only [movedBody_eq_map, List.map_reverse]

theorem movedHandlers_eq_map (k : Nat) (hs : List Handler) :
    movedHandlers k hs = hs.map (Handler.moved k) := by
  induction hs with
  | nil => rfl
  | cons h hs ih => cases h; rw [movedHandlers, ih]; rfl

theorem movedHandlers_reverse (k : Nat) (hs : List Handler) :
    movedHandlers k hs.reverse = (movedHandlers k hs).reverse := by
  simp only [movedHandlers_eq_map, List.map_reverse]

theorem movedHandlers_isEmpty (k : Nat) (hs : List Handler) :
    (movedHandlers k hs).isEmpty = hs.isEmpty := by
  rw [movedHandlers_eq_map, List.isEmpty_map]

mutual

theorem Stmt.moved_zero : (s : Stmt) → s.moved 0 = s
  | .evaluate .. | .assign .. | .assert .. | .pass .. | .breakLoop .. | .continueLoop .. => rfl
  | .branch line test body orelse => by
    rw [Stmt.moved, movedBody_zero body, movedBody_zero orelse]
    rfl
  | .whileLoop line test body => by rw [Stmt.moved, movedBody_zero body]; rfl
  | .forEach line target items body => by rw [Stmt.moved, movedBody_zero body]; rfl
  | .attempt line body handlers => by
    rw [Stmt.moved, movedBody_zero body, movedHandlers_zero handlers]
    rfl

theorem movedBody_zero : (ss : List Stmt) → movedBody 0 ss = ss
  | [] => rfl
  | s :: ss => by rw [movedBody, Stmt.moved_zero s, movedBody_zero ss]

theorem movedHandlers_zero : (hs : List Handler) → movedHandlers 0 hs = hs
  | [] => rfl
  | .mk kind name body :: hs => by rw [movedHandlers, movedBody_zero body, movedHandlers_zero hs]

end

theorem Stmt.line_moved (k : Nat) (s : Stmt) : (s.moved k).line = s.line + k := by
  cases s <;> rfl

mutual

theorem Stmt.expand_moved (k : Nat) : (s : Stmt) → (s.moved k).expand = s.expand.moved k
  | .evaluate .. | .assign .. | .assert .. | .pass .. | .breakLoop .. | .continueLoop .. => rfl
  | .branch line test body orelse => by
    simp only [Stmt.moved, Stmt.expand, expandBody_moved k body, expandBody_moved k orelse]
  | .whileLoop line test body => by simp only [Stmt.moved, Stmt.expand, expandBody_moved k body]
  | .forEach line target items body => by
    simp only [Stmt.moved, Stmt.expand, expandBody_moved k body]
  | .attempt line body handlers => by
    simp only [Stmt.moved, Stmt.expand, expandBody_moved k body, expandHandlers_moved k handlers]

theorem expandBody_moved (k : Nat) :
    (ss : List Stmt) → expandBody (movedBody k ss) = movedBody k (expandBody ss)
  | [] => rfl
  | s :: ss => by simp only [movedBody, expandBody, Stmt.expand_moved k s, expandBody_moved k ss]

theorem expandHandlers_moved (k : Nat) :
    (hs : List Handler) → expandHandlers (movedHandlers k hs) = movedHandlers k (expandHandlers hs)
  | [] => rfl
  | .mk kind name body :: hs => by
    simp only [movedHandlers, expandHandlers, expandBody_moved k body, expandHandlers_moved k hs]

end

theorem expandBody_append (ss ss' : List Stmt) :
    expandBody (ss ++ ss') = expandBody ss ++ expandBody ss' := by
  induction ss with
  | nil => rfl
  | cons s ss ih => simp only [List.cons_append, expandBody, ih]

end Tilde

/-!
## Parsers on lines that stand in another text

Some lines that are a text of their own may stand further down in another text, with something
behind them. Their tokens are the same there, but for the lines they stand on. Where a parser
succeeds on the lines alone, `Carries` says that it succeeds on them in the other text too, reads as
much of them, and gives the same result, moved down.

The parsers of expressions look at nothing behind a line and at no place, so they carry over at
once. A parser of statements looks behind its last line, where a block may be followed by a further
alternative or by a handler; so what stands behind the lines must be no such thing.
-/

namespace Tilde

/-! ### Tokens that are moved down -/

/-- The second token is the first one in another text; one that a statement may start with stands
`k` lines further down there. -/
structure Token.Moved (k : Nat) (t u : Token) : Prop where
  lexeme : u.lexeme = t.lexeme
  line : t.lexeme.isInline = true → u.pos.line = t.pos.line + k

/-- The tokens, one by one, in another text. -/
abbrev Moved (k : Nat) : List Token → List Token → Prop := List.Forall₂ (Token.Moved k)

theorem Moved.lexemes {k : Nat} {ts us : List Token} (h : Moved k ts us) :
    lexemes us = lexemes ts := by
  induction h with
  | nil => rfl
  | cons ht _ ih => rw [lexemes_cons, lexemes_cons, ht.lexeme, ih]

theorem Moved.split {k : Nat} {used ts us : List Token} (h : Moved k (used ++ ts) us) :
    ∃ used' us', us = used' ++ us' ∧ Tilde.lexemes used' = Tilde.lexemes used ∧ Moved k ts us' := by
  induction used generalizing us with
  | nil => exact ⟨[], us, rfl, rfl, h⟩
  | cons t used ih =>
    cases h with
    | @cons _ u _ us ht htail =>
      obtain ⟨used', us', rfl, hused, hus⟩ := ih htail
      exact ⟨u :: used', us', rfl, by rw [lexemes_cons, lexemes_cons, ht.lexeme, hused], hus⟩

namespace Parser

variable {α β : Type} {T : Token → Prop} {cs us : List Token} {k b : Nat}

theorem Lines.suffix {cs' : List Token} (h : Lines T cs) (hsuffix : cs' <:+ cs) : Lines T cs' := by
  obtain ⟨used, rfl⟩ := hsuffix
  exact h.append

/-- The tokens go on with no alternative and no handler of a statement in front of them. -/
def Apart (Y : List Token) : Prop :=
  (frontToken Y).lexeme ≠ .word "elif" ∧ (frontToken Y).lexeme ≠ .word "else"
    ∧ (frontToken Y).lexeme ≠ .word "except"

/-- Wherever the first parser succeeds on `cs` as the whole of a text, it leaves fewer than `b` tokens
of `cs`, and the second parser gives the result, moved by `move`, on the tokens `us` of another text
that stand for `cs`, and leaves those that stand for what the first one leaves. -/
def Carries (k b : Nat) (move : α → α) (p q : Parser α) (cs us : List Token) : Prop :=
  ∀ n m a rest e, e.lexeme = .eof → cs.length ≤ m → p n (cs ++ [e]) = .ok (a, rest) →
    ∃ cs' us', cs' <:+ cs ∧ cs'.length < b ∧ rest = cs' ++ [e] ∧ Moved k cs' us'
      ∧ ∀ Y, Apart Y → q m (us ++ Y) = .ok (move a, us' ++ Y)

/-- Wherever the first parser succeeds on `cs` with something behind it, it reads tokens of `cs` that
an expression may hold, and the second parser gives the result, moved by `move`, on the tokens `us`
of another text that stand for `cs`, with anything behind them. -/
def CarriesInline (k : Nat) (P : α → List Token → Prop) (move : α → α) (p q : Parser α)
    (cs us : List Token) : Prop :=
  ∀ n m X a rest, cs.length ≤ m → p n (cs ++ X) = .ok (a, rest) →
    ∃ used cs' us', cs = used ++ cs' ∧ (∀ t ∈ used, t.lexeme.isInline = true)
      ∧ rest = cs' ++ X ∧ Moved k cs' us' ∧ P a cs' ∧ ∀ Y, q m (us ++ Y) = .ok (move a, us' ++ Y)

/-- A parser that does not look at places gives the same on tokens of another text. -/
theorem Placeless.moved {q : Parser α} {m : Nat} {a : α} {used used' cs' us' Y : List Token}
    (hq : Placeless q) (hused : lexemes used' = lexemes used) (hmoved : Moved k cs' us')
    (h : q m (used ++ cs' ++ Y) = .ok (a, cs' ++ Y)) :
    q m (used' ++ us' ++ Y) = .ok (a, us' ++ Y) := by
  obtain ⟨read, hread, hplace⟩ := hq m _ a _ h
  rw [List.append_assoc, List.append_cancel_right_eq] at hread
  subst hread
  rw [List.append_assoc]
  refine hplace used' _ hused ?_
  rw [lexemes_append, lexemes_append, hmoved.lexemes]

/-- Parsers of expressions are alike on the tokens of one text, and do not look at places. -/
theorem Alike.carries {P : α → List Token → Prop} {p q : Parser α} (hp : Alike P p q cs)
    (hq : Placeless q) (hmoved : Moved k cs us) : CarriesInline k P id p q cs us := by
  intro n m X a rest hm heq
  obtain ⟨used, cs', rfl, hused, rfl, ha, hrun⟩ := hp n m X a rest hm heq
  obtain ⟨used', us', rfl, hlexemes, hmoved'⟩ := hmoved.split
  exact ⟨used, cs', us', rfl, hused, rfl, hmoved', ha,
    fun Y => hq.moved hlexemes hmoved' (hrun Y)⟩

/-- The parser gives a result without reading a token. -/
def LooksOn (a : α) (p : Parser α) (n : Nat) (ts : List Token) : Prop := p n ts = .ok (a, ts)

theorem LooksOn.pure {a : α} {n : Nat} {ts : List Token} : LooksOn a (pure a) n ts := rfl

theorem LooksOn.bind {a : α} {c : β} {p : Parser α} {f : α → Parser β} {n : Nat} {ts : List Token}
    (hp : LooksOn a p n ts) (hf : LooksOn c (f a) n ts) : LooksOn c (p >>= f) n ts :=
  (bind_ok hp).trans hf

theorem LooksOn.peekToken {n : Nat} {ts : List Token} :
    LooksOn (frontToken ts) peekToken n ts := peekToken_apply

namespace Carries

variable {move : α → α} {move' : β → β} {p q : Parser α} {f g : α → Parser β}

theorem pure {a : α} (hmoved : Moved k cs us) (h : cs.length < b) :
    Carries k b move (pure a) (pure (move a)) cs us := by
  intro n m a' rest e _ _ heq
  cases heq
  exact ⟨cs, us, List.suffix_rfl, h, rfl, hmoved, fun _ _ => rfl⟩

/-- A parser that fails carries over to anything. -/
theorem of_fails (h : ∀ n e, e.lexeme = .eof → Fails p n (cs ++ [e])) :
    Carries k b move p q cs us :=
  fun n _ _ _ e he _ heq => absurd heq (h n e he).not_ok

theorem failHere {fault : ParseFault} : Carries k b move (failHere fault) q cs us :=
  of_fails fun _ _ _ => ⟨_, failHere_apply fault⟩

theorem unexpected {expected : String} : Carries k b move (unexpected expected) q cs us :=
  of_fails fun _ _ _ => .unexpected

theorem throw {e : ParseError} : Carries k b move (throw e) q cs us :=
  of_fails fun _ _ _ => ⟨e, rfl⟩

theorem ite {c : Prop} [Decidable c] {p' q' : Parser α} (ht : c → Carries k b move p q cs us)
    (he : ¬c → Carries k b move p' q' cs us) :
    Carries k b move (if c then p else p') (if c then q else q') cs us := by
  by_cases h : c
  · rw [if_pos h, if_pos h]; exact ht h
  · rw [if_neg h, if_neg h]; exact he h

/-- One parser after another. -/
theorem bind {j : Nat} (hp : Carries k j move p q cs us)
    (hf : ∀ a cs' us', cs' <:+ cs → Moved k cs' us' → cs'.length < j →
      Carries k b move' (f a) (g (move a)) cs' us') :
    Carries k b move' (p >>= f) (q >>= g) cs us := by
  intro n m c rest e he hm heq
  obtain ⟨a, mid, h1, h2⟩ := bind_ok_iff.mp heq
  obtain ⟨cs₁, us₁, hsuffix₁, hlt₁, rfl, hmoved₁, hq⟩ := hp n m a mid e he hm h1
  obtain ⟨cs₂, us₂, hsuffix₂, hlt₂, rfl, hmoved₂, hg⟩ :=
    hf a cs₁ us₁ hsuffix₁ hmoved₁ hlt₁ n m c rest e he (Nat.le_trans hsuffix₁.length_le hm) h2
  refine ⟨cs₂, us₂, hsuffix₂.trans hsuffix₁, hlt₂, rfl, hmoved₂, fun Y hY => ?_⟩
  rw [bind_ok (hq Y hY), hg Y hY]

/-- A parser whose result is put into a tree. -/
theorem map {h h' : α → β} (hp : Carries k b move p q cs us) (hh : ∀ a, h' (move a) = move' (h a)) :
    Carries k b move' (p >>= fun a => Pure.pure (h a)) (q >>= fun a => Pure.pure (h' a)) cs us :=
  bind hp fun a _ _ _ hmoved hlt => by rw [hh]; exact pure hmoved hlt

/-- A parser of a part of a line, and what follows it. -/
theorem after {P : α → List Token → Prop} (hp : CarriesInline k P move p q cs us)
    (hf : ∀ a used cs' us', cs = used ++ cs' → (∀ t ∈ used, t.lexeme.isInline = true) →
      Moved k cs' us' → P a cs' → Carries k b move' (f a) (g (move a)) cs' us') :
    Carries k b move' (p >>= f) (q >>= g) cs us := by
  intro n m c rest e he hm heq
  obtain ⟨a, mid, h1, h2⟩ := bind_ok_iff.mp heq
  obtain ⟨used, cs', us', rfl, hused, rfl, hmoved', ha, hq⟩ := hp n m [e] a mid hm h1
  have hm' : cs'.length ≤ m := by rw [List.length_append] at hm; omega
  obtain ⟨cs₂, us₂, hsuffix, hlt, rfl, hmoved₂, hg⟩ :=
    hf a used cs' us' rfl hused hmoved' ha n m c rest e he hm' h2
  refine ⟨cs₂, us₂, hsuffix.trans (List.suffix_append ..), hlt, rfl, hmoved₂, fun Y hY => ?_⟩
  rw [bind_ok (hq Y), hg Y hY]

/-- Both parsers look at the front token, which there is. -/
theorem peekToken {f g : Token → Parser β} {t u : Token}
    (h : Carries k b move' (f t) (g u) (t :: cs) (u :: us)) :
    Carries k b move' (peekToken >>= f) (peekToken >>= g) (t :: cs) (u :: us) := by
  intro n m c rest e he hm heq
  rw [bind_ok peekToken_apply] at heq
  obtain ⟨cs', us', hsuffix, hlt, hrest, hmoved, hg⟩ := h n m c rest e he hm heq
  refine ⟨cs', us', hsuffix, hlt, hrest, hmoved, fun Y hY => ?_⟩
  rw [bind_ok peekToken_apply]
  exact hg Y hY

theorem peek {f g : Lexeme → Parser β} {t u : Token} (ht : Token.Moved k t u)
    (h : Carries k b move' (f t.lexeme) (g t.lexeme) (t :: cs) (u :: us)) :
    Carries k b move' (peek >>= f) (peek >>= g) (t :: cs) (u :: us) :=
  peekToken (f := fun t => f t.lexeme) (g := fun u => g u.lexeme) (by rwa [ht.lexeme])

/-- Both parsers read a token. -/
theorem advance {f g : Unit → Parser β} {t u : Token} (h : Carries k b move' (f ()) (g ()) cs us) :
    Carries k b move' (advance >>= f) (advance >>= g) (t :: cs) (u :: us) := by
  intro n m c rest e he hm heq
  rw [bind_ok advance_apply] at heq
  have hm' : cs.length ≤ m := by rw [List.length_cons] at hm; omega
  obtain ⟨cs', us', hsuffix, hlt, hrest, hmoved, hg⟩ := h n m c rest e he hm' heq
  refine ⟨cs', us', hsuffix.trans (List.suffix_cons ..), hlt, hrest, hmoved, fun Y hY => ?_⟩
  rw [bind_ok advance_apply]
  exact hg Y hY

theorem accept {f g : Bool → Parser β} {t u : Token} {l : Lexeme} (ht : Token.Moved k t u)
    (hhit : t.lexeme = l → Carries k b move' (f true) (g true) cs us)
    (hmiss : t.lexeme ≠ l → Carries k b move' (f false) (g false) (t :: cs) (u :: us)) :
    Carries k b move' (accept l >>= f) (accept l >>= g) (t :: cs) (u :: us) := by
  simp only [Parser.accept, bind_assoc]
  refine peek ht ?_
  by_cases hl : t.lexeme = l
  · rw [if_pos hl]
    simp only [bind_assoc, pure_bind]
    exact advance (hhit hl)
  · rw [if_neg hl]
    simp only [pure_bind]
    exact hmiss hl

/-- Both parsers read the token that has to be there. -/
theorem expect {f g : Unit → Parser β} {t u : Token} {l : Lexeme} {expected : String}
    (ht : Token.Moved k t u) (h : t.lexeme = l → Carries k b move' (f ()) (g ()) cs us) :
    Carries k b move' (expect l expected >>= f) (expect l expected >>= g) (t :: cs) (u :: us) := by
  simp only [Parser.expect, bind_assoc]
  refine accept ht (fun hl => ?_) fun _ => of_fails fun _ _ _ => ?_
  · simp only [if_true, pure_bind]
    exact h hl
  · exact Fails.unexpected.bind

/-- The end of a line, where the text goes on. -/
theorem lineEnd {f g : Unit → Parser β} {t u : Token} (ht : Token.Moved k t u)
    (heof : t.lexeme ≠ .eof) (h : Carries k b move' (f ()) (g ()) cs us) :
    Carries k b move' (lineEnd >>= f) (lineEnd >>= g) (t :: cs) (u :: us) := by
  simp only [Parser.lineEnd, bind_assoc]
  refine peek ht ?_
  split
  · exact advance h
  · contradiction
  · exact of_fails fun _ _ _ => Fails.unexpected.bind

/-- Where the text ends, both parsers look on. -/
theorem atEnd {a : α} (h : 0 < b) (hp : ∀ n e, e.lexeme = .eof → LooksOn a p n [e])
    (hq : ∀ m Y, Apart Y → LooksOn (move a) q m Y) : Carries k b move p q [] [] := by
  intro n m a' rest e he _ heq
  rw [List.nil_append, show p n [e] = _ from hp n e he] at heq
  cases heq
  exact ⟨[], [], List.suffix_rfl, h, rfl, .nil, fun Y hY => hq m Y hY⟩

/-- A parser may know its bound. -/
theorem read {f g : Nat → Parser β}
    (h : ∀ n m, cs.length ≤ m → Carries k b move' (f n) (g m) cs us) :
    Carries k b move' (read >>= f) (read >>= g) cs us := by
  intro n m c rest e he hm heq
  rw [bind_ok read_apply] at heq
  obtain ⟨cs', us', hsuffix, hlt, hrest, hmoved, hg⟩ := h n m hm n m c rest e he hm heq
  refine ⟨cs', us', hsuffix, hlt, hrest, hmoved, fun Y hY => ?_⟩
  rw [bind_ok read_apply]
  exact hg Y hY

end Carries

end Parser
end Tilde
