import Tilde.Proofs.Lexer.Contents
import Tilde.Proofs.Parser.Run

/-!
# Expressions are read locally

What an expression parser gives depends on the tokens up to the first line end, change of
indentation or colon, and on nothing behind: an expression holds none of these tokens, and no parser
of an expression looks past one. Nor does it depend on the bounds that the parsers run under, as
long as they are great enough.

Both are said by one relation. Two parsers are alike on a list of tokens if, wherever the first one
succeeds on the list with something behind it, it reads tokens of the list only, and the second one
gives the same with anything else behind it. The relation composes along the text of a parser. The
first parser may run under any bounds; those of the second exceed the number of tokens.
-/

namespace Tilde

/-- Whether the token may stand in an expression. -/
def Lexeme.isInline : Lexeme → Bool
  | .newline | .indent | .dedent | .eof | .symbol .colon => false
  | _ => true

namespace Parser

variable {α β : Type} {T : Token → Prop} {cs : List Token}

/-- The list ends with a token that no expression holds, and each of its tokens satisfies `T`. -/
structure Fit (T : Token → Prop) (cs : List Token) : Prop where
  capped : ∃ t ∈ cs.getLast?, t.lexeme.isInline = false
  tokens : ∀ t ∈ cs, T t

theorem Fit.exists_cons (h : Fit T cs) : ∃ t cs₀, cs = t :: cs₀ := by
  obtain ⟨t, ht, _⟩ := h.capped
  cases cs with
  | nil => cases ht
  | cons t cs₀ => exact ⟨t, cs₀, rfl⟩

theorem Fit.tail {t : Token} (h : Fit T (t :: cs)) (ht : t.lexeme.isInline = true) :
    Fit T cs := by
  obtain ⟨last, hlast, hinline⟩ := h.capped
  cases cs with
  | nil =>
    have heq : t = last := by simpa using hlast
    rw [← heq, ht] at hinline
    cases hinline
  | cons u us =>
    rw [List.getLast?_cons_cons] at hlast
    exact ⟨⟨last, hlast, hinline⟩, fun t' ht' => h.tokens t' (List.mem_cons_of_mem t ht')⟩

theorem Fit.append {used : List Token} (h : Fit T (used ++ cs))
    (hused : ∀ t ∈ used, t.lexeme.isInline = true) : Fit T cs := by
  induction used with
  | nil => exact h
  | cons t ts ih =>
    exact ih (h.tail (hused t (List.mem_cons_self ..)))
      fun t' ht' => hused t' (List.mem_cons_of_mem t ht')

/-- Wherever the first parser succeeds on `cs` with something behind it, it reads tokens of `cs` that
an expression may hold, and the second parser gives the same with anything behind `cs`. -/
def Alike (P : α → List Token → Prop) (p q : Parser α) (cs : List Token) : Prop :=
  ∀ n m X a rest, cs.length ≤ m → p n (cs ++ X) = .ok (a, rest) →
    ∃ used cs', cs = used ++ cs' ∧ (∀ t ∈ used, t.lexeme.isInline = true) ∧ rest = cs' ++ X
      ∧ P a cs' ∧ ∀ Y, q m (cs ++ Y) = .ok (a, cs' ++ Y)

namespace Alike

variable {P : α → List Token → Prop} {Q : β → List Token → Prop}
  {p q : Parser α} {f g : α → Parser β}

theorem pure {a : α} (h : P a cs) : Alike P (pure a) (pure a) cs := by
  intro n m X a' rest _ heq
  rw [pure_apply] at heq
  cases heq
  exact ⟨[], cs, rfl, by simp, rfl, h, fun _ => rfl⟩

/-- Parsers that are alike on a list give the same on the list alone. -/
theorem ok {n m : Nat} {a : α} {rest : List Token} (h : Alike P p q cs) (hm : cs.length ≤ m)
    (hp : p n cs = .ok (a, rest)) : q m cs = .ok (a, rest) := by
  rw [← List.append_nil cs] at hp
  obtain ⟨_, cs', _, _, rfl, _, hq⟩ := h n m [] a rest hm hp
  simpa using hq []

/-- What is left is part of the list. -/
theorem below {k : Nat} (h : Alike P p q cs) (hk : cs.length < k) :
    Alike (fun _ rest => rest.length < k) p q cs := by
  intro n m X a rest hm heq
  obtain ⟨used, cs', rfl, hused, hrest, _, hq⟩ := h n m X a rest hm heq
  refine ⟨used, cs', rfl, hused, hrest, ?_, hq⟩
  rw [List.length_append] at hk
  omega

theorem failHere {fault : ParseFault} : Alike P (failHere fault) q cs := by
  intro n m X a rest _ heq
  rw [failHere_apply] at heq
  cases heq

theorem throw {e : ParseError} : Alike P (throw e) q cs := by
  intro n m X a rest _ heq
  rw [throw_apply] at heq
  cases heq

theorem unexpected {expected : String} : Alike P (unexpected expected) q cs := by
  intro n m X a rest _ heq
  rw [unexpected_apply] at heq
  cases heq

/-- One parser after another. What follows may rely on a fit list that is no longer than `cs`. -/
theorem bind (hfit : Fit T cs) (hp : Alike P p q cs)
    (hf : ∀ a cs', Fit T cs' → cs'.length ≤ cs.length → P a cs' → Alike Q (f a) (g a) cs') :
    Alike Q (p >>= f) (q >>= g) cs := by
  intro n m X b rest hm heq
  obtain ⟨a, mid, h1, h2⟩ := bind_ok_iff.mp heq
  obtain ⟨used, cs', rfl, hused, rfl, ha, hq⟩ := hp n m X a mid hm h1
  have hlen : cs'.length ≤ (used ++ cs').length := by simp
  obtain ⟨used', cs'', rfl, hused', rfl, hb, hg⟩ :=
    hf a cs' (hfit.append hused) hlen ha n m X b rest (Nat.le_trans hlen hm) h2
  refine ⟨used ++ used', cs'', by simp, ?_, rfl, hb, fun Y => ?_⟩
  · intro t ht
    rcases List.mem_append.mp ht with ht | ht
    · exact hused t ht
    · exact hused' t ht
  · rw [bind_ok (hq Y), hg Y]

theorem ite {c : Prop} [Decidable c] {p' q' : Parser α} (ht : c → Alike P p q cs)
    (he : ¬c → Alike P p' q' cs) :
    Alike P (if c then p else p') (if c then q else q') cs := by
  by_cases h : c
  · rw [if_pos h, if_pos h]; exact ht h
  · rw [if_neg h, if_neg h]; exact he h

/-- A parser may know its bound. -/
theorem read {f g : Nat → Parser β} (h : ∀ n m, cs.length ≤ m → Alike Q (f n) (g m) cs) :
    Alike Q (read >>= f) (read >>= g) cs := by
  intro n m X b rest hm heq
  rw [bind_ok read_apply] at heq
  obtain ⟨used, cs', hcs, hused, hrest, hb, hq⟩ := h n m hm n m X b rest hm heq
  refine ⟨used, cs', hcs, hused, hrest, hb, fun Y => ?_⟩
  rw [bind_ok read_apply]
  exact hq Y

/-- Both parsers see the same token at the front. -/
theorem peekToken {f g : Token → Parser β} (hfit : Fit T cs)
    (h : ∀ t cs₀, cs = t :: cs₀ → Alike Q (f t) (g t) cs) :
    Alike Q (peekToken >>= f) (peekToken >>= g) cs := by
  obtain ⟨t, cs₀, rfl⟩ := hfit.exists_cons
  intro n m X b rest hm heq
  rw [bind_ok peekToken_apply] at heq
  obtain ⟨used, cs', hcs, hused, hrest, hb, hq⟩ := h t cs₀ rfl n m X b rest hm heq
  refine ⟨used, cs', hcs, hused, hrest, hb, fun Y => ?_⟩
  rw [bind_ok peekToken_apply]
  exact hq Y

theorem peek {f g : Lexeme → Parser β} (hfit : Fit T cs)
    (h : ∀ t cs₀, cs = t :: cs₀ → Alike Q (f t.lexeme) (g t.lexeme) cs) :
    Alike Q (peek >>= f) (peek >>= g) cs :=
  fun n m X b rest hm heq => peekToken hfit h n m X b rest hm heq

/-- Both parsers read a token that an expression may hold. -/
theorem advance {f g : Unit → Parser β} {t : Token} (ht : t.lexeme.isInline = true)
    (h : Alike Q (f ()) (g ()) cs) :
    Alike Q (advance >>= f) (advance >>= g) (t :: cs) := by
  intro n m X b rest hm heq
  rw [bind_ok advance_apply] at heq
  obtain ⟨used, cs', rfl, hused, hrest, hb, hq⟩ := h n m X b rest (by simp at hm; omega) heq
  refine ⟨t :: used, cs', rfl, ?_, hrest, hb, fun Y => ?_⟩
  · intro t' ht'
    rcases List.mem_cons.mp ht' with rfl | ht'
    · exact ht
    · exact hused t' ht'
  · rw [bind_ok advance_apply]
    exact hq Y

/-- Both parsers read two such tokens at once. -/
theorem advanceTwo {f g : PUnit → Parser β} {t u : Token} (ht : t.lexeme.isInline = true)
    (hu : u.lexeme.isInline = true) (h : Alike Q (f ()) (g ()) cs) :
    Alike Q ((modify (·.drop 2) : Parser PUnit) >>= f) ((modify (·.drop 2) : Parser PUnit) >>= g)
      (t :: u :: cs) := by
  have hrun : ∀ (f : PUnit → Parser β) n (X : List Token),
      ((modify (·.drop 2) : Parser PUnit) >>= f) n (t :: u :: cs ++ X)
        = (Parser.advance >>= fun _ => Parser.advance >>= f) n (t :: u :: cs ++ X) :=
    fun _ _ _ => rfl
  intro n m X b rest hm heq
  rw [hrun f] at heq
  simp only [hrun g]
  exact advance ht (advance hu h) n m X b rest hm heq

/-- Behind a token that an expression may hold, both parsers see the same token. -/
theorem peekSecond {f g : Lexeme → Parser β} {t : Token} (hfit : Fit T cs)
    (h : ∀ u cs₀, cs = u :: cs₀ → Alike Q (f u.lexeme) (g u.lexeme) (t :: cs)) :
    Alike Q (peekSecond >>= f) (peekSecond >>= g) (t :: cs) := by
  obtain ⟨u, cs₀, rfl⟩ := hfit.exists_cons
  intro n m X b rest hm heq
  rw [bind_ok peekSecond_apply] at heq
  obtain ⟨used, cs', hcs, hused, hrest, hb, hq⟩ := h u cs₀ rfl n m X b rest hm heq
  refine ⟨used, cs', hcs, hused, hrest, hb, fun Y => ?_⟩
  rw [bind_ok peekSecond_apply]
  exact hq Y

/-- Where nothing depends on the second token, it may lie behind the list. -/
theorem peekSecond_any {f g : Lexeme → Parser β} (h : ∀ a b, Alike Q (f a) (g b) cs) :
    Alike Q (Parser.peekSecond >>= f) (Parser.peekSecond >>= g) cs := by
  intro n m X b rest hm heq
  rw [bind_ok peekSecond_apply] at heq
  obtain ⟨used, cs', hcs, hused, hrest, hb, -⟩ := h _ .eof n m X b rest hm heq
  refine ⟨used, cs', hcs, hused, hrest, hb, fun Y => ?_⟩
  rw [bind_ok peekSecond_apply]
  -- a second run with the token that is seen behind `Y`; both runs leave the same
  obtain ⟨used₁, cs₁, hcs₁, -, hrest₁, -, hq⟩ := h _ (frontToken ((cs ++ Y).drop 1)).lexeme
    n m X b rest hm heq
  rw [hq Y, List.append_cancel_right (hrest₁.symm.trans hrest)]

theorem accept {f g : Bool → Parser β} {l : Lexeme} (hfit : Fit T cs)
    (hl : l.isInline = true)
    (hhit : ∀ t cs₀, cs = t :: cs₀ → Fit T cs₀ → Alike Q (f true) (g true) cs₀)
    (hmiss : Alike Q (f false) (g false) cs) :
    Alike Q (accept l >>= f) (accept l >>= g) cs := by
  obtain ⟨t, cs₀, rfl⟩ := hfit.exists_cons
  by_cases ht : t.lexeme = l
  · have hinline : t.lexeme.isInline = true := by rw [ht]; exact hl
    have hrun : ∀ (f : Bool → Parser β) n (X : List Token), (Parser.accept l >>= f) n (t :: cs₀ ++ X)
        = (Parser.advance >>= fun _ => f true) n (t :: cs₀ ++ X) := fun f n X => by
      have hit : Parser.accept l n (t :: cs₀ ++ X) = .ok (true, cs₀ ++ X) := accept_hit ht
      rw [bind_ok hit, bind_ok advance_apply]
      rfl
    intro n m X b rest hm heq
    rw [hrun f] at heq
    simp only [hrun g]
    exact advance hinline (hhit t cs₀ rfl (hfit.tail hinline)) n m X b rest hm heq
  · have hrun : ∀ (f : Bool → Parser β) n (X : List Token), (Parser.accept l >>= f) n (t :: cs₀ ++ X)
        = f false n (t :: cs₀ ++ X) := fun f n X => by
      have miss : Parser.accept l n (t :: cs₀ ++ X) = .ok (false, t :: cs₀ ++ X) := accept_miss ht
      rw [bind_ok miss]
    intro n m X b rest hm heq
    rw [hrun f] at heq
    simp only [hrun g]
    exact hmiss n m X b rest hm heq

theorem expect {l : Lexeme} {expected : String} (hfit : Fit T cs) (hl : l.isInline = true) :
    Alike (fun _ rest => rest.length < cs.length) (expect l expected) (expect l expected) cs := by
  refine accept hfit hl (fun t cs₀ h _ => ?_) ?_
  · exact pure (by simp [h])
  · exact unexpected

theorem name (hfit : Fit T cs) :
    Alike (fun text rest => ∃ pos, cs = ⟨.word text, pos⟩ :: rest) name name cs := by
  refine peek hfit fun t cs₀ h => ?_
  obtain ⟨l, pos⟩ := t
  cases l with
  | word text => exact ite (fun _ => unexpected) fun _ => h ▸ advance rfl (pure ⟨pos, rfl⟩)
  | _ => exact unexpected

/-- A repetition, each round of which but the last reads a token. -/
theorem repeatFrom {round round' : α → Parser (α ⊕ β)} (hfit : Fit T cs)
    (h : ∀ a cs', Fit T cs' → cs'.length ≤ cs.length →
      Alike (fun r rest => r.elim (fun _ => rest.length < cs'.length) (Q · rest))
        (round a) (round' a) cs') (start : α) :
    Alike Q (repeatFrom start round) (repeatFrom start round') cs := by
  -- by induction on the first bound; the second one lasts, since each round reads a token
  have main : ∀ bound bound' a cs', Fit T cs' → cs'.length ≤ cs.length → cs'.length < bound' →
      Alike Q (repeatUpTo round bound a) (repeatUpTo round' bound' a) cs' := by
    intro bound
    induction bound with
    | zero => exact fun _ _ _ _ _ _ => failHere
    | succ bound ih =>
      intro bound' a cs' hfit' hle hbound
      obtain ⟨bound', rfl⟩ := Nat.exists_eq_succ_of_ne_zero (Nat.ne_of_gt (Nat.zero_lt_of_lt hbound))
      refine bind hfit' (h a cs' hfit' hle) fun r cs'' hfit'' hle' hr => ?_
      cases r with
      | inl a' =>
        have hlt : cs''.length < cs'.length := hr
        exact ih bound' a' cs'' hfit'' (by omega) (by omega)
      | inr b => exact pure hr
  intro n m X b rest hm heq
  rw [repeatFrom_apply] at heq
  obtain ⟨used, cs', hcs, hused, hrest, hb, hq⟩ :=
    main (n + 1) (m + 1) start cs hfit (Nat.le_refl _) (by omega) n m X b rest hm heq
  exact ⟨used, cs', hcs, hused, hrest, hb, fun Y => by rw [repeatFrom_apply]; exact hq Y⟩

/-- A parser that reads a token, and what follows it. -/
theorem after {k : Nat} (hfit : Fit T cs) (hk : cs.length ≤ k)
    (hp : Alike (fun _ rest => rest.length < cs.length) p q cs)
    (hf : ∀ a cs', Fit T cs' → cs'.length < cs.length → Alike Q (f a) (g a) cs') :
    Alike (fun _ rest => rest.length < k) (p >>= f) (q >>= g) cs :=
  bind hfit hp fun a cs' hfit' _ hlt => (hf a cs' hfit' hlt).below (Nat.lt_of_lt_of_le hlt hk)

end Alike

/-! ## Expressions -/

/-- The parsers for what stands inside brackets are alike on lists shorter than `k`, and read. -/
def InnerAlike (T : Token → Prop) (k : Nat) (inner inner' : Inner) : Prop :=
  ∀ level cs, Fit T cs → cs.length < k →
    Alike (fun _ rest => rest.length < cs.length) (inner level) (inner' level) cs

/-- What the first parser gives for the fields of a token, the second one gives. -/
def FieldsAlike (T : Token → Prop) (field field' : FieldParser) : Prop :=
  ∀ pieces pos ps, T ⟨.template pieces, pos⟩ → parts field pieces = .ok ps →
    parts field' pieces = .ok ps

theorem adjacentStrings_alike (hfit : Fit T cs) (text : String) :
    Alike (fun _ _ => True) (adjacentStrings text) (adjacentStrings text) cs := by
  refine .repeatFrom hfit (fun text cs' hfit' _ => .peek hfit' fun t cs₀ h => ?_) _
  split
  · next heq => exact h ▸ .advance (by rw [heq]; rfl) (.pure (by simp))
  · exact .pure trivial

theorem atKeyword_alike (hfit : Fit T cs) :
    Alike (fun b rest => rest = cs ∧ (b = true →
      ∃ text pos t rest', rest = ⟨.word text, pos⟩ :: t :: rest' ∧ t.lexeme = .symbol .assign))
      atKeyword atKeyword cs := by
  refine .peek hfit fun t cs₀ h => ?_
  split
  · next text heq =>
    have hfit₀ : Fit T cs₀ := (h ▸ hfit).tail (by rw [heq]; rfl)
    obtain ⟨u, cs₁, rfl⟩ := hfit₀.exists_cons
    intro n m X b rest _ hrun
    rw [bind_ok peekSecond_apply, pure_apply] at hrun
    cases hrun
    refine ⟨[], cs, rfl, by simp, rfl, ⟨rfl, fun hb => ?_⟩, fun Y => ?_⟩
    · refine ⟨text, t.pos, u, cs₁, by rw [h, ← heq], ?_⟩
      simp only [h, List.cons_append, List.drop_one, List.tail_cons, frontToken_cons,
        Bool.and_eq_true, decide_eq_true_eq] at hb
      exact hb.2
    · rw [bind_ok peekSecond_apply, pure_apply]
      simp [h]
  · exact .pure ⟨rfl, fun hb => by cases hb⟩

section Expressions

variable {k : Nat} {inner inner' : Inner} (hinner : InnerAlike T k inner inner')
include hinner

theorem starOrExpr_alike (hfit : Fit T cs) (hk : cs.length < k) :
    Alike (fun _ rest => rest.length < cs.length) (starOrExpr inner) (starOrExpr inner') cs := by
  refine .accept hfit rfl (fun t cs₀ h hfit₀ => ?_) (hinner .full cs hfit hk)
  subst h
  have hk₀ : cs₀.length < k := by rw [List.length_cons] at hk; omega
  exact .after hfit₀ (by simp) (hinner .operand cs₀ hfit₀ hk₀)
    fun e _ _ _ => .pure (P := fun _ _ => True) trivial

theorem exprList_alike (hfit : Fit T cs) (hk : cs.length < k) :
    Alike (fun _ rest => rest.length < cs.length) (exprList inner) (exprList inner') cs := by
  refine .after (Q := fun _ _ => True) hfit (Nat.le_refl _) (starOrExpr_alike hinner hfit hk)
    fun first cs' hfit' hlt => ?_
  refine .peek hfit' fun t _ _ => .ite (fun _ => .pure trivial) fun _ => ?_
  refine .repeatFrom hfit' (fun items cs' hfit' hle => ?_) _
  refine .accept hfit' rfl (fun u cs₀ h hfit₀ => ?_) (.pure trivial)
  subst h
  rw [List.length_cons] at hle
  refine .peek hfit₀ fun v _ _ => .ite (fun _ => .pure trivial) fun _ => ?_
  exact .bind hfit₀ (starOrExpr_alike hinner hfit₀ (by omega)) fun e cs₁ _ hle₁ _ =>
    .pure (by simp only [Sum.elim_inl, List.length_cons]; omega)

theorem listItems_alike (hfit : Fit T cs) (hk : cs.length < k) :
    Alike (fun _ _ => True) (listItems inner) (listItems inner') cs := by
  refine .repeatFrom hfit (fun items cs' hfit' hle => ?_) _
  refine .peek hfit' fun t _ _ => .ite (fun _ => .pure trivial) fun _ => ?_
  refine .bind hfit' (starOrExpr_alike hinner hfit' (by omega)) fun e cs₁ hfit₁ _ hlt => ?_
  refine .accept hfit₁ rfl (fun u cs₂ h _ => .pure ?_) (.pure trivial)
  subst h
  simp only [Sum.elim_inl, List.length_cons] at hlt ⊢
  omega

theorem atom_alike {field field' : FieldParser} (hfield : FieldsAlike T field field')
    (hfit : Fit T cs) (hk : cs.length ≤ k) :
    Alike (fun _ rest => rest.length < cs.length) (atom field inner) (atom field' inner') cs := by
  refine .peekToken hfit fun t cs₀ h => ?_
  subst h
  rw [List.length_cons] at hk ⊢
  split
  case h_4 text _ _ _ heq =>
    exact .ite (fun _ => .unexpected) fun _ => .advance (by rw [heq]; rfl) (.pure (by simp))
  case h_5 text heq =>
    have ht : t.lexeme.isInline = true := by rw [heq]; rfl
    refine .advance ht (.below (P := fun _ _ => True) ?_ (Nat.lt_succ_self _))
    exact .bind (hfit.tail ht) (adjacentStrings_alike (hfit.tail ht) text)
      fun _ _ _ _ _ => .pure trivial
  case h_6 pieces heq =>
    refine .advance (by rw [heq]; rfl) ?_
    cases hps : parts field pieces with
    | error fault => exact .throw
    | ok ps =>
      -- fields that are read by the first parser are read by the second one
      rw [hfield pieces t.pos ps (heq ▸ hfit.tokens t (List.mem_cons_self ..)) hps]
      exact .pure (Nat.lt_succ_self _)
  case h_7 heq =>
    have hfit₀ := hfit.tail (by rw [heq]; rfl)
    refine .advance (by rw [heq]; rfl) (.below (P := fun _ _ => True) ?_ (Nat.lt_succ_self _))
    refine .accept hfit₀ rfl (fun _ _ _ _ => .pure trivial) ?_
    refine .bind hfit₀ (exprList_alike hinner hfit₀ (by omega)) fun e cs₁ hfit₁ _ _ => ?_
    exact .bind hfit₁ (.expect hfit₁ rfl) fun _ _ _ _ _ => .pure trivial
  case h_8 heq =>
    have hfit₀ := hfit.tail (by rw [heq]; rfl)
    refine .advance (by rw [heq]; rfl) (.below (P := fun _ _ => True) ?_ (Nat.lt_succ_self _))
    refine .bind hfit₀ (listItems_alike hinner hfit₀ (by omega))
      fun items cs₁ hfit₁ _ _ => ?_
    exact .bind hfit₁ (.expect hfit₁ rfl) fun _ _ _ _ _ => .pure trivial
  case h_10 => exact .unexpected
  all_goals
    next heq => exact .advance (by rw [heq]; rfl) (.pure (by simp))

theorem arguments_alike (hfit : Fit T cs) (hk : cs.length < k) :
    Alike (fun _ _ => True) (arguments inner) (arguments inner') cs := by
  refine .repeatFrom hfit (fun r cs' hfit' hle => ?_) _
  obtain ⟨args, keywords⟩ := r
  refine .peek hfit' fun _ _ _ => .ite (fun _ => .pure trivial) fun _ => ?_
  -- behind an argument a comma leads to the next one, and anything else to the end
  have hnext : ∀ (next : List Expr × List Keyword) cs₁, Fit T cs₁ → cs₁.length < cs'.length →
      Alike (fun r rest => r.elim (fun _ => rest.length < cs'.length) fun _ => True)
        (do if ← acceptSymbol .comma then return .inl next
            else return .inr (next.1.reverse, next.2.reverse) :
          Parser ((List Expr × List Keyword) ⊕ (List Expr × List Keyword)))
        (do if ← acceptSymbol .comma then return .inl next
            else return .inr (next.1.reverse, next.2.reverse)) cs₁ := by
    intro next cs₁ hfit₁ hlt
    refine .accept hfit₁ rfl (fun _ cs₂ h _ => .pure ?_) (.pure trivial)
    subst h
    simp only [Sum.elim_inl, List.length_cons] at hlt ⊢
    omega
  refine .bind hfit' (atKeyword_alike hfit') fun b cs₁ hfit₁ _ hb => .ite (fun hb' => ?_)
    fun _ => .ite (fun _ => ?_) fun _ => ?_
  · obtain ⟨rfl, hkey⟩ := hb
    obtain ⟨text, pos, t, cs₂, rfl, ht⟩ := hkey hb'
    refine .bind hfit₁ (.name hfit₁) fun key cs₃ hfit₃ _ hcs₃ => ?_
    obtain ⟨_, hcs₃⟩ := hcs₃
    cases hcs₃
    have hinline : t.lexeme.isInline = true := by rw [ht]; rfl
    have hfit₂ := hfit₃.tail hinline
    simp only [List.length_cons] at hle hnext ⊢
    refine .advance hinline (.bind hfit₂ (hinner .full cs₂ hfit₂ (by omega))
      fun e cs₄ hfit₄ _ hlt => ?_)
    exact hnext _ cs₄ hfit₄ (by omega)
  · exact .bind (P := fun _ _ => False) hfit₁ .failHere fun _ _ _ _ h => h.elim
  · obtain ⟨rfl, _⟩ := hb
    exact .bind hfit₁ (hinner .full _ hfit₁ (by omega)) fun e cs₄ hfit₄ _ hlt =>
      hnext _ cs₄ hfit₄ hlt

theorem operand_alike {field field' : FieldParser} (hfield : FieldsAlike T field field')
    (hfit : Fit T cs) (hk : cs.length ≤ k) :
    Alike (fun _ rest => rest.length < cs.length) (operand field inner) (operand field' inner')
      cs := by
  refine .after (Q := fun _ _ => True) hfit (Nat.le_refl _) (atom_alike hinner hfield hfit hk)
    fun e cs₀ hfit₀ hlt => .repeatFrom hfit₀ (fun e cs₁ hfit₁ hle => ?_) _
  refine .peek hfit₁ fun t cs₂ h => ?_
  subst h
  rw [List.length_cons] at hle ⊢
  split
  · next heq =>
    have hfit₂ := hfit₁.tail (by rw [heq]; rfl)
    refine .advance (by rw [heq]; rfl) ?_
    refine .bind hfit₂ (arguments_alike hinner hfit₂ (by omega)) fun r cs₃ hfit₃ hle₃ _ => ?_
    exact .bind hfit₃ (.expect hfit₃ rfl) fun _ cs₄ _ _ hlt₄ =>
      .pure (by simp only [Sum.elim_inl]; omega)
  · next heq =>
    have hfit₂ := hfit₁.tail (by rw [heq]; rfl)
    refine .advance (by rw [heq]; rfl) (.peek hfit₂ fun u cs₃ h => ?_)
    subst h
    split
    · next heq' =>
      exact .advance (by rw [heq']; rfl)
        (.pure (by simp only [Sum.elim_inl, List.length_cons]; omega))
    · exact .unexpected
  · next heq =>
    have hfit₂ := hfit₁.tail (by rw [heq]; rfl)
    refine .advance (by rw [heq]; rfl) ?_
    refine .bind hfit₂ (hinner .full cs₂ hfit₂ (by omega)) fun r cs₃ hfit₃ hle₃ _ => ?_
    exact .bind hfit₃ (.expect hfit₃ rfl) fun _ cs₄ _ _ hlt₄ =>
      .pure (by simp only [Sum.elim_inl]; omega)
  · exact .pure trivial

end Expressions

/-! ### Operators -/

theorem comparison?_not (l : Lexeme) :
    comparison? (.word "not") l = if l = .word "in" then some (.notIn, 2) else none := by
  unfold comparison?
  split <;> simp_all

/-- But for `not`, the token at the front alone says whether it is a comparison. -/
theorem comparison?_single {l : Lexeme} (h : l ≠ .word "not") :
    (∀ l', comparison? l l' = none)
      ∨ l.isInline = true ∧ ∃ op, ∀ l', comparison? l l' = some (op, 1) := by
  cases l with
  | word text =>
    by_cases hin : text = "in"
    · subst hin
      exact .inr ⟨rfl, .isIn, fun _ => rfl⟩
    · refine .inl fun l' => ?_
      have hnot : text ≠ "not" := fun heq => h (by rw [heq])
      simp [comparison?, hin, hnot]
  | symbol s =>
    cases s <;> first | exact .inr ⟨rfl, _, fun _ => rfl⟩ | exact .inl fun _ => rfl
  | _ => exact .inl fun _ => rfl

section Levels

variable {k : Nat} {next next' : Parser Expr}

/-- The parsers are alike on lists of at most `k` tokens, and read. -/
def LevelAlike (T : Token → Prop) (k : Nat) (next next' : Parser Expr) : Prop :=
  ∀ cs, Fit T cs → cs.length ≤ k → Alike (fun _ rest => rest.length < cs.length) next next' cs

variable (hnext : LevelAlike T k next next')
include hnext

theorem unaryLevel_alike {op? : Lexeme → Option UnaryOp}
    (hop : ∀ l op, op? l = some op → l.isInline = true) :
    LevelAlike T k (unaryLevel op? next) (unaryLevel op? next') := by
  intro cs hfit hk
  refine .bind (P := fun _ _ => True) hfit (.repeatFrom hfit (fun ops cs₁ hfit₁ _ => ?_) _)
    fun ops cs₁ hfit₁ hle _ => ?_
  · refine .peek hfit₁ fun t cs₂ h => ?_
    split
    · next op heq => exact h ▸ .advance (hop _ op heq) (.pure (by simp))
    · exact .pure trivial
  · exact .after hfit₁ hle (hnext cs₁ hfit₁ (by omega))
      fun e _ _ _ => .pure (P := fun _ _ => True) trivial

theorem leftLevel_alike {op? : Lexeme → Option (Expr → Expr → Expr)}
    (hop : ∀ l op, op? l = some op → l.isInline = true) :
    LevelAlike T k (leftLevel op? next) (leftLevel op? next') := by
  intro cs hfit hk
  refine .after (Q := fun _ _ => True) hfit (Nat.le_refl _) (hnext cs hfit hk)
    fun left cs₁ hfit₁ hlt => .repeatFrom hfit₁ (fun left cs₂ hfit₂ hle => ?_) _
  refine .peek hfit₂ fun t cs₃ h => ?_
  subst h
  rw [List.length_cons] at hle ⊢
  split
  · next op heq =>
    have hfit₃ := hfit₂.tail (hop _ op heq)
    refine .advance (hop _ op heq) (.bind hfit₃ (hnext cs₃ hfit₃ (by omega)) ?_)
    exact fun e cs₄ _ _ _ => .pure (by simp only [Sum.elim_inl]; omega)
  · exact .pure trivial

theorem comparisonLevel_alike :
    LevelAlike T k (comparisonLevel next) (comparisonLevel next') := by
  intro cs hfit hk
  refine .after (Q := fun _ _ => True) hfit (Nat.le_refl _) (hnext cs hfit hk)
    fun left cs₁ hfit₁ hlt => ?_
  refine .peek hfit₁ fun t cs₂ h => ?_
  subst h
  rw [List.length_cons] at hlt
  have hright : ∀ op cs', Fit T cs' → cs'.length < cs.length →
      Alike (fun _ _ => True) (do return Expr.compare op left (← next))
        (do return Expr.compare op left (← next')) cs' := fun op cs' hfit' hlt' =>
    .bind hfit' (hnext cs' hfit' (by omega)) fun _ _ _ _ _ => .pure trivial
  -- only behind `not` does it matter which token comes second
  by_cases hnot : t.lexeme = .word "not"
  · have hinline : t.lexeme.isInline = true := by rw [hnot]; rfl
    have hfit₂ := hfit₁.tail hinline
    refine .peekSecond hfit₂ fun u cs₃ h => ?_
    subst h
    rw [List.length_cons] at hlt
    rw [hnot, comparison?_not]
    by_cases hin : u.lexeme = .word "in"
    · have hinline' : u.lexeme.isInline = true := by rw [hin]; rfl
      rw [if_pos hin]
      exact .advanceTwo hinline hinline' (hright .notIn cs₃ (hfit₂.tail hinline') (by omega))
    · rw [if_neg hin]
      exact .pure trivial
  · rcases comparison?_single hnot with hnone | ⟨hinline, op, hsome⟩
    · exact .peekSecond_any fun a b => by rw [hnone, hnone]; exact .pure trivial
    · refine .peekSecond_any fun a b => ?_
      rw [hsome, hsome]
      exact .advance hinline (hright op cs₂ (hfit₁.tail hinline) (by omega))

end Levels

theorem signOp?_inline (l : Lexeme) (op : UnaryOp) (h : signOp? l = some op) :
    l.isInline = true := by
  unfold signOp? at h
  split at h <;> first | rfl | cases h

theorem notOp?_inline (l : Lexeme) (op : UnaryOp) (h : notOp? l = some op) :
    l.isInline = true := by
  unfold notOp? at h
  split at h <;> first | rfl | cases h

theorem termOp?_inline (l : Lexeme) (op : Expr → Expr → Expr) (h : termOp? l = some op) :
    l.isInline = true := by
  unfold termOp? at h
  split at h <;> first | rfl | cases h

theorem sumOp?_inline (l : Lexeme) (op : Expr → Expr → Expr) (h : sumOp? l = some op) :
    l.isInline = true := by
  unfold sumOp? at h
  split at h <;> first | rfl | cases h

theorem andOp?_inline (l : Lexeme) (op : Expr → Expr → Expr) (h : andOp? l = some op) :
    l.isInline = true := by
  unfold andOp? at h
  split at h <;> first | rfl | cases h

theorem orOp?_inline (l : Lexeme) (op : Expr → Expr → Expr) (h : orOp? l = some op) :
    l.isInline = true := by
  unfold orOp? at h
  split at h <;> first | rfl | cases h

section Bounds

variable {field field' : FieldParser} (hfield : FieldsAlike T field field')
include hfield

theorem expression_alike {k : Nat} {inner inner' : Inner} (hinner : InnerAlike T k inner inner') :
    LevelAlike T k (expression field inner) (expression field' inner') := by
  have h : LevelAlike T k (operand field inner) (operand field' inner') :=
    fun cs hfit hk => operand_alike hinner hfield hfit hk
  have h := leftLevel_alike (unaryLevel_alike h signOp?_inline) termOp?_inline
  have h := comparisonLevel_alike (leftLevel_alike h sumOp?_inline)
  have h := leftLevel_alike (unaryLevel_alike h notOp?_inline) andOp?_inline
  exact leftLevel_alike h orOp?_inline

/-- A bound on the nesting of brackets does no harm if it is no less than the number of tokens. -/
theorem exprAt_alike (bound bound' : Nat) :
    InnerAlike T (bound' + 1) (exprAt field bound) (exprAt field' bound') := by
  induction bound generalizing bound' with
  | zero => exact fun _ _ _ _ => .failHere
  | succ bound ih =>
    intro level cs hfit hk
    obtain ⟨t, cs₀, rfl⟩ := hfit.exists_cons
    rw [List.length_cons] at hk
    obtain ⟨bound', rfl⟩ := Nat.exists_eq_add_one_of_ne_zero (n := bound') (by omega)
    cases level with
    | full => exact expression_alike hfield (ih bound') _ hfit (by rw [List.length_cons]; omega)
    | operand => exact operand_alike (ih bound') hfield hfit (by rw [List.length_cons]; omega)

end Bounds

/-! ### Fields -/

theorem parts_of {field field' : FieldParser} {pieces : List Template.Piece}
    (h : ∀ source spec, .field source spec ∈ pieces → ∀ e, field source = .ok e →
      field' source = .ok e)
    {ps : List Part} (hps : parts field pieces = .ok ps) : parts field' pieces = .ok ps := by
  induction pieces generalizing ps with
  | nil => exact hps
  | cons piece pieces ih =>
    have hlater : ∀ source spec, .field source spec ∈ pieces → ∀ e, field source = .ok e →
        field' source = .ok e := fun source spec hmem =>
      h source spec (List.mem_cons_of_mem piece hmem)
    cases piece with
    | literal text =>
      obtain ⟨qs, hqs, rfl⟩ := parts_literal.mp hps
      exact parts_literal.mpr ⟨qs, ih hlater hqs, rfl⟩
    | field source spec =>
      obtain ⟨e, he, qs, hqs, rfl⟩ := parts_field.mp hps
      have he' := h source spec (List.mem_cons_self ..) e he
      exact parts_field.mpr ⟨e, he', qs, ih hlater hqs, rfl⟩

theorem length_trim_le (source : String) : (Text.trim source).length ≤ source.length := by
  rw [← String.length_toList, ← String.length_toList, Text.trim, String.toList_ofList,
    Text.trimEndWhere, Text.trimStartWhere, List.length_reverse]
  refine Nat.le_trans (List.dropWhile_suffix _).length_le ?_
  rw [List.length_reverse]
  exact (List.dropWhile_suffix _).length_le

/-- Tokens end with the end of the text. -/
theorem finish_capped {s : Lexer.State} {ts : List Token} (h : s.finish = .ok ts) :
    ∃ t ∈ ts.getLast?, t.lexeme = .eof := by
  obtain ⟨-, s', -, -, rfl⟩ := Lexer.State.finish_eq_ok.mp h
  rw [ending, ← List.append_assoc, List.getLast?_concat]
  exact ⟨_, rfl, rfl⟩

theorem tokenize_fit {source : String} {ts : List Token} (h : tokenize source = .ok ts) :
    Fit (fun t => t.lexeme.Sound source.length) ts := by
  refine ⟨?_, tokenize_sound h⟩
  obtain ⟨s, -, hts⟩ := tokenize_ok_iff.mp h
  obtain ⟨t, ht, heq⟩ := finish_capped hts
  exact ⟨t, ht, by rw [heq]; rfl⟩

/-- What a text is parsed to does not depend on a bound that exceeds its length. -/
theorem fieldExpr_of {bound bound' : Nat} {source : String} {e : Expr}
    (hlen : source.length < bound') (h : fieldExpr bound source = .ok e) :
    fieldExpr bound' source = .ok e := by
  induction bound generalizing bound' source e with
  | zero => cases h
  | succ bound ih =>
    obtain ⟨bound', rfl⟩ := Nat.exists_eq_add_one_of_ne_zero (n := bound') (by omega)
    obtain ⟨ts, hts, he⟩ := fieldExpr_eq_ok.mp h
    have hfields : FieldsAlike (fun t => t.lexeme.Sound (Text.trim source).length)
        (fieldExpr bound) (fieldExpr bound') := by
      -- a field inside the field is shorter again, by the quotes and braces around it
      rintro pieces pos ps ⟨k, hk, hwithin⟩ hps
      refine parts_of (fun source' spec hmem e he => ih ?_ he) hps
      have := hwithin source' spec hmem
      have := length_trim_le source
      omega
    obtain ⟨rest, he⟩ := parseTokens_ok.mp he
    obtain ⟨e₁, mid, he₁, he⟩ := bind_ok_iff.mp he
    have hread := exprList_alike (exprAt_alike hfields ts.length ts.length) (tokenize_fit hts)
      (Nat.lt_succ_self _)
    have he' : fieldTokens (fieldExpr bound') ts = .ok e :=
      parseTokens_ok.mpr ⟨rest, by rw [bind_ok (hread.ok (Nat.le_refl _) he₁)]; exact he⟩
    exact fieldExpr_eq_ok.mpr ⟨ts, hts, he'⟩

/-! ## Parts of statements -/

theorem rejectStar_alike (e : Expr) :
    Alike (fun _ _ => True) (rejectStar e) (rejectStar e) cs :=
  .ite (fun _ => .failHere) fun _ => .pure trivial

theorem simple_alike {expr expr' : Inner} {k : Nat} (hexpr : InnerAlike T k expr expr')
    (hfit : Fit T cs) (hk : cs.length < k) :
    Alike (fun _ rest => rest.length < cs.length) (simple expr) (simple expr') cs := by
  refine .peekToken hfit fun t cs₀ h => ?_
  split
  case h_4 heq =>
    subst h
    rw [List.length_cons] at hk ⊢
    have hfit₀ := hfit.tail (by rw [heq]; rfl)
    refine .advance (by rw [heq]; rfl) (.below (P := fun _ _ => True) ?_ (Nat.lt_succ_self _))
    refine .bind hfit₀ (hexpr .full cs₀ hfit₀ (by omega)) fun test cs₁ hfit₁ _ hlt₁ => ?_
    refine .accept hfit₁ rfl (fun u cs₂ h₁ hfit₂ => ?_) (.pure trivial)
    subst h₁
    rw [List.length_cons] at hlt₁
    exact .bind hfit₂ (hexpr .full cs₂ hfit₂ (by omega)) fun _ _ _ _ _ => .pure trivial
  case h_5 =>
    refine .after (Q := fun _ _ => True) hfit (Nat.le_refl _) (exprList_alike hexpr hfit hk)
      fun e cs₁ hfit₁ hlt₁ => ?_
    have hevaluate := Alike.bind hfit₁ (rejectStar_alike e) fun _ _ _ _ _ =>
      .pure (a := Stmt.evaluate t.pos.line e) (P := fun _ _ => True) trivial
    refine .accept hfit₁ rfl (fun u cs₂ h₁ hfit₂ => ?_) hevaluate
    subst h₁
    rw [List.length_cons] at hlt₁
    cases toTarget e with
    | error fault => exact .throw
    | ok target =>
      refine .bind hfit₂ (exprList_alike hexpr hfit₂ (by omega)) fun value cs₃ hfit₃ _ _ => ?_
      exact .bind hfit₃ (rejectStar_alike value) fun _ _ _ _ _ => .pure trivial
  all_goals
    next heq =>
    subst h
    exact .advance (by rw [heq]; rfl) (.pure (Nat.lt_succ_self _))

theorem bracketed_alike {close : Symbol} {item item' : Parser Expr} {k : Nat}
    (hclose : close ≠ .colon) (hitem : LevelAlike T k item item') (hfit : Fit T cs)
    (hk : cs.length ≤ k) :
    Alike (fun _ _ => True) (targetAtom.bracketed close item) (targetAtom.bracketed close item')
      cs := by
  have hinline : (Lexeme.symbol close).isInline = true := by
    cases close <;> first | rfl | exact absurd rfl hclose
  refine .bind (P := fun _ _ => True) hfit (.repeatFrom hfit (fun items cs₁ hfit₁ hle => ?_) _)
    fun items cs₁ hfit₁ _ _ => ?_
  · refine .peek hfit₁ fun t _ _ => .ite (fun _ => .pure trivial) fun _ => ?_
    refine .bind hfit₁ (hitem cs₁ hfit₁ (by omega)) fun e cs₂ hfit₂ _ hlt => ?_
    refine .accept hfit₂ rfl (fun u cs₃ h _ => .pure ?_) (.pure trivial)
    subst h
    simp only [Sum.elim_inl, List.length_cons] at hlt ⊢
    omega
  · exact .bind hfit₁ (.expect hfit₁ hinline) fun _ _ _ _ _ => .pure trivial

theorem name_alike (hfit : Fit T cs) (f : String → Expr) :
    Alike (fun _ rest => rest.length < cs.length) (do return f (← name)) (do return f (← name))
      cs := by
  refine .bind hfit (.name hfit) fun text cs' _ _ hcs' => .pure ?_
  obtain ⟨_, hcs'⟩ := hcs'
  rw [hcs', List.length_cons]
  exact Nat.lt_succ_self _

theorem targetAtom_alike (bound bound' : Nat) :
    LevelAlike T bound' (targetAtom bound) (targetAtom bound') := by
  induction bound generalizing bound' with
  | zero => exact fun _ _ _ => .failHere
  | succ bound ih =>
    intro cs hfit hk
    obtain ⟨t, cs₀, rfl⟩ := hfit.exists_cons
    rw [List.length_cons] at hk
    obtain ⟨bound', rfl⟩ := Nat.exists_eq_add_one_of_ne_zero (n := bound') (by omega)
    refine .peek hfit fun t cs₁ h => ?_
    cases h
    split
    · next heq =>
      have hfit₀ := hfit.tail (by rw [heq]; rfl)
      exact .advance (by rw [heq]; rfl) (.below (name_alike hfit₀ _) (Nat.lt_succ_self _))
    · next heq =>
      have hfit₀ := hfit.tail (by rw [heq]; rfl)
      exact .advance (by rw [heq]; rfl)
        (.below (bracketed_alike (by decide) (ih bound') hfit₀ (by omega)) (Nat.lt_succ_self _))
    · next heq =>
      have hfit₀ := hfit.tail (by rw [heq]; rfl)
      exact .advance (by rw [heq]; rfl)
        (.below (bracketed_alike (by decide) (ih bound') hfit₀ (by omega)) (Nat.lt_succ_self _))
    · exact name_alike hfit _

theorem loopTarget_alike (hfit : Fit T cs) :
    Alike (fun _ _ => True) loopTarget loopTarget cs := by
  refine .read fun n m hm => ?_
  have hitem := targetAtom_alike (T := T) n m
  refine .bind hfit (hitem cs hfit hm) fun first cs₁ hfit₁ hle _ => ?_
  refine .bind (P := fun _ _ => True) hfit₁ (.repeatFrom hfit₁ (fun items cs₂ hfit₂ hle₂ => ?_) _)
    fun items _ _ _ _ => ?_
  · refine .accept hfit₂ rfl (fun u cs₃ h hfit₃ => ?_) (.pure trivial)
    subst h
    rw [List.length_cons] at hle₂ ⊢
    refine .peek hfit₃ fun v _ _ => .ite (fun _ => .pure trivial) fun _ => ?_
    exact .bind hfit₃ (hitem cs₃ hfit₃ (by omega)) fun e cs₄ _ _ hlt =>
      .pure (by simp only [Sum.elim_inl]; omega)
  · split
    · exact .pure trivial
    · exact .pure trivial

theorem handlerKind_alike (hfit : Fit T cs) :
    Alike (fun _ _ => True) handlerKind handlerKind cs := by
  refine .peek hfit fun t cs₀ h => ?_
  split
  · next text heq =>
    exact .ite (fun _ => .pure trivial) fun _ => h ▸ .advance (by rw [heq]; rfl) (.pure trivial)
  · exact .pure trivial

end Parser
end Tilde
