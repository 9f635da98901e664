import Tilde.Proofs.Joined.Carries
import Tilde.Proofs.Prefix.Statement

/-!
# Statements in another text

The parsers of statements carry over to another text, one after the other. What a statement may look
at behind its last line is a further alternative, or a handler; all else it looks at stands in its
own lines, since the last token of a line ends the line.
-/

namespace Tilde.Parser

variable {T : Token → Prop} {cs us : List Token} {j k b : Nat}

/-- The parsers of a statement on lines of fewer than `j` tokens. -/
def StmtCarries (T : Token → Prop) (k j : Nat) (stmt stmt' : Parser Stmt) : Prop :=
  ∀ cs us, Lines T cs → Moved k cs us → cs ≠ [] → cs.length < j →
    Carries k cs.length (Stmt.moved k) stmt stmt' cs us

/-- The parsers of expressions do not look at places. -/
def InnerPlaceless (expr : Inner) : Prop := ∀ level, Placeless (expr level)

/-- The token that stands for the front one. -/
theorem moved_cons {t : Token} {cs us : List Token} (h : Moved k (t :: cs) us) :
    ∃ u us', us = u :: us' ∧ Token.Moved k t u ∧ Moved k cs us' := by
  cases h with
  | cons ht hus => exact ⟨_, _, rfl, ht, hus⟩

/-! ## Simple statements -/

/-- The rest of a simple statement whose first token is known. -/
def simpleFrom (expr : Inner) (start : Token) : Parser Stmt :=
  let line := start.pos.line
  match start.lexeme with
  | .word "pass" => do advance; return .pass line
  | .word "break" => do advance; return .breakLoop line
  | .word "continue" => do advance; return .continueLoop line
  | .word "assert" => do
    advance
    let test ← expr .full
    if ← acceptSymbol .comma then return .assert line test (some (← expr .full))
    else return .assert line test none
  | _ => do
    let e ← exprList expr
    if ← acceptSymbol .assign then
      match toTarget e with
      | .error fault => throw ⟨fault, start.pos⟩
      | .ok target =>
        let value ← exprList expr
        rejectStar value
        return .assign line target value
    else
      rejectStar e
      return .evaluate line e

theorem simpleFrom_placeless {expr : Inner} (hexpr : InnerPlaceless expr) (start : Token) :
    Placeless (simpleFrom expr start) := by
  unfold simpleFrom
  split
  case h_4 =>
    refine .bind .advance fun _ => .bind (hexpr .full) fun test => .bind .accept fun _ => ?_
    exact .ite (.bind (hexpr .full) fun _ => .pure) .pure
  case h_5 =>
    refine .bind (exprList_placeless hexpr) fun e => .bind .accept fun _ => .ite ?_ ?_
    · split
      · exact .throw
      · exact .bind (exprList_placeless hexpr) fun value =>
          .bind (rejectStar_placeless value) fun _ => .pure
    · exact .bind (rejectStar_placeless e) fun _ => .pure
  all_goals exact .bind .advance fun _ => .pure

/-- Wherever the first parser succeeds, the second one gives its result, moved down by `k` lines. -/
def Lowers (k : Nat) (p q : Parser Stmt) : Prop :=
  ∀ n ts s rest, p n ts = .ok (s, rest) → q n ts = .ok (s.moved k, rest)

theorem Lowers.pure {s s' : Stmt} (h : s' = s.moved k) : Lowers k (pure s) (pure s') := by
  intro n ts s rest heq
  cases heq
  rw [h]
  rfl

theorem Lowers.bind {α : Type} {p : Parser α} {f g : α → Parser Stmt}
    (h : ∀ a, Lowers k (f a) (g a)) : Lowers k (p >>= f) (p >>= g) := by
  intro n ts s rest heq
  obtain ⟨a, mid, h1, h2⟩ := bind_ok_iff.mp heq
  rw [bind_ok h1]
  exact h a n mid s rest h2

theorem Lowers.ite {c : Prop} [Decidable c] {p p' q q' : Parser Stmt} (ht : Lowers k p q)
    (he : Lowers k p' q') : Lowers k (if c then p else p') (if c then q else q') := by
  by_cases h : c
  · rw [if_pos h, if_pos h]; exact ht
  · rw [if_neg h, if_neg h]; exact he

/-- The line of a simple statement is that of its first token. -/
theorem simpleFrom_lowers (expr : Inner) {t u : Token} (hlexeme : u.lexeme = t.lexeme)
    (hline : u.pos.line = t.pos.line + k) :
    Lowers k (simpleFrom expr t) (simpleFrom expr u) := by
  unfold simpleFrom
  rw [hlexeme, hline]
  split
  case h_4 =>
    refine .bind fun _ => .bind fun test => .bind fun _ => .ite (.bind fun _ => ?_) ?_
    · exact .pure rfl
    · exact .pure rfl
  case h_5 =>
    refine .bind fun e => .bind fun _ => .ite ?_ (.bind fun _ => .pure rfl)
    cases toTarget e with
    | error fault => exact fun _ _ _ _ heq => nomatch heq
    | ok target => exact .bind fun value => .bind fun _ => .pure rfl
  all_goals exact .bind fun _ => .pure rfl

section Lines

variable {expr expr' : Inner} (hexpr : InnerAlike T j expr expr') (hplace : InnerPlaceless expr')
include hexpr hplace

theorem simple_carries (hfit : Fit T cs) (hmoved : Moved k cs us) (hj : cs.length < j) :
    CarriesInline k (fun _ rest => rest.length < cs.length) (Stmt.moved k) (simple expr)
      (simple expr') cs us := by
  intro n m X s rest hm heq
  obtain ⟨used, cs', hcs, hused, rfl, hlt, hrun⟩ := simple_alike hexpr hfit hj n m X s rest hm heq
  obtain ⟨t, cs₀, rfl⟩ := hfit.exists_cons
  obtain ⟨u, us₀, rfl, ht, hmoved₀⟩ := moved_cons hmoved
  -- the statement has read its first token, so that token stands `k` lines further down
  obtain ⟨used, rfl⟩ : ∃ used', used = t :: used' := by
    cases used with
    | nil => rw [hcs] at hlt; exact absurd hlt (Nat.lt_irrefl _)
    | cons x used => cases hcs; exact ⟨used, rfl⟩
  have hline := ht.line (hused t (List.mem_cons_self ..))
  rw [List.cons_append, List.cons.injEq] at hcs
  obtain ⟨-, rfl⟩ := hcs
  obtain ⟨used', us', rfl, hlexemes, hmoved'⟩ := hmoved₀.split
  refine ⟨t :: used, cs', us', rfl, hused, rfl, hmoved', hlt, fun Y => ?_⟩
  have hfrom : simpleFrom expr' t m (t :: used ++ cs' ++ Y) = .ok (s, cs' ++ Y) := hrun Y
  have hplaced : simpleFrom expr' t m (u :: used' ++ us' ++ Y) = .ok (s, us' ++ Y) :=
    (simpleFrom_placeless hplace t).moved (by simp [ht.lexeme, hlexemes]) hmoved' hfrom
  exact simpleFrom_lowers expr' ht.lexeme hline _ _ _ _ hplaced

/-- A simple statement up to the end of its line. -/
theorem line_carries {β : Type} {f f' : Stmt → β} {move : β → β}
    (hf : ∀ s, f' (s.moved k) = move (f s)) (hcs : Lines T cs) (hmoved : Moved k cs us)
    (hne : cs ≠ []) (hj : cs.length < j) (hb : cs.length ≤ b) :
    Carries k b move (do let s ← simple expr; lineEnd; return f s)
      (do let s ← simple expr'; lineEnd; return f' s) cs us := by
  have hfit := hcs.fit hne
  refine .after (simple_carries hexpr hplace hfit hmoved hj) fun s used cs₁ us₁ heq hused hmoved₁
    hlt => ?_
  obtain ⟨t, cs₂, rfl⟩ := ((heq ▸ hfit).append hused).exists_cons
  obtain ⟨u, us₂, rfl, ht, hmoved₂⟩ := moved_cons hmoved₁
  rw [List.length_cons] at hlt
  refine .lineEnd ht ((heq ▸ hcs).append.unended t (List.mem_cons_self ..)) ?_
  rw [hf]
  exact .pure hmoved₂ (by omega)

end Lines

/-! ## Blocks -/

section Blocks

variable {expr expr' : Inner} {stmt stmt' : Parser Stmt} (hexpr : InnerAlike T j expr expr')
  (hplace : InnerPlaceless expr') (hstmt : StmtCarries T k j stmt stmt')

include hstmt in
theorem body_carries (bound bound' : Nat) (body : List Stmt) (hcs : Lines T cs)
    (hmoved : Moved k cs us) (hj : cs.length < j) (hbound : cs.length < bound')
    (hb : cs.length ≤ b) :
    Carries k b (movedBody k) (repeatUpTo (bodyRound stmt) bound body)
      (repeatUpTo (bodyRound stmt') bound' (movedBody k body)) cs us := by
  -- by induction on the rounds; each leaves fewer tokens, so the second bound is never used up
  induction bound generalizing bound' body cs us with
  | zero => exact .failHere
  | succ bound ih =>
    obtain ⟨bound', rfl⟩ := Nat.exists_eq_add_one_of_ne_zero (n := bound') (by omega)
    rw [body_step, body_step]
    cases cs with
    | nil =>
      -- the text ends within the block
      refine .of_fails fun n e he => ?_
      rw [Fails, bind_ok peek_apply, List.nil_append, frontToken_cons, he]
      exact Fails.unexpected
    | cons t cs₁ =>
      obtain ⟨u, us₁, rfl, ht, hmoved₁⟩ := moved_cons hmoved
      rw [List.length_cons] at hj hbound hb
      refine .peek ht ?_
      split
      · refine .advance ?_
        rw [← movedBody_reverse]
        exact .pure hmoved₁ (by omega)
      · exact .unexpected
      · exact .advance (ih bound' body hcs.tail hmoved₁ (by omega) (by omega) (by omega))
      · refine .bind (hstmt (t :: cs₁) (u :: us₁) hcs hmoved (by simp) (by simpa using hj))
          fun s cs₂ us₂ hsuffix hmoved₂ hlt => ?_
        rw [List.length_cons] at hlt
        exact ih bound' (s :: body) (hcs.suffix hsuffix) hmoved₂ (by omega) (by omega) (by omega)

include hexpr hplace hstmt

theorem block_carries (hcs : Lines T cs) (hmoved : Moved k cs us) (hne : cs ≠ [])
    (hj : cs.length < j) (hb : cs.length ≤ b) :
    Carries k b (movedBody k) (block expr stmt) (block expr' stmt') cs us := by
  obtain ⟨t, cs₁, rfl⟩ := List.exists_cons_of_ne_nil hne
  obtain ⟨u, us₁, rfl, ht, hmoved₁⟩ := moved_cons hmoved
  rw [List.length_cons] at hj hb
  refine .expect ht fun hcolon => ?_
  have hne₁ := hcs.ne_nil (by rw [hcolon]; rfl)
  obtain ⟨v, cs₂, rfl⟩ := List.exists_cons_of_ne_nil hne₁
  obtain ⟨v', us₂, rfl, hv, hmoved₂⟩ := moved_cons hmoved₁
  rw [List.length_cons] at hj hb
  refine .accept hv (fun _ => ?_) fun _ => ?_
  · cases cs₂ with
    | nil =>
      -- the text ends where the block is due
      refine .of_fails fun n e he => Fails.bind ⟨_, expect_miss ?_⟩
      rw [List.nil_append, frontToken_cons, he]
      exact nofun
    | cons w cs₃ =>
      obtain ⟨w', us₃, rfl, hw, hmoved₃⟩ := moved_cons hmoved₂
      rw [List.length_cons] at hj hb
      refine .expect hw fun _ => .read fun n m hm => ?_
      exact body_carries hstmt (n + 1) (m + 1) [] hcs.tail.tail.tail hmoved₃ (by omega) (by omega)
        (by omega)
  · exact line_carries hexpr hplace (fun _ => rfl) hcs.tail hmoved₁ (by simp)
      (by simpa using by omega) (by simpa using by omega)

/-- Behind a block stands a token of the same lines, or what the text goes on with. -/
theorem branch_carries (bound bound' line : Nat) (hcs : Lines T cs) (hmoved : Moved k cs us)
    (hne : cs ≠ []) (hj : cs.length < j) (hb : cs.length ≤ b) (hbound : cs.length ≤ bound') :
    Carries k b (Stmt.moved k) (branch expr stmt bound line)
      (branch expr' stmt' bound' (line + k)) cs us := by
  induction bound generalizing bound' line cs us b with
  | zero => exact .failHere
  | succ bound ih =>
    have hpos := List.length_pos_iff.mpr hne
    obtain ⟨bound', rfl⟩ := Nat.exists_eq_add_one_of_ne_zero (n := bound') (by omega)
    refine .after ((hexpr .full cs (hcs.fit hne) hj).carries (hplace .full) hmoved)
      fun test used cs₁ us₁ heq hused hmoved₁ hlt => ?_
    obtain ⟨_, _, hcs₁⟩ := ((heq ▸ hcs.fit hne).append hused).exists_cons
    refine .bind (block_carries hexpr hplace hstmt (heq ▸ hcs).append hmoved₁ (by simp [hcs₁])
      (by omega) (Nat.le_refl _)) fun body cs₂ us₂ hsuffix hmoved₂ hlt₂ => ?_
    have hcs₂ : Lines T cs₂ := (heq ▸ hcs).append.suffix hsuffix
    cases cs₂ with
    | nil =>
      cases hmoved₂
      -- what stands behind is no `elif` and no `else`, so the statement ends with its block
      refine .atEnd (a := .branch line test body []) (by omega)
        (fun n e he => .bind .peekToken ?_) fun m Y hY => .bind .peekToken ?_
      · rw [frontToken_cons, he]
        exact .pure
      · obtain ⟨helif, helse, -⟩ := hY
        split
        · contradiction
        · contradiction
        · exact .pure
    | cons t cs₃ =>
      obtain ⟨u, us₃, rfl, ht, hmoved₃⟩ := moved_cons hmoved₂
      rw [List.length_cons] at hlt₂
      refine .peekToken ?_
      rw [ht.lexeme]
      split
      · next hword =>
        refine .advance ?_
        rw [ht.line (by rw [hword]; rfl)]
        refine .map (ih bound' _ hcs₂.tail hmoved₃ (hcs₂.ne_nil (by rw [hword]; rfl)) (by omega)
          (by omega) (by omega)) fun s => rfl
      · next hword =>
        refine .advance (.map (block_carries hexpr hplace hstmt hcs₂.tail hmoved₃
          (hcs₂.ne_nil (by rw [hword]; rfl)) (by omega) (by omega)) fun orelse => rfl)
      · exact .pure hmoved₂ (by rw [List.length_cons]; omega)

theorem forEach_carries {t u : Token} (hfor : t.lexeme = .word "for")
    (line : Nat) (hcs : Lines T (t :: cs)) (hmoved : Moved k cs us) (hj : cs.length < j)
    (hb : cs.length ≤ b) :
    Carries k b (Stmt.moved k) (forEach expr stmt line) (forEach expr' stmt' (line + k)) (t :: cs)
      (u :: us) := by
  refine .advance ?_
  have hne := hcs.ne_nil (by rw [hfor]; rfl)
  have hfit := hcs.tail.fit hne
  obtain ⟨v, cs₁, rfl⟩ := hfit.exists_cons
  obtain ⟨v', us₁, rfl, hv, hmoved₁⟩ := moved_cons hmoved
  refine .peekToken (.after ((loopTarget_alike hfit).carries loopTarget_placeless hmoved)
    fun e used cs₂ us₂ heq hused hmoved₂ _ => ?_)
  have hlen : cs₂.length ≤ (v :: cs₁).length := by simp [heq]
  obtain ⟨w, cs₃, rfl⟩ := ((heq ▸ hfit).append hused).exists_cons
  obtain ⟨w', us₃, rfl, hw, hmoved₃⟩ := moved_cons hmoved₂
  rw [id_eq]
  cases toTarget e with
  | error fault => exact .throw
  | ok target =>
    refine .accept hw (fun hin => ?_) fun _ => .unexpected
    have hcs₂ : Lines T (w :: cs₃) := (heq ▸ hcs.tail).append
    have hfit₃ := hcs₂.tail.fit (hcs₂.ne_nil (by rw [hin]; rfl))
    rw [List.length_cons] at hlen
    refine .after ((exprList_alike hexpr hfit₃ (by omega)).carries (exprList_placeless hplace)
      hmoved₃) fun items used' cs₄ us₄ heq' hused' hmoved₄ hlt => ?_
    obtain ⟨_, _, hcs₄⟩ := ((heq' ▸ hfit₃).append hused').exists_cons
    exact .map (block_carries hexpr hplace hstmt (heq' ▸ hcs₂.tail).append hmoved₄ (by simp [hcs₄])
      (by omega) (by omega)) fun _ => rfl

end Blocks

/-! ## Handlers -/

section Statements

variable {expr expr' : Inner} {stmt stmt' : Parser Stmt} (hexpr : InnerAlike T j expr expr')
  (hplace : InnerPlaceless expr') (hstmt : StmtCarries T k j stmt stmt')
include hexpr hplace hstmt

theorem handlers_carries (line : Nat) (body : List Stmt) (bound bound' : Nat) (hs : List Handler)
    (hcs : Lines T cs) (hmoved : Moved k cs us) (hj : cs.length < j) (hb : cs.length < b)
    (hbound : cs.length < bound') :
    Carries k b (Stmt.moved k) (handlersThen expr stmt line body bound hs)
      (handlersThen expr' stmt' (line + k) (movedBody k body) bound' (movedHandlers k hs)) cs us := by
  induction bound generalizing bound' hs cs us with
  | zero => exact .of_fails fun _ _ _ => Fails.bind ⟨_, failHere_apply _⟩
  | succ bound ih =>
    obtain ⟨bound', rfl⟩ := Nat.exists_eq_add_one_of_ne_zero (n := bound') (by omega)
    rw [handlersThen_step, handlersThen_step, ← movedHandlers_reverse, movedHandlers_isEmpty]
    cases cs with
    | nil =>
      -- nothing follows: there have to be handlers by now
      cases hmoved
      have hmiss : ∀ n e, e.lexeme = .eof → LooksOn false (acceptWord "except") n [e] :=
        fun n e he => accept_miss (by rw [frontToken_cons, he]; decide)
      by_cases hempty : hs.reverse.isEmpty = true
      · refine .of_fails fun n e he => ?_
        rw [Fails, List.nil_append, bind_ok (hmiss n e he), if_neg (by decide), if_pos hempty]
        exact Fails.unexpected
      · refine .atEnd (a := .attempt line body hs.reverse) (by omega)
          (fun n e he => .bind (hmiss n e he) ?_) fun m Y hY => .bind (accept_miss hY.2.2) ?_
        · rw [if_neg (by decide), if_neg hempty]
          exact .pure
        · rw [if_neg (by decide), if_neg hempty]
          exact .pure
    | cons t cs₁ =>
      obtain ⟨u, us₁, rfl, ht, hmoved₁⟩ := moved_cons hmoved
      rw [List.length_cons] at hj hb hbound
      refine .accept ht (fun hexcept => ?_) fun _ => ?_
      · have hne₁ := hcs.ne_nil (by rw [hexcept]; rfl)
        -- the block of a handler, and what follows it
        have hblock : ∀ kind binding cs₂ us₂, Lines T cs₂ → Moved k cs₂ us₂ → cs₂ ≠ [] →
            cs₂.length ≤ cs₁.length →
            Carries k b (Stmt.moved k)
              (do let b ← block expr stmt
                  handlersThen expr stmt line body bound (.mk kind binding b :: hs))
              (do let b ← block expr' stmt'
                  handlersThen expr' stmt' (line + k) (movedBody k body) bound'
                    (.mk kind binding b :: movedHandlers k hs)) cs₂ us₂ := by
          intro kind binding cs₂ us₂ hcs₂ hmoved₂ hne₂ hlen
          refine .bind (block_carries hexpr hplace hstmt hcs₂ hmoved₂ hne₂ (by omega)
            (Nat.le_refl _)) fun handled cs₃ us₃ hsuffix hmoved₃ hlt => ?_
          exact ih bound' (.mk kind binding handled :: hs) (hcs₂.suffix hsuffix) hmoved₃ (by omega)
            (by omega) (by omega)
        have hfit₁ := hcs.tail.fit hne₁
        refine .after ((handlerKind_alike hfit₁).carries handlerKind_placeless hmoved₁)
          fun kind used cs₂ us₂ heq hused hmoved₂ _ => ?_
        obtain ⟨v, cs₃, rfl⟩ := ((heq ▸ hfit₁).append hused).exists_cons
        obtain ⟨v', us₃, rfl, hv, hmoved₃⟩ := moved_cons hmoved₂
        have hcs₂ : Lines T (v :: cs₃) := (heq ▸ hcs.tail).append
        have hlen : (v :: cs₃).length ≤ cs₁.length := by simp [heq]
        refine .accept hv (fun has => ?_) fun _ => hblock kind none _ _ hcs₂ hmoved₂ (by simp) hlen
        have hfit₃ := hcs₂.tail.fit (hcs₂.ne_nil (by rw [has]; rfl))
        refine .after ((Alike.name hfit₃).carries .name hmoved₃)
          fun n used' cs₄ us₄ heq' hused' hmoved₄ _ => ?_
        obtain ⟨_, _, hcs₄⟩ := ((heq' ▸ hfit₃).append hused').exists_cons
        refine hblock kind (some n) cs₄ us₄ (heq' ▸ hcs₂.tail).append hmoved₄ (by simp [hcs₄]) ?_
        rw [heq', List.length_cons, List.length_append] at hlen
        omega
      · refine .ite (absurd · Bool.false_ne_true) fun _ => .ite (fun _ => .unexpected) fun _ => ?_
        exact .pure hmoved (by rw [List.length_cons]; omega)

theorem attempt_carries {t u : Token} (htry : t.lexeme = .word "try") (line : Nat)
    (hcs : Lines T (t :: cs)) (hmoved : Moved k cs us) (hj : cs.length < j) (hb : cs.length ≤ b) :
    Carries k b (Stmt.moved k) (attempt expr stmt line) (attempt expr' stmt' (line + k)) (t :: cs)
      (u :: us) := by
  rw [attempt_eq, attempt_eq]
  refine .advance (.bind (block_carries hexpr hplace hstmt hcs.tail hmoved
    (hcs.ne_nil (by rw [htry]; rfl)) hj (Nat.le_refl _)) fun body cs' us' hsuffix hmoved' hlt => ?_)
  exact .read fun n m hm => handlers_carries hexpr hplace hstmt line body (n + 1) (m + 1) []
    (hcs.tail.suffix hsuffix) hmoved' (by omega) (by omega) (by omega)

end Statements

/-! ## Statements -/

theorem statement_carries {expr expr' : Inner} {stmt stmt' : Parser Stmt}
    (hexpr : InnerAlike T (j + 1) expr expr') (hplace : InnerPlaceless expr')
    (hstmt : StmtCarries T k j stmt stmt') :
    StmtCarries T k (j + 1) (statement expr stmt) (statement expr' stmt') := by
  intro cs us hcs hmoved hne hj
  have hexpr' := hexpr.mono (Nat.le_succ j)
  obtain ⟨t, cs₁, rfl⟩ := List.exists_cons_of_ne_nil hne
  obtain ⟨u, us₁, rfl, ht, hmoved₁⟩ := moved_cons hmoved
  rw [List.length_cons] at hj ⊢
  refine .peekToken ?_
  rw [ht.lexeme]
  split
  case h_1 hword =>
    rw [ht.line (by rw [hword]; rfl)]
    exact .advance (.read fun n m hm => branch_carries hexpr' hplace hstmt n m _ hcs.tail hmoved₁
      (hcs.ne_nil (by rw [hword]; rfl)) (by omega) (by omega) hm)
  case h_2 hword =>
    rw [ht.line (by rw [hword]; rfl)]
    have hfit := hcs.tail.fit (hcs.ne_nil (by rw [hword]; rfl))
    refine .advance (.after ((hexpr' .full cs₁ hfit (by omega)).carries (hplace .full) hmoved₁)
      fun test used cs₂ us₂ heq hused hmoved₂ hlt => ?_)
    obtain ⟨_, _, hcs₂⟩ := ((heq ▸ hfit).append hused).exists_cons
    exact .map (block_carries hexpr' hplace hstmt (heq ▸ hcs.tail).append hmoved₂ (by simp [hcs₂])
      (by omega) (by omega)) fun _ => rfl
  case h_3 hword =>
    rw [ht.line (by rw [hword]; rfl)]
    exact forEach_carries hexpr' hplace hstmt hword _ hcs hmoved₁ (by omega) (by omega)
  case h_4 hword =>
    rw [ht.line (by rw [hword]; rfl)]
    exact attempt_carries hexpr' hplace hstmt hword _ hcs hmoved₁ (by omega) (by omega)
  case h_5 =>
    exact line_carries hexpr hplace (fun _ => rfl) hcs hmoved (by simp) (by simpa using hj)
      (by simp)

/-- A bound on the nesting of blocks does no harm if it is no less than the number of tokens. -/
theorem stmtAt_carries {expr expr' : Inner} (hexpr : InnerAlike T j expr expr')
    (hplace : InnerPlaceless expr') (bound bound' : Nat) (hj : bound' < j) :
    StmtCarries T k (bound' + 1) (stmtAt expr bound) (stmtAt expr' bound') := by
  induction bound generalizing bound' with
  | zero => exact fun _ _ _ _ _ _ => .failHere
  | succ bound ih =>
    intro cs us hcs hmoved hne hlen
    have hpos := List.length_pos_iff.mpr hne
    obtain ⟨bound', rfl⟩ := Nat.exists_eq_add_one_of_ne_zero (n := bound') (by omega)
    exact statement_carries (hexpr.mono (by omega)) hplace (ih bound' (by omega)) cs us hcs hmoved
      hne hlen

/-! ## Whole texts -/

/-- **The statements of a text, in another text.** Where a parser succeeds on the lines as a whole
text, the parser of the other text reads the same statements from them, moved down, and goes on
behind them. -/
theorem text_carries {stmt stmt' : Parser Stmt} (bound' : Nat)
    (hstmt : StmtCarries T k j stmt stmt') {bound n m : Nat} {body r : List Stmt}
    {rest : List Token} {e : Token}
    (hcs : Lines T cs) (hmoved : Moved k cs us) (hj : cs.length < j) (he : e.lexeme = .eof)
    (hm : cs.length ≤ m) (hbound : cs.length ≤ bound')
    (h : repeatUpTo (textRound stmt) bound body n (cs ++ [e]) = .ok (r, rest)) :
    ∃ ss left, r = body.reverse ++ ss ∧ bound' ≤ left + cs.length ∧
      ∀ body' Y, Apart Y → repeatUpTo (textRound stmt') bound' body' m (us ++ Y)
        = repeatUpTo (textRound stmt') left ((movedBody k ss).reverse ++ body') m Y := by
  induction bound generalizing bound' body cs us with
  | zero => cases h
  | succ bound ih =>
    cases cs with
    | nil =>
      cases hmoved
      rw [text_step, List.nil_append, bind_ok peek_apply, frontToken_cons, he] at h
      cases h
      exact ⟨[], bound', (List.append_nil _).symm, Nat.le_refl _, fun _ _ _ => rfl⟩
    | cons t cs₁ =>
      obtain ⟨u, us₁, rfl, ht, hmoved₁⟩ := moved_cons hmoved
      rw [List.length_cons] at hj hm hbound
      obtain ⟨bound', rfl⟩ := Nat.exists_eq_add_one_of_ne_zero (n := bound') (by omega)
      by_cases hnewline : t.lexeme = .newline
      · rw [List.cons_append, text_newline hnewline] at h
        obtain ⟨ss, left, hr, hleft, hrun⟩ :=
          ih bound' hcs.tail hmoved₁ (by omega) (by omega) (by omega) h
        refine ⟨ss, left, hr, by rw [List.length_cons]; omega, fun body' Y hY => ?_⟩
        rw [List.cons_append, text_newline (ht.lexeme.trans hnewline), hrun body' Y hY]
      · -- a statement, after which the rest of the lines is shorter
        have heof := hcs.unended t (List.mem_cons_self ..)
        rw [List.cons_append, text_stmt hnewline heof] at h
        obtain ⟨s, mid, hs, h⟩ := bind_ok_iff.mp h
        obtain ⟨cs₂, us₂, hsuffix, hlt, rfl, hmoved₂, hq⟩ := hstmt (t :: cs₁) (u :: us₁) hcs hmoved
          (by simp) (by simpa using hj) n m s mid e he (by simpa using hm) hs
        rw [List.length_cons] at hlt
        obtain ⟨ss, left, rfl, hleft, hrun⟩ := ih bound' (hcs.suffix hsuffix) hmoved₂
          (by omega) (by omega) (by omega) h
        refine ⟨s :: ss, left, by simp, by rw [List.length_cons]; omega, fun body' Y hY => ?_⟩
        rw [← ht.lexeme] at hnewline heof
        rw [List.cons_append, text_stmt hnewline heof, ← List.cons_append, bind_ok (hq Y hY),
          hrun _ Y hY]
        simp [movedBody]

end Tilde.Parser
