import Tilde.Proofs.Effects
import Tilde.Proofs.Prefix.Cuts
import Tilde.Session

/-!
# Statements that are cut off

How the parsers of statements come to the end of lines that are cut off. A statement starts and ends
between two lines. A block starts behind its head, where the outline is within a line, and ends
between two lines; if it is guarded, a handler is due there.
-/

namespace Tilde.Parser

variable {T : Token → Prop} {cs : List Token} {pos : Pos} {j b : Nat} {o : Outline} {g : Bool}

/-- The parsers of a statement on lines of fewer than `j` tokens. -/
def StmtCuts (T : Token → Prop) (pos : Pos) (j : Nat) (stmt stmt' : Parser Stmt) : Prop :=
  ∀ (o : Outline) cs, Lines T cs → cs ≠ [] → cs.length < j →
    Cuts pos cs.length (o.between false) (o.between false) stmt stmt' cs

theorem InnerAlike.mono {i : Nat} {inner inner' : Inner} (h : InnerAlike T j inner inner')
    (hij : i ≤ j) : InnerAlike T i inner inner' :=
  fun level cs hfit hlt => h level cs hfit (Nat.lt_of_lt_of_le hlt hij)

/-! ## The end of the text -/

theorem front_ending (k : Nat) :
    (frontToken (ending pos k)).lexeme = if k = 0 then .eof else .dedent := by
  cases k <;> rfl

/-- What is missing at the end of the text is told from what is missing at a `dedent`. -/
theorem meets_stuck {α : Type} {k m : Nat} {q : Parser α} {expected : String} {at' : Pos}
    (h : q m (ending pos k)
      = .error ⟨unexpectedFault (frontToken (ending pos k)).lexeme expected, at'⟩) :
    Meets pos (.stuck (k = 0)) (q m (ending pos k)) := by
  refine ⟨_, h, ?_⟩
  rw [front_ending, unexpectedFault]
  cases k <;> simp

theorem front_ending_ne {l : Lexeme} (heof : l ≠ .eof) (hdedent : l ≠ .dedent) (k : Nat) :
    (frontToken (ending pos k)).lexeme ≠ l := by
  rw [front_ending]
  split
  · exact heof.symm
  · exact hdedent.symm

/-! ## Lines -/

/-- A simple statement up to the end of its line. -/
theorem line_cuts {β : Type} {expr expr' : Inner} {start : Outline} {f : Stmt → β}
    (hexpr : InnerAlike T j expr expr') (hcs : Lines T cs) (hne : cs ≠ []) (hj : cs.length < j)
    (hb : cs.length ≤ b)
    (hstart : ∀ used cs', cs = used ++ cs' → used ≠ [] →
      (∀ t ∈ used, t.lexeme.isInline = true) → start.after used = o.inLine g) :
    Cuts pos b start (o.between g)
      (do let s ← simple expr; lineEnd; return f s)
      (do let s ← simple expr'; lineEnd; return f s) cs := by
  refine .after_alike (simple_alike hexpr (hcs.fit hne) hj) fun s used cs' heq hused hlt => ?_
  have hused_ne : used ≠ [] := by
    rintro rfl
    rw [heq] at hlt
    exact absurd hlt (Nat.lt_irrefl _)
  rw [hstart used cs' heq hused_ne hused]
  obtain ⟨t, cs₁, rfl⟩ := ((heq ▸ hcs.fit hne).append hused).exists_cons
  have hrest : Lines T (t :: cs₁) := (heq ▸ hcs).append
  refine .lineEnd (hrest.unended t (List.mem_cons_self ..)) ?_
  rw [List.length_cons] at hlt
  exact .pure (by omega)

/-! ## Blocks -/

/-- A round of the parser of an indented block. -/
def bodyRound (stmt : Parser Stmt) (body : List Stmt) : Parser (List Stmt ⊕ List Stmt) := do
  match ← peek with
  | .dedent => do advance; return .inr body.reverse
  | .eof => unexpected "a statement"
  | .newline => do advance; return .inl body
  | _ => return .inl ((← stmt) :: body)

theorem body_step (stmt : Parser Stmt) (bound : Nat) (body : List Stmt) :
    repeatUpTo (bodyRound stmt) (bound + 1) body = (do
      match ← peek with
      | .dedent => do advance; return body.reverse
      | .eof => unexpected "a statement"
      | .newline => do advance; repeatUpTo (bodyRound stmt) bound body
      | _ => do
        let s ← stmt
        repeatUpTo (bodyRound stmt) bound (s :: body)) := by
  rw [repeatUpTo, bodyRound, bind_assoc]
  refine bind_congr fun l => ?_
  split
  · simp only [bind_assoc, pure_bind]
  · exact unexpected_bind _ _
  · simp only [bind_assoc, pure_bind]
  · simp only [bind_assoc, pure_bind]

theorem body_dedent (stmt : Parser Stmt) (bound : Nat) (body : List Stmt) (m left : Nat) :
    repeatUpTo (bodyRound stmt) (bound + 1) body m (ending pos (left + 1))
      = .ok (body.reverse, ending pos left) := by
  rw [body_step, ending_succ]
  rfl

section Blocks

variable {expr expr' : Inner} {stmt stmt' : Parser Stmt} (hexpr : InnerAlike T j expr expr')
  (hstmt : StmtCuts T pos j stmt stmt')

include hstmt in
theorem body_cuts (bound bound' : Nat) (body : List Stmt) (hcs : Lines T cs) (hj : cs.length < j)
    (hbound : cs.length < bound') (hb : cs.length < b) :
    Cuts pos b ((o.opened g).between false) (o.between g)
      (repeatUpTo (bodyRound stmt) bound body) (repeatUpTo (bodyRound stmt') bound' body) cs := by
  -- by induction on the rounds; each leaves fewer tokens, so the second bound is never used up
  induction bound generalizing bound' body cs with
  | zero => exact .failHere
  | succ bound ih =>
    obtain ⟨bound', rfl⟩ := Nat.exists_eq_add_one_of_ne_zero (n := bound') (by omega)
    cases cs with
    | nil =>
      -- between two statements nothing is due, and the first `dedent` of the end closes the block
      intro n m X a rest _ _
      refine .inr ⟨[g], rfl, rfl, fun k hk => ?_⟩
      obtain ⟨left, rfl⟩ := Nat.exists_eq_add_one_of_ne_zero (n := k) (by simp at hk; omega)
      refine ⟨.finished left, ⟨_, body_dedent stmt' bound' body m left⟩, ?_⟩
      rw [Outline.between_owes]
      rfl
    | cons t cs₁ =>
      rw [body_step, body_step]
      rw [List.length_cons] at hj hbound hb
      refine .peek ?_
      split
      · next heq =>
        refine .advance ?_
        rw [heq, Outline.opened_dedent]
        exact .pure (by omega)
      · exact .unexpected
      · next heq =>
        refine .advance ?_
        rw [heq, Outline.between_newline]
        exact ih bound' body hcs.tail (by omega) (by omega) (by omega)
      · refine .bind [g] (hstmt (o.opened g) (t :: cs₁) hcs (by simp) (by simpa using hj)) rfl rfl
          (fun s used cs' heq hne hlt => ?_) fun s m left hleft => ?_
        · rw [List.length_cons] at hlt
          exact ih bound' (s :: body) (heq ▸ hcs).append (by omega) (by omega) (by omega)
        · -- the statement is cut off but finished: the next `dedent` closes the block
          obtain ⟨left, rfl⟩ := Nat.exists_eq_add_one_of_ne_zero (n := left)
            (by have := hleft rfl; simp at this; omega)
          obtain ⟨bound', rfl⟩ := Nat.exists_eq_add_one_of_ne_zero (n := bound') (by omega)
          refine ⟨.finished left, ⟨_, body_dedent stmt' bound' _ m left⟩, ?_⟩
          rw [Outline.between_owes]
          rfl

include hexpr hstmt in
theorem block_cuts (hcs : Lines T cs) (hne : cs ≠ []) (hj : cs.length < j) (hb : cs.length ≤ b) :
    Cuts pos b (o.inLine g) (o.between g) (block expr stmt) (block expr' stmt') cs := by
  obtain ⟨t, cs₁, rfl⟩ := List.exists_cons_of_ne_nil hne
  rw [List.length_cons] at hj hb
  refine .expect fun ht => ?_
  obtain ⟨u, cs₂, rfl⟩ := List.exists_cons_of_ne_nil (hcs.ne_nil (by rw [ht]; rfl))
  rw [List.length_cons] at hj hb
  refine .accept (fun hu => ?_) fun hu => ?_
  · rw [Outline.inLine_colon_newline]
    cases cs₂ with
    | nil =>
      -- the lines end with the head of the block: this is where a block is missed
      exact .stuck Outline.due_owes rfl rfl fun m k =>
        meets_stuck (bind_error (expect_miss (front_ending_ne (by decide) (by decide) k)))
    | cons v cs₃ =>
      refine .expect fun hv => ?_
      rw [List.length_cons] at hj hb
      rw [Outline.due_indent]
      exact .read fun n m hm => body_cuts hstmt (n + 1) (m + 1) [] hcs.tail.tail.tail (by omega)
        (by omega) (by omega)
  · exact line_cuts hexpr hcs.tail (by simp) (by simpa using by omega) (by simpa using by omega)
      fun used cs' _ hne hused => colon_after hne hused

/-- A keyword that starts a line. -/
theorem keyword_next {w : String} (g : Bool) :
    (o.between g).next (.word w) = o.inLine (w = "try") := by
  rw [between_next rfl]
  simp

include hexpr hstmt

theorem branch_cuts (bound bound' line : Nat) (hcs : Lines T cs) (hne : cs ≠ [])
    (hj : cs.length < j) (hb : cs.length ≤ b) (hbound : cs.length ≤ bound') :
    Cuts pos b (o.inLine false) (o.between false) (branch expr stmt bound line)
      (branch expr' stmt' bound' line) cs := by
  induction bound generalizing bound' line cs with
  | zero => exact .failHere
  | succ bound ih =>
    have hpos := List.length_pos_iff.mpr hne
    obtain ⟨bound', rfl⟩ := Nat.exists_eq_add_one_of_ne_zero (n := bound') (by omega)
    refine .after_alike (hexpr .full cs (hcs.fit hne) hj) fun test used cs₁ heq hused hlt => ?_
    rw [inLine_after hused]
    obtain ⟨_, _, hcs₁⟩ := ((heq ▸ hcs.fit hne).append hused).exists_cons
    refine .bind [] (block_cuts hexpr hstmt (heq ▸ hcs).append (by simp [hcs₁]) (by omega)
      (Nat.le_refl _)) rfl rfl (fun body used' cs₂ heq' hne₂ hlt₂ => ?_) fun body m left _ => ?_
    · obtain ⟨t, cs₃, rfl⟩ := List.exists_cons_of_ne_nil hne₂
      have hcs₂ : Lines T (t :: cs₃) := (heq' ▸ (heq ▸ hcs).append).append
      rw [List.length_cons] at hlt₂
      refine .peekToken ?_
      split
      · next ht =>
        refine .advance ?_
        rw [ht, keyword_next]
        exact .map (ih bound' _ hcs₂.tail (hcs₂.ne_nil (by rw [ht]; rfl)) (by omega) (by omega)
          (by omega))
      · next ht =>
        refine .advance ?_
        rw [ht, keyword_next]
        exact .map (block_cuts hexpr hstmt hcs₂.tail (hcs₂.ne_nil (by rw [ht]; rfl)) (by omega)
          (by omega))
      · exact .pure (by rw [List.length_cons]; omega)
    · -- what follows the block is the end of the text, which is no `else`
      refine ⟨.finished left, ⟨.branch line test body [], ?_⟩, rfl⟩
      cases left <;> rfl

theorem forEach_cuts {t : Token} (ht : t.lexeme = .word "for") (line : Nat)
    (hcs : Lines T (t :: cs)) (hj : cs.length < j) (hb : cs.length < b) :
    Cuts pos b (o.between g) (o.between false) (forEach expr stmt line) (forEach expr' stmt' line)
      (t :: cs) := by
  refine .advance ?_
  rw [ht, keyword_next]
  have hne := hcs.ne_nil (by rw [ht]; rfl)
  have hfit := hcs.tail.fit hne
  obtain ⟨u, cs₁, rfl⟩ := hfit.exists_cons
  refine .peekToken (.after_alike (loopTarget_alike hfit) fun e used cs₂ heq hused _ => ?_)
  have hlen : cs₂.length ≤ (u :: cs₁).length := by simp [heq]
  rw [inLine_after hused]
  obtain ⟨v, cs₃, rfl⟩ := ((heq ▸ hfit).append hused).exists_cons
  -- what the target denotes is the same on both sides, for the same expression has been read
  cases toTarget e with
  | error fault => exact .throw
  | ok target =>
    refine .accept (fun hv => ?_) fun _ => .unexpected
    rw [inLine_next rfl]
    have hcs₂ : Lines T (v :: cs₃) := (heq ▸ hcs.tail).append
    have hfit₃ := hcs₂.tail.fit (hcs₂.ne_nil (by rw [hv]; rfl))
    rw [List.length_cons] at hlen
    refine .after_alike (exprList_alike hexpr hfit₃ (by omega)) fun items used' cs₄ heq' hused' hlt =>
      ?_
    rw [inLine_after hused']
    obtain ⟨_, _, hcs₄⟩ := ((heq' ▸ hfit₃).append hused').exists_cons
    exact .map (block_cuts hexpr hstmt (heq' ▸ hcs₂.tail).append (by simp [hcs₄]) (by omega)
      (by omega))

end Blocks

/-! ## Handlers -/

/-- A round of the parser of handlers. -/
def handlerRound (expr : Inner) (stmt : Parser Stmt) (handlers : List Handler) :
    Parser (List Handler ⊕ List Handler) := do
  if ← acceptWord "except" then
    let kind ← handlerKind
    let binding ← if ← acceptWord "as" then pure (some (← name)) else pure none
    return .inl (.mk kind binding (← block expr stmt) :: handlers)
  else return .inr handlers.reverse

/-- The handlers that follow some handlers, and then the end of the guarded block. -/
def handlersThen (expr : Inner) (stmt : Parser Stmt) (line : Nat) (body : List Stmt)
    (bound : Nat) (hs : List Handler) : Parser Stmt := do
  let handlers ← repeatUpTo (handlerRound expr stmt) bound hs
  if handlers.isEmpty then unexpected "'except'" else return .attempt line body handlers

theorem handlersThen_step (expr : Inner) (stmt : Parser Stmt) (line : Nat) (body : List Stmt)
    (bound : Nat) (hs : List Handler) :
    handlersThen expr stmt line body (bound + 1) hs = (do
      if ← acceptWord "except" then
        let kind ← handlerKind
        let named ← acceptWord "as"
        if named then
          let n ← name
          let b ← block expr stmt
          handlersThen expr stmt line body bound (.mk kind (some n) b :: hs)
        else
          let b ← block expr stmt
          handlersThen expr stmt line body bound (.mk kind none b :: hs)
      else
        if hs.reverse.isEmpty then unexpected "'except'"
        else return .attempt line body hs.reverse) := by
  simp only [handlersThen, repeatUpTo, handlerRound, bind_assoc]
  refine bind_congr fun hit => ?_
  split
  · simp only [bind_assoc, pure_bind]
    refine bind_congr fun kind => bind_congr fun named => ?_
    split <;> simp only [bind_assoc, pure_bind]
  · simp only [pure_bind]

/-- At the end of the text, what follows some handlers is the end of the guarded block. -/
theorem handlersThen_ending (expr : Inner) (stmt : Parser Stmt) (line : Nat) (body : List Stmt)
    (bound m left : Nat) (h : Handler) (hs : List Handler) :
    ∃ s, handlersThen expr stmt line body (bound + 1) (h :: hs) m (ending pos left)
      = .ok (s, ending pos left) := by
  refine ⟨.attempt line body (h :: hs).reverse, ?_⟩
  have hmiss : acceptWord "except" m (ending pos left) = .ok (false, ending pos left) :=
    accept_miss (front_ending_ne (by decide) (by decide) left)
  rw [handlersThen_step, bind_ok hmiss, if_neg (by decide), if_neg (by simp)]
  rfl

/-- At the end of the text, a guarded block without handlers misses one. -/
theorem noHandlers_ending (expr : Inner) (stmt : Parser Stmt) (line : Nat) (body : List Stmt)
    (bound m left : Nat) :
    handlersThen expr stmt line body (bound + 1) [] m (ending pos left)
      = .error ⟨unexpectedFault (frontToken (ending pos left)).lexeme "'except'",
        (frontToken (ending pos left)).pos⟩ := by
  have hmiss : acceptWord "except" m (ending pos left) = .ok (false, ending pos left) :=
    accept_miss (front_ending_ne (by decide) (by decide) left)
  rw [handlersThen_step, bind_ok hmiss]
  exact unexpected_apply _

section Statements

variable {expr expr' : Inner} {stmt stmt' : Parser Stmt} (hexpr : InnerAlike T j expr expr')
  (hstmt : StmtCuts T pos j stmt stmt')
include hexpr hstmt

theorem handlers_cuts (line : Nat) (body : List Stmt) (bound bound' : Nat) (hs : List Handler)
    (hcs : Lines T cs) (hne : cs ≠ []) (hj : cs.length < j) (hb : cs.length < b)
    (hbound : cs.length ≤ bound') :
    Cuts pos b (o.between hs.isEmpty) (o.between false) (handlersThen expr stmt line body bound hs)
      (handlersThen expr' stmt' line body bound' hs) cs := by
  induction bound generalizing bound' hs cs with
  | zero => exact .after_alike (P := fun _ _ => False) .failHere fun _ _ _ _ _ h => h.elim
  | succ bound ih =>
    have hpos := List.length_pos_iff.mpr hne
    obtain ⟨bound', rfl⟩ := Nat.exists_eq_add_one_of_ne_zero (n := bound') (by omega)
    obtain ⟨t, cs₁, rfl⟩ := List.exists_cons_of_ne_nil hne
    rw [List.length_cons] at hj hb hbound
    rw [handlersThen_step, handlersThen_step]
    refine .accept (fun ht => ?_) fun ht => ?_
    · have hne₁ := hcs.ne_nil (by rw [ht]; rfl)
      have hpos₁ := List.length_pos_iff.mpr hne₁
      -- the block of a handler, and what follows it
      have hblock : ∀ kind binding cs₂, Lines T cs₂ → cs₂ ≠ [] → cs₂.length ≤ cs₁.length →
          Cuts pos b (o.inLine false) (o.between false)
            (do let b ← block expr stmt
                handlersThen expr stmt line body bound (.mk kind binding b :: hs))
            (do let b ← block expr' stmt'
                handlersThen expr' stmt' line body bound' (.mk kind binding b :: hs)) cs₂ := by
        intro kind binding cs₂ hcs₂ hne₂ hlen
        refine .bind [] (block_cuts hexpr hstmt hcs₂ hne₂ (by omega) (Nat.le_refl _)) rfl rfl
          (fun handled used cs₃ heq hne₃ hlt => ?_) fun handled m left _ => ?_
        · exact ih bound' (.mk kind binding handled :: hs) (heq ▸ hcs₂).append hne₃ (by omega)
            (by omega) (by omega)
        · obtain ⟨bound', rfl⟩ := Nat.exists_eq_add_one_of_ne_zero (n := bound') (by omega)
          exact ⟨.finished left, handlersThen_ending expr' stmt' line body bound' m left _ hs, rfl⟩
      rw [keyword_next]
      have hfit₁ := hcs.tail.fit hne₁
      refine .after_alike (handlerKind_alike hfit₁) fun kind used cs₂ heq hused _ => ?_
      rw [inLine_after hused]
      obtain ⟨u, cs₃, rfl⟩ := ((heq ▸ hfit₁).append hused).exists_cons
      have hcs₂ : Lines T (u :: cs₃) := (heq ▸ hcs.tail).append
      have hlen : (u :: cs₃).length ≤ cs₁.length := by simp [heq]
      refine .accept (fun hu => ?_) fun _ => hblock kind none _ hcs₂ (by simp) hlen
      rw [inLine_next rfl]
      have hne₃ := hcs₂.ne_nil (by rw [hu]; rfl)
      have hfit₃ := hcs₂.tail.fit hne₃
      refine .after_alike (.name hfit₃) fun n used' cs₄ heq' hused' _ => ?_
      rw [inLine_after hused']
      obtain ⟨_, _, hcs₄⟩ := ((heq' ▸ hfit₃).append hused').exists_cons
      refine hblock kind (some n) cs₄ (heq' ▸ hcs₂.tail).append (by simp [hcs₄]) ?_
      rw [heq', List.length_cons, List.length_append] at hlen
      omega
    · -- some other statement follows: there have to be handlers by now
      refine .ite (fun h => nomatch h) fun _ => .ite (fun _ => .unexpected) fun hempty => ?_
      have : hs.isEmpty = false := by simpa using hempty
      rw [this]
      exact .pure (by rw [List.length_cons]; omega)

omit hexpr hstmt in
theorem attempt_eq (expr : Inner) (stmt : Parser Stmt) (line : Nat) :
    attempt expr stmt line = (do
      advance
      let body ← block expr stmt
      let n ← read
      handlersThen expr stmt line body (n + 1) []) := by
  simp only [attempt, handlers, repeatFrom, bind_assoc]
  rfl

theorem attempt_cuts {t : Token} (ht : t.lexeme = .word "try") (line : Nat)
    (hcs : Lines T (t :: cs)) (hj : cs.length < j) (hb : cs.length < b) :
    Cuts pos b (o.between g) (o.between false) (attempt expr stmt line) (attempt expr' stmt' line)
      (t :: cs) := by
  rw [attempt_eq, attempt_eq]
  refine .advance ?_
  rw [ht, keyword_next]
  refine .bind [] (block_cuts hexpr hstmt hcs.tail (hcs.ne_nil (by rw [ht]; rfl)) hj
    (Nat.le_refl _)) rfl rfl (fun body used cs' heq hne hlt => ?_) fun body m left _ => ?_
  · exact .read fun n m hm => handlers_cuts hexpr hstmt line body (n + 1) (m + 1) []
      (heq ▸ hcs.tail).append hne (by omega) (by omega) (by omega)
  · -- cut off in the guarded block: the handler is due at what is left of the end
    refine ⟨.stuck (left = 0), ?_, ?_⟩
    · rw [bind_ok read_apply]
      exact meets_stuck (noHandlers_ending expr' stmt' line body m m left)
    · rw [Outline.between_owes]
      rfl

end Statements

/-! ## Statements -/

theorem statement_cuts {expr expr' : Inner} {stmt stmt' : Parser Stmt}
    (hexpr : InnerAlike T (j + 1) expr expr') (hstmt : StmtCuts T pos j stmt stmt') :
    StmtCuts T pos (j + 1) (statement expr stmt) (statement expr' stmt') := by
  intro o cs hcs hne hj
  have hexpr' := hexpr.mono (Nat.le_succ j)
  obtain ⟨t, cs₁, rfl⟩ := List.exists_cons_of_ne_nil hne
  rw [List.length_cons] at hj ⊢
  refine .peekToken ?_
  split
  case h_1 ht =>
    refine .advance ?_
    rw [ht, keyword_next]
    exact .read fun n m hm => branch_cuts hexpr' hstmt n m _ hcs.tail
      (hcs.ne_nil (by rw [ht]; rfl)) (by omega) (by omega) hm
  case h_2 ht =>
    refine .advance ?_
    rw [ht, keyword_next]
    have hfit := hcs.tail.fit (hcs.ne_nil (by rw [ht]; rfl))
    refine .after_alike (hexpr' .full cs₁ hfit (by omega)) fun test used cs₂ heq hused hlt => ?_
    rw [inLine_after hused]
    obtain ⟨_, _, hcs₂⟩ := ((heq ▸ hfit).append hused).exists_cons
    exact .map (block_cuts hexpr' hstmt (heq ▸ hcs.tail).append (by simp [hcs₂]) (by omega)
      (by omega))
  case h_3 ht => exact forEach_cuts hexpr' hstmt ht _ hcs (by omega) (by omega)
  case h_4 ht => exact attempt_cuts hexpr' hstmt ht _ hcs (by omega) (by omega)
  case h_5 htry =>
    refine line_cuts hexpr hcs (by simp) (by simpa using hj) (by simp) fun used cs' heq hne hused =>
      ?_
    -- only the first token of a line can make a handler due, and it is no `try`
    obtain ⟨u, used, rfl⟩ := List.exists_cons_of_ne_nil hne
    cases heq
    have htry : t.lexeme ≠ .word "try" := htry
    rw [Outline.after_cons, between_next (hused t (List.mem_cons_self ..)), decide_eq_false htry]
    exact inLine_after fun t' ht' => hused t' (List.mem_cons_of_mem t ht')

/-- A bound on the nesting of blocks does no harm if it is no less than the number of tokens. -/
theorem stmtAt_cuts {expr expr' : Inner} (hexpr : InnerAlike T j expr expr') (bound bound' : Nat)
    (hj : bound' < j) :
    StmtCuts T pos (bound' + 1) (stmtAt expr bound) (stmtAt expr' bound') := by
  induction bound generalizing bound' with
  | zero => exact fun _ _ _ _ _ => .failHere
  | succ bound ih =>
    intro o cs hcs hne hlen
    have hpos := List.length_pos_iff.mpr hne
    obtain ⟨bound', rfl⟩ := Nat.exists_eq_add_one_of_ne_zero (n := bound') (by omega)
    exact statement_cuts (hexpr.mono (by omega)) (ih bound' (by omega)) o cs hcs hne hlen

/-! ## Whole texts -/

/-- A round of the parser of a whole text. -/
def textRound (stmt : Parser Stmt) (body : List Stmt) : Parser (List Stmt ⊕ List Stmt) := do
  match ← peek with
  | .eof => return .inr body.reverse
  | .newline => do advance; return .inl body
  | _ => return .inl ((← stmt) :: body)

theorem text_step (stmt : Parser Stmt) (bound : Nat) (body : List Stmt) :
    repeatUpTo (textRound stmt) (bound + 1) body = (do
      match ← peek with
      | .eof => return body.reverse
      | .newline => do advance; repeatUpTo (textRound stmt) bound body
      | _ => do
        let s ← stmt
        repeatUpTo (textRound stmt) bound (s :: body)) := by
  rw [repeatUpTo, textRound, bind_assoc]
  refine bind_congr fun l => ?_
  split <;> simp only [bind_assoc, pure_bind]

theorem text_newline {t : Token} (ht : t.lexeme = .newline) (stmt : Parser Stmt) (bound : Nat)
    (body : List Stmt) (n : Nat) (ts : List Token) :
    repeatUpTo (textRound stmt) (bound + 1) body n (t :: ts)
      = repeatUpTo (textRound stmt) bound body n ts := by
  rw [text_step, bind_ok peek_apply, frontToken_cons, ht]
  exact bind_ok advance_apply

theorem text_stmt {t : Token} (hnewline : t.lexeme ≠ .newline) (heof : t.lexeme ≠ .eof)
    (stmt : Parser Stmt) (bound : Nat) (body : List Stmt) (n : Nat) (ts : List Token) :
    repeatUpTo (textRound stmt) (bound + 1) body n (t :: ts)
      = (stmt >>= fun s => repeatUpTo (textRound stmt) bound (s :: body)) n (t :: ts) := by
  rw [text_step, bind_ok peek_apply, frontToken_cons]
  cases hl : t.lexeme with
  | eof => exact absurd hl heof
  | newline => exact absurd hl hnewline
  | _ => rfl

section Texts

variable {stmt stmt' : Parser Stmt} (hstmt : StmtCuts T pos j stmt stmt') {n m : Nat}
  {X : List Token}
include hstmt

theorem text_cut (bound bound' : Nat) (body : List Stmt) {r : List Stmt × List Token}
    (hcs : Lines T cs) (hj : cs.length < j) (hbound : cs.length < bound') (hm : cs.length ≤ m)
    (h : repeatUpTo (textRound stmt) bound body n (cs ++ X) = .ok r) :
    (Outline.of cs).broken = false
      ∧ Meets pos (verdict (Outline.of cs).owes (Outline.of cs).blocks
          (Outline.of cs).blocks.length)
        (repeatUpTo (textRound stmt') bound' body m
          (cs ++ ending pos (Outline.of cs).blocks.length)) := by
  induction bound generalizing bound' body cs r with
  | zero => cases h
  | succ bound ih =>
    obtain ⟨bound', rfl⟩ := Nat.exists_eq_add_one_of_ne_zero (n := bound') (by omega)
    cases cs with
    | nil => exact ⟨rfl, body.reverse, by rw [text_step]; rfl⟩
    | cons t cs₁ =>
      rw [List.length_cons] at hj hbound hm
      by_cases hnewline : t.lexeme = .newline
      · have houtline : Outline.of (t :: cs₁) = Outline.of cs₁ := by
          rw [Outline.of, Outline.after_cons, hnewline]
          rfl
        rw [List.cons_append, text_newline hnewline] at h
        rw [houtline, List.cons_append, text_newline hnewline]
        exact ih bound' body hcs.tail (by omega) (by omega) (by omega) h
      have heof := hcs.unended t (List.mem_cons_self ..)
      rw [List.cons_append, text_stmt hnewline heof] at h ⊢
      obtain ⟨s, mid, hs, h⟩ := bind_ok_iff.mp (show _ = Except.ok (r.1, r.2) from h)
      rcases hstmt {} (t :: cs₁) hcs (by simp) (by simpa using hj) n m X s mid
        (by simpa using hm) hs with ⟨cs', rfl, hwhole⟩ | ⟨opened, hblocks, hbroken, hcut⟩
      · -- the statement ends within the lines, where the outline is as in front of it
        obtain ⟨⟨used, heq, hused⟩, hshort, -, hq⟩ := hwhole
        have houtline : Outline.of (t :: cs₁) = Outline.of cs' := by
          rw [heq, Outline.of, Outline.after_append]
          exact congrArg (Outline.after · cs') hused
        rw [List.length_cons] at hshort
        rw [houtline, ← List.cons_append, bind_ok (hq _)]
        exact ih bound' (s :: body) (heq ▸ hcs).append (by omega) (by omega) (by omega) h
      · -- the statement is cut off, so it is the last one
        refine ⟨hbroken, ?_⟩
        have hopened : (Outline.of (t :: cs₁)).blocks = opened :=
          hblocks.trans (List.append_nil opened)
        obtain ⟨v, hv, hverdict⟩ := hcut opened.length (Nat.le_refl _)
        have hverdict : verdict (Outline.of (t :: cs₁)).owes opened opened.length = v := by
          cases v <;> exact hverdict.symm
        rw [hopened, hverdict]
        cases v with
        | stuck atEnd =>
          obtain ⟨e, hrun, he⟩ := hv
          exact ⟨e, bind_error hrun, he⟩
        | finished left =>
          obtain ⟨s', hrun⟩ := hv
          have hleft : left = 0 := by have := verdict_finished hverdict; omega
          subst hleft
          obtain ⟨bound', rfl⟩ := Nat.exists_eq_add_one_of_ne_zero (n := bound') (by omega)
          refine ⟨(s' :: body).reverse, ?_⟩
          rw [← List.cons_append, bind_ok hrun, text_step]
          rfl

/-- **How the parser of a text comes to the end of lines that are cut off.** Where it succeeds on the
lines with something behind them, nothing in them is broken, and the verdict on their outline says
whether it succeeds where they are all there is, and in which way it fails. -/
theorem statements_cut {rest : List Token} {body : List Stmt} (hcs : Lines T cs)
    (hj : cs.length < j) (hm : cs.length ≤ m)
    (h : statements stmt n (cs ++ X) = .ok (body, rest)) :
    (Outline.of cs).broken = false
      ∧ Meets pos (verdict (Outline.of cs).owes (Outline.of cs).blocks
          (Outline.of cs).blocks.length)
        (statements stmt' m (cs ++ ending pos (Outline.of cs).blocks.length)) :=
  text_cut hstmt (n + 1) (m + 1) [] hcs hj (by omega) hm h

end Texts

end Tilde.Parser

/-!
## Probing the beginning of a text

What a probe says of a text whose first lines it sees. No further line can mend an invalid text, so
none of the beginnings of a valid text should be found invalid. But two kinds of them are.

A line may end within a string literal, behind a backslash; the lexer reports the literal as one
that is never closed. And a line may end where an indented block or a handler is due inside another
block. The lexer closes the blocks that are open where the text ends, so the parser meets a `dedent`
there, and not the end of the text. These are all: the probe finds every other beginning of a valid
text complete or incomplete.
-/

namespace Tilde

/-- Whether the end of the text closes a block in which an indented block or a handler is due. -/
def breaksBlock (source : String) : Bool :=
  match tokenize source with
  | .ok ts => (Outline.of ts).broken
  | .error _ => false

namespace Parser

variable {cs rest closed : List Token} {pos : Pos} {body : List Stmt} {n m : Nat}

/-- The fields of the interpolated strings of a text are parsed under any bound that exceeds its
length. -/
theorem fieldsAlike_of_sound (n m : Nat) :
    FieldsAlike (fun t => t.lexeme.Sound m) (fieldExpr n) (fieldExpr m) := by
  rintro pieces pos ps ⟨k, hk, hwithin⟩ hps
  exact parts_of (fun source spec hmem e he =>
    fieldExpr_of (Nat.lt_of_le_of_lt (hwithin source spec hmem) hk) he) hps

/-- The first lines of a program, closed where they end, are faulty before their end just if the
closing breaks a block. -/
theorem programTokens_cut (hclosed : closed = cs ++ ending pos (Outline.of cs).blocks.length)
    (hcs : Lines (fun t => t.lexeme.Sound m) cs)
    (h : programTokens n (cs ++ rest) = .ok body) :
    (∃ e, programTokens m closed = .error e ∧ e.fault ≠ .unexpectedEnd)
      ↔ (Outline.of closed).broken = true := by
  have hlen : cs.length ≤ closed.length := by rw [hclosed]; simp
  obtain ⟨_, hrun⟩ := parseTokens_ok.mp h
  have hexpr := exprAt_alike (fieldsAlike_of_sound n m) (cs ++ rest).length closed.length
  have hstmt : StmtCuts _ pos (closed.length + 1) _ _ :=
    stmtAt_cuts hexpr (cs ++ rest).length closed.length (Nat.lt_succ_self _)
  obtain ⟨hbroken, hmeets⟩ := statements_cut hstmt hcs (Nat.lt_succ_of_le hlen) hlen hrun
  have houtline : (Outline.of closed).broken = true
      ↔ verdict (Outline.of cs).owes (Outline.of cs).blocks (Outline.of cs).blocks.length
        = .stuck false := by
    rw [← broken_ending pos hbroken, hclosed, Outline.of, Outline.after_append]
    rfl
  rw [houtline]
  rw [← hclosed] at hmeets
  -- only the verdict counts from here on, not how the outline comes to it
  generalize verdict (Outline.of cs).owes (Outline.of cs).blocks (Outline.of cs).blocks.length = v
    at hmeets
  cases v with
  | finished left =>
    obtain ⟨body', hrun'⟩ := hmeets
    have hok : programTokens m closed = .ok body' := parseTokens_ok.mpr ⟨_, hrun'⟩
    simp [hok]
  | stuck atEnd =>
    obtain ⟨e, hrun', he⟩ := hmeets
    have herror : programTokens m closed = .error e := parseTokens_error hrun'
    simp [herror, he]

end Parser

/-- What a probe asks of a parser: an error that does not ask for more text. -/
theorem probe_invalid_iff {source : String} :
    probe source = .invalid ↔ ∃ e, parse source .interactive = .error e ∧ e.isIncomplete = false := by
  unfold probe
  cases parse source .interactive with
  | ok p =>
    dsimp only
    split <;> simp
  | error e => cases h : e.isIncomplete <;> simp [h]

/-- The first lines of a valid text are found invalid just if they end within a string literal or
break a block. -/
theorem probe_cut {s t : String} {mode : Mode} {p : Program}
    (h : parse (s ++ "\n" ++ t) mode = .ok p) :
    probe s = .invalid ↔ endsInLiteral s = true ∨ breaksBlock s = true := by
  rw [probe_invalid_iff, parse, breaksBlock]
  obtain ⟨ts, hall, hbody, -⟩ := parse_eq_ok.mp h
  have hcut := tokenize_cut hall
  -- the tokens of the text alone are those up to the line end, or something is open there
  generalize hs : tokenize s = r, endsInLiteral s = inLiteral at hcut
  cases hcut with
  | opened => simp [SyntaxError.isIncomplete]
  | @lines cs rest pos hts capped unended =>
    rw [hts] at hbody
    have hsound := tokenize_sound hs
    have hcs : Parser.Lines (fun t => t.lexeme.Sound s.length) cs :=
      ⟨capped, fun t ht => hsound t (List.mem_append_left _ ht), unended⟩
    have hprogram : _ ↔ (Outline.of (cs ++ ending pos _)).broken = true :=
      Parser.programTokens_cut rfl hcs hbody
    simp only [Bool.false_eq_true, false_or, ← hprogram]
    cases Parser.programTokens s.length
      (cs ++ ending pos (Outline.of cs).blocks.length) with
    | ok body' => simp
    | error e => simp [SyntaxError.isIncomplete]

/--
**When the beginning of a valid text is found invalid.**

Of a text that parses, the lines in front of a line end are found invalid just if they end within a
string literal, or if the end of the text closes a block in which an indented block or a handler is
due. A session that has gathered such lines runs them, although they are unfinished. All others that
are not complete it keeps, and waits for a further line; nothing is run.
-/
theorem beginning_probed_invalid {s t : String} {p : Program}
    (h : parse (s ++ "\n" ++ t) .interactive = .ok p) :
    (probe s = .invalid ↔ endsInLiteral s = true ∨ breaksBlock s = true)
      ∧ ∀ {ω : Type} (settings : Settings ω) (session : Session ω) (line : String),
        settings.probe = probe → session.gathered line = s → (Text.trim line).isEmpty = false →
          (endsInLiteral s = true ∨ breaksBlock s = true →
            session.takeLine settings line = { session with buffer := s }.runBuffer settings)
          ∧ (¬(endsInLiteral s = true ∨ breaksBlock s = true) → probe s ≠ .complete →
            ∃ r, session.takeLine settings line
              = (.goOn, { session.note r with buffer := s, waiting := .continuation })) := by
  have hinvalid := probe_cut h
  refine ⟨hinvalid, fun settings session line hprobe hgathered hline => ⟨fun hbad => ?_, ?_⟩⟩
  · simp [Session.takeLine, hgathered, hline, hprobe, hinvalid.mpr hbad]
  · intro hgood hcomplete
    have hincomplete : probe s = .incomplete := by
      cases hs : probe s with
      | complete => exact absurd hs hcomplete
      | incomplete => rfl
      | invalid => exact absurd (hinvalid.mp hs) hgood
    refine ⟨.incomplete (Text.lines s.toList).length, ?_⟩
    simp [Session.takeLine, Session.note, hgathered, hline, hprobe, hincomplete]

/-- The theorem at lines that end where a block is due inside another one. -/
theorem beginning_probed_invalid_of_open_block :
    (parse ("if x:\n    if y:" ++ "\n" ++ "        pass") .interactive).isOk = true
      ∧ probe "if x:\n    if y:" = .invalid
      ∧ Session.takeLine ⟨⟨.fresh, (), []⟩, "if x:", .continuation⟩ ⟨Host.silent, 0, probe⟩
          "    if y:"
        = Session.runBuffer ⟨⟨.fresh, (), []⟩, "if x:\n    if y:", .continuation⟩
          ⟨Host.silent, 0, probe⟩ := by
  have hok : (parse ("if x:\n    if y:" ++ "\n" ++ "        pass") .interactive).isOk = true := by
    decide +kernel
  have hbreaks : breaksBlock "if x:\n    if y:" = true := by decide +kernel
  cases hp : parse ("if x:\n    if y:" ++ "\n" ++ "        pass") .interactive with
  | error e => rw [hp] at hok; cases hok
  | ok p =>
    obtain ⟨hinvalid, hsession⟩ := beginning_probed_invalid hp
    refine ⟨rfl, hinvalid.mpr (.inr hbreaks), ?_⟩
    exact (hsession _ _ _ rfl (by decide) (by decide)).1 (.inr hbreaks)

/-- Some beginnings of valid texts are found invalid, such as a line that ends in a string literal
which goes on behind a backslash. -/
theorem beginning_not_always_valid :
    ¬∀ (s t : String) (p : Program), parse (s ++ "\n" ++ t) .interactive = .ok p →
      probe s ≠ .invalid := by
  intro hall
  have hok : (parse ("x = 'a\\" ++ "\n" ++ "b'") .interactive).isOk = true := by decide +kernel
  have hinvalid : probe "x = 'a\\" = .invalid := by decide +kernel
  cases hp : parse ("x = 'a\\" ++ "\n" ++ "b'") .interactive with
  | error e => rw [hp] at hok; cases hok
  | ok p => exact hall _ _ p hp hinvalid

end Tilde
