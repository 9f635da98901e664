import Tilde.Proofs.Exec.Located
import Tilde.Proofs.Exec.Spared
import Tilde.Proofs.Exit.Final

/-!
# Jumps stay in their loops

A `break` or a `continue` ends the statements around it, up to the innermost loop, which ends or
goes on. If there is no loop, the program ends with a fault, and this is the only way to that fault:
no evaluation raises it, and no statement does, so no handler is ever asked about it.

What is executed is told by a walk, which goes as an execution does and marks each statement that it
comes to, together with the statements around it (`Stmt.walk`). A jump with no loop around is the
last mark of its statement, if it is made at all, and how a statement ends tells whether it was
(`Ends`). In a program, where nothing is around the statements, the fault is what such a mark comes
to.
-/

namespace Tilde

variable {ω α β : Type}

/-! ## The walk of an execution -/

/-- Executions that mark the statements they come to. A mark is a statement and those around it, the
innermost one first. -/
abbrev WalkM (ω : Type) := Traced Halt (Machine ω) (List Stmt)

/-- Goes through a loop's rounds until one leaves it. -/
def WalkM.rounds (test : WalkM ω Bool) (body : WalkM ω Flow) : (budget : Nat) → WalkM ω Unit
  | 0 => throw .endless
  | budget + 1 => do
    if ← test then
      match ← body with
      | .leave => return ()
      | .next | .repeat => rounds test body budget
    else return ()

section Walk

variable (run : Run ω)

mutual

/-- Executes a statement inside the ones that are around it, and marks what it comes to. -/
def Stmt.walk (outer : List Stmt) : Stmt → WalkM ω Flow
  | .branch line test body orelse => do
    let active := .branch line test body orelse :: outer
    .mark fun _ => active
    if (← .lift (ExecM.evalAt line (test.eval run.host))).truthy then walkBody active body
    else walkBody active orelse
  | .whileLoop line test body => do
    let active := .whileLoop line test body :: outer
    .mark fun _ => active
    WalkM.rounds (.lift do return (← ExecM.evalAt line (test.eval run.host)).truthy)
      (walkBody active body) run.budget
    return .next
  | .forEach line target items body => do
    let active := .forEach line target items body :: outer
    .mark fun _ => active
    let v ← .lift (ExecM.evalAt line (items.eval run.host))
    match v.items? with
    | none => throw (.fault line (.notIterable v.type))
    | some items =>
      Actions.forItems (fun v => .lift (ExecM.bindAt line target v)) (walkBody active body) items
      return .next
  | .attempt line body handlers => do
    let active := .attempt line body handlers :: outer
    .mark fun _ => active
    tryCatch (walkBody active body) (walkHandlers active handlers)
  | s => do
    .mark fun _ => s :: outer
    .lift (s.exec run)

/-- Executes the statements of a block until one does not go on. -/
def walkBody (active : List Stmt) : List Stmt → WalkM ω Flow
  | [] => return .next
  | s :: ss => do
    match ← s.walk active with
    | .next => walkBody active ss
    | flow => return flow

/-- Runs the first handler that takes a halt. If there is none, the halt goes on. -/
def walkHandlers (active : List Stmt) : List Handler → Halt → WalkM ω Flow
  | [], halt => throw halt
  | .mk kind name body :: hs, halt =>
    if halt.takenBy kind then do
      .lift (modify fun m => m.handling halt name)
      walkBody active body
    else walkHandlers active hs halt

end

/-- Executes the statements of a program. None of them may leave or repeat a loop. -/
def walkProgram : List Stmt → WalkM ω Unit
  | [] => return ()
  | s :: ss => do
    match ← s.walk run [] with
    | .next => walkProgram ss
    | .leave | .repeat => throw (.fault s.line .outsideLoop)

end Walk

theorem Traced.lift_bind {ε σ π : Type} (x : ExceptT ε (StateM σ) α)
    (f : α → ExceptT ε (StateM σ) β) :
    (lift (x >>= f) : Traced ε σ π β) = lift x >>= fun a => lift (f a) := by
  funext ⟨s, trace⟩
  rcases h : x s with ⟨e | a, s'⟩
  · have hlift : (lift x : Traced ε σ π α) (s, trace) = (.error e, s', trace) := by rw [lift, h]
    rw [Effects.bind_error hlift, lift, Effects.bind_error h]
  · have hlift : (lift x : Traced ε σ π α) (s, trace) = (.ok a, s', trace) := by rw [lift, h]
    rw [Effects.bind_ok hlift, lift, Effects.bind_ok h]
    rfl

theorem Stmt.not_isLoop {s : Stmt} (h : s.isJump = true) : s.isLoop = false := by
  cases s <;> first | rfl | cases h

/-! ## Walks that go as the execution -/

/-- The first statement is a jump, and none of the others, nor this one, is a loop. -/
def Stray (active : List Stmt) : Prop :=
  (∃ b outer, active = b :: outer ∧ b.isJump = true) ∧ ∀ s ∈ active, s.isLoop = false

/-- Wherever they start, the walk comes to the same end as the execution, and this end and the marks
that the walk adds satisfy `Q`. -/
def Walks (Q : Except Halt α → List (List Stmt) → Prop) (x : WalkM ω α) (y : ExecM ω α) : Prop :=
  ∀ m trace, ∃ new, x (m, trace) = ((y m).1, (y m).2, new ++ trace) ∧ Q (y m).1 new

namespace Walks

variable {Q : Except Halt α → List (List Stmt) → Prop} {R : Except Halt β → List (List Stmt) → Prop}
  {x : WalkM ω α} {y : ExecM ω α} {f : α → WalkM ω β} {g : α → ExecM ω β}

theorem pure {a : α} (h : Q (.ok a) []) : Walks Q (pure a : WalkM ω α) (pure a) :=
  fun _ _ => ⟨[], rfl, h⟩

theorem throw {halt : Halt} (h : Q (.error halt) []) :
    Walks Q (throw halt : WalkM ω α) (throw halt) :=
  fun _ _ => ⟨[], rfl, h⟩

theorem lift (h : ∀ m, Q (y m).1 []) : Walks Q (.lift y) y := fun m _ => ⟨[], rfl, h m⟩

/-- A mark in front of a walk. -/
theorem marked {active : List Stmt} (hx : Walks (fun r new => Q r (new ++ [active])) x y) :
    Walks Q (do .mark fun _ => active; x) y := by
  intro m trace
  obtain ⟨new, hx, hQ⟩ := hx m (active :: trace)
  refine ⟨new ++ [active], ?_, hQ⟩
  rw [List.append_assoc, List.singleton_append, ← hx]
  rfl

theorem bind (hx : Walks Q x y) (herror : ∀ halt new, Q (.error halt) new → R (.error halt) new)
    (hf : ∀ a new, Q (.ok a) new → Walks (fun r later => R r (later ++ new)) (f a) (g a)) :
    Walks R (x >>= f) (y >>= g) := by
  intro m trace
  obtain ⟨new, hx, hQ⟩ := hx m trace
  rcases hy : y m with ⟨halt | a, m'⟩
  · rw [hy] at hx hQ
    rw [Effects.bind_error hx, Effects.bind_error hy]
    exact ⟨new, rfl, herror halt new hQ⟩
  · rw [hy] at hx hQ
    rw [Effects.bind_ok hx, Effects.bind_ok hy]
    obtain ⟨later, hf, hR⟩ := hf a new hQ m' (new ++ trace)
    exact ⟨later ++ new, by rw [hf, List.append_assoc], hR⟩

theorem guarded {Q R : Except Halt Flow → List (List Stmt) → Prop} {x : WalkM ω Flow}
    {y : ExecM ω Flow} {f : Halt → WalkM ω Flow} {handler? : Halt → Option (ExecM ω Flow)}
    (hx : Walks Q x y) (hok : ∀ flow new, Q (.ok flow) new → R (.ok flow) new)
    (hf : ∀ halt new, Q (.error halt) new →
      Walks (fun r later => R r (later ++ new)) (f halt)
        ((handler? halt).getD (MonadExcept.throw halt))) :
    Walks R (tryCatch x f) (.attempt y handler?) := by
  intro m trace
  obtain ⟨new, hx, hQ⟩ := hx m trace
  rcases hy : y m with ⟨halt | flow, m'⟩
  · rw [hy] at hx hQ
    rw [Effects.tryCatch_error hx, ExecM.attempt_error hy]
    obtain ⟨later, hf, hR⟩ := hf halt new hQ m' (new ++ trace)
    exact ⟨later ++ new, by rw [hf, List.append_assoc], hR⟩
  · rw [hy] at hx hQ
    rw [Effects.tryCatch_ok hx, ExecM.attempt_ok hy]
    exact ⟨new, rfl, hok flow new hQ⟩

end Walks

/-! ## How a statement ends, and what it has marked -/

/-- What a part of the program that stands inside `outer` comes to and the marks it adds, where the
ends in `J` are jumps. No statement raises the fault of a jump. A part that ends in a jump has
marked it last, with no loop between the part and the jump; and no other jump that it has marked is
stray. -/
structure Ends (top : Stmt) (outer : List Stmt) (J : α → Prop) (r : Except Halt α)
    (new : List (List Stmt)) : Prop where
  placed : ∀ active ∈ new, Nested top active ∧ ∀ s ∈ outer, s ∈ active
  spared : ∀ line, r ≠ .error (.fault line .outsideLoop)
  calm : (∀ a, r = .ok a → ¬J a) → ∀ active ∈ new, ¬Stray active
  jump : ∀ a, r = .ok a → J a → ∃ b inner earlier, new = (b :: inner) :: earlier
    ∧ b.isJump = true ∧ (∀ s ∈ b :: inner, s.isLoop = true → s ∈ outer)
    ∧ ∀ active ∈ earlier, ¬Stray active

/-- A part of the program that does not end in a jump. -/
abbrev Passes (top : Stmt) (outer : List Stmt) (r : Except Halt α) (new : List (List Stmt)) :
    Prop :=
  Ends top outer (fun _ => False) r new

namespace Ends

variable {top s : Stmt} {outer : List Stmt} {J : α → Prop} {K : β → Prop} {r : Except Halt α}
  {new later : List (List Stmt)} {halt : Halt}

theorem nil (hr : ∀ line, r ≠ .error (.fault line .outsideLoop)) (hJ : ∀ a, r = .ok a → ¬J a) :
    Ends top outer J r [] where
  placed := by rintro _ ⟨⟩
  spared := hr
  calm _ := by rintro _ ⟨⟩
  jump a ha hjump := absurd hjump (hJ a ha)

theorem error (h : Ends top outer J (.error halt) new) : Ends top outer K (.error halt) new where
  placed := h.placed
  spared line heq := h.spared line (congrArg _ (Except.error.inj heq))
  calm _ := h.calm (by rintro _ ⟨⟩)
  jump := by rintro _ ⟨⟩

/-- What goes on behind a part that does not end in a jump decides how both end. -/
theorem after {r' : Except Halt β} (h : Ends top outer K r' new) (hr' : ∀ b, r' = .ok b → ¬K b)
    (hlater : Ends top outer J r later) : Ends top outer J r (later ++ new) where
  placed := List.forall_mem_append.mpr ⟨hlater.placed, h.placed⟩
  spared := hlater.spared
  calm hr := List.forall_mem_append.mpr ⟨hlater.calm hr, h.calm hr'⟩
  jump a ha hJ := by
    obtain ⟨b, inner, earlier, rfl, hjump, hloop, hearlier⟩ := hlater.jump a ha hJ
    exact ⟨b, inner, earlier ++ new, rfl, hjump, hloop,
      List.forall_mem_append.mpr ⟨hearlier, h.calm hr'⟩⟩

theorem placed_outer (h : Ends top (s :: outer) J r new) :
    ∀ active ∈ new, Nested top active ∧ ∀ t ∈ outer, t ∈ active := by
  intro active hactive
  obtain ⟨hnested, hmem⟩ := h.placed active hactive
  exact ⟨hnested, fun t ht => hmem t (List.mem_cons_of_mem s ht)⟩

/-- No mark in a loop is stray, so no jump in its block gets out of it. -/
theorem ofLoop (hs : s.isLoop = true) (h : Ends top (s :: outer) J r new) :
    Passes top outer r new where
  placed := h.placed_outer
  spared := h.spared
  calm _ active hactive hstray := by
    -- the loop itself is among the statements of the mark
    have hloop := hstray.2 s ((h.placed active hactive).2 s (List.mem_cons_self ..))
    rw [hs] at hloop
    cases hloop
  jump _ _ := False.elim

/-- A jump gets out of a statement that is no loop. -/
theorem outward (hs : s.isLoop = false) (h : Ends top (s :: outer) J r new) :
    Ends top outer J r new where
  placed := h.placed_outer
  spared := h.spared
  calm := h.calm
  jump a ha hJ := by
    obtain ⟨j, inner, earlier, hnew, hjump, hloop, hearlier⟩ := h.jump a ha hJ
    refine ⟨j, inner, earlier, hnew, hjump, fun t ht htloop => ?_, hearlier⟩
    rcases List.mem_cons.mp (hloop t ht htloop) with rfl | ht
    · rw [hs] at htloop
      cases htloop
    · exact ht

/-- The mark of a statement that is no jump. -/
theorem mark (hs : Nested top (s :: outer)) (hjump : s.isJump = false) :
    Passes top outer (.ok () : Except Halt Unit) [s :: outer] where
  placed := List.forall_mem_singleton.mpr ⟨hs, fun _ ht => List.mem_cons_of_mem s ht⟩
  spared _ := by rintro ⟨⟩
  calm _ := by
    rw [List.forall_mem_singleton]
    rintro ⟨⟨b, rest, heq, hb⟩, -⟩
    cases heq
    rw [hjump] at hb
    cases hb
  jump _ _ := False.elim

/-- The mark of a jump. -/
theorem jumped {a : α} (hs : Nested top (s :: outer)) (hjump : s.isJump = true) (ha : J a) :
    Ends top outer J (.ok a) [s :: outer] where
  placed := List.forall_mem_singleton.mpr ⟨hs, fun _ ht => List.mem_cons_of_mem s ht⟩
  spared _ := by rintro ⟨⟩
  calm h := absurd ha (h a rfl)
  jump _ _ _ := by
    refine ⟨s, outer, [], rfl, hjump, fun t ht hloop => ?_, by rintro _ ⟨⟩⟩
    refine (List.mem_cons.mp ht).resolve_left ?_
    rintro rfl
    rw [Stmt.not_isLoop hjump] at hloop
    cases hloop

end Ends

/-! ### Rules -/

namespace Walks

variable {top s : Stmt} {outer : List Stmt} {J : α → Prop} {K : β → Prop}
  {Q R : Except Halt α → List (List Stmt) → Prop} {x : WalkM ω α} {y : ExecM ω α}

theorem mono (hx : Walks Q x y) (h : ∀ r new, Q r new → R r new) : Walks R x y := by
  intro m trace
  obtain ⟨new, hx, hQ⟩ := hx m trace
  exact ⟨new, hx, h _ _ hQ⟩

theorem done {a : α} (h : ¬J a) :
    Walks (Ends top outer J) (Pure.pure a : WalkM ω α) (Pure.pure a) :=
  pure (.nil (fun _ => by rintro ⟨⟩) fun _ heq => Except.ok.inj heq ▸ h)

theorem halt {halt : Halt} (h : ∀ line, halt ≠ .fault line .outsideLoop) :
    Walks (Ends top outer J) (MonadExcept.throw halt : WalkM ω α) (MonadExcept.throw halt) :=
  throw (.nil (fun line heq => h line (Except.error.inj heq)) fun _ => by rintro ⟨⟩)

/-- A step that comes to no statement. -/
theorem step (h : ExecM.Spared y) : Walks (Passes top outer) (.lift y) y :=
  lift fun m => .nil (h m) fun _ _ => id

theorem steps {f : α → WalkM ω β} {g : α → ExecM ω β} (hx : Walks (Passes top outer) x y)
    (hf : ∀ a, Walks (Ends top outer K) (f a) (g a)) :
    Walks (Ends top outer K) (x >>= f) (y >>= g) := by
  refine hx.bind (fun _ _ h => h.error) fun a new h => ?_
  exact (hf a).mono fun _ _ hlater => h.after (fun _ _ => id) hlater

/-- The steps of a statement that comes to no other. -/
theorem lifted {z : ExecM ω β} {f : β → ExecM ω α} (hz : ExecM.Spared z)
    (hf : ∀ b, Walks (Ends top outer J) (.lift (f b)) (f b)) :
    Walks (Ends top outer J) (.lift (z >>= f)) (z >>= f) := by
  rw [Traced.lift_bind]
  exact (step hz).steps hf

/-- A statement that is no jump. -/
theorem statement (hs : Nested top (s :: outer)) (hjump : s.isJump = false)
    (hx : Walks (Ends top outer J) x y) :
    Walks (Ends top outer J) (do .mark fun _ => s :: outer; x) y :=
  marked (hx.mono fun _ _ h => (Ends.mark hs hjump).after (fun _ _ => id) h)

theorem ofLoop (hs : s.isLoop = true) (hx : Walks (Ends top (s :: outer) J) x y) :
    Walks (Passes top outer) x y :=
  hx.mono fun _ _ h => h.ofLoop hs

theorem outward (hs : s.isLoop = false) (hx : Walks (Ends top (s :: outer) J) x y) :
    Walks (Ends top outer J) x y :=
  hx.mono fun _ _ h => h.outward hs

/-! ### Loops -/

variable {body : WalkM ω Flow} {body' : ExecM ω Flow}

theorem rounds {test : ExecM ω Bool} (htest : ExecM.Spared test)
    (hbody : Walks (Passes top outer) body body') (budget : Nat) :
    Walks (Passes top outer) (WalkM.rounds (.lift test) body budget)
      (.whileLoop test body' budget) := by
  induction budget with
  | zero => exact halt fun _ => by rintro ⟨⟩
  | succ budget ih =>
    refine (step htest).steps fun b => ?_
    cases b with
    | false => exact done id
    | true =>
      refine hbody.steps fun flow => ?_
      cases flow with
      | leave => exact done id
      | next | «repeat» => exact ih

theorem items {set : Value → ExecM ω Unit} (hset : ∀ v, ExecM.Spared (set v))
    (hbody : Walks (Passes top outer) body body') (vs : List Value) :
    Walks (Passes top outer) (Actions.forItems (fun v => .lift (set v)) body vs)
      (.forEach set body' vs) := by
  induction vs with
  | nil => exact done id
  | cons v vs ih =>
    refine (step (hset v)).steps fun _ => hbody.steps fun flow => ?_
    cases flow with
    | leave => exact done id
    | next | «repeat» => exact ih

end Walks

/-! ## Statements -/

section Statements

variable (run : Run ω) (top : Stmt)

/-- What a block comes to, where going on is the only end that is no jump. -/
abbrev Leaves (outer : List Stmt) (r : Except Halt Flow) (new : List (List Stmt)) : Prop :=
  Ends top outer (· ≠ .next) r new

/-- Going on is no jump. -/
theorem not_jump_next : ∀ flow, (.ok .next : Except Halt Flow) = .ok flow → ¬flow ≠ .next := by
  rintro _ ⟨⟩ hflow
  exact hflow rfl

-- The induction is on the tree. What a statement has marked is placed below the statements around
-- it, so a loop can tell that no mark of its block is stray, whatever the block comes to.
mutual

/-- **A jump is the last mark of every statement that it gets out of**, and it gets out of no
loop. -/
theorem Stmt.walk_leaves : ∀ (s : Stmt) (outer : List Stmt), Nested top (s :: outer) →
    Walks (Leaves top outer) (s.walk run outer) (s.exec run)
  | .evaluate line e, outer, hs =>
    .statement hs rfl (.lifted (.evalAt fun ns => .evaluated run ns e) fun _ => .done (absurd rfl))
  | .assign line target e, outer, hs =>
    .statement hs rfl (.lifted (.evalAt fun ns => .eval _ ns e) fun v =>
      .lifted (.bindAt target v) fun _ => .done (absurd rfl))
  | .assert line test message, outer, hs =>
    .statement hs rfl (.lifted (.evalAt fun ns => .asserted run ns test message) fun _ =>
      .done (absurd rfl))
  | .pass line, outer, hs => .statement hs rfl (.done (absurd rfl))
  | .breakLoop line, outer, hs => .marked (.lift fun _ => .jumped hs rfl (by rintro ⟨⟩))
  | .continueLoop line, outer, hs => .marked (.lift fun _ => .jumped hs rfl (by rintro ⟨⟩))
  | .branch line test body orelse, outer, hs => by
    rw [Stmt.walk, Stmt.exec]
    have hbody := walkBody_leaves body (.branch line test body orelse :: outer) fun t ht =>
      hs.cons (List.mem_append_left _ ht)
    have horelse := walkBody_leaves orelse (.branch line test body orelse :: outer) fun t ht =>
      hs.cons (List.mem_append_right _ ht)
    refine .statement hs rfl ((Walks.step (.evalAt fun ns => .eval _ ns test)).steps fun v => ?_)
    cases v.truthy with
    | true => exact hbody.outward rfl
    | false => exact horelse.outward rfl
  | .whileLoop line test body, outer, hs => by
    rw [Stmt.walk, Stmt.exec]
    have hbody := walkBody_leaves body (.whileLoop line test body :: outer) fun t ht => hs.cons ht
    have htest : ExecM.Spared (do return (← ExecM.evalAt line (test.eval run.host)).truthy) :=
      (ExecM.Spared.evalAt fun ns => .eval _ ns test).bind fun _ => .pure _
    exact .statement hs rfl ((Walks.rounds htest (hbody.ofLoop rfl) run.budget).steps fun _ =>
      .done (absurd rfl))
  | .forEach line target items body, outer, hs => by
    rw [Stmt.walk, Stmt.exec]
    have hbody := walkBody_leaves body (.forEach line target items body :: outer) fun t ht =>
      hs.cons ht
    refine .statement hs rfl ((Walks.step (.evalAt fun ns => .eval _ ns items)).steps fun v => ?_)
    cases v.items? with
    | none => exact .halt fun _ => by rintro ⟨⟩
    | some vs =>
      exact (Walks.items (fun v => .bindAt target v) (hbody.ofLoop rfl) vs).steps fun _ =>
        .done (absurd rfl)
  | .attempt line body handlers, outer, hs => by
    rw [Stmt.walk, Stmt.exec]
    have hbody := walkBody_leaves body (.attempt line body handlers :: outer) fun t ht =>
      hs.cons (List.mem_append_left _ ht)
    have hhandlers := walkHandlers_leaves handlers (.attempt line body handlers :: outer)
      fun t ht => hs.cons (List.mem_append_right _ ht)
    refine .statement hs rfl (.outward (s := .attempt line body handlers) rfl ?_)
    refine hbody.guarded (fun _ _ h => h) fun halt new h => ?_
    -- a jump of the block is no halt, so the handlers are asked about other faults only
    have hspared : ∀ line, halt ≠ .fault line .outsideLoop := fun line heq =>
      h.spared line (congrArg _ heq)
    exact (hhandlers halt hspared).mono fun _ _ hlater => h.after (by rintro _ ⟨⟩) hlater

/-- Each statement of a block is executed inside the ones around the block. -/
theorem walkBody_leaves : ∀ (body : List Stmt) (active : List Stmt),
    (∀ s ∈ body, Nested top (s :: active)) →
      Walks (Leaves top active) (walkBody run active body) (execBody run body)
  | [], active, _ => by
    rw [walkBody, execBody]
    exact .done (absurd rfl)
  | s :: ss, active, hs => by
    rw [walkBody, execBody]
    have hrest := walkBody_leaves ss active fun t ht => hs t (List.mem_cons_of_mem s ht)
    refine (Stmt.walk_leaves s active (hs s (List.mem_cons_self ..))).bind (fun _ _ h => h) ?_
    intro flow new h
    cases flow with
    | next => exact hrest.mono fun _ _ hlater => h.after not_jump_next hlater
    | leave | «repeat» => exact .pure h

/-- A handler runs in place of the rest of the block. -/
theorem walkHandlers_leaves : ∀ (handlers : List Handler) (active : List Stmt),
    (∀ s ∈ handlers.flatMap Handler.block, Nested top (s :: active)) →
      ∀ halt : Halt, (∀ line, halt ≠ .fault line .outsideLoop) →
        Walks (Leaves top active) (walkHandlers run active handlers halt)
          ((execHandlers run handlers halt).getD (throw halt))
  | [], active, _, halt, h => by
    rw [walkHandlers, execHandlers]
    exact .halt h
  | .mk kind name body :: handlers, active, hs, halt, h => by
    rw [List.flatMap_cons, Handler.block] at hs
    rw [walkHandlers]
    by_cases htaken : halt.takenBy kind = true
    · rw [if_pos htaken]
      intro m trace
      -- the message is bound first, which is no statement and so leaves no mark
      rw [execHandlers_taken htaken]
      exact walkBody_leaves body active (fun t ht => hs t (List.mem_append_left _ ht))
        (m.handling halt name) trace
    · rw [if_neg htaken, execHandlers, if_neg htaken]
      exact walkHandlers_leaves handlers active (fun t ht => hs t (List.mem_append_right _ ht))
        halt h

end

end Statements

/-! ## Programs -/

/-- Each `break` and `continue` of the program stands in a loop, whatever else is around it. -/
def JumpsInLoops (body : List Stmt) : Prop :=
  ∀ top ∈ body, ∀ active, Nested top active → ¬Stray active

mutual

/-- Whether each `break` and `continue` of a statement stands in a loop of it. -/
def Stmt.keepsJumps : Stmt → Bool
  | .breakLoop _ | .continueLoop _ => false
  | .branch _ _ body orelse => keepsJumpsBody body && keepsJumpsBody orelse
  | .attempt _ body handlers => keepsJumpsBody body && keepsJumpsHandlers handlers
  | _ => true

/-- Whether the statements of a block keep their jumps. -/
def keepsJumpsBody : List Stmt → Bool
  | [] => true
  | s :: ss => s.keepsJumps && keepsJumpsBody ss

/-- Whether the statements of handlers keep their jumps. -/
def keepsJumpsHandlers : List Handler → Bool
  | [] => true
  | .mk _ _ body :: hs => keepsJumpsBody body && keepsJumpsHandlers hs

end

attribute [local simp] Stmt.keepsJumps keepsJumpsBody keepsJumpsHandlers

theorem keepsJumpsBody_iff {ss : List Stmt} :
    keepsJumpsBody ss = true ↔ ∀ s ∈ ss, s.keepsJumps = true := by
  induction ss with
  | nil => simp
  | cons s ss ih => rw [keepsJumpsBody, Bool.and_eq_true, ih, List.forall_mem_cons]

theorem keepsJumpsHandlers_iff {hs : List Handler} :
    keepsJumpsHandlers hs = true ↔ ∀ s ∈ hs.flatMap Handler.block, s.keepsJumps = true := by
  induction hs with
  | nil => simp
  | cons h hs ih =>
    obtain ⟨kind, name, body⟩ := h
    rw [keepsJumpsHandlers, Bool.and_eq_true, ih, keepsJumpsBody_iff, List.flatMap_cons,
      List.forall_mem_append]
    rfl

namespace Stmt

theorem keepsJumps_iff {s : Stmt} : s.keepsJumps = true ↔
    s.isJump = false ∧ (s.isLoop = false → ∀ t ∈ s.nested, t.keepsJumps = true) := by
  cases s with
  | breakLoop _ | continueLoop _ => exact ⟨by rintro ⟨⟩, fun h => by cases h.1⟩
  | evaluate _ _ | assign _ _ _ | assert _ _ _ | pass _ =>
    exact ⟨fun _ => ⟨rfl, fun _ => by rintro _ ⟨⟩⟩, fun _ => rfl⟩
  | whileLoop _ _ _ | forEach _ _ _ _ => exact ⟨fun _ => ⟨rfl, by rintro ⟨⟩⟩, fun _ => rfl⟩
  | branch _ _ body orelse =>
    rw [keepsJumps, Bool.and_eq_true, keepsJumpsBody_iff, keepsJumpsBody_iff,
      ← List.forall_mem_append]
    exact ⟨fun h => ⟨rfl, fun _ => h⟩, fun h => h.2 rfl⟩
  | attempt _ body handlers =>
    rw [keepsJumps, Bool.and_eq_true, keepsJumpsBody_iff, keepsJumpsHandlers_iff,
      ← List.forall_mem_append]
    exact ⟨fun h => ⟨rfl, fun _ => h⟩, fun h => h.2 rfl⟩

end Stmt

mutual

/-- Induction from the statements in the blocks of a statement to the statement. -/
theorem Stmt.nested_induction {P : Stmt → Prop} (h : ∀ s, (∀ t ∈ s.nested, P t) → P s) :
    ∀ s : Stmt, P s
  | .evaluate .. | .assign .. | .assert .. | .pass _ | .breakLoop _ | .continueLoop _ =>
    h _ (by rintro _ ⟨⟩)
  | .branch _ _ body orelse =>
    h _ (List.forall_mem_append.mpr ⟨nested_induction_body h body, nested_induction_body h orelse⟩)
  | .whileLoop _ _ body | .forEach _ _ _ body => h _ (nested_induction_body h body)
  | .attempt _ body handlers =>
    h _ (List.forall_mem_append.mpr
      ⟨nested_induction_body h body, nested_induction_handlers h handlers⟩)

theorem nested_induction_body {P : Stmt → Prop} (h : ∀ s, (∀ t ∈ s.nested, P t) → P s) :
    ∀ (ss : List Stmt), ∀ s ∈ ss, P s
  | [] => by rintro _ ⟨⟩
  | s :: ss => List.forall_mem_cons.mpr ⟨s.nested_induction h, nested_induction_body h ss⟩

theorem nested_induction_handlers {P : Stmt → Prop} (h : ∀ s, (∀ t ∈ s.nested, P t) → P s) :
    ∀ (hs : List Handler), ∀ s ∈ hs.flatMap Handler.block, P s
  | [] => by rintro _ ⟨⟩
  | .mk _ _ body :: hs => by
    rw [List.flatMap_cons]
    exact List.forall_mem_append.mpr ⟨nested_induction_body h body, nested_induction_handlers h hs⟩

end

/-- Below a statement that keeps its jumps, what no loop is around keeps them too. -/
theorem Nested.keepsJumps {top s : Stmt} {outer : List Stmt} (htop : top.keepsJumps = true)
    (h : Nested top (s :: outer)) (hloop : ∀ t ∈ outer, t.isLoop = false) :
    s.keepsJumps = true := by
  induction outer generalizing s with
  | nil =>
    obtain rfl : s = top := Option.some.inj h.last
    exact htop
  | cons t outer ih =>
    obtain ⟨ht, houter⟩ := List.forall_mem_cons.mp hloop
    obtain ⟨hmem, hchain⟩ := List.isChain_cons_cons.mp h.chain
    have hkeeps := ih ⟨hchain, h.last⟩ houter
    exact (Stmt.keepsJumps_iff.mp hkeeps).2 ht s hmem

/-- If nothing below a statement is stray, the statement keeps its jumps. -/
theorem Stmt.keepsJumps_of_not_stray {top : Stmt}
    (h : ∀ active, Nested top active → ¬Stray active) (s : Stmt) : ∀ outer,
      Nested top (s :: outer) → (∀ t ∈ outer, t.isLoop = false) → s.keepsJumps = true := by
  induction s using Stmt.nested_induction with
  | h s ih =>
    intro outer hs houter
    refine keepsJumps_iff.mpr ⟨?_, fun hloop t ht =>
      ih t ht (s :: outer) (hs.cons ht) (List.forall_mem_cons.mpr ⟨hloop, houter⟩)⟩
    refine Bool.eq_false_iff.mpr fun hjump => h _ hs ?_
    exact ⟨⟨s, outer, rfl, hjump⟩, List.forall_mem_cons.mpr ⟨not_isLoop hjump, houter⟩⟩

theorem jumpsInLoops_iff {body : List Stmt} : JumpsInLoops body ↔ keepsJumpsBody body = true := by
  rw [keepsJumpsBody_iff]
  refine ⟨fun h s hs => ?_, fun h top htop active hnested hstray => ?_⟩
  · exact Stmt.keepsJumps_of_not_stray (h s hs) s [] .single (by rintro _ ⟨⟩)
  · obtain ⟨⟨b, outer, rfl, hjump⟩, hloop⟩ := hstray
    have hkeeps := hnested.keepsJumps (h top htop) (List.forall_mem_cons.mp hloop).2
    rw [(Stmt.keepsJumps_iff.mp hkeeps).1] at hjump
    cases hjump

instance {body : List Stmt} : Decidable (JumpsInLoops body) := decidable_of_iff' _ jumpsInLoops_iff

/-- What a program comes to, and what it marks. A stray jump is the last mark, if it comes to one,
and the fault has the line of the statement of the program around it. -/
structure Stops (body : List Stmt) (r : Except Halt Unit) (new : List (List Stmt)) : Prop where
  placed : ∀ active ∈ new, ∃ top ∈ body, Nested top active
  calm : (∀ line, r ≠ .error (.fault line .outsideLoop)) → ∀ active ∈ new, ¬Stray active
  stray : ∀ line, r = .error (.fault line .outsideLoop) → ∃ active earlier,
    new = active :: earlier ∧ Stray active ∧ (∀ other ∈ earlier, ¬Stray other)
      ∧ active.getLast?.map Stmt.line = some line

namespace Stops

variable {top : Stmt} {body : List Stmt} {r : Except Halt Unit} {new later : List (List Stmt)}
  {flow : Flow} {halt : Halt}

theorem halted (htop : top ∈ body) (h : Leaves top [] (.error halt) new) :
    Stops body (.error halt) new where
  placed active hactive := ⟨top, htop, (h.placed active hactive).1⟩
  calm _ := h.calm (by rintro _ ⟨⟩)
  stray line heq := absurd (congrArg Except.error (Except.error.inj heq)) (h.spared line)

theorem after (htop : top ∈ body) (h : Leaves top [] (.ok .next) new)
    (hlater : Stops body r later) : Stops body r (later ++ new) := by
  have hnew : ∀ active ∈ new, ¬Stray active := h.calm not_jump_next
  refine ⟨?_, fun hr => List.forall_mem_append.mpr ⟨hlater.calm hr, hnew⟩, fun line hr => ?_⟩
  · exact List.forall_mem_append.mpr
      ⟨hlater.placed, fun active hactive => ⟨top, htop, (h.placed active hactive).1⟩⟩
  · obtain ⟨active, earlier, rfl, hstray, hearlier, hline⟩ := hlater.stray line hr
    exact ⟨active, earlier ++ new, rfl, hstray, List.forall_mem_append.mpr ⟨hearlier, hnew⟩, hline⟩

/-- Nothing is around the statements of a program, so what gets out of one is stray. -/
theorem jumped (htop : top ∈ body) (hflow : flow ≠ .next) (h : Leaves top [] (.ok flow) new) :
    Stops body (.error (.fault top.line .outsideLoop)) new where
  placed active hactive := ⟨top, htop, (h.placed active hactive).1⟩
  calm hr := absurd rfl (hr top.line)
  stray line heq := by
    cases heq
    obtain ⟨b, inner, earlier, rfl, hjump, hloop, hearlier⟩ := h.jump flow rfl hflow
    refine ⟨b :: inner, earlier, rfl, ⟨⟨b, inner, rfl, hjump⟩, fun s hs => ?_⟩, hearlier, ?_⟩
    · refine Bool.eq_false_iff.mpr fun hsloop => ?_
      cases hloop s hs hsloop
    · rw [(h.placed _ (List.mem_cons_self ..)).1.last]
      rfl

end Stops

theorem walkProgram_stops (run : Run ω) (body : List Stmt) : ∀ ss : List Stmt,
    (∀ s ∈ ss, s ∈ body) → Walks (Stops body) (walkProgram run ss) (execProgram run ss)
  | [], _ => .pure ⟨by rintro _ ⟨⟩, fun _ => by rintro _ ⟨⟩, by rintro _ ⟨⟩⟩
  | s :: ss, hbody => by
    have hs := hbody s (List.mem_cons_self ..)
    have hrest := walkProgram_stops run body ss fun t ht => hbody t (List.mem_cons_of_mem s ht)
    rw [walkProgram, execProgram]
    refine (s.walk_leaves run s [] .single).bind (fun _ _ h => .halted hs h) fun flow new h => ?_
    cases flow with
    | next => exact hrest.mono fun _ _ hlater => .after hs h hlater
    -- the jump has passed everything around it, and only here it becomes a fault
    | leave | «repeat» => exact .throw (.jumped hs (by rintro ⟨⟩) h)

/-- The fault comes with a stray jump, the last mark of all. -/
theorem Stops.outsideLoop_iff {body : List Stmt} {r : Except Halt Unit} {new : List (List Stmt)}
    (h : Stops body r new) (line : Nat) : r = .error (.fault line .outsideLoop) ↔
      ∃ active ∈ new, Stray active ∧ active.getLast?.map Stmt.line = some line := by
  refine ⟨fun hr => ?_, ?_⟩
  · obtain ⟨active, earlier, rfl, hstray, -, hline⟩ := h.stray line hr
    exact ⟨active, List.mem_cons_self .., hstray, hline⟩
  · rintro ⟨active, hactive, hstray, hline⟩
    by_cases hr : ∃ line', r = .error (.fault line' .outsideLoop)
    · obtain ⟨line', rfl⟩ := hr
      obtain ⟨last, earlier, rfl, -, hearlier, hline'⟩ := h.stray line' rfl
      -- only the last mark is stray
      obtain rfl : active = last :=
        (List.mem_cons.mp hactive).resolve_right fun hmem => hearlier active hmem hstray
      rw [Option.some.inj (hline'.symm.trans hline)]
    · exact absurd hstray (h.calm (fun line' hr' => hr ⟨line', hr'⟩) active hactive)

theorem Stops.stray_last {body : List Stmt} {r : Except Halt Unit}
    {later earlier : List (List Stmt)} {active : List Stmt}
    (h : Stops body r (later ++ active :: earlier)) (hstray : Stray active) : later = [] := by
  have hmem : active ∈ later ++ active :: earlier := List.mem_append_right _ (List.mem_cons_self ..)
  by_cases hr : ∃ line, r = .error (.fault line .outsideLoop)
  · obtain ⟨line, rfl⟩ := hr
    obtain ⟨last, earlier', heq, -, hearlier, -⟩ := h.stray line rfl
    cases later with
    | nil => rfl
    | cons a later =>
      obtain ⟨-, rfl⟩ := List.cons_eq_cons.mp heq
      exact absurd hstray (hearlier active (List.mem_append_right _ (List.mem_cons_self ..)))
  · exact absurd hstray (h.calm (fun line hr' => hr ⟨line, hr'⟩) active hmem)

/-! ### Executions -/

section Executions

variable {run : Run ω} {m : Machine ω}

/-- A loop that ends, ends by going on: nothing is around it that its jumps could be for. -/
theorem Stmt.exec_loop {s : Stmt} {flow : Flow} (hs : s.isLoop = true)
    (h : (s.exec run m).1 = .ok flow) : flow = .next := by
  obtain ⟨new, -, hleaves⟩ := s.walk_leaves run s [] .single m []
  by_contra hflow
  obtain ⟨b, inner, earlier, rfl, -, hloop, -⟩ := hleaves.jump flow h hflow
  have hlast := (hleaves.placed _ (List.mem_cons_self ..)).1.last
  cases hloop s (List.mem_of_getLast? hlast) hs

theorem Walks.spared {top : Stmt} {outer : List Stmt} {J : α → Prop} {x : WalkM ω α} {y : ExecM ω α}
    (h : Walks (Ends top outer J) x y) : ExecM.Spared y := by
  intro m
  obtain ⟨new, -, hends⟩ := h m []
  exact hends.spared

theorem Stmt.exec_spared (s : Stmt) : ExecM.Spared (s.exec run) :=
  (s.walk_leaves run s [] .single).spared

theorem execBody_spared (ss : List Stmt) : ExecM.Spared (execBody run ss) := by
  -- any statement with this block will do
  let top : Stmt := .branch 0 .none ss []
  exact (walkBody_leaves run top ss [top] fun s hs =>
    Nested.single.cons (List.mem_append_left _ hs)).spared

theorem execProgram_spared {body : List Stmt} (h : JumpsInLoops body) :
    ExecM.Spared (execProgram run body) := by
  intro m line hr
  obtain ⟨new, -, hstops⟩ := walkProgram_stops run body body (fun _ hs => hs) m []
  obtain ⟨active, hactive, hstray, -⟩ := (hstops.outsideLoop_iff line).mp hr
  obtain ⟨top, htop, hnested⟩ := hstops.placed active hactive
  exact h top htop active hnested hstray

end Executions

/--
**A `break` or a `continue` never gets out of its loop.**

A `while` or `for` that ends, ends by going on. No statement and no block raises the fault of a jump
outside a loop, so this fault is never one that a handler is asked about; and a `try` whose block
ends without a halt, by a jump or not, ends in the same way, whatever its handlers are. A program
in which each jump stands in a loop never raises the fault.

Any program, in any machine, goes as its walk does, which marks the statements that it comes to. The
fault is raised if and only if the walk comes to a jump with no loop around it, on the line of the
statement of the program that the jump stands in, and it comes to no statement after this.
-/
theorem jumps_stay_in_loops (run : Run ω) (m : Machine ω) :
    (∀ (s : Stmt) flow, s.isLoop = true → (s.exec run m).1 = .ok flow → flow = .next)
    ∧ (∀ line, (∀ s : Stmt, (s.exec run m).1 ≠ .error (.fault line .outsideLoop))
      ∧ ∀ ss, (execBody run ss m).1 ≠ .error (.fault line .outsideLoop))
    ∧ (∀ line body handlers flow m', execBody run body m = (.ok flow, m') →
      (Stmt.attempt line body handlers).exec run m = (.ok flow, m'))
    ∧ (∀ body, JumpsInLoops body →
      ∀ line, (execProgram run body m).1 ≠ .error (.fault line .outsideLoop))
    ∧ ∀ body, ∃ trace,
      walkProgram run body (m, []) = ((execProgram run body m).1, (execProgram run body m).2, trace)
      ∧ (∀ active ∈ trace, ∃ top ∈ body, Nested top active)
      ∧ (∀ line, (execProgram run body m).1 = .error (.fault line .outsideLoop) ↔
        ∃ active ∈ trace, Stray active ∧ active.getLast?.map Stmt.line = some line)
      ∧ ∀ later active earlier, trace = later ++ active :: earlier → Stray active → later = [] := by
  refine ⟨fun s flow hs => s.exec_loop hs, fun line => ?_, ?_, fun body h => ?_, fun body => ?_⟩
  · exact ⟨fun s => s.exec_spared m line, fun ss => execBody_spared ss m line⟩
  · intro line body handlers flow m' h
    rw [Stmt.exec]
    exact ExecM.attempt_ok h
  · exact execProgram_spared h m
  · obtain ⟨trace, hwalk, hstops⟩ := walkProgram_stops run body body (fun _ hs => hs) m []
    rw [List.append_nil] at hwalk
    refine ⟨trace, hwalk, hstops.placed, hstops.outsideLoop_iff, ?_⟩
    rintro later active earlier rfl
    exact hstops.stray_last

/-- The theorem at a guarded jump, in a loop and in none. -/
theorem jumps_stay_in_loops_of_guarded :
    let run : Run Unit := ⟨Host.silent, .file, 9⟩
    let m : Machine Unit := ⟨.fresh, (), []⟩
    let guarded : Stmt := .attempt 2 [.breakLoop 3] [.mk none none [.pass 5]]
    let loop : Stmt := .forEach 1 (.name "x") (.list [.int 1, .int 2]) [guarded]
    (∃ flow, (loop.exec run m).1 = .ok flow ∧ flow = .next)
      ∧ (∀ line, (execProgram run [loop, .pass 6] m).1 ≠ .error (.fault line .outsideLoop))
      ∧ (execProgram run [guarded, .pass 6] m).1 = .error (.fault 2 .outsideLoop) := by
  intro run m guarded loop
  obtain ⟨hloop, -, -, hkept, hprogram⟩ := jumps_stay_in_loops run m
  refine ⟨?_, hkept [loop, .pass 6] (by decide), ?_⟩
  · have hflow : (loop.exec run m).1 = .ok .next := by decide +kernel
    exact ⟨_, hflow, hloop loop _ rfl hflow⟩
  · obtain ⟨trace, hwalk, -, hraised, -⟩ := hprogram [guarded, .pass 6]
    have htrace : [[.breakLoop 3, guarded], [guarded]] = trace := congrArg (·.2.2) hwalk
    have hstray : Stray [.breakLoop 3, guarded] :=
      ⟨⟨.breakLoop 3, [guarded], rfl, rfl⟩,
        List.forall_mem_cons.mpr ⟨rfl, List.forall_mem_singleton.mpr rfl⟩⟩
    exact (hraised 2).mpr ⟨_, htrace ▸ List.mem_cons_self .., hstray, rfl⟩

end Tilde
