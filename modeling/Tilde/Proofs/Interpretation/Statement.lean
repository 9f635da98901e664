import Tilde.Proofs.Exec.Agree
import Tilde.Proofs.Interpretation.Expression

/-!
# The meaning of a program in any monad

A statement says when expressions are evaluated, names are bound and values are shown, and where a
halt is handled. Given what these actions are in some monad, it has a meaning there
(`Stmt.interpret`). With the actions of a run it is the execution of the statement.

As for expressions, a relation between the computations of two monads that holds of the actions
holds of the meanings of every program. Handlers are special in that they may let a halt pass. Which
halts pass depends on the kinds that the handlers of a program ask for, so a relation may be closed
under guarded blocks for some of these kinds only.
-/

namespace Tilde

/-- The actions that an execution is made of, in some monad. -/
structure Actions (n : Type → Type) where
  /-- What is done where the execution comes to a statement. -/
  enter : Stmt → n Unit
  /-- Evaluates an expression of the statement on the given line. -/
  eval : Nat → Expr → n Value
  /-- The text of a value, as the message of a failed assertion. -/
  text : Value → n String
  /-- Shows the value of an expression statement. -/
  present : Nat → Value → n Unit
  bind : Nat → Target → Value → n Unit
  halt : {α : Type} → Halt → n α
  /-- Runs a block, and what handles its halt if it comes to one. -/
  guarded : n Flow → (Halt → n Flow) → n Flow
  /-- What is done where a handler takes a halt: its name is bound, if it has one. -/
  take : Halt → Option String → n Unit
  /-- The budget of each `while` loop. -/
  budget : Nat

section Interpret

variable {n : Type → Type} [Monad n] (acts : Actions n)

namespace Actions

/-- Goes through a loop's rounds until one leaves it. -/
def rounds (test : n Value) (body : n Flow) : (budget : Nat) → n Unit
  | 0 => acts.halt .endless
  | budget + 1 => do
    if (← test).truthy then
      match ← body with
      | .leave => return ()
      | .next | .repeat => rounds test body budget
    else return ()

omit acts in
/-- Goes through the items of a loop until one round leaves it. -/
def forItems (bind : Value → n Unit) (body : n Flow) : List Value → n Unit
  | [] => return ()
  | v :: vs => do
    bind v
    match ← body with
    | .leave => return ()
    | .next | .repeat => forItems bind body vs

end Actions

mutual

/-- The meaning of a statement. -/
def Stmt.interpret : Stmt → n Flow
  | .evaluate line e => do
    acts.enter (.evaluate line e)
    acts.present line (← acts.eval line e)
    return .next
  | .assign line target e => do
    acts.enter (.assign line target e)
    acts.bind line target (← acts.eval line e)
    return .next
  | .assert line test message => do
    acts.enter (.assert line test message)
    if !(← acts.eval line test).truthy then
      match message with
      | some e =>
        let v ← acts.eval line e
        acts.halt (.fault line (.assertion (← acts.text v)))
      | none => acts.halt (.fault line (.assertion ""))
    return .next
  | .pass line => do
    acts.enter (.pass line)
    return .next
  | .breakLoop line => do
    acts.enter (.breakLoop line)
    return .leave
  | .continueLoop line => do
    acts.enter (.continueLoop line)
    return .repeat
  | .branch line test body orelse => do
    acts.enter (.branch line test body orelse)
    if (← acts.eval line test).truthy then interpretBody body else interpretBody orelse
  | .whileLoop line test body => do
    acts.enter (.whileLoop line test body)
    acts.rounds (acts.eval line test) (interpretBody body) acts.budget
    return .next
  | .forEach line target items body => do
    acts.enter (.forEach line target items body)
    let v ← acts.eval line items
    match v.items? with
    | none => acts.halt (.fault line (.notIterable v.type))
    | some items =>
      Actions.forItems (acts.bind line target) (interpretBody body) items
      return .next
  | .attempt line body handlers => do
    acts.enter (.attempt line body handlers)
    acts.guarded (interpretBody body) (interpretHandlers handlers)

/-- The meaning of the statements of a block. -/
def interpretBody : List Stmt → n Flow
  | [] => return .next
  | s :: ss => do
    match ← s.interpret with
    | .next => interpretBody ss
    | flow => return flow

/-- What the first handler does that takes the halt. If there is none, the halt passes. -/
def interpretHandlers : List Handler → Halt → n Flow
  | [], h => acts.halt h
  | .mk kind name body :: hs, h =>
    if h.takenBy kind then do
      acts.take h name
      interpretBody body
    else interpretHandlers hs h

end

/-- The meaning of the statements of a program. -/
def interpretProgram : List Stmt → n Unit
  | [] => return ()
  | s :: ss => do
    match ← s.interpret acts with
    | .next => interpretProgram ss
    | .leave | .repeat => acts.halt (.fault s.line .outsideLoop)

end Interpret

/-! ## The kinds that handlers ask for -/

section Asks

variable (K : Option String → Prop)

mutual

/-- Every handler in the statement asks for a kind that satisfies `K`. -/
def Stmt.Asks : Stmt → Prop
  | .evaluate .. | .assign .. | .assert .. | .pass _ | .breakLoop _ | .continueLoop _ => True
  | .branch _ _ body orelse => asksBody body ∧ asksBody orelse
  | .whileLoop _ _ body | .forEach _ _ _ body => asksBody body
  | .attempt _ body handlers => asksBody body ∧ asksHandlers handlers

/-- Every handler in the block asks for a kind that satisfies `K`. -/
def asksBody : List Stmt → Prop
  | [] => True
  | s :: ss => s.Asks ∧ asksBody ss

/-- The handlers, and every handler in their blocks, ask for a kind that satisfies `K`. -/
def asksHandlers : List Handler → Prop
  | [] => True
  | .mk kind _ body :: hs => K kind ∧ asksBody body ∧ asksHandlers hs

end

variable [DecidablePred K]

mutual

/-- What the handlers in a statement ask for can be decided. -/
def Stmt.decideAsks : (s : Stmt) → Decidable (s.Asks K)
  | .evaluate .. | .assign .. | .assert .. | .pass _ | .breakLoop _ | .continueLoop _ =>
    .isTrue trivial
  | .branch _ _ body orelse =>
    have := decideAsksBody body
    have := decideAsksBody orelse
    inferInstanceAs (Decidable (_ ∧ _))
  | .whileLoop _ _ body | .forEach _ _ _ body => decideAsksBody body
  | .attempt _ body handlers =>
    have := decideAsksBody body
    have := decideAsksHandlers handlers
    inferInstanceAs (Decidable (_ ∧ _))

/-- What the handlers in a block ask for can be decided. -/
def decideAsksBody : (ss : List Stmt) → Decidable (asksBody K ss)
  | [] => .isTrue trivial
  | s :: ss =>
    have := s.decideAsks
    have := decideAsksBody ss
    inferInstanceAs (Decidable (_ ∧ _))

/-- What handlers ask for can be decided. -/
def decideAsksHandlers : (hs : List Handler) → Decidable (asksHandlers K hs)
  | [] => .isTrue trivial
  | .mk _ _ body :: hs =>
    have := decideAsksBody body
    have := decideAsksHandlers hs
    inferInstanceAs (Decidable (_ ∧ _ ∧ _))

end

instance (ss : List Stmt) : Decidable (asksBody K ss) := decideAsksBody K ss

end Asks

mutual

theorem Stmt.asks_any : ∀ s : Stmt, s.Asks fun _ => True
  | .evaluate .. | .assign .. | .assert .. | .pass _ | .breakLoop _ | .continueLoop _ => trivial
  | .branch _ _ body orelse => ⟨asksBody_any body, asksBody_any orelse⟩
  | .whileLoop _ _ body | .forEach _ _ _ body => asksBody_any body
  | .attempt _ body handlers => ⟨asksBody_any body, asksHandlers_any handlers⟩

theorem asksBody_any : ∀ ss : List Stmt, asksBody (fun _ => True) ss
  | [] => trivial
  | s :: ss => ⟨s.asks_any, asksBody_any ss⟩

theorem asksHandlers_any : ∀ hs : List Handler, asksHandlers (fun _ => True) hs
  | [] => trivial
  | .mk _ _ body :: hs => ⟨trivial, asksBody_any body, asksHandlers_any hs⟩

end

/-! ## Relations between meanings -/

/-- A relation between computations is kept by doing one thing after the other, and it holds between
the actions of both monads. Of a guarded block it need only hold if the block's handlers let every
halt pass that none of the kinds in `K` takes. -/
structure Actions.Related {m n : Type → Type} [Monad m] [Monad n] (K : Option String → Prop)
    (R : {α : Type} → m α → n α → Prop) (acts : Actions m) (acts' : Actions n) : Prop where
  pure : ∀ {α : Type} (a : α), R (pure a) (pure a)
  bind : ∀ {α β : Type} {x : m α} {y : n α} {f : α → m β} {g : α → n β}, R x y →
    (∀ a, R (f a) (g a)) → R (x >>= f) (y >>= g)
  enter : ∀ s, R (acts.enter s) (acts'.enter s)
  eval : ∀ line e, R (acts.eval line e) (acts'.eval line e)
  text : ∀ v, R (acts.text v) (acts'.text v)
  present : ∀ line v, R (acts.present line v) (acts'.present line v)
  bindTarget : ∀ line target v, R (acts.bind line target v) (acts'.bind line target v)
  halt : ∀ {α : Type} (h : Halt), R (α := α) (acts.halt h) (acts'.halt h)
  guarded : ∀ {x : m Flow} {y : n Flow} {f : Halt → m Flow} {g : Halt → n Flow}, R x y →
    (∀ h, R (f h) (g h)) →
    (∀ h, (∀ kind, K kind → h.takenBy kind = false) → f h = acts.halt h ∧ g h = acts'.halt h) →
    R (acts.guarded x f) (acts'.guarded y g)
  take : ∀ h name, R (acts.take h name) (acts'.take h name)
  budget : acts'.budget = acts.budget

/-- A halt that no handler asks for passes. -/
theorem interpretHandlers_pass {n : Type → Type} [Monad n] {K : Option String → Prop}
    {acts : Actions n} {h : Halt} (hK : ∀ kind, K kind → h.takenBy kind = false)
    (hs : List Handler) (hhs : asksHandlers K hs) : interpretHandlers acts hs h = acts.halt h := by
  induction hs with
  | nil => rfl
  | cons handler hs ih =>
    obtain ⟨kind, name, body⟩ := handler
    rw [interpretHandlers, if_neg (by rw [hK kind hhs.1]; exact Bool.false_ne_true)]
    exact ih hhs.2.2

section Related

variable {m n : Type → Type} [Monad m] [Monad n] {K : Option String → Prop}
  {R : {α : Type} → m α → n α → Prop} {acts : Actions m} {acts' : Actions n}
  (h : acts.Related K R acts')
include h

theorem Actions.Related.rounds {test : m Value} {test' : n Value} {body : m Flow} {body' : n Flow}
    (htest : R test test') (hbody : R body body') (budget : Nat) :
    R (acts.rounds test body budget) (acts'.rounds test' body' budget) := by
  induction budget with
  | zero => exact h.halt .endless
  | succ budget ih =>
    refine h.bind htest fun v => related_ite (h.bind hbody fun flow => ?_) (h.pure ())
    cases flow with
    | leave => exact h.pure ()
    | next | «repeat» => exact ih

theorem Actions.Related.forItems {set : Value → m Unit} {set' : Value → n Unit} {body : m Flow}
    {body' : n Flow} (hset : ∀ v, R (set v) (set' v)) (hbody : R body body') (items : List Value) :
    R (Actions.forItems set body items) (Actions.forItems set' body' items) := by
  induction items with
  | nil => exact h.pure ()
  | cons v vs ih =>
    refine h.bind (hset v) fun _ => h.bind hbody fun flow => ?_
    cases flow with
    | leave => exact h.pure ()
    | next | «repeat» => exact ih

mutual

/-- **What holds between the actions holds between the meanings of every statement.** -/
theorem Stmt.interpret_related :
    ∀ s : Stmt, s.Asks K → R (s.interpret acts) (s.interpret acts')
  | .evaluate line e, _ => h.bind (h.enter _) fun _ => h.bind (h.eval line e) fun v =>
    h.bind (h.present line v) fun _ => h.pure _
  | .assign line target e, _ => h.bind (h.enter _) fun _ => h.bind (h.eval line e) fun v =>
    h.bind (h.bindTarget line target v) fun _ => h.pure _
  | .assert line test message, _ => by
    refine h.bind (h.enter _) fun _ => h.bind (h.eval line test) fun v => ?_
    refine related_ite ?_ (h.pure _)
    cases message with
    | none => exact h.bind (h.halt _) fun _ => h.pure _
    | some e =>
      exact h.bind (h.eval line e) fun v => h.bind (h.text v) fun _ => h.bind (h.halt _) fun _ =>
        h.pure _
  | .pass _, _ | .breakLoop _, _ | .continueLoop _, _ => h.bind (h.enter _) fun _ => h.pure _
  | .branch line test body orelse, hs => h.bind (h.enter _) fun _ =>
    h.bind (h.eval line test) fun _ =>
      related_ite (interpretBody_related body hs.1) (interpretBody_related orelse hs.2)
  | .whileLoop line test body, hs => h.bind (h.enter _) fun _ => by
    rw [h.budget]
    exact h.bind (h.rounds (h.eval line test) (interpretBody_related body hs) _) fun _ => h.pure _
  | .forEach line target items body, hs => by
    refine h.bind (h.enter _) fun _ => h.bind (h.eval line items) fun v => ?_
    cases v.items? with
    | none => exact h.halt _
    | some vs =>
      exact h.bind (h.forItems (h.bindTarget line target) (interpretBody_related body hs) vs)
        fun _ => h.pure _
  | .attempt line body handlers, hs => h.bind (h.enter _) fun _ =>
    h.guarded (interpretBody_related body hs.1)
      (fun halt => interpretHandlers_related handlers halt hs.2)
      fun _ hpass =>
        ⟨interpretHandlers_pass hpass handlers hs.2, interpretHandlers_pass hpass handlers hs.2⟩

theorem interpretBody_related :
    ∀ ss : List Stmt, asksBody K ss → R (interpretBody acts ss) (interpretBody acts' ss)
  | [], _ => h.pure _
  | s :: ss, hs => h.bind (s.interpret_related hs.1) fun flow => by
    cases flow with
    | next => exact interpretBody_related ss hs.2
    | leave | «repeat» => exact h.pure _

theorem interpretHandlers_related : ∀ (hs : List Handler) (halt : Halt), asksHandlers K hs →
    R (interpretHandlers acts hs halt) (interpretHandlers acts' hs halt)
  | [], halt, _ => h.halt halt
  | .mk _ name body :: hs, halt, hhs =>
    related_ite (h.bind (h.take halt name) fun _ => interpretBody_related body hhs.2.1)
      (interpretHandlers_related hs halt hhs.2.2)

end

theorem interpretProgram_related (ss : List Stmt) (hs : asksBody K ss) :
    R (interpretProgram acts ss) (interpretProgram acts' ss) := by
  induction ss with
  | nil => exact h.pure ()
  | cons s ss ih =>
    refine h.bind (s.interpret_related h hs.1) fun flow => ?_
    cases flow with
    | next => exact ih hs.2
    | leave | «repeat» => exact h.halt _

end Related

/-! ## The actions of a run -/

variable {ω : Type}

namespace ExecM

variable {α β : Type}

/-- An evaluation in two steps is two evaluations, since neither changes a variable. -/
theorem evalAt_bind (line : Nat) (x : Namespace → EvalM ω α) (f : α → Namespace → EvalM ω β) :
    (evalAt line fun ns => x ns >>= fun a => f a ns) =
      (evalAt line x >>= fun a => evalAt line (f a)) := by
  funext m
  rw [evalAt_apply]
  cases hx : x m.vars m.outside with
  | mk r o =>
    have hfirst := evalAt_apply line x m
    rw [hx] at hfirst
    cases r with
    | error stop => rw [Effects.bind_error hfirst, Effects.bind_error hx]; rfl
    | ok a => rw [Effects.bind_ok hfirst, Effects.bind_ok hx, evalAt_apply]

end ExecM

/-- The actions of a run. -/
def Actions.ofRun (run : Run ω) : Actions (ExecM ω) where
  enter _ := return ()
  eval line e := .evalAt line fun ns => e.interpret (.ofHost run.host ns)
  text v := return v.text
  present line v :=
    if run.mode = .interactive then .evalAt line fun _ => echo run.host v else return ()
  bind := .bindAt
  halt := throw
  guarded := tryCatch
  take h name := modify fun m => m.handling h name
  budget := run.budget

section OfRun

variable (run : Run ω)

theorem Actions.ofRun_enter (s : Stmt) : (Actions.ofRun run).enter s = return () := rfl

theorem Actions.ofRun_eval (line : Nat) (e : Expr) :
    (Actions.ofRun run).eval line e = .evalAt line (e.eval run.host) := by
  rw [← funext fun ns => e.interpret_ofHost run.host ns]
  rfl

theorem Actions.rounds_ofRun (test : ExecM ω Value) (body : ExecM ω Flow) (budget : Nat) :
    (Actions.ofRun run).rounds test body budget =
      ExecM.whileLoop (return (← test).truthy) body budget := by
  induction budget with
  | zero => rfl
  | succ budget ih =>
    rw [Actions.rounds, ExecM.whileLoop, ih, bind_assoc]
    refine bind_congr fun v => ?_
    rewrite [pure_bind]
    rfl

theorem Actions.forItems_ofRun (set : Value → ExecM ω Unit) (body : ExecM ω Flow)
    (items : List Value) : Actions.forItems set body items = ExecM.forEach set body items := by
  induction items with
  | nil => rfl
  | cons v vs ih =>
    rewrite [Actions.forItems, ExecM.forEach, ih]
    rfl

mutual

/-- **With the actions of a run, a statement means what it does.** -/
theorem Stmt.interpret_ofRun : ∀ s : Stmt, s.interpret (.ofRun run) = s.exec run
  | .evaluate line e => by
    rw [Stmt.interpret, Stmt.exec, Actions.ofRun_enter, pure_bind, Actions.ofRun_eval,
      ExecM.evalAt_bind, bind_assoc]
    refine bind_congr fun v => ?_
    -- only an interactive run shows the value
    by_cases hmode : run.mode = .interactive
    · simp only [Actions.ofRun, if_pos hmode]
    · simp only [Actions.ofRun, if_neg hmode]
      rfl
  | .assign line target e => by
    rw [Stmt.interpret, Stmt.exec, Actions.ofRun_eval]
    rfl
  | .assert line test message => by
    rw [Stmt.interpret, Stmt.exec, Actions.ofRun_enter, pure_bind, Actions.ofRun_eval,
      ExecM.evalAt_bind, bind_assoc]
    refine bind_congr fun v => ?_
    by_cases hv : (!v.truthy) = true
    · simp only [if_pos hv]
      cases message with
      | none => rfl
      | some e =>
        simp only [Actions.ofRun_eval]
        rw [ExecM.evalAt_bind, bind_assoc]
        rfl
    · simp only [if_neg hv]
      rfl
  | .pass _ | .breakLoop _ | .continueLoop _ => rfl
  | .branch line test body orelse => by
    rw [Stmt.interpret, Stmt.exec, Actions.ofRun_eval, interpretBody_ofRun body,
      interpretBody_ofRun orelse]
    rfl
  | .whileLoop line test body => by
    rw [Stmt.interpret, Stmt.exec, Actions.ofRun_eval, interpretBody_ofRun body,
      Actions.rounds_ofRun]
    rfl
  | .forEach line target items body => by
    rw [Stmt.interpret, Stmt.exec, Actions.ofRun_enter, pure_bind, Actions.ofRun_eval,
      interpretBody_ofRun body]
    refine bind_congr fun v => ?_
    cases v.items? with
    | none => rfl
    | some vs => simp only [Actions.forItems_ofRun]; rfl
  | .attempt line body handlers => by
    rw [Stmt.interpret, Stmt.exec, Actions.ofRun_enter, pure_bind, interpretBody_ofRun body]
    refine congrArg (tryCatch (execBody run body)) (funext fun halt => ?_)
    rw [interpretHandlers_ofRun handlers halt]
    cases execHandlers run handlers halt <;> rfl

theorem interpretBody_ofRun : ∀ ss : List Stmt, interpretBody (.ofRun run) ss = execBody run ss
  | [] => rfl
  | s :: ss => by
    rewrite [interpretBody, execBody, s.interpret_ofRun, interpretBody_ofRun ss]
    rfl

theorem interpretHandlers_ofRun : ∀ (hs : List Handler) (halt : Halt),
    interpretHandlers (.ofRun run) hs halt = (execHandlers run hs halt).getD (throw halt)
  | [], _ => rfl
  | .mk kind name body :: hs, halt => by
    cases htaken : halt.takenBy kind with
    | true =>
      funext m
      rw [interpretHandlers, if_pos htaken, execHandlers_taken htaken, interpretBody_ofRun body]
      rfl
    | false =>
      rw [interpretHandlers, execHandlers, if_neg (by rw [htaken]; decide),
        if_neg (by rw [htaken]; decide)]
      exact interpretHandlers_ofRun hs halt

end

/-- **With the actions of a run, a program means what it does.** -/
theorem interpretProgram_ofRun (ss : List Stmt) :
    interpretProgram (.ofRun run) ss = execProgram run ss := by
  induction ss with
  | nil => rfl
  | cons s ss ih => rw [interpretProgram, execProgram, s.interpret_ofRun, ih]; rfl

end OfRun

end Tilde
