import Tilde.Proofs.Interpretation.Statement
import Tilde.Proofs.Steps.Evaluation

/-!
# Executing a program step by step

The execution of a program as a machine, in which the evaluation of expressions is a part. What is
to be done after the statement that runs is a stack of tasks, at whose bottom are the statements of
the program that come after it. A flow or a halt takes the tasks off the stack one by one: a block
goes on or is left, a loop begins its next round or is left, and handlers are asked for the halt.

The machine has no budget. A `while` loop tests, runs its body and tests again, for as long as the
test holds, so the machine may go on for ever. It follows the execution with any budget: it comes to
the result of the execution, and where the execution uses its budget up, the machine takes at least
as many steps as the budget has rounds. So a program ends in the machine exactly if it ends with some
budget (`ends_iff`), and the budget is no more than a way to say that it does.
-/

namespace Tilde.Steps

variable {ω : Type}

/-! ## The machine -/

/-- What a statement does with the value it waits for. -/
inductive Await where
  | present
  | bind (target : Target)
  | test (message : Option Expr)
  | message
  | choose (body orelse : List Stmt)
  | again (test : Expr) (body : List Stmt)
  | items (target : Target) (body : List Stmt)

/-- What is done after the statement that runs. -/
inductive Task where
  | block (rest : List Stmt)
  | again (line : Nat) (test : Expr) (body : List Stmt)
  | items (line : Nat) (target : Target) (body : List Stmt) (todo : List Value)
  | handlers (hs : List Handler)

/-- The tasks after the statement that runs, the statement of the program that it belongs to, by its
line, and the statements of the program after this one. -/
structure Stack where
  tasks : List Task
  line : Nat
  rest : List Stmt

def Stack.push (t : Task) (k : Stack) : Stack := { k with tasks := t :: k.tasks }

/-- What an execution is doing. -/
inductive Phase where
  | stmt (s : Stmt)
  | block (ss : List Stmt)
  /-- A loop is before its next item. -/
  | items (line : Nat) (target : Target) (body : List Stmt) (todo : List Value)
  /-- The statement on the given line waits for a value. -/
  | wait (line : Nat) (await : Await) (control : Control) (frames : List Frame)
  | ended (flow : Flow)
  | halted (h : Halt)

/-- A state of an execution. -/
structure Execution (ω : Type) where
  phase : Phase
  stack : Stack
  machine : Machine ω

/-- A state of an execution, or its result. -/
abbrev Executed (ω : Type) := Execution ω ⊕ Except Halt Unit × Machine ω

namespace Execution

/-- The execution goes on. -/
def go (p : Phase) (k : Stack) (m : Machine ω) : Executed ω := .inl ⟨p, k, m⟩

/-- A statement begins to wait for the value of an expression. -/
def wait (line : Nat) (a : Await) (e : Expr) (k : Stack) (m : Machine ω) : Executed ω :=
  go (.wait line a (.eval e) []) k m

variable (host : OpenHost ω) (mode : Mode)

/-- Begins a statement. -/
def enter (s : Stmt) (k : Stack) (m : Machine ω) : Executed ω :=
  match s with
  | .evaluate line e => wait line .present e k m
  | .assign line target e => wait line (.bind target) e k m
  | .assert line test message => wait line (.test message) test k m
  | .pass _ => go (.ended .next) k m
  | .breakLoop _ => go (.ended .leave) k m
  | .continueLoop _ => go (.ended .repeat) k m
  | .branch line test body orelse => wait line (.choose body orelse) test k m
  | .whileLoop line test body => wait line (.again test body) test k m
  | .forEach line target items body => wait line (.items target body) items k m
  | .attempt _ body handlers => go (.block body) (k.push (.handlers handlers)) m

/-- Acts in one step, and goes on with a phase above one stack or with a halt above the other. -/
def act (x : ExecM ω Unit) (p : Phase) (k k' : Stack) (m : Machine ω) : Executed ω :=
  match x m with
  | (.ok _, m) => go p k m
  | (.error h, m) => go (.halted h) k' m

/-- Gives a statement the value it waits for. -/
def take (line : Nat) (v : Value) (a : Await) (k : Stack) (m : Machine ω) : Executed ω :=
  match a with
  | .present =>
    act ((Actions.ofRun ⟨host.muted, mode, 0⟩).present line v) (.ended .next) k k m
  | .bind target => act (.bindAt line target v) (.ended .next) k k m
  | .test message =>
    if v.truthy then go (.ended .next) k m
    else match message with
      | some e => wait line .message e k m
      | none => go (.halted (.fault line (.assertion ""))) k m
  | .message => go (.halted (.fault line (.assertion v.text))) k m
  | .choose body orelse => go (.block (if v.truthy then body else orelse)) k m
  | .again test body =>
    if v.truthy then go (.block body) (k.push (.again line test body)) m
    else go (.ended .next) k m
  | .items target body =>
    match v.items? with
    | some items => go (.items line target body items) k m
    | none => go (.halted (.fault line (.notIterable v.type))) k m

/-- Gives a statement the result of the evaluation it waits for. -/
def answer (line : Nat) (a : Await) (k : Stack) (m : Machine ω) :
    Except Stop Value × Outside ω → Executed ω
  | (.ok v, o) => take host mode line v a k { m with outside := o }
  | (.error s, o) => go (.halted (ExecM.halted line s)) k { m with outside := o }

/-- Gives a flow to the task on top. -/
def resume (flow : Flow) (t : Task) (k : Stack) (m : Machine ω) : Executed ω :=
  match t, flow with
  | .block rest, .next => go (.block rest) k m
  | .block _, flow => go (.ended flow) k m
  | .again _ _ _, .leave => go (.ended .next) k m
  | .again line test body, _ => wait line (.again test body) test k m
  | .items _ _ _ _, .leave => go (.ended .next) k m
  | .items line target body todo, _ => go (.items line target body todo) k m
  | .handlers _, flow => go (.ended flow) k m

/-- Gives a halt to the task on top. -/
def unwind (h : Halt) (t : Task) (k : Stack) (m : Machine ω) : Executed ω :=
  match t with
  | .handlers (.mk kind name body :: hs) =>
    if h.takenBy kind then go (.block body) k (m.handling h name)
    else go (.halted h) (k.push (.handlers hs)) m
  | _ => go (.halted h) k m

/-- Goes on to the next statement of the program, after one that belongs to the given line. -/
def proceed (flow : Flow) (line : Nat) (rest : List Stmt) (m : Machine ω) : Executed ω :=
  match flow, rest with
  | .next, [] => .inr (.ok (), m)
  | .next, s :: ss => go (.stmt s) ⟨[], s.line, ss⟩ m
  | _, _ => .inr (.error (.fault line .outsideLoop), m)

/-- One step of an execution. -/
def step : Execution ω → Executed ω
  | ⟨.stmt s, k, m⟩ => enter s k m
  | ⟨.block [], k, m⟩ => go (.ended .next) k m
  | ⟨.block (s :: ss), k, m⟩ => go (.stmt s) (k.push (.block ss)) m
  | ⟨.items _ _ _ [], k, m⟩ => go (.ended .next) k m
  | ⟨.items line target body (v :: vs), k, m⟩ =>
    act (.bindAt line target v) (.block body) (k.push (.items line target body vs)) k m
  | ⟨.wait line a c fs, k, m⟩ =>
    (Evaluation.step host m.vars ⟨c, fs, m.outside⟩).elim
      (fun e => go (.wait line a e.control e.frames) k { m with outside := e.outside })
      (answer host mode line a k m)
  | ⟨.ended flow, ⟨[], line, rest⟩, m⟩ => proceed flow line rest m
  | ⟨.ended flow, ⟨t :: ts, line, rest⟩, m⟩ => resume flow t ⟨ts, line, rest⟩ m
  | ⟨.halted h, ⟨[], _, _⟩, m⟩ => .inr (.error h, m)
  | ⟨.halted h, ⟨t :: ts, line, rest⟩, m⟩ => unwind h t ⟨ts, line, rest⟩ m

/-- The machine before the first of a program's statements. -/
def start (ss : List Stmt) (m : Machine ω) : Executed ω := go (.ended .next) ⟨[], 0, ss⟩ m

end Execution

/-! ## Budgets -/

section Thrifty

variable {α β : Type}

theorem halted_ne_endless (line : Nat) (s : Stop) : ExecM.halted line s ≠ .endless := by
  cases s <;> exact Halt.noConfusion

/-- No budget is used up. -/
def Thrifty (x : ExecM ω α) : Prop := ∀ m, (x m).1 ≠ .error .endless

namespace Thrifty

theorem pure {a : α} : Thrifty (pure a : ExecM ω α) := fun _ h => by cases h

theorem throw {h : Halt} (hh : h ≠ .endless) : Thrifty (throw h : ExecM ω α) := by
  intro m heq
  cases heq
  exact hh rfl

theorem bind {x : ExecM ω α} {f : α → ExecM ω β} (hx : Thrifty x) (hf : ∀ a, Thrifty (f a)) :
    Thrifty (x >>= f) := by
  intro m heq
  rcases hxm : x m with ⟨h | a, m'⟩
  · rw [Effects.bind_error hxm] at heq
    exact hx m (by rw [hxm]; exact congrArg Except.error (Except.error.inj heq))
  · rw [Effects.bind_ok hxm] at heq
    exact hf a m' heq

theorem guarded {x : ExecM ω α} {handler : Halt → ExecM ω α} (hx : Thrifty x)
    (hhandler : ∀ h, h ≠ .endless → Thrifty (handler h)) : Thrifty (tryCatch x handler) := by
  intro m heq
  rcases hxm : x m with ⟨h | a, m'⟩
  · rw [Effects.tryCatch_error hxm] at heq
    refine hhandler h (fun hh => hx m ?_) m' heq
    rw [hxm, hh]
  · rw [Effects.tryCatch_ok hxm] at heq
    cases heq

theorem evalAt (line : Nat) (x : Namespace → EvalM ω α) : Thrifty (.evalAt line x) := by
  intro m heq
  rw [ExecM.evalAt_apply] at heq
  cases hx : (x m.vars m.outside).1 with
  | ok a => rw [hx] at heq; cases heq
  | error s =>
    rw [hx] at heq
    exact halted_ne_endless line s (Except.error.inj heq)

theorem bindAt (line : Nat) (target : Target) (v : Value) :
    Thrifty (.bindAt line target v : ExecM ω Unit) := by
  intro m heq
  rw [ExecM.bindAt_apply] at heq
  cases hbind : (target.bind v m.vars).1 with
  | ok u => rw [hbind] at heq; cases heq
  | error f => rw [hbind] at heq; cases heq

theorem present (run : Run ω) (line : Nat) (v : Value) :
    Thrifty ((Actions.ofRun run).present line v) := by
  unfold Actions.ofRun
  dsimp only
  split
  · exact .evalAt line _
  · exact .pure

end Thrifty

end Thrifty

/-! ## The execution is followed -/

open Execution

/-- The machine follows an execution, which gives up where a budget is used up. A halt goes to the
stack. -/
abbrev Runs {α : Type} (host : OpenHost ω) (mode : Mode) (patience : Nat)
    (start : Machine ω → Executed ω) (x : ExecM ω α) (value : α → Machine ω → Executed ω)
    (k : Stack) : Prop :=
  Follows (Execution.step host mode) (· = .endless) patience start x value
    fun h => go (.halted h) k

section

variable {α : Type} {host : OpenHost ω} {mode : Mode} {patience line : Nat} {k k' : Stack}
  {start : Machine ω → Executed ω} {x : ExecM ω α} {value : α → Machine ω → Executed ω}

/-- A task that is no handler lets a halt pass. -/
theorem Runs.below {t : Task} (h : Runs host mode patience start x value (k.push t))
    (ht : ∀ halt k (m : Machine ω), unwind halt t k m = go (.halted halt) k m) :
    Runs host mode patience start x value k := by
  refine h.before (fun _ _ => .refl) fun halt m => .head ?_
  have hstep := ht halt k m
  change Reaches _ (unwind halt t k m) _
  rw [hstep]
  exact .refl

theorem act_runs {x : ExecM ω Unit} {p : Phase} (hx : Thrifty x) :
    Runs host mode patience (act x p k k') x (fun _ => go p k) k' := by
  intro m
  unfold act
  constructor
  · intro u m' hm
    rw [hm]
    exact .refl
  · intro h m' hm
    rw [hm]
    refine ⟨fun _ => .refl, fun hh => absurd ?_ (hx m)⟩
    rw [hm, hh]

/-- The execution of a statement that waits for an evaluation. -/
def waiting (line : Nat) (a : Await) (k : Stack) (m : Machine ω) (e : Evaluation ω) : Execution ω :=
  ⟨.wait line a e.control e.frames, k, { m with outside := e.outside }⟩

/-- **A statement gets the value that the evaluation of its expression gives.** -/
theorem wait_runs (hc : host.CommandsEnd) (a : Await) (e : Expr) :
    Runs host mode patience (wait line a e k) (.evalAt line (e.eval (host.closed hc)))
      (fun v m => take host mode line v a k m) k := by
  intro m
  -- the steps of the evaluation are those of the execution that waits for it
  have hstep : ∀ s, Execution.step host mode (waiting line a k m s) =
      Sum.elim (.inl ∘ waiting line a k m) (answer host mode line a k m)
        (Evaluation.step host m.vars s) := fun _ => rfl
  have hreach : Reaches (Execution.step host mode) (wait line a e k m)
      (answer host mode line a k m (e.eval (host.closed hc) m.vars m.outside)) :=
    (eval_reaches hc e m.outside).lift hstep
  rw [ExecM.evalAt_apply]
  generalize e.eval (host.closed hc) m.vars m.outside = r at hreach ⊢
  rcases r with ⟨s | v, o⟩
  · constructor
    · intro v m' h
      cases h
    · intro h m' hm
      cases hm
      exact ⟨fun _ => hreach, fun hh => absurd hh (halted_ne_endless line s)⟩
  · constructor
    · intro v' m' hm
      cases hm
      exact hreach
    · intro h m' hm
      cases hm

/-! ### Loops -/

section Loops

variable {test : Expr} {target : Target} {body : List Stmt} {budget : Nat}
  (hc : host.CommandsEnd)
  (hbody : ∀ k, Runs host mode budget (go (.block body) k)
    (interpretBody (.ofRun ⟨host.closed hc, mode, budget⟩) body) (fun flow => go (.ended flow) k) k)

include hbody

/-- **A loop that uses up `n` rounds has taken `n` steps.** -/
theorem rounds_runs : ∀ n ≤ budget, Runs host mode n (wait line (.again test body) test k)
    ((Actions.ofRun ⟨host.closed hc, mode, budget⟩).rounds
      (.evalAt line (test.eval (host.closed hc)))
      (interpretBody (.ofRun ⟨host.closed hc, mode, budget⟩) body) n)
    (fun _ => go (.ended .next) k) k := by
  intro n hn
  -- the induction is on the budget; a machine that has none goes through the same rounds
  induction n with
  | zero => exact .giveUp rfl
  | succ n ih =>
    refine (wait_runs hc (.again test body) test).bind fun v => ?_
    cases hv : v.truthy with
    | false =>
      rw [if_neg Bool.false_ne_true]
      refine .pure fun m => ?_
      simp only [take, hv, if_neg Bool.false_ne_true]
    | true =>
      rw [if_pos rfl]
      have htake : ∀ m : Machine ω, take host mode line v (.again test body) k m =
          go (.block body) (k.push (.again line test body)) m := by
        intro m
        simp only [take, hv, if_pos]
      simp only [htake]
      -- the task that begins the next round lies under the body, and is taken as the body ends
      have hround := Runs.below ((hbody (k.push (.again line test body))).mono hn)
        fun _ _ _ => rfl
      refine hround.bind fun flow => ?_
      cases flow with
      | leave => exact .head (.pure fun _ => rfl)
      | next | «repeat» => exact .head_succ (ih (Nat.le_of_succ_le hn))

/-- A loop goes through the items that its expression gave, whatever becomes of the variable. -/
theorem items_runs (items : List Value) : Runs host mode budget
    (go (.items line target body items) k)
    (Actions.forItems (.bindAt line target)
      (interpretBody (.ofRun ⟨host.closed hc, mode, budget⟩) body) items)
    (fun _ => go (.ended .next) k) k := by
  induction items with
  | nil => exact .head (.pure fun _ => rfl)
  | cons v vs ih =>
    refine .head ((act_runs (.bindAt line target v)).bind fun _ => ?_)
    have hround := Runs.below (hbody (k.push (.items line target body vs))) fun _ _ _ => rfl
    refine hround.bind fun flow => ?_
    cases flow with
    | leave => exact .head (.pure fun _ => rfl)
    | next | «repeat» => exact .head ih

end Loops

/-! ### Statements -/

/-- Nothing handles the end of a budget. -/
theorem interpretHandlers_endless (run : Run ω) (hs : List Handler) :
    interpretHandlers (.ofRun run) hs .endless = throw .endless := by
  induction hs with
  | nil => rfl
  | cons handler hs ih =>
    obtain ⟨kind, name, body⟩ := handler
    exact ih

section Statements

variable (hc : host.CommandsEnd) (mode : Mode) (budget : Nat)

mutual

/-- **The machine follows a statement.** -/
theorem stmt_runs : ∀ (s : Stmt) (k : Stack), Runs host mode budget (go (.stmt s) k)
    (s.interpret (.ofRun ⟨host.closed hc, mode, budget⟩)) (fun flow => go (.ended flow) k) k
  | .evaluate line e, k => by
    rw [Stmt.interpret, Actions.ofRun_enter, pure_bind, Actions.ofRun_eval]
    refine .head ((wait_runs hc .present e).bind fun v => ?_)
    refine (act_runs (.present ⟨host.muted, mode, 0⟩ line v)).bind fun _ => ?_
    exact .pure fun _ => rfl
  | .assign line target e, k => by
    rw [Stmt.interpret, Actions.ofRun_enter, pure_bind, Actions.ofRun_eval]
    refine .head ((wait_runs hc (.bind target) e).bind fun v => ?_)
    refine (act_runs (.bindAt line target v)).bind fun _ => ?_
    exact .pure fun _ => rfl
  | .assert line test message, k => by
    rw [Stmt.interpret, Actions.ofRun_enter, pure_bind, Actions.ofRun_eval]
    refine .head ((wait_runs hc (.test message) test).bind fun v => ?_)
    cases hv : v.truthy with
    | true =>
      refine .pure fun m => ?_
      simp only [take, hv, if_pos]
    | false =>
      cases message with
      | none =>
        refine .throw (fun m => ?_) Halt.noConfusion
        simp only [take, hv, if_neg Bool.false_ne_true]
      | some e =>
        -- the message is waited for as the test was
        have htake : ∀ m : Machine ω,
            take host mode line v (.test (some e)) k m = wait line .message e k m := by
          intro m
          simp only [take, hv, if_neg Bool.false_ne_true]
        simp only [htake]
        change Runs host mode budget (wait line .message e k)
          ((Actions.ofRun ⟨host.closed hc, mode, budget⟩).eval line e >>= fun u =>
            throw (.fault line (.assertion u.text))) _ k
        rw [Actions.ofRun_eval]
        refine (wait_runs hc .message e).bind fun u => ?_
        exact .throw (fun _ => rfl) Halt.noConfusion
  | .pass _, k | .breakLoop _, k | .continueLoop _, k => .head (.pure fun _ => rfl)
  | .branch line test body orelse, k => by
    rw [Stmt.interpret, Actions.ofRun_enter, pure_bind, Actions.ofRun_eval]
    refine .head ((wait_runs hc (.choose body orelse) test).bind fun v => ?_)
    cases hv : v.truthy with
    | true =>
      have htake : ∀ m : Machine ω, take host mode line v (.choose body orelse) k m =
          go (.block body) k m := by
        intro m
        simp only [take, hv, if_pos]
      simp only [htake]
      exact body_runs body k
    | false =>
      have htake : ∀ m : Machine ω, take host mode line v (.choose body orelse) k m =
          go (.block orelse) k m := by
        intro m
        simp only [take, hv, if_neg Bool.false_ne_true]
      simp only [htake]
      exact body_runs orelse k
  | .whileLoop line test body, k => by
    rw [Stmt.interpret, Actions.ofRun_enter, pure_bind, Actions.ofRun_eval]
    refine .head ((rounds_runs hc (body_runs body) budget (Nat.le_refl budget)).bind fun _ => ?_)
    exact .pure fun _ => rfl
  | .forEach line target items body, k => by
    rw [Stmt.interpret, Actions.ofRun_enter, pure_bind, Actions.ofRun_eval]
    refine .head ((wait_runs hc (.items target body) items).bind fun v => ?_)
    cases hitems : v.items? with
    | none =>
      refine .throw (fun m => ?_) Halt.noConfusion
      simp only [take, hitems]
    | some vs =>
      have htake : ∀ m : Machine ω, take host mode line v (.items target body) k m =
          go (.items line target body vs) k m := by
        intro m
        simp only [take, hitems]
      simp only [htake]
      refine (items_runs hc (body_runs body) vs).bind fun _ => ?_
      exact .pure fun _ => rfl
  | .attempt line body handlers, k => by
    rw [Stmt.interpret, Actions.ofRun_enter, pure_bind]
    -- the handlers lie under the block, and none of them takes the end of a budget
    refine .head (.guarded (body_runs body (k.push (.handlers handlers)))
      (fun _ _ => .head .refl) (fun h hh => handlers_run handlers h k hh) ?_)
    rintro _ rfl
    exact interpretHandlers_endless _ handlers

/-- The machine follows a block. -/
theorem body_runs : ∀ (ss : List Stmt) (k : Stack), Runs host mode budget (go (.block ss) k)
    (interpretBody (.ofRun ⟨host.closed hc, mode, budget⟩) ss) (fun flow => go (.ended flow) k) k
  | [], k => .head (.pure fun _ => rfl)
  | s :: ss, k => by
    have hs := Runs.below (stmt_runs s (k.push (.block ss))) fun _ _ _ => rfl
    refine .head (hs.bind fun flow => ?_)
    cases flow with
    | next => exact .head (body_runs ss k)
    | leave | «repeat» => exact .head (.pure fun _ => rfl)

/-- The machine asks handlers for a halt. -/
theorem handlers_run : ∀ (hs : List Handler) (h : Halt) (k : Stack), h ≠ .endless →
    Runs host mode budget (go (.halted h) (k.push (.handlers hs)))
      (interpretHandlers (.ofRun ⟨host.closed hc, mode, budget⟩) hs h)
      (fun flow => go (.ended flow) k) k
  | [], _, _, hh => .head (.throw (fun _ => rfl) hh)
  | .mk kind name body :: hs, h, k, hh => by
    have hstep : ∀ m : Machine ω,
        Execution.step host mode ⟨.halted h, k.push (.handlers (.mk kind name body :: hs)), m⟩ =
          if h.takenBy kind then go (.block body) k (m.handling h name)
          else go (.halted h) (k.push (.handlers hs)) m := fun _ => rfl
    refine .head ?_
    simp only [hstep]
    rw [interpretHandlers]
    cases h.takenBy kind with
    | true => exact fun m => body_runs body k (m.handling h name)
    | false => exact handlers_run hs h k hh

end

/-! ### Programs -/

/-- **The machine follows a program.** -/
theorem program_runs (ss : List Stmt) (line : Nat) :
    Follows (Execution.step host mode) (· = .endless) budget
      (go (.ended .next) ⟨[], line, ss⟩) (execProgram ⟨host.closed hc, mode, budget⟩ ss)
      (fun _ m => .inr (.ok (), m)) (fun h m => .inr (.error h, m)) := by
  rw [← interpretProgram_ofRun]
  induction ss generalizing line with
  | nil => exact .head (.pure fun _ => rfl)
  | cons s ss ih =>
    -- below the statements of the program there is no task, so a halt is the result
    have hs := (stmt_runs hc mode budget s ⟨[], s.line, ss⟩).before (fun _ _ => .refl)
      fun _ _ => .head .refl
    refine .head (hs.bind fun flow => ?_)
    cases flow with
    | next => exact ih s.line
    | leave | «repeat» => exact .head (.throw (fun _ => rfl) Halt.noConfusion)

end Statements

end

/-! ### The results of a program -/

variable {host : OpenHost ω}

/-- With each budget, either the machine comes to the result of the execution, or the budget is used
up and the machine goes on for at least as many steps. -/
theorem reaches_or_lasts (hc : host.CommandsEnd) (p : Program) (budget : Nat) (m : Machine ω) :
    (p.exec (host.closed hc) budget m).1 ≠ .error .endless
        ∧ Reaches (Execution.step host p.mode) (start p.body m)
            (.inr (p.exec (host.closed hc) budget m))
      ∨ (p.exec (host.closed hc) budget m).1 = .error .endless
        ∧ Lasts (Execution.step host p.mode) budget (start p.body m) := by
  obtain ⟨hok, herror⟩ := program_runs hc p.mode budget p.body 0 m
  rcases hexec : p.exec (host.closed hc) budget m with ⟨h | u, m'⟩
  · obtain ⟨hcome, hlast⟩ := herror h m' hexec
    by_cases hh : h = .endless
    · rw [hh]
      exact .inr ⟨rfl, hlast hh⟩
    · refine .inl ⟨fun heq => hh ?_, hcome hh⟩
      cases heq
      rfl
  · exact .inl ⟨(by rintro ⟨⟩), hok u m' hexec⟩

/-- **A program ends in the machine exactly if it ends with some budget**, and then it comes to the
same result. -/
theorem ends_iff (hc : host.CommandsEnd) (p : Program) {m m' : Machine ω} {r : Except Halt Unit} :
    Reaches (Execution.step host p.mode) (start p.body m) (.inr (r, m')) ↔
      ∃ budget, p.exec (host.closed hc) budget m = (r, m') ∧ r ≠ .error .endless := by
  constructor
  · intro hreach
    -- the machine does not last as long as a budget of all its steps
    obtain ⟨n, hn⟩ := Lasts.not_forever hreach
    rcases reaches_or_lasts hc p n m with ⟨hends, hreach'⟩ | ⟨-, hlasts⟩
    · have hexec := hreach'.unique hreach
      rw [hexec] at hends
      exact ⟨n, hexec, hends⟩
    · exact absurd hlasts hn
  · rintro ⟨budget, hexec, hends⟩
    rcases reaches_or_lasts hc p budget m with ⟨-, hreach⟩ | ⟨hgone, -⟩
    · rw [hexec] at hreach
      exact hreach
    · rw [hexec] at hgone
      exact absurd hgone hends

end Tilde.Steps
