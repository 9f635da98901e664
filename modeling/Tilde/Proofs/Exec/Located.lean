import Tilde.Proofs.Grammar.Derivation
import Tilde.Proofs.Interpretation.Statement
import Tilde.Run

/-!
# Faults carry the line of the innermost statement

An execution gives a fault its line where the fault is raised. Here the same is said the long way
round: a failure is raised without a line, and on its way out every statement it passes offers its
line, of which a failure takes the first one only. Beside it stands what nothing in a program can
see: which statements were in execution where the failure was raised, the innermost one first.

Both executions come to the same end (`Follows`), so the line of a fault is the one that the first
statement on the way out offered, whatever blocks, loops and handlers lie around it. A `break` or
`continue` outside a loop has left every statement around it before it is a fault, so there is only
the statement of the program to offer a line.
-/

namespace Tilde

variable {ω α β γ δ : Type}

/-! ## Failures on their way out -/

namespace Stop

/-- The kind of a stop. -/
def kind : Stop → FaultKind
  | exit _ => .systemExit
  | fault f => f.kind

/-- The message of a stop. -/
def message : Stop → String
  | exit status => s!"exit requested with status {status.toInt}"
  | fault f => f.message

end Stop

/-- What a statement may come to instead of its end. -/
inductive Failure where
  /-- A stop as it was raised, and the statements that were in execution there, the innermost one
  first. -/
  | raised (stop : Stop) (active : List Stmt)
  /-- A `while` loop used up its budget. -/
  | endless
  /-- A failure with the line of a statement. -/
  | located (line : Nat) (inner : Failure)

namespace Failure

/-- A failure that passes a statement takes its line, if it has none and is no request to exit. -/
def atLine (line : Nat) : Failure → Failure
  | raised (.fault f) active => located line (raised (.fault f) active)
  | e => e

/-- A failure without its lines. -/
def innermost : Failure → Failure
  | located _ inner => inner.innermost
  | e => e

/-- The kind of a failure, for handlers and diagnostics. -/
def kind? : Failure → Option FaultKind
  | raised stop _ => some stop.kind
  | endless => none
  | located _ inner => inner.kind?

/-- Whether a failure is a request to exit. -/
def isExit : Failure → Bool
  | raised (.exit _) _ => true
  | raised (.fault _) _ | endless => false
  | located _ inner => inner.isExit

/-- The message of a failure, without a line. -/
def message : Failure → String
  | raised stop _ => stop.message
  | endless => Halt.endless.message
  | located _ inner => inner.message

/-- Whether a handler that asks for the given kind takes the failure. -/
def takenBy (e : Failure) (kind : Option String) : Bool :=
  match e.kind? with
  | none => false
  | some k =>
    if e.isExit then kind == some FaultKind.systemExit.name
    else
      match kind with
      | none | some "Exception" => true
      | some "OSError" => k == .osError || k == .childProcessError
      | some name => name == k.name

/-- A report in one line, with every line that the failure has in front. -/
def diagnostic : Failure → String
  | located line inner => s!"line {line}: {inner.diagnostic}"
  | raised stop _ => s!"{stop.kind.name}: {stop.message}"
  | endless => s!": {Halt.endless.message}"

end Failure

/-- Execution in which failures take their lines on the way out. -/
abbrev UnwindM (ω : Type) := ExceptT Failure (StateM (Machine ω))

namespace UnwindM

/-- Evaluates, where the given statements are in execution. -/
def raising (active : List Stmt) (eval : Namespace → EvalM ω α) : UnwindM ω α := fun m =>
  ((eval m.vars m.outside).1.mapError (.raised · active),
    { m with outside := (eval m.vars m.outside).2 })

/-- Binds a value, where the given statements are in execution. -/
def binding (active : List Stmt) (target : Target) (v : Value) : UnwindM ω Unit := fun m =>
  ((target.bind v m.vars).1.mapError fun f => .raised (.fault f) active,
    { m with vars := (target.bind v m.vars).2 })

/-- Failures pass a statement on the given line. -/
def atLine (line : Nat) (x : UnwindM ω α) : UnwindM ω α := fun m =>
  ((x m).1.mapError (.atLine line), (x m).2)

/-- Goes through a loop's rounds until one leaves it. -/
def rounds (test : UnwindM ω Bool) (body : UnwindM ω Flow) : (budget : Nat) → UnwindM ω Unit
  | 0 => throw .endless
  | budget + 1 => do
    if ← test then
      match ← body with
      | .leave => return ()
      | .next | .repeat => rounds test body budget
    else return ()

/-- A handler takes a failure: the log tells of it, and the handler's name is bound to the message
of the failure without its lines. -/
def taking (e : Failure) (name : Option String) : UnwindM ω Unit := modify fun m =>
  { vars := match name with
      | some n => m.vars.set n (.str e.innermost.message)
      | none => m.vars
    outside := match e.kind? with
      | some k => { m.outside with log := .handled k.name :: m.outside.log }
      | none => m.outside }

end UnwindM

section Unwind

open UnwindM

variable (run : Run ω)

mutual

/-- Executes a statement, the first of those in execution. How it ends comes with the statements
that were in execution where that was decided. -/
def Stmt.unwind (active : List Stmt) : Stmt → UnwindM ω (Flow × List Stmt)
  | .evaluate _ e => do
    raising active fun ns => do
      let v ← e.eval run.host ns
      if run.mode = .interactive then echo run.host v
    return (.next, active)
  | .assign _ target e => do
    let v ← raising active (e.eval run.host)
    binding active target v
    return (.next, active)
  | .assert _ test message => do
    raising active fun ns => do
      if !(← test.eval run.host ns).truthy then
        match message with
        | some e => .fail (.assertion (← e.eval run.host ns).text)
        | none => .fail (.assertion "")
    return (.next, active)
  | .pass _ => return (.next, active)
  | .breakLoop _ => return (.leave, active)
  | .continueLoop _ => return (.repeat, active)
  | .branch _ test body orelse => do
    if (← raising active (test.eval run.host)).truthy then unwindBody active body
    else unwindBody active orelse
  | .whileLoop _ test body => do
    let test := return (← raising active (test.eval run.host)).truthy
    rounds test (return (← unwindBody active body).1) run.budget
    return (.next, active)
  | .forEach _ target items body => do
    let v ← raising active (items.eval run.host)
    match v.items? with
    | none => throw (.raised (.fault (.notIterable v.type)) active)
    | some items =>
      Actions.forItems (binding active target) (return (← unwindBody active body).1) items
      return (.next, active)
  | .attempt _ body handlers =>
    tryCatch (unwindBody active body) (unwindHandlers active handlers)

/-- Executes the statements of a block. A failure passes the one that is executed. -/
def unwindBody (active : List Stmt) : List Stmt → UnwindM ω (Flow × List Stmt)
  | [] => return (.next, active)
  | s :: ss => do
    match ← atLine s.line (s.unwind (s :: active)) with
    | (.next, _) => unwindBody active ss
    | ending => return ending

/-- Runs the first handler that takes a failure. If there is none, the failure goes on. -/
def unwindHandlers (active : List Stmt) : List Handler → Failure → UnwindM ω (Flow × List Stmt)
  | [], e => throw e
  | .mk kind name body :: hs, e =>
    if e.takenBy kind then do
      taking e name
      unwindBody active body
    else unwindHandlers active hs e

end

/-- Executes the statements of a program. None of them may leave or repeat a loop. -/
def unwindProgram : List Stmt → UnwindM ω Unit
  | [] => return ()
  | s :: ss => do
    match ← atLine s.line (s.unwind run [s]) with
    | (.next, _) => unwindProgram ss
    | (.leave, active) | (.repeat, active) =>
      throw ((Failure.raised (.fault .outsideLoop) active).atLine s.line)

end Unwind

/-! ## Statements in execution -/

/-- The statement is a `break` or a `continue`. -/
def Stmt.isJump : Stmt → Bool
  | .breakLoop _ | .continueLoop _ => true
  | _ => false

/-- The statement is a loop. -/
def Stmt.isLoop : Stmt → Bool
  | .whileLoop .. | .forEach .. => true
  | _ => false

/-- Each of the statements stands in a block of the next one; the last one is `top`. -/
structure Nested (top : Stmt) (active : List Stmt) : Prop where
  chain : active.IsChain fun inner outer => inner ∈ outer.nested
  last : active.getLast? = some top

namespace Nested

variable {top s t : Stmt} {outer : List Stmt}

theorem single : Nested s [s] := ⟨.singleton _, rfl⟩

theorem cons (h : Nested top (s :: outer)) (ht : t ∈ s.nested) : Nested top (t :: s :: outer) :=
  ⟨.cons_cons ht h.chain, h.last⟩

end Nested

/-- A fault has the line of the innermost statement in execution where it was raised, and that one
is no `break` or `continue`. -/
def RaisedIn (top : Stmt) (halt : Halt) (active : List Stmt) : Prop :=
  ∀ line f, halt = .fault line f →
    Nested top active ∧ ∃ s outer, active = s :: outer ∧ s.line = line ∧ s.isJump = false

theorem RaisedIn.endless {top : Stmt} {active : List Stmt} : RaisedIn top .endless active := by
  rintro _ _ ⟨⟩

theorem RaisedIn.halted {top s : Stmt} {outer : List Stmt} (hs : Nested top (s :: outer))
    (hjump : s.isJump = false) (stop : Stop) :
    RaisedIn top (ExecM.halted s.line stop) (s :: outer) := by
  rintro line f h
  cases stop with
  | exit status => cases h
  | fault f => cases h; exact ⟨hs, s, outer, rfl, rfl, hjump⟩

/-- Both endings are the same. If they are jumps, they come from a `break` or a `continue` with no
loop around it inside the statements `outer`. -/
def Jumps (top : Stmt) (outer : List Stmt) (ending : Flow × List Stmt) (flow : Flow) : Prop :=
  ending.1 = flow ∧ (flow ≠ .next → Nested top ending.2 ∧ ∃ b inner, ending.2 = b :: inner ++ outer
    ∧ b.isJump = true ∧ ∀ t ∈ b :: inner, t.isLoop = false)

namespace Jumps

variable {top s : Stmt} {outer active : List Stmt} {ending : Flow × List Stmt} {flow : Flow}

theorem next : Jumps top outer (.next, active) .next := ⟨rfl, fun h => absurd rfl h⟩

/-- A `break` or a `continue` is executed. -/
theorem jump (hs : Nested top (s :: outer)) (hjump : s.isJump = true) :
    Jumps top outer (flow, s :: outer) flow := by
  refine ⟨rfl, fun _ => ⟨hs, s, [], rfl, hjump, fun t ht => ?_⟩⟩
  obtain rfl := List.mem_singleton.mp ht
  cases t <;> first | rfl | cases hjump

/-- A jump out of a block is one out of the statement around it, which is no loop. -/
theorem outward (h : Jumps top (s :: outer) ending flow) (hloop : s.isLoop = false) :
    Jumps top outer ending flow := by
  refine ⟨h.1, fun hflow => ?_⟩
  obtain ⟨hnested, b, inner, heq, hjump, hinner⟩ := h.2 hflow
  refine ⟨hnested, b, inner ++ [s], by rw [heq]; simp, hjump, fun t ht => ?_⟩
  rw [← List.cons_append] at ht
  rcases List.mem_append.mp ht with ht | ht
  · exact hinner t ht
  · rw [List.mem_singleton.mp ht]
    exact hloop

end Jumps

/-! ## Halts as failures -/

namespace Halt

variable {halt : Halt} {active : List Stmt}

/-- A halt as a failure that has passed its statement, raised where the given statements were in
execution. -/
def failure (active : List Stmt) : Halt → Failure
  | exit status => .raised (.exit status) active
  | fault line f => .located line (.raised (.fault f) active)
  | endless => .endless

/-- A failure that has passed its statement does not take another line. -/
theorem atLine_failure (line : Nat) : (halt.failure active).atLine line = halt.failure active := by
  cases halt <;> rfl

/-- A stop that passes its statement is the halt that an execution gives at once. -/
theorem failure_halted (line : Nat) (stop : Stop) :
    (ExecM.halted line stop).failure active = (Failure.raised stop active).atLine line := by
  cases stop <;> rfl

theorem takenBy_failure (kind : Option String) :
    (halt.failure active).takenBy kind = halt.takenBy kind := by
  cases halt <;> rfl

theorem diagnostic_failure :
    (halt.failure active).diagnostic = (RunError.halted halt).diagnostic := by
  cases halt with
  | exit status | endless => rfl
  | fault line f =>
    change "line " ++ toString line ++ ": " ++ (f.kind.name ++ ": " ++ f.message) =
      "line " ++ toString line ++ ": " ++ f.kind.name ++ ": " ++ f.message
    simp only [String.append_assoc]

theorem taking_failure (name : Option String) (m : Machine ω) :
    UnwindM.taking (halt.failure active) name m = (.ok (), m.handling halt name) := by
  cases halt <;> rfl

end Halt

/-! ## Two executions that come to the same end -/

namespace UnwindM

/-- Wherever they start, both executions come to the same machine. They end there with values that
satisfy `Q`, or with a halt and the failure it is, raised where the statements in execution and the
halt satisfy `P`. -/
def Follows (P : Halt → List Stmt → Prop) (Q : α → β → Prop) (x : UnwindM ω α) (y : ExecM ω β) :
    Prop :=
  ∀ m : Machine ω, ∃ m',
    (∃ a b, x m = (.ok a, m') ∧ y m = (.ok b, m') ∧ Q a b) ∨
      ∃ halt active, x m = (.error (halt.failure active), m') ∧ y m = (.error halt, m')
        ∧ P halt active

theorem atLine_bind (line : Nat) (x : UnwindM ω α) (f : α → UnwindM ω β) :
    atLine line (x >>= f) = atLine line x >>= fun a => atLine line (f a) := by
  funext m
  rcases h : x m with ⟨e | a, m'⟩
  · have hx : atLine line x m = (.error (e.atLine line), m') := by rw [atLine, h]; rfl
    rw [Effects.bind_error hx, atLine, Effects.bind_error h]
    rfl
  · have hx : atLine line x m = (.ok a, m') := by rw [atLine, h]; rfl
    rw [Effects.bind_ok hx, atLine, Effects.bind_ok h]
    rfl

theorem atLine_tryCatch (line : Nat) (x : UnwindM ω α) (f : Failure → UnwindM ω α) :
    atLine line (tryCatch x f) = tryCatch x fun e => atLine line (f e) := by
  funext m
  rcases h : x m with ⟨e | a, m'⟩
  · rw [Effects.tryCatch_error h, atLine, Effects.tryCatch_error h]
    rfl
  · rw [Effects.tryCatch_ok h, atLine, Effects.tryCatch_ok h]
    rfl

namespace Follows

variable {P P' : Halt → List Stmt → Prop} {Q Q' : α → β → Prop} {R : γ → δ → Prop}
  {x : UnwindM ω α} {y : ExecM ω β} {f : α → UnwindM ω γ} {g : β → ExecM ω δ} {line : Nat}
  {active : List Stmt}

theorem pure {a : α} {b : β} (h : Q a b) : Follows P Q (pure a : UnwindM ω α) (pure b) :=
  fun m => ⟨m, .inl ⟨a, b, rfl, rfl, h⟩⟩

theorem throw {halt : Halt} (h : P halt active) :
    Follows P Q (throw (halt.failure active) : UnwindM ω α) (throw halt) :=
  fun m => ⟨m, .inr ⟨halt, active, rfl, rfl, h⟩⟩

theorem mono (h : Follows P Q x y) (hP : ∀ halt active, P halt active → P' halt active)
    (hQ : ∀ a b, Q a b → Q' a b) : Follows P' Q' x y := by
  intro m
  obtain ⟨m', ⟨a, b, hx, hy, hab⟩ | ⟨halt, active, hx, hy, hhalt⟩⟩ := h m
  · exact ⟨m', .inl ⟨a, b, hx, hy, hQ a b hab⟩⟩
  · exact ⟨m', .inr ⟨halt, active, hx, hy, hP halt active hhalt⟩⟩

theorem bind (hx : Follows P Q x y) (hf : ∀ a b, Q a b → Follows P R (f a) (g b)) :
    Follows P R (x >>= f) (y >>= g) := by
  intro m
  obtain ⟨m', ⟨a, b, hx, hy, hab⟩ | ⟨halt, active, hx, hy, hhalt⟩⟩ := hx m
  · rw [Effects.bind_ok hx, Effects.bind_ok hy]
    exact hf a b hab m'
  · exact ⟨m', .inr ⟨halt, active, Effects.bind_error hx, Effects.bind_error hy, hhalt⟩⟩

/-- What has passed its statement may pass others. -/
theorem atLine (h : Follows P Q x y) : Follows P Q (atLine line x) y := by
  intro m
  obtain ⟨m', ⟨a, b, hx, hy, hab⟩ | ⟨halt, active, hx, hy, hhalt⟩⟩ := h m
  · refine ⟨m', .inl ⟨a, b, ?_, hy, hab⟩⟩
    rw [UnwindM.atLine, hx]
    rfl
  · refine ⟨m', .inr ⟨halt, active, ?_, hy, hhalt⟩⟩
    rw [UnwindM.atLine, hx]
    exact congrArg (fun e => (Except.error e, m')) (halt.atLine_failure line)

/-- How a block ends, without the statements where that was decided. -/
theorem image {f : α → β} (h : Follows P Q x y) (hf : ∀ a b, Q a b → f a = b) :
    Follows P Eq (do return f (← x)) y := by
  intro m
  obtain ⟨m', ⟨a, b, hx, hy, hab⟩ | ⟨halt, active, hx, hy, hhalt⟩⟩ := h m
  · exact ⟨m', .inl ⟨f a, b, Effects.bind_ok hx, hy, hf a b hab⟩⟩
  · exact ⟨m', .inr ⟨halt, active, Effects.bind_error hx, hy, hhalt⟩⟩

/-- The steps of a statement pass it one by one. -/
theorem steps (hx : Follows P Q (UnwindM.atLine line x) y)
    (hf : ∀ a b, Q a b → Follows P R (UnwindM.atLine line (f a)) (g b)) :
    Follows P R (UnwindM.atLine line (x >>= f)) (y >>= g) := by
  rw [atLine_bind]
  exact hx.bind hf

theorem raising {eval : Namespace → EvalM ω α}
    (h : ∀ stop, P (ExecM.halted line stop) active) :
    Follows P Eq (UnwindM.atLine line (raising active eval)) (.evalAt line eval) := by
  intro m
  rw [ExecM.evalAt_apply, UnwindM.atLine, UnwindM.raising]
  refine ⟨{ m with outside := (eval m.vars m.outside).2 }, ?_⟩
  rcases (eval m.vars m.outside).1 with stop | a
  · refine .inr ⟨ExecM.halted line stop, active, ?_, rfl, h stop⟩
    rw [Halt.failure_halted]
    rfl
  · exact .inl ⟨a, a, rfl, rfl, rfl⟩

/-- A statement that raises a stop passes its own line to it. -/
theorem stop (h : ∀ stop, P (ExecM.halted line stop) active) (stop : Stop) :
    Follows P Q (UnwindM.atLine line (MonadExcept.throw (.raised stop active)) : UnwindM ω α)
      (MonadExcept.throw (ExecM.halted line stop)) := by
  intro m
  refine ⟨m, .inr ⟨ExecM.halted line stop, active, ?_, rfl, h stop⟩⟩
  rw [Halt.failure_halted]
  rfl

theorem binding {target : Target} {v : Value} (h : ∀ f, P (.fault line f) active) :
    Follows P Eq (UnwindM.atLine line (binding active target v) : UnwindM ω Unit)
      (.bindAt line target v) := by
  intro m
  rw [ExecM.bindAt_apply, UnwindM.atLine, UnwindM.binding]
  refine ⟨{ m with vars := (target.bind v m.vars).2 }, ?_⟩
  rcases (target.bind v m.vars).1 with f | ⟨⟩
  · exact .inr ⟨.fault line f, active, rfl, rfl, h f⟩
  · exact .inl ⟨(), (), rfl, rfl, rfl⟩

/-! ### Loops and handlers -/

theorem rounds {test : UnwindM ω Bool} {test' : ExecM ω Bool} {body : UnwindM ω Flow}
    {body' : ExecM ω Flow} (hendless : P .endless [])
    (htest : Follows P Eq (UnwindM.atLine line test) test') (hbody : Follows P Eq body body')
    (budget : Nat) :
    Follows P Eq (UnwindM.atLine line (rounds test body budget))
      (.whileLoop test' body' budget) := by
  induction budget with
  | zero => exact (throw hendless).atLine
  | succ budget ih =>
    refine htest.steps ?_
    rintro b _ rfl
    cases b with
    | false => exact (pure rfl).atLine
    | true =>
      refine hbody.atLine.steps ?_
      rintro flow _ rfl
      cases flow with
      | leave => exact (pure rfl).atLine
      | next | «repeat» => exact ih

theorem items {set : Value → UnwindM ω Unit} {set' : Value → ExecM ω Unit} {body : UnwindM ω Flow}
    {body' : ExecM ω Flow} (hset : ∀ v, Follows P Eq (UnwindM.atLine line (set v)) (set' v))
    (hbody : Follows P Eq body body') (vs : List Value) :
    Follows P Eq (UnwindM.atLine line (Actions.forItems set body vs))
      (.forEach set' body' vs) := by
  induction vs with
  | nil => exact (pure rfl).atLine
  | cons v vs ih =>
    refine (hset v).steps fun _ _ _ => hbody.atLine.steps ?_
    rintro flow _ rfl
    cases flow with
    | leave => exact (pure rfl).atLine
    | next | «repeat» => exact ih

/-- A failure of a guarded block has passed the statement in the block already. -/
theorem guarded {y : ExecM ω Flow} {f : Failure → UnwindM ω α}
    {handler? : Halt → Option (ExecM ω Flow)} {Q : α → Flow → Prop} (hx : Follows P Q x y)
    (hf : ∀ halt active, P halt active → Follows P Q (f (halt.failure active))
      ((handler? halt).getD (MonadExcept.throw halt))) :
    Follows P Q (UnwindM.atLine line (tryCatch x f)) (.attempt y handler?) := by
  rw [atLine_tryCatch]
  intro m
  obtain ⟨m', ⟨a, b, hx, hy, hab⟩ | ⟨halt, active, hx, hy, hhalt⟩⟩ := hx m
  · exact ⟨m', .inl ⟨a, b, Effects.tryCatch_ok hx, ExecM.attempt_ok hy, hab⟩⟩
  · rw [Effects.tryCatch_error hx, ExecM.attempt_error hy]
    exact (hf halt active hhalt).atLine m'

end Follows
end UnwindM

/-! ## The execution of a program -/

section Follows

open UnwindM (Follows)

/-- A jump out of a block is one out of the statement around it, which is no loop. -/
theorem UnwindM.Follows.outward {P : Halt → List Stmt → Prop} {top s : Stmt} {outer : List Stmt}
    {x : UnwindM ω (Flow × List Stmt)} {y : ExecM ω Flow}
    (h : Follows P (Jumps top (s :: outer)) x y) (hloop : s.isLoop = false) :
    Follows P (Jumps top outer) x y :=
  h.mono (fun _ _ hhalt => hhalt) fun _ _ hjump => hjump.outward hloop

variable (run : Run ω) (top : Stmt)

-- The induction is on the tree. A statement knows which ones are in execution around it, so what it
-- raises is placed where it is raised, and nothing further out has to be said about it.
mutual

/-- **A statement passes its line to what it raises itself**, and to nothing else. -/
theorem Stmt.unwind_follows : ∀ (s : Stmt) (outer : List Stmt), Nested top (s :: outer) →
    Follows (RaisedIn top) (Jumps top outer) (.atLine s.line (s.unwind run (s :: outer)))
      (s.exec run)
  | .evaluate line e, outer, hs => by
    rw [Stmt.unwind, Stmt.exec]
    exact (Follows.raising (.halted hs rfl)).steps fun _ _ _ => (Follows.pure .next).atLine
  | .assign line target e, outer, hs => by
    rw [Stmt.unwind, Stmt.exec]
    refine (Follows.raising (.halted hs rfl)).steps ?_
    rintro v _ rfl
    exact (Follows.binding fun f => .halted hs rfl (.fault f)).steps fun _ _ _ =>
      (Follows.pure .next).atLine
  | .assert line test message, outer, hs => by
    rw [Stmt.unwind, Stmt.exec]
    exact (Follows.raising (.halted hs rfl)).steps fun _ _ _ => (Follows.pure .next).atLine
  | .pass line, outer, hs => by
    rw [Stmt.unwind, Stmt.exec]
    exact (Follows.pure .next).atLine
  | .breakLoop line, outer, hs => by
    rw [Stmt.unwind, Stmt.exec]
    exact (Follows.pure (.jump hs rfl)).atLine
  | .continueLoop line, outer, hs => by
    rw [Stmt.unwind, Stmt.exec]
    exact (Follows.pure (.jump hs rfl)).atLine
  | .branch line test body orelse, outer, hs => by
    rw [Stmt.unwind, Stmt.exec]
    refine (Follows.raising (.halted hs rfl)).steps ?_
    rintro v _ rfl
    have hbody := unwindBody_follows body (.branch line test body orelse :: outer) fun t ht =>
      hs.cons (List.mem_append_left _ ht)
    have horelse := unwindBody_follows orelse (.branch line test body orelse :: outer) fun t ht =>
      hs.cons (List.mem_append_right _ ht)
    cases v.truthy with
    | true => exact (hbody.outward rfl).atLine
    | false => exact (horelse.outward rfl).atLine
  | .whileLoop line test body, outer, hs => by
    rw [Stmt.unwind, Stmt.exec]
    have hbody := unwindBody_follows body (.whileLoop line test body :: outer) fun t ht =>
      hs.cons ht
    -- a round that fails in its condition fails in the loop, one that fails in the block does not
    have htest : Follows (RaisedIn top) Eq
        (.atLine line do
          return (← .raising (.whileLoop line test body :: outer) (test.eval run.host)).truthy)
        (do return (← .evalAt line (test.eval run.host)).truthy) := by
      refine (Follows.raising (.halted hs rfl)).steps ?_
      rintro v _ rfl
      exact (Follows.pure rfl).atLine
    exact (Follows.rounds .endless htest (hbody.image fun _ _ h => h.1) run.budget).steps
      fun _ _ _ => (Follows.pure .next).atLine
  | .forEach line target items body, outer, hs => by
    rw [Stmt.unwind, Stmt.exec]
    have hbody := unwindBody_follows body (.forEach line target items body :: outer) fun t ht =>
      hs.cons ht
    refine (Follows.raising (.halted hs rfl)).steps ?_
    rintro v _ rfl
    cases v.items? with
    | none => exact .stop (.halted hs rfl) (.fault (.notIterable v.type))
    | some vs =>
      refine (Follows.items (fun v => ?_) (hbody.image fun _ _ h => h.1) vs).steps fun _ _ _ =>
        (Follows.pure .next).atLine
      exact .binding fun f => .halted hs rfl (.fault f)
  | .attempt line body handlers, outer, hs => by
    rw [Stmt.unwind, Stmt.exec]
    have hbody := unwindBody_follows body (.attempt line body handlers :: outer) fun t ht =>
      hs.cons (List.mem_append_left _ ht)
    have hhandlers := unwindHandlers_follows handlers (.attempt line body handlers :: outer)
      fun t ht => hs.cons (List.mem_append_right _ ht)
    -- what the block raises has a line before a handler sees it
    exact .outward (.guarded hbody hhandlers) rfl

/-- Each statement of a block is executed inside the ones around the block. -/
theorem unwindBody_follows : ∀ (body : List Stmt) (active : List Stmt),
    (∀ s ∈ body, Nested top (s :: active)) →
      Follows (RaisedIn top) (Jumps top active) (unwindBody run active body) (execBody run body)
  | [], active, _ => by
    rw [unwindBody, execBody]
    exact .pure .next
  | s :: ss, active, hs => by
    rw [unwindBody, execBody]
    refine (Stmt.unwind_follows s active (hs s (List.mem_cons_self ..))).bind ?_
    rintro ⟨flow, raisedIn⟩ _ hjump
    obtain rfl := hjump.1
    cases flow with
    | next => exact unwindBody_follows ss active fun t ht => hs t (List.mem_cons_of_mem s ht)
    | leave | «repeat» => exact .pure hjump

/-- What a handler raises is placed in its block; what no handler takes stays where it was. -/
theorem unwindHandlers_follows : ∀ (handlers : List Handler) (active : List Stmt),
    (∀ s ∈ handlers.flatMap Handler.block, Nested top (s :: active)) →
      ∀ (halt : Halt) (raisedIn : List Stmt), RaisedIn top halt raisedIn →
        Follows (RaisedIn top) (Jumps top active)
          (unwindHandlers run active handlers (halt.failure raisedIn))
          ((execHandlers run handlers halt).getD (throw halt))
  | [], active, _, halt, raisedIn, h => by
    rw [unwindHandlers, execHandlers]
    exact .throw h
  | .mk kind name body :: handlers, active, hs, halt, raisedIn, h => by
    rw [List.flatMap_cons, Handler.block] at hs
    rw [unwindHandlers, Halt.takenBy_failure]
    by_cases htaken : halt.takenBy kind = true
    · rw [if_pos htaken]
      intro m
      rw [execHandlers_taken htaken, Effects.bind_ok (halt.taking_failure name m)]
      exact unwindBody_follows body active (fun t ht => hs t (List.mem_append_left _ ht)) _
    · rw [if_neg htaken, execHandlers, if_neg htaken]
      exact unwindHandlers_follows handlers active (fun t ht => hs t (List.mem_append_right _ ht))
        halt raisedIn h

end

end Follows

/-! ## The line of a failure -/

/-- How the failure of a program tells a halt: at most one line stands in front of what was raised.
It is the line of the innermost statement in execution, or, for a `break` or `continue` with no loop
around it, that of the statement of the program. -/
inductive Failure.Placed (body : List Stmt) : Failure → Halt → Prop
  | exit {status : Int32} {active : List Stmt} :
      Placed body (.raised (.exit status) active) (.exit status)
  | endless : Placed body .endless .endless
  | innermost {top s : Stmt} {outer : List Stmt} {f : Fault} :
      top ∈ body → Nested top (s :: outer) → s.isJump = false →
      Placed body (.located s.line (.raised (.fault f) (s :: outer))) (.fault s.line f)
  | stray {top b : Stmt} {inner : List Stmt} :
      top ∈ body → Nested top (b :: inner) → b.isJump = true → (∀ t ∈ inner, t.isLoop = false) →
      Placed body (.located top.line (.raised (.fault .outsideLoop) (b :: inner)))
        (.fault top.line .outsideLoop)

/-- The failure that a halt is, where the given statements were in execution, tells it. -/
def PlacedIn (body : List Stmt) (halt : Halt) (active : List Stmt) : Prop :=
  (halt.failure active).Placed body halt

theorem RaisedIn.placed {body : List Stmt} {top : Stmt} (htop : top ∈ body) {halt : Halt}
    {active : List Stmt} (h : RaisedIn top halt active) : PlacedIn body halt active := by
  cases halt with
  | exit status => exact .exit
  | endless => exact .endless
  | fault line f =>
    obtain ⟨hnested, s, outer, rfl, rfl, hjump⟩ := h line f rfl
    exact .innermost htop hnested hjump

/-- A program comes to the same end as its execution, and its failure tells the halt. -/
theorem unwindProgram_follows (run : Run ω) (body : List Stmt) : ∀ ss : List Stmt,
    (∀ s ∈ ss, s ∈ body) →
      UnwindM.Follows (PlacedIn body) (fun _ _ => True) (unwindProgram run ss)
        (execProgram run ss)
  | [], _ => .pure trivial
  | s :: ss, hbody => by
    have hs := hbody s (List.mem_cons_self ..)
    rw [unwindProgram, execProgram]
    refine ((s.unwind_follows run s [] .single).mono
      (fun _ _ h => h.placed hs) fun _ _ h => h).bind ?_
    rintro ⟨flow, active⟩ _ hjump
    obtain rfl := hjump.1
    cases flow with
    | next =>
      exact unwindProgram_follows run body ss fun t ht => hbody t (List.mem_cons_of_mem s ht)
    | leave | «repeat» =>
      -- nothing is around the statements of a program, so no loop takes the jump
      obtain ⟨hnested, b, inner, heq, hb, hloop⟩ := hjump.2 (by rintro ⟨⟩)
      rw [List.append_nil] at heq
      subst heq
      have hplaced : PlacedIn body (.fault s.line .outsideLoop) (b :: inner) :=
        .stray hs hnested hb fun t ht => hloop t (List.mem_cons_of_mem b ht)
      exact UnwindM.Follows.throw hplaced

/-! ### Reports -/

/-- The text starts with a line. -/
def HasLine (text : String) : Prop := ∃ (line : Nat) (rest : String), text = s!"line {line}: {rest}"

theorem HasLine.front {text : String} (h : HasLine text) : text.toList.head? = some 'l' := by
  obtain ⟨line, rest, rfl⟩ := h
  change ("line " ++ toString line ++ ": " ++ rest).toList.head? = some 'l'
  simp only [String.toList_append, List.head?_append]
  rfl

/-- No name of a kind starts as a line does. -/
theorem FaultKind.name_front (k : FaultKind) : ∃ c, k.name.toList.head? = some c ∧ c ≠ 'l' := by
  cases k <;> exact ⟨_, rfl, by decide⟩

namespace Failure

theorem not_hasLine_raised (stop : Stop) (active : List Stmt) :
    ¬ HasLine (raised stop active).diagnostic := by
  intro h
  obtain ⟨c, hname, hc⟩ := stop.kind.name_front
  have hfront := h.front
  change (stop.kind.name ++ ": " ++ stop.message).toList.head? = some 'l' at hfront
  simp only [String.toList_append, List.head?_append, hname, Option.some_or] at hfront
  exact hc (Option.some.inj hfront)

theorem not_hasLine_endless : ¬ HasLine endless.diagnostic :=
  fun h => absurd h.front (by decide)

end Failure

/-- What is reported of the failure of a program. -/
structure Failure.Reports (body : List Stmt) (e : Failure) (halt : Halt) : Prop where
  placed : e.Placed body halt
  same : e.diagnostic = (RunError.halted halt).diagnostic
  once : ∀ line f, halt = .fault line f →
    ∃ rest, e.diagnostic = s!"line {line}: {rest}" ∧ ¬ HasLine rest
  none : (∀ line f, halt ≠ .fault line f) → ¬ HasLine e.diagnostic

theorem Failure.Placed.reports {body : List Stmt} {halt : Halt} {active : List Stmt}
    (h : (halt.failure active).Placed body halt) : (halt.failure active).Reports body halt where
  placed := h
  same := halt.diagnostic_failure
  once := by
    rintro line f rfl
    exact ⟨_, rfl, not_hasLine_raised _ _⟩
  none := by
    intro hfault
    cases halt with
    | exit status => exact not_hasLine_raised _ _
    | endless => exact not_hasLine_endless
    | fault line f => exact absurd rfl (hfault line f)

/-! ### The text that a handler binds -/

/-- Whether the handler asks for a kind that is taken. -/
def Handler.takes (takenBy : Option String → Bool) : Handler → Bool
  | .mk kind _ _ => takenBy kind

section Handlers

variable {run : Run ω} {kind name : Option String} {block : List Stmt}

/-- The first handler that takes a failure binds the message and runs its block. -/
theorem unwindHandlers_first {active : List Stmt} {e : Failure} : ∀ {hs : List Handler},
    hs.find? (Handler.takes e.takenBy) = some (.mk kind name block) →
      unwindHandlers run active hs e = do
        UnwindM.taking e name
        unwindBody run active block
  | .mk k n b :: hs, h => by
    rw [unwindHandlers]
    by_cases htaken : e.takenBy k = true
    · have htakes : Handler.takes e.takenBy (.mk k n b) = true := htaken
      rw [List.find?_cons_of_pos htakes] at h
      cases h
      rw [if_pos htaken]
    · have htakes : ¬ Handler.takes e.takenBy (.mk k n b) = true := htaken
      rw [List.find?_cons_of_neg htakes] at h
      rw [if_neg htaken]
      exact unwindHandlers_first h

/-- The first handler that takes a halt binds the message and runs its block. -/
theorem execHandlers_first {halt : Halt} (m : Machine ω) : ∀ {hs : List Handler},
    hs.find? (Handler.takes halt.takenBy) = some (.mk kind name block) →
      ((execHandlers run hs halt).getD (throw halt)) m =
        execBody run block (m.handling halt name)
  | .mk k n b :: hs, h => by
    by_cases htaken : halt.takenBy k = true
    · have htakes : Handler.takes halt.takenBy (.mk k n b) = true := htaken
      rw [List.find?_cons_of_pos htakes] at h
      cases h
      exact execHandlers_taken htaken m
    · have htakes : ¬ Handler.takes halt.takenBy (.mk k n b) = true := htaken
      rw [List.find?_cons_of_neg htakes] at h
      rw [execHandlers, if_neg htaken]
      exact execHandlers_first m h

/-- What a handler takes was raised as a stop. -/
theorem Halt.exists_stop_of_takenBy {halt : Halt} (h : halt.takenBy kind = true)
    (active : List Stmt) :
    ∃ stop, (halt.failure active).innermost = .raised stop active
      ∧ halt.message = stop.message := by
  cases halt with
  | exit status => exact ⟨.exit status, rfl, rfl⟩
  | fault line f => exact ⟨.fault f, rfl, rfl⟩
  | endless => cases h

end Handlers

/--
**Faults carry the line of the innermost statement, once.** An execution comes to the end of one in
which every statement offers its line to the failures that pass it. There a fault has exactly one
line in front, that of the innermost statement that was in execution where it was raised; the fault
of a `break` or `continue` with no loop around it has the line of the statement of the program that
it stands in, and a request to exit has none. So a report of a fault starts with one line, and no
other report with any. The text that a handler binds to its name is the message of what was raised,
without a line.
-/
theorem faults_located (run : Run ω) :
    (∀ (body : List Stmt) (m : Machine ω), ∃ m',
      (unwindProgram run body m = (.ok (), m') ∧ execProgram run body m = (.ok (), m')) ∨
        ∃ e halt, unwindProgram run body m = (.error e, m') ∧
          execProgram run body m = (.error halt, m') ∧ e.Reports body halt) ∧
    ∀ (top s : Stmt) (outer body : List Stmt) (line : Nat) (handlers : List Handler)
      (m m' : Machine ω) (e : Failure) (kind : Option String) (name : String) (block : List Stmt),
      s = .attempt line body handlers → Nested top (s :: outer) →
      unwindBody run (s :: outer) body m = (.error e, m') →
      handlers.find? (Handler.takes e.takenBy) = some (.mk kind (some name) block) →
      ∃ stop active m'', e.innermost = .raised stop active ∧
        m''.vars = m'.vars.set name (.str stop.message) ∧
        s.unwind run (s :: outer) m = unwindBody run (s :: outer) block m'' ∧
        s.exec run m = execBody run block m'' := by
  refine ⟨fun body m => ?_, ?_⟩
  · obtain ⟨m', ⟨_, _, hu, hx, -⟩ | ⟨halt, active, hu, hx, hplaced⟩⟩ :=
      unwindProgram_follows run body body (fun _ h => h) m
    · exact ⟨m', .inl ⟨hu, hx⟩⟩
    · exact ⟨m', .inr ⟨_, halt, hu, hx, hplaced.reports⟩⟩
  · rintro top _ outer body line handlers m m' e kind name block rfl hs hfails hfirst
    have hbody := unwindBody_follows run top body (.attempt line body handlers :: outer)
      fun t ht => hs.cons (List.mem_append_left _ ht)
    obtain ⟨m'', ⟨_, _, hu, -⟩ | ⟨halt, active, hu, hx, -⟩⟩ := hbody m
    · rw [hfails] at hu
      cases hu
    · rw [hfails] at hu
      cases hu
      -- the record beside a halt changes nothing about which handler takes it
      have htaken : (halt.failure active).takenBy = halt.takenBy := funext halt.takenBy_failure
      have hfirst' : handlers.find? (Handler.takes halt.takenBy)
          = some (.mk kind (some name) block) := by
        rwa [htaken] at hfirst
      have htakes : Handler.takes halt.takenBy (.mk kind (some name) block) = true :=
        List.find?_some hfirst'
      obtain ⟨stop, hstop, hmessage⟩ :=
        Halt.exists_stop_of_takenBy (show halt.takenBy kind = true from htakes) active
      refine ⟨stop, active, m'.handling halt (some name), hstop, ?_, ?_, ?_⟩
      · rw [← hmessage]
        rfl
      · rw [Stmt.unwind, Effects.tryCatch_error hfails, unwindHandlers_first hfirst,
          Effects.bind_ok (halt.taking_failure (some name) m')]
      · rw [Stmt.exec, ExecM.attempt_error hx]
        exact execHandlers_first m' hfirst'

/-- The theorem at a handler in a branch: what its block raises has the line in the block, and the
name is bound to what the guarded block raised. -/
theorem faults_located_of_handler :
    let s : Stmt := .attempt 2 [.evaluate 3 (.name "y")]
      [.mk (some "TypeError") none [], .mk (some "NameError") (some "e") [.evaluate 7 (.name "z")]]
    let top : Stmt := .branch 1 (.bool true) [s] []
    let run : Run Unit := ⟨.silent, .file, 0⟩
    let m : Machine Unit := ⟨⟨[]⟩, ⟨(), []⟩⟩
    (∃ e, (unwindProgram run [top] m).1 = .error e ∧ e.Reports [top] (.fault 7 (.unbound "z")) ∧
      e.diagnostic = "line 7: NameError: name 'z' is not defined") ∧
    ∃ m', m'.vars.get? "e" = some (.str "name 'y' is not defined") ∧
      s.exec run m = execBody run [.evaluate 7 (.name "z")] m' := by
  intro s top run m
  refine ⟨?_, ?_⟩
  · have hfault : (execProgram run [top] m).1 = .error (.fault 7 (.unbound "z")) := rfl
    obtain ⟨m', ⟨-, hx⟩ | ⟨e, halt, hu, hx, hreports⟩⟩ := (faults_located run).1 [top] m
    · rw [hx] at hfault
      cases hfault
    · rw [hx] at hfault
      cases hfault
      refine ⟨e, by rw [hu], hreports, ?_⟩
      rw [hreports.same]
      decide
  · obtain ⟨stop, active, m', hstop, hvars, -, hx⟩ := (faults_located run).2 top s [top]
      [.evaluate 3 (.name "y")] 2 _ m m
      (.located 3 (.raised (.fault (.unbound "y")) [.evaluate 3 (.name "y"), s, top]))
      (some "NameError") "e" [.evaluate 7 (.name "z")] rfl
      (Nested.single.cons (List.mem_singleton_self s)) rfl rfl
    cases hstop
    exact ⟨m', by rw [hvars]; rfl, hx⟩

/-- A condition behind `elif` is a statement of its own. -/
example :
    (runPlain .silent 0 "if False:\n pass\nelif x:\n pass" .file ⟨⟨[]⟩, ⟨(), []⟩⟩).1.map
      (fun _ => ()) = .error (.halted (.fault 3 (.unbound "x"))) := by
  decide +kernel

end Tilde
