import Tilde.Expand
import Tilde.Proofs.Steps.Execution

/-!
# Programs without `while` always finish

A `for` loop goes through the items that its expression gave when the loop was entered. What its body
does to the variable that held them changes nothing about how many there are, so only `while` can go
on for ever. An execution uses a budget up in a `while` loop and nowhere else, and nothing handles
this halt; so a program without such loops ends with every budget, and then it ends in the machine,
which has none.

That the machine may go on for ever at all is seen on the loop that tests `True`.
-/

namespace Tilde

/-! ## Programs without `while` -/

mutual

/-- There is no `while` loop in the statement. -/
def Stmt.isWhileFree : Stmt → Bool
  | .evaluate .. | .assign .. | .assert .. | .pass _ | .breakLoop _ | .continueLoop _ => true
  | .branch _ _ body orelse => bodyIsWhileFree body && bodyIsWhileFree orelse
  | .whileLoop .. => false
  | .forEach _ _ _ body => bodyIsWhileFree body
  | .attempt _ body handlers => bodyIsWhileFree body && handlersAreWhileFree handlers

/-- There is no `while` loop in the block. -/
def bodyIsWhileFree : List Stmt → Bool
  | [] => true
  | s :: ss => s.isWhileFree && bodyIsWhileFree ss

/-- There is no `while` loop in the blocks of the handlers. -/
def handlersAreWhileFree : List Handler → Bool
  | [] => true
  | .mk _ _ body :: hs => bodyIsWhileFree body && handlersAreWhileFree hs

end

/-- There is no `while` loop in the program. -/
def Program.isWhileFree (p : Program) : Bool := bodyIsWhileFree p.body

mutual

theorem Stmt.isWhileFree_expand : ∀ s : Stmt, s.expand.isWhileFree = s.isWhileFree
  | .evaluate .. | .assign .. | .assert .. | .pass _ | .breakLoop _ | .continueLoop _ => rfl
  | .branch _ _ body orelse => by
    rw [Stmt.expand, Stmt.isWhileFree, Stmt.isWhileFree, isWhileFree_expandBody body,
      isWhileFree_expandBody orelse]
  | .whileLoop .. => rfl
  | .forEach _ _ _ body => by
    rw [Stmt.expand, Stmt.isWhileFree, Stmt.isWhileFree, isWhileFree_expandBody body]
  | .attempt _ body handlers => by
    rw [Stmt.expand, Stmt.isWhileFree, Stmt.isWhileFree, isWhileFree_expandBody body,
      areWhileFree_expandHandlers handlers]

theorem isWhileFree_expandBody : ∀ ss : List Stmt,
    bodyIsWhileFree (expandBody ss) = bodyIsWhileFree ss
  | [] => rfl
  | s :: ss => by
    rw [expandBody, bodyIsWhileFree, bodyIsWhileFree, s.isWhileFree_expand,
      isWhileFree_expandBody ss]

theorem areWhileFree_expandHandlers : ∀ hs : List Handler,
    handlersAreWhileFree (expandHandlers hs) = handlersAreWhileFree hs
  | [] => rfl
  | .mk _ _ body :: hs => by
    rw [expandHandlers, handlersAreWhileFree, handlersAreWhileFree, isWhileFree_expandBody body,
      areWhileFree_expandHandlers hs]

end

/-- An expansion adds no loop. -/
theorem Program.isWhileFree_expand (p : Program) : p.expand.isWhileFree = p.isWhileFree :=
  isWhileFree_expandBody p.body

namespace Steps

variable {ω : Type}

/-- A loop over items uses no more than its rounds do, however many items there are. -/
theorem items_thrifty (line : Nat) (target : Target) {body : ExecM ω Flow} (hbody : Thrifty body)
    (items : List Value) : Thrifty (Actions.forItems (.bindAt line target) body items) := by
  induction items with
  | nil => exact .pure
  | cons v vs ih =>
    refine .bind (.bindAt line target v) fun _ => hbody.bind fun flow => ?_
    cases flow with
    | leave => exact .pure
    | next | «repeat» => exact ih

mutual

/-- **A statement without `while` uses no budget up.** -/
theorem stmt_thrifty (run : Run ω) : ∀ s : Stmt, s.isWhileFree = true →
    Thrifty (s.interpret (.ofRun run))
  | .evaluate line e, _ => by
    rw [Stmt.interpret, Actions.ofRun_enter, pure_bind, Actions.ofRun_eval]
    refine .bind (.evalAt line _) fun v => ?_
    exact .bind (.present run line v) fun _ => .pure
  | .assign line target e, _ => by
    rw [Stmt.interpret, Actions.ofRun_enter, pure_bind, Actions.ofRun_eval]
    refine .bind (.evalAt line _) fun v => ?_
    exact .bind (.bindAt line target v) fun _ => .pure
  | .assert line test message, _ => by
    rw [Stmt.interpret, Actions.ofRun_enter, pure_bind, Actions.ofRun_eval]
    refine .bind (.evalAt line _) fun v => ?_
    cases v.truthy with
    | true => exact .pure
    | false =>
      cases message with
      | none => exact .throw Halt.noConfusion
      | some e =>
        have hmessage : Thrifty ((Actions.ofRun run).eval line e) := by
          rw [Actions.ofRun_eval]
          exact .evalAt line _
        exact hmessage.bind fun u => .throw Halt.noConfusion
  | .pass _, _ | .breakLoop _, _ | .continueLoop _, _ => .pure
  | .branch line test body orelse, h => by
    rw [Stmt.isWhileFree, Bool.and_eq_true] at h
    rw [Stmt.interpret, Actions.ofRun_enter, pure_bind, Actions.ofRun_eval]
    refine .bind (.evalAt line _) fun v => ?_
    cases v.truthy with
    | true => exact body_thrifty run body h.1
    | false => exact body_thrifty run orelse h.2
  -- the items are a list that is there before the first round
  | .forEach line target items body, h => by
    rw [Stmt.interpret, Actions.ofRun_enter, pure_bind, Actions.ofRun_eval]
    refine .bind (.evalAt line _) fun v => ?_
    cases v.items? with
    | none => exact .throw Halt.noConfusion
    | some vs => exact (items_thrifty line target (body_thrifty run body h) vs).bind fun _ => .pure
  | .attempt line body handlers, h => by
    rw [Stmt.isWhileFree, Bool.and_eq_true] at h
    rw [Stmt.interpret, Actions.ofRun_enter, pure_bind]
    exact .guarded (body_thrifty run body h.1) (handlers_thrifty run handlers h.2)

theorem body_thrifty (run : Run ω) : ∀ ss : List Stmt, bodyIsWhileFree ss = true →
    Thrifty (interpretBody (.ofRun run) ss)
  | [], _ => .pure
  | s :: ss, h => by
    rw [bodyIsWhileFree, Bool.and_eq_true] at h
    refine (stmt_thrifty run s h.1).bind fun flow => ?_
    cases flow with
    | next => exact body_thrifty run ss h.2
    | leave | «repeat» => exact .pure

theorem handlers_thrifty (run : Run ω) : ∀ hs : List Handler, handlersAreWhileFree hs = true →
    ∀ halt, halt ≠ .endless → Thrifty (interpretHandlers (.ofRun run) hs halt)
  | [], _, _, hh => .throw hh
  | .mk kind name body :: hs, h, halt, hh => by
    rw [handlersAreWhileFree, Bool.and_eq_true] at h
    rw [interpretHandlers]
    split
    · exact fun m => body_thrifty run body h.1 (m.handling halt name)
    · exact handlers_thrifty run hs h.2 halt hh

end

theorem program_thrifty (run : Run ω) (ss : List Stmt) (h : bodyIsWhileFree ss = true) :
    Thrifty (execProgram run ss) := by
  rw [← interpretProgram_ofRun]
  induction ss with
  | nil => exact .pure
  | cons s ss ih =>
    rw [bodyIsWhileFree, Bool.and_eq_true] at h
    refine (stmt_thrifty run s h.1).bind fun flow => ?_
    cases flow with
    | next => exact ih h.2
    | leave | «repeat» => exact .throw Halt.noConfusion

/-! ## They finish -/

variable {host : OpenHost ω}

/-- **A program without `while` comes to one result, in the machine and with every budget.** -/
theorem reaches_of_whileFree (hc : host.CommandsEnd) {p : Program} (hp : p.isWhileFree = true)
    (m : Machine ω) : ∃ r m', r ≠ .error .endless
      ∧ Reaches (Execution.step host p.mode) (Execution.start p.body m) (.inr (r, m'))
      ∧ ∀ budget, p.exec (host.closed hc) budget m = (r, m') := by
  have hall : ∀ budget, Reaches (Execution.step host p.mode) (Execution.start p.body m)
      (.inr (p.exec (host.closed hc) budget m)) := by
    intro budget
    rcases reaches_or_lasts hc p budget m with ⟨-, hreach⟩ | ⟨hgone, -⟩
    · exact hreach
    · exact absurd hgone (program_thrifty _ p.body hp m)
  -- the machine knows of no budget, so its result is the same with each
  exact ⟨_, _, program_thrifty ⟨host.closed hc, p.mode, 0⟩ p.body hp m, hall 0,
    fun budget => (hall budget).unique (hall 0)⟩

/-- How an execution ends that has come to its end: with success, with a fault of some statement, or
with a request to exit. -/
theorem ended_cases {r : Except Halt Unit} (h : r ≠ .error .endless) :
    r = .ok () ∨ (∃ line f, r = .error (.fault line f)) ∨ ∃ status, r = .error (.exit status) := by
  rcases r with halt | u
  · cases halt with
    | exit status => exact .inr (.inr ⟨status, rfl⟩)
    | fault line f => exact .inr (.inl ⟨line, f, rfl⟩)
    | endless => exact absurd rfl h
  · exact .inl rfl

end Steps

open Steps

variable {ω : Type}

/-- On every host, the budget says nothing about a program without `while`. -/
theorem exec_of_whileFree (host : Host ω) {p : Program} (hp : p.isWhileFree = true)
    (budget budget' : Nat) (m : Machine ω) : p.exec host budget m = p.exec host budget' m := by
  obtain ⟨r, m', -, -, hexec⟩ := reaches_of_whileFree (OpenHost.ofHost_commandsEnd host) hp m
  rw [OpenHost.closed_ofHost] at hexec
  rw [hexec budget, hexec budget']

/--
**A program without `while` always finishes.**

The expansion of any program that has no `while` loop at any depth is executed step by step, from any
variables and any world, on a host whose writes may do anything and whose commands may do anything as
long as each one that is started ends. After some number of steps the machine has come to a result:
success, a fault of the statement on some line, or a request to exit. It is the result of the
execution with every budget, in the same world and with the same variables.
-/
theorem whileFree_program_finishes (host : OpenHost ω) (hc : host.CommandsEnd) (p : Program)
    (hp : p.isWhileFree = true) (m : Machine ω) :
    ∃ n r m', (next (Execution.step host p.mode))^[n] (Execution.start p.expand.body m)
          = .inr (r, m')
      ∧ (r = .ok () ∨ (∃ line f, r = .error (.fault line f)) ∨ ∃ status, r = .error (.exit status))
      ∧ ∀ budget, p.expand.exec (host.closed hc) budget m = (r, m') := by
  have hexpand : p.expand.isWhileFree = true := by rw [p.isWhileFree_expand, hp]
  obtain ⟨r, m', hends, ⟨n, hn⟩, hexec⟩ := reaches_of_whileFree hc hexpand m
  exact ⟨n, r, m', hn, ended_cases hends, hexec⟩

/-- A host whose commands write three times and end. -/
def Steps.OpenHost.terse : OpenHost Unit where
  shell := "/bin/sh"
  launch _ _ w := (.ok ⟨fun n => if n < 3 then some (.out, [98]) else none, .exited 0⟩, w)
  write _ _ w := (none, w)
  flush _ w := (none, w)

theorem Steps.OpenHost.terse_commandsEnd : OpenHost.terse.CommandsEnd := by
  intro wiring command w a w' h
  cases h
  exact ⟨3, rfl⟩

/-- A program that rebinds what its loop goes through, and does so again where this is handled. As a
text it is

    for x in xs:
        try:
            xs = 7
            for y in xs: pass
        except TypeError as xs:
            ~"x"
-/
def rebinding : Program where
  mode := .file
  body := [.forEach 1 (.name "x") (.name "xs") [
    .attempt 2 [
        .assign 3 (.name "xs") (.int 7),
        .forEach 4 (.name "y") (.name "xs") [.pass 4]]
      [.mk (some "TypeError") (some "xs") [.evaluate 6 (.unary .invert (.str "x"))]]]]

/-- Variables in which the loop of that program begins. -/
def rebindingStart : Machine Unit :=
  ⟨Namespace.fresh.set "xs" (.list [.int 1, .int 2]), ⟨(), []⟩⟩

theorem whileFree_program_finishes_of_rebinding :
    rebinding.isWhileFree = true ∧ OpenHost.terse.CommandsEnd
      ∧ ∃ n r m',
        (next (Execution.step OpenHost.terse rebinding.mode))^[n]
            (Execution.start rebinding.expand.body rebindingStart) = .inr (r, m')
          ∧ (r = .ok () ∨ (∃ line f, r = .error (.fault line f))
            ∨ ∃ status, r = .error (.exit status))
          ∧ ∀ budget, rebinding.expand.exec (OpenHost.terse.closed OpenHost.terse_commandsEnd) budget
            rebindingStart = (r, m') :=
  ⟨by decide, OpenHost.terse_commandsEnd,
    whileFree_program_finishes _ OpenHost.terse_commandsEnd rebinding (by decide) rebindingStart⟩

/-- The loop that tests `True` goes on for ever, whatever the host. -/
theorem endless_loop_lasts (host : OpenHost ω) (hc : host.CommandsEnd) (line : Nat) (mode : Mode)
    (m : Machine ω) (n : Nat) :
    Lasts (Execution.step host mode) n
      (Execution.start [.whileLoop line (.bool true) [.pass line]] m) := by
  let run : Run ω := ⟨host.closed hc, mode, n⟩
  let test : ExecM ω Bool := return (← .evalAt line ((Expr.bool true).eval run.host)).truthy
  have hloop : ∀ k, ExecM.whileLoop test (execBody run [.pass line]) k m = (.error .endless, m) := by
    intro k
    induction k with
    | zero => rfl
    | succ k ih =>
      have htest : test m = (.ok true, m) := rfl
      have hbody : execBody run [.pass line] m = (.ok .next, m) := rfl
      rw [ExecM.whileLoop, Effects.bind_ok htest]
      exact (Effects.bind_ok hbody).trans ih
  -- each budget is used up, so the machine lasts as long as each
  rcases reaches_or_lasts hc ⟨[.whileLoop line (.bool true) [.pass line]], mode⟩ n m
    with ⟨hends, -⟩ | ⟨-, hlasts⟩
  · refine absurd ?_ hends
    have hstmt : (Stmt.whileLoop line (.bool true) [.pass line]).exec run m
        = (.error .endless, m) := Effects.bind_error (hloop n)
    have hprogram : execProgram run [.whileLoop line (.bool true) [.pass line]] m
        = (.error .endless, m) := Effects.bind_error hstmt
    exact congrArg Prod.fst hprogram
  · exact hlasts

end Tilde
