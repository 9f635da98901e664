import Tilde.Proofs.Interpretation.Statement
import Tilde.Run
import Tilde.Session

/-!
# An exit is final

A run comes to statements and expressions, calls functions, binds names and shows values. The trace
of a run lists all of these, each with the machine that it finds. It is a ghost record: a run that
keeps one goes as it would without (`Erases`), so what is true of the trace is true of the run.

A call of `exit` with a status stops the program, unless a handler asks for `SystemExit` by name. So
if none does, the point of the trace at which it is called is the last one, the machine stays as it
is there, and the status is the result of the run. This holds in every place that an evaluation can
come to: as a step of a computation that is `Decisive` the call leaves nothing to do for the others,
and handlers only see a halt which they let pass.
-/

namespace Tilde

/-- What a run comes to. -/
inductive Visit where
  | statement (s : Stmt)
  | expression (e : Expr)
  | call (f : Value) (args : Args)
  /-- The value of an expression statement, which an interactive run shows. -/
  | result (v : Value)
  | binding (target : Target) (v : Value)
  /-- A handler takes a halt, and binds its message to a name. -/
  | handling (halt : Halt) (name : Option String)

/-- A visit, and the machine it finds. -/
structure Point (ω : Type) where
  visit : Visit
  machine : Machine ω

/-! ## Computations with a trace -/

/-- Computations that may stop early, on states of type `σ`, with a trace of type `List π`. The last
point comes first. -/
abbrev Traced (ε σ π : Type) := ExceptT ε (StateM (σ × List π))

namespace Traced

variable {ε σ π α β : Type}

/-- A computation that leaves the trace alone. -/
def lift (x : ExceptT ε (StateM σ) α) : Traced ε σ π α := fun (s, trace) =>
  let (r, s) := x s
  (r, s, trace)

/-- Adds a point to the trace. -/
def mark (point : σ → π) : Traced ε σ π Unit := fun (s, trace) => (.ok (), s, point s :: trace)

/-- Without its trace, the first computation is the second one. -/
abbrev Erases (x : Traced ε σ π α) (y : ExceptT ε (StateM σ) α) : Prop :=
  Effects.Carried Prod.fst x y

namespace Erases

theorem lift (x : ExceptT ε (StateM σ) α) : Erases (lift x : Traced ε σ π α) x := fun _ => rfl

theorem mark (point : σ → π) : Erases (mark point : Traced ε σ π Unit) (pure ()) := fun _ => rfl

/-- A mark in front of a computation. -/
theorem marked {point : σ → π} {x : Traced ε σ π α} {y : ExceptT ε (StateM σ) α}
    (hx : Erases x y) : Erases (Traced.mark point >>= fun _ => x) y :=
  Effects.Carried.bind (mark point) fun _ => hx

end Erases

/-- Evaluates for a statement on the given line. -/
def evalAt {ω : Type} (line : Nat) (x : Namespace → Traced Stop (Outside ω) π α) :
    Traced Halt (Machine ω) π α := fun (m, trace) =>
  let (r, outside, trace) := x m.vars (m.outside, trace)
  (r.mapError (ExecM.halted line), { m with outside }, trace)

theorem Erases.evalAt {ω : Type} {line : Nat} {x : Namespace → Traced Stop (Outside ω) π α}
    {y : Namespace → EvalM ω α} (h : ∀ ns, Erases (x ns) (y ns)) :
    Erases (evalAt line x) (ExecM.evalAt line y) := by
  intro s
  rw [ExecM.evalAt_apply, h s.1.vars (s.1.outside, s.2)]
  rfl

end Traced

/-! ## Traced runs -/

variable {ω : Type}

/-- The operations of a host, with a trace of the expressions and the calls. -/
def Operations.traced (host : Host ω) (ns : Namespace) :
    Operations (Traced Stop (Outside ω) (Point ω)) :=
  let ops := Operations.ofHost host ns
  { enter := fun e => .mark fun outside => ⟨.expression e, ns, outside⟩
    find := fun name => .lift (ops.find name)
    star := .lift ops.star
    unary := fun op v => .lift (ops.unary op v)
    binary := fun op a b => .lift (ops.binary op a b)
    compared := fun op a b => .lift (ops.compared op a b)
    attributeOf := fun v name => .lift (ops.attributeOf v name)
    itemAt := fun v index => .lift (ops.itemAt v index)
    format := fun v spec => .lift (ops.format v spec)
    call := fun f args => do
      .mark fun outside => ⟨.call f args, ns, outside⟩
      .lift (ops.call f args) }

theorem Operations.traced_erases (host : Host ω) (ns : Namespace) :
    (Operations.traced host ns).Related Traced.Erases (.ofHost host ns) where
  pure := .pure
  bind := .bind
  enter _ := .mark _
  find _ := .lift _
  star := .lift _
  unary _ _ := .lift _
  binary _ _ _ := .lift _
  compared _ _ _ := .lift _
  attributeOf _ _ := .lift _
  itemAt _ _ := .lift _
  format _ _ := .lift _
  call _ _ := .marked (.lift _)

/-- The actions of a run, with a trace. -/
def Actions.traced (run : Run ω) : Actions (Traced Halt (Machine ω) (Point ω)) :=
  let acts := Actions.ofRun run
  { enter := fun s => .mark fun m => ⟨.statement s, m⟩
    eval := fun line e => .evalAt line fun ns => e.interpret (.traced run.host ns)
    text := fun v => return v.text
    present := fun line v => do
      .mark fun m => ⟨.result v, m⟩
      .lift (acts.present line v)
    bind := fun line target v => do
      .mark fun m => ⟨.binding target v, m⟩
      .lift (acts.bind line target v)
    halt := throw
    guarded := tryCatch
    take := fun halt name => do
      .mark fun m => ⟨.handling halt name, m⟩
      .lift (acts.take halt name)
    budget := acts.budget }

theorem Actions.traced_erases (run : Run ω) :
    (Actions.traced run).Related (fun _ => True) Traced.Erases (.ofRun run) where
  pure := .pure
  bind := .bind
  enter _ := .mark _
  eval line e := by
    have heval : Traced.Erases (.evalAt line fun ns => e.interpret (.traced run.host ns))
        (ExecM.evalAt line fun ns => e.interpret (.ofHost run.host ns)) :=
      .evalAt fun ns => e.interpret_related (Operations.traced_erases run.host ns)
    exact heval
  text _ := .pure _
  present _ _ := .marked (.lift _)
  bindTarget _ _ _ := .marked (.lift _)
  halt := .throw
  guarded hx hf _ := .guarded hx hf
  take _ _ := .marked (.lift _)
  budget := rfl

/-- Executes the statements of a program with a trace, which has no points before. -/
def execTraced (run : Run ω) (ss : List Stmt) (m : Machine ω) :
    Except Halt Unit × Machine ω × List (Point ω) :=
  interpretProgram (.traced run) ss (m, [])

/-- **A run that keeps a trace goes as it would without.** -/
theorem execTraced_erases (run : Run ω) (ss : List Stmt) (m : Machine ω) :
    execProgram run ss m = ((execTraced run ss m).1, (execTraced run ss m).2.1) := by
  rw [← interpretProgram_ofRun]
  exact interpretProgram_related (Actions.traced_erases run) ss (asksBody_any ss) (m, [])

/-- What the run of a program comes to, the last point first. -/
def Program.trace (p : Program) (host : Host ω) (budget : Nat) (m : Machine ω) : List (Point ω) :=
  (execTraced ⟨host, p.mode, budget⟩ p.body m).2.2

/-- What the run of a source text comes to, the last point first. -/
def sourceTrace (host : Host ω) (budget : Nat) (source : String) (mode : Mode) (m : Machine ω) :
    List (Point ω) :=
  match parse source mode with
  | .error _ => []
  | .ok p => p.expand.trace host budget (m.logged (p.notes ++ [.expanded p.literalCount]))

end Tilde

/-! ## Exits in a trace -/

namespace Tilde

variable {ω : Type}

/-- The status with which `exit` is called at the point, if it is. -/
def Point.exitStatus? (p : Point ω) : Option Int32 :=
  match p.visit with
  | .call (.builtin .exit) args => (Builtin.exitStatus args).toOption
  | _ => none

/-! ## Decisive computations -/

namespace Traced

variable {ε σ α β : Type} {machine : σ → Machine ω} {exit : Int32 → ε}

/-- No point of the trace is a call of `exit`. -/
def Quiet (trace : List (Point ω)) : Prop := ∀ p ∈ trace, p.exitStatus? = none

/-- The computation ends with a call of `exit`: it is the last point, the machine there is the last
one, and the status is the result. -/
def EndsAt (machine : σ → Machine ω) (exit : Int32 → ε) (trace : List (Point ω))
    (r : Except ε α × σ) : Prop :=
  ∃ p earlier status, trace = p :: earlier ∧ Quiet earlier ∧ p.exitStatus? = some status
    ∧ r.1 = .error (exit status) ∧ machine r.2 = p.machine

/-- Whatever came before, the computation adds points that are no calls of `exit`, or it ends with
one that is. -/
def Decisive (machine : σ → Machine ω) (exit : Int32 → ε) (x : Traced ε σ (Point ω) α) : Prop :=
  ∀ s trace, ∃ later, (x (s, trace)).2.2 = later ++ trace
    ∧ (Quiet later ∨ EndsAt machine exit later ((x (s, trace)).1, (x (s, trace)).2.1))

theorem Quiet.nil : Quiet ([] : List (Point ω)) := fun _ hp => absurd hp List.not_mem_nil

theorem Quiet.append {later earlier : List (Point ω)} (hl : Quiet later) (he : Quiet earlier) :
    Quiet (later ++ earlier) :=
  fun p hp => (List.mem_append.mp hp).elim (hl p) (he p)

theorem EndsAt.append {later earlier : List (Point ω)} {r : Except ε α × σ}
    (h : EndsAt machine exit later r) (he : Quiet earlier) :
    EndsAt machine exit (later ++ earlier) r := by
  obtain ⟨p, rest, status, rfl, hquiet, hp⟩ := h
  exact ⟨p, rest ++ earlier, status, rfl, hquiet.append he, hp⟩

namespace Decisive

theorem pure (a : α) : Decisive machine exit (pure a) :=
  fun _ _ => ⟨[], rfl, .inl .nil⟩

theorem lift (x : ExceptT ε (StateM σ) α) : Decisive machine exit (lift x) :=
  fun _ _ => ⟨[], rfl, .inl .nil⟩

theorem throw (e : ε) : Decisive machine exit (throw e : Traced ε σ (Point ω) α) :=
  fun _ _ => ⟨[], rfl, .inl .nil⟩

theorem mark {point : σ → Point ω} (h : ∀ s, (point s).exitStatus? = none) :
    Decisive machine exit (mark point : Traced ε σ (Point ω) Unit) :=
  fun s _ => ⟨[point s], rfl, .inl fun _ hp => by rw [List.mem_singleton.mp hp, h]⟩

/-- What follows quiet points decides. -/
theorem after {x : Traced ε σ (Point ω) α} (hx : Decisive machine exit x)
    {later trace trace' : List (Point ω)} (htrace : trace' = later ++ trace) (hquiet : Quiet later)
    (s : σ) : ∃ later', (x (s, trace')).2.2 = later' ++ trace
      ∧ (Quiet later' ∨ EndsAt machine exit later' ((x (s, trace')).1, (x (s, trace')).2.1)) := by
  obtain ⟨later', htrace', hlater'⟩ := hx s trace'
  refine ⟨later' ++ later, ?_, ?_⟩
  · rw [htrace', htrace, List.append_assoc]
  · exact hlater'.imp (fun hq => hq.append hquiet) fun he => he.append hquiet

theorem bind {x : Traced ε σ (Point ω) α} {f : α → Traced ε σ (Point ω) β}
    (hx : Decisive machine exit x) (hf : ∀ a, Decisive machine exit (f a)) :
    Decisive machine exit (x >>= f) := by
  intro s trace
  obtain ⟨later, htrace, hlater⟩ := hx s trace
  rcases h : x (s, trace) with ⟨e | a, s', trace'⟩
  · -- the first computation stops, and so do both
    rw [h] at htrace hlater
    rw [Effects.bind_error h]
    refine ⟨later, htrace, hlater.imp_right ?_⟩
    rintro ⟨p, earlier, status, hp, hquiet, hexit, ⟨⟩, hmachine⟩
    exact ⟨p, earlier, status, hp, hquiet, hexit, rfl, hmachine⟩
  · rw [h] at htrace hlater
    rw [Effects.bind_ok h]
    -- it has given a value, so it has not come to a call of `exit`
    have hquiet : Quiet later := hlater.resolve_right (by rintro ⟨_, _, _, _, _, _, ⟨⟩, _⟩)
    exact (hf a).after htrace hquiet s'

theorem marked {point : σ → Point ω} {x : Traced ε σ (Point ω) α}
    (h : ∀ s, (point s).exitStatus? = none) (hx : Decisive machine exit x) :
    Decisive machine exit (Traced.mark point >>= fun _ => x) :=
  bind (mark h) fun _ => hx

/-- A guarded computation, where the handlers let an exit pass. -/
theorem guarded {x : Traced ε σ (Point ω) α} {f : ε → Traced ε σ (Point ω) α}
    (hx : Decisive machine exit x) (hf : ∀ e, Decisive machine exit (f e))
    (hpass : ∀ status, f (exit status) = MonadExcept.throw (exit status)) :
    Decisive machine exit (tryCatch x f) := by
  intro s trace
  obtain ⟨later, htrace, hlater⟩ := hx s trace
  rcases h : x (s, trace) with ⟨e | a, s', trace'⟩
  · rw [h] at htrace hlater
    rw [Effects.tryCatch_error h]
    rcases hlater with hquiet | ⟨p, earlier, status, hp, hquiet, hexit, ⟨⟩, hmachine⟩
    · -- some other halt, which a handler may take
      exact (hf e).after htrace hquiet s'
    · rw [hpass]
      exact ⟨later, htrace, .inr ⟨p, earlier, status, hp, hquiet, hexit, rfl, hmachine⟩⟩
  · rw [h] at htrace hlater
    rw [Effects.tryCatch_ok h]
    exact ⟨later, htrace, hlater⟩

/-- What an evaluation decides, it decides for its statement. -/
theorem evalAt {line : Nat} {x : Namespace → Traced Stop (Outside ω) (Point ω) α}
    (hx : ∀ ns, Decisive (Machine.mk ns) Stop.exit (x ns)) :
    Decisive id Halt.exit (evalAt line x) := by
  intro m trace
  obtain ⟨later, htrace, hlater⟩ := hx m.vars m.outside trace
  refine ⟨later, htrace, hlater.imp_right ?_⟩
  rintro ⟨p, earlier, status, hp, hquiet, hexit, hr, hmachine⟩
  exact ⟨p, earlier, status, hp, hquiet, hexit,
    congrArg (Except.mapError (ExecM.halted line)) hr, hmachine⟩

end Decisive

end Traced

/-! ## Programs -/

/-- A call of `exit` with a status stops the evaluation and does nothing else. -/
theorem callWith_exit {host : Host ω} {f : Value} {args : Args} {m : Machine ω} {status : Int32}
    (h : Point.exitStatus? ⟨.call f args, m⟩ = some status) :
    f.callWith host args = throw (.exit status) := by
  unfold Point.exitStatus? at h
  split at h
  · rename_i args' hvisit
    cases hvisit
    cases hstatus : Builtin.exitStatus args with
    | error e => rw [hstatus] at h; cases h
    | ok status' =>
      rw [hstatus] at h
      cases h
      rw [Value.callWith, Builtin.call, hstatus]
      rfl
  · cases h

theorem Operations.traced_decisive (host : Host ω) (ns : Namespace) :
    (Operations.traced host ns).Related (fun x _ => Traced.Decisive (Machine.mk ns) Stop.exit x)
      (Operations.traced host ns) where
  pure := .pure
  bind := .bind
  enter _ := .mark fun _ => rfl
  find _ := .lift _
  star := .lift _
  unary _ _ := .lift _
  binary _ _ _ := .lift _
  compared _ _ _ := .lift _
  attributeOf _ _ := .lift _
  itemAt _ _ := .lift _
  format _ _ := .lift _
  call f args := by
    intro outside trace
    cases hstatus : Point.exitStatus? ⟨.call f args, ns, outside⟩ with
    | none =>
      exact ⟨[⟨.call f args, ns, outside⟩], rfl,
        .inl fun p hp => by rw [List.mem_singleton.mp hp, hstatus]⟩
    | some status =>
      refine ⟨[⟨.call f args, ns, outside⟩], rfl, .inr ⟨_, [], status, rfl, .nil, hstatus, ?_⟩⟩
      simp only [Operations.traced, Operations.ofHost, callWith_exit hstatus]
      exact ⟨rfl, rfl⟩

/-- A handler lets an exit pass if it does not ask for it by name. -/
def PassesExit (kind : Option String) : Prop := kind ≠ some FaultKind.systemExit.name

instance : DecidablePred PassesExit := fun _ => inferInstanceAs (Decidable (_ ≠ _))

theorem PassesExit.not_taken {kind : Option String} (h : PassesExit kind) (status : Int32) :
    (Halt.exit status).takenBy kind = false :=
  beq_false_of_ne h

theorem Actions.traced_decisive (run : Run ω) :
    (Actions.traced run).Related PassesExit (fun x _ => Traced.Decisive id Halt.exit x)
      (Actions.traced run) where
  pure := .pure
  bind := .bind
  enter _ := .mark fun _ => rfl
  eval _ e := .evalAt fun ns => e.interpret_related (Operations.traced_decisive run.host ns)
  text _ := .pure _
  present _ _ := .marked (fun _ => rfl) (.lift _)
  bindTarget _ _ _ := .marked (fun _ => rfl) (.lift _)
  halt := .throw
  guarded hx hf hpass := .guarded hx hf fun status =>
    (hpass (.exit status) fun _ hk => hk.not_taken status).1
  take _ _ := .marked (fun _ => rfl) (.lift _)
  budget := rfl

/-- **A run that comes to a call of `exit` ends there.** -/
theorem execTraced_exit {run : Run ω} {ss : List Stmt} (hss : asksBody PassesExit ss)
    {m : Machine ω} {p : Point ω} {status : Int32} (hp : p ∈ (execTraced run ss m).2.2)
    (hexit : p.exitStatus? = some status) :
    (∃ earlier, (execTraced run ss m).2.2 = p :: earlier)
      ∧ execProgram run ss m = (.error (.exit status), p.machine) := by
  obtain ⟨later, htrace, hlater⟩ :=
    interpretProgram_related (Actions.traced_decisive run) ss hss m []
  rw [List.append_nil] at htrace
  rw [execTraced, htrace] at hp ⊢
  rcases hlater with hquiet | ⟨q, earlier, status', rfl, hquiet, hq, hr, hmachine⟩
  · rw [hquiet p hp] at hexit
    cases hexit
  · -- no earlier point is a call of `exit`, so it is this one
    obtain rfl : p = q := by
      refine (List.mem_cons.mp hp).resolve_right fun hmem => ?_
      rw [hquiet p hmem] at hexit
      cases hexit
    obtain rfl : status = status' := Option.some.inj (hexit.symm.trans hq)
    refine ⟨⟨earlier, rfl⟩, ?_⟩
    rw [execTraced_erases]
    exact Prod.ext hr hmachine

/-! ## Expanded programs and sessions -/

section Expand

variable {K : Option String → Prop}

mutual

/-- Expanding shell literals changes no handler. -/
theorem Stmt.asks_expand : ∀ s : Stmt, s.Asks K → s.expand.Asks K
  | .evaluate .., _ | .assign .., _ | .assert .., _ | .pass _, _ | .breakLoop _, _
  | .continueLoop _, _ => trivial
  | .branch _ _ body orelse, h => ⟨asksBody_expand body h.1, asksBody_expand orelse h.2⟩
  | .whileLoop _ _ body, h | .forEach _ _ _ body, h => asksBody_expand body h
  | .attempt _ body handlers, h => ⟨asksBody_expand body h.1, asksHandlers_expand handlers h.2⟩

theorem asksBody_expand : ∀ ss : List Stmt, asksBody K ss → asksBody K (expandBody ss)
  | [], _ => trivial
  | s :: ss, h => ⟨s.asks_expand h.1, asksBody_expand ss h.2⟩

theorem asksHandlers_expand :
    ∀ hs : List Handler, asksHandlers K hs → asksHandlers K (expandHandlers hs)
  | [], _ => trivial
  | .mk _ _ body :: hs, h => ⟨h.1, asksBody_expand body h.2.1, asksHandlers_expand hs h.2.2⟩

end

end Expand

/-- No handler of the program asks for an exit by name. -/
def Program.PassesExit (p : Program) : Prop := asksBody Tilde.PassesExit p.body

instance (p : Program) : Decidable p.PassesExit := inferInstanceAs (Decidable (asksBody _ p.body))

theorem Program.run_exit {p : Program} (h : p.PassesExit) {host : Host ω} {budget : Nat}
    {m : Machine ω} {point : Point ω} {status : Int32} (hpoint : point ∈ p.trace host budget m)
    (hexit : point.exitStatus? = some status) :
    (∃ earlier, p.trace host budget m = point :: earlier)
      ∧ p.run host budget m = (.error (.halted (.exit status)), point.machine) := by
  obtain ⟨hlast, hrun⟩ := execTraced_exit h hpoint hexit
  refine ⟨hlast, ?_⟩
  rw [Program.run, Program.exec, hrun]
  rfl

theorem runSource_exit {host : Host ω} {budget : Nat} {source : String} {mode : Mode}
    {m : Machine ω} (h : ∀ p, parse source mode = .ok p → p.PassesExit) {point : Point ω}
    {status : Int32} (hpoint : point ∈ sourceTrace host budget source mode m)
    (hexit : point.exitStatus? = some status) :
    (∃ earlier, sourceTrace host budget source mode m = point :: earlier)
      ∧ runSource host budget source mode m = (.error (.halted (.exit status)), point.machine) := by
  unfold sourceTrace at hpoint ⊢
  unfold runSource
  cases hp : parse source mode with
  | error e => rw [hp] at hpoint; cases hpoint
  | ok p =>
    rw [hp] at hpoint
    exact Program.run_exit (p := p.expand) (asksBody_expand p.body (h p hp)) hpoint hexit

/-- Whether a line has the session run what it has gathered. -/
def Session.runsOn (s : Session ω) (settings : Settings ω) (line : String) : Bool :=
  (s.waiting = .continuation && (Text.trim line).isEmpty)
    || settings.probe (s.gathered line) ≠ .incomplete

theorem Session.handle_runs {s : Session ω} {settings : Settings ω} {line : String}
    (h : s.runsOn settings line = true) :
    s.handle settings (.line line) = { s with buffer := s.gathered line }.runBuffer settings := by
  unfold runsOn at h
  rw [handle, takeLine]
  dsimp only
  by_cases hblank : (s.waiting = .continuation && (Text.trim line).isEmpty) = true
  · rw [if_pos hblank]
  · rw [if_neg hblank]
    have hprobe : settings.probe (s.gathered line) ≠ .incomplete := by
      rw [Bool.eq_false_iff.mpr hblank, Bool.false_or, decide_eq_true_eq] at h
      exact h
    cases hp : settings.probe (s.gathered line) with
    | incomplete => exact (hprobe hp).elim
    | complete | invalid => rfl

/--
**An exit cannot be swallowed.**

Take a run, in any machine, at some point of whose trace `exit` is called with a valid status, while
no handler of the program asks for `SystemExit` by name. Then this is the last point of the trace, so
no further statement or expression is come to, no function is called, no name is bound, and no
handler takes anything. The machine at the end is the one of that point, so nothing is written or
run. The result is the exit with its status.

So it is for a program, for a source text, and for a session with any probe whose input has it run
such a text. The session is over with the status, and it does nothing more in the world, so it writes
no diagnostic.
-/
theorem exit_is_final (host : Host ω) (budget : Nat) (point : Point ω) {status : Int32}
    (hexit : point.exitStatus? = some status) :
    (∀ (p : Program) (m : Machine ω), p.PassesExit → point ∈ p.trace host budget m →
      (∃ earlier, p.trace host budget m = point :: earlier)
        ∧ p.run host budget m = (.error (.halted (.exit status)), point.machine))
    ∧ (∀ (source : String) (mode : Mode) (m : Machine ω),
      (∀ p, parse source mode = .ok p → p.PassesExit) →
      point ∈ sourceTrace host budget source mode m →
      (∃ earlier, sourceTrace host budget source mode m = point :: earlier)
        ∧ ∃ e, runSource host budget source mode m = (.error e, point.machine)
          ∧ e.exitStatus? = some status)
    ∧ (∀ (probe : Probe) (s : Session ω) (line : String),
      (∀ p, parse (s.gathered line) .interactive = .ok p → p.PassesExit) →
      s.runsOn ⟨host, budget, probe⟩ line = true →
      point ∈ sourceTrace host budget (s.gathered line) .interactive s.machine →
      s.handle ⟨host, budget, probe⟩ (.line line) = (.over status, { machine := point.machine })) := by
  refine ⟨fun p m hpass hpoint => p.run_exit hpass hpoint hexit, ?_, ?_⟩
  · intro source mode m hpass hpoint
    obtain ⟨hlast, hrun⟩ := runSource_exit hpass hpoint hexit
    exact ⟨hlast, _, hrun, rfl⟩
  · intro probe s line hpass hruns hpoint
    obtain ⟨-, hrun⟩ := runSource_exit hpass hpoint hexit
    rw [Session.handle_runs hruns, Session.runBuffer]
    simp only [hrun]
    rfl

/-- The theorem at an exit in a field of an interpolated string, inside a loop and a block whose
handler takes every fault. -/
theorem exit_is_final_of_field :
    let body := ["for i in range(9):", "    try:", "        print(f'{exit(i + 3)}')",
      "    except:", "        x = i"]
    let source := "\n".intercalate (body ++ ["y = 1"])
    let s : Session Unit := ⟨⟨.fresh, (), []⟩, "\n".intercalate body, .continuation⟩
    ∃ point point' : Point Unit,
      (∃ earlier, sourceTrace Host.silent 0 source .file s.machine = point :: earlier)
      ∧ (∃ e, runSource Host.silent 0 source .file s.machine = (.error e, point.machine)
        ∧ e.exitStatus? = some 3)
      ∧ s.handle ⟨Host.silent, 0, probe⟩ (.line "") = (.over 3, { machine := point'.machine }) := by
  intro body source s
  have hpass : ((parse source .file).toOption.all fun p => decide p.PassesExit) = true := by
    decide +kernel
  have hpass' : ((parse (s.gathered "") .interactive).toOption.all fun p =>
      decide p.PassesExit) = true := by decide +kernel
  have hexits : (sourceTrace Host.silent 0 source .file s.machine).head?.bind Point.exitStatus?
      = some 3 := by decide +kernel
  have hexits' : (sourceTrace Host.silent 0 (s.gathered "") .interactive s.machine).head?.bind
      Point.exitStatus? = some 3 := by decide +kernel
  obtain ⟨point, hhead, hexit⟩ := Option.bind_eq_some_iff.mp hexits
  obtain ⟨point', hhead', hexit'⟩ := Option.bind_eq_some_iff.mp hexits'
  obtain ⟨hlast, hrun⟩ := (exit_is_final Host.silent 0 point hexit).2.1 source .file s.machine
    (fun p hp => by rw [hp] at hpass; exact of_decide_eq_true hpass) (List.mem_of_head? hhead)
  refine ⟨point, point', hlast, hrun, ?_⟩
  exact (exit_is_final Host.silent 0 point' hexit').2.2 probe s ""
    (fun p hp => by rw [hp] at hpass'; exact of_decide_eq_true hpass') (by decide +kernel)
    (List.mem_of_head? hhead')

end Tilde
