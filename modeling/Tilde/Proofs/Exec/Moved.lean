import Tilde.Proofs.Exec.Agree
import Tilde.Proofs.Helpers.Clean
import Tilde.Proofs.Joined.Carries
import Tilde.Run

/-!
# Executions that cannot be told apart

A program reads neither the log nor the lines it stands on. So an execution in a machine with another
log, of the same program further down in a text, comes to the same variables and the same world, and
to the same result; only a fault is reported on the line that the statement stands on there.

Along the way, whatever the acts of the host keep of the world is kept by the execution.
-/

namespace Tilde

variable {ω α β : Type} {J : ω → Prop} {k : Nat}

/-! ## Evaluation -/

/-- Both worlds are the same, and satisfy `J`. -/
def Outside.SameWorld (J : ω → Prop) (o o' : Outside ω) : Prop :=
  o'.world = o.world ∧ J o.world

/-- The evaluation does not read the log, and keeps what `J` says of the world. -/
def EvalM.Blind (J : ω → Prop) (x : EvalM ω α) : Prop :=
  ∀ o o', Outside.SameWorld J o o' →
    (x o').1 = (x o).1 ∧ Outside.SameWorld J (x o).2 (x o').2

namespace EvalM.Blind

theorem pure {a : α} : Blind J (pure a : EvalM ω α) := fun _ _ h => ⟨rfl, h⟩

theorem stop {stop : Stop} : Blind J (throw stop : EvalM ω α) := fun _ _ h => ⟨rfl, h⟩

theorem bind {x : EvalM ω α} {f : α → EvalM ω β} (hx : Blind J x) (hf : ∀ a, Blind J (f a)) :
    Blind J (x >>= f) := by
  intro o o' h
  obtain ⟨hresult, hworld⟩ := hx o o' h
  cases hr : x o with
  | mk r o₁ =>
    cases hr' : x o' with
    | mk r' o₁' =>
      rw [hr, hr'] at hresult hworld
      cases hresult
      cases r with
      | error e =>
        rw [Effects.bind_error hr, Effects.bind_error hr']
        exact ⟨rfl, hworld⟩
      | ok a =>
        rw [Effects.bind_ok hr, Effects.bind_ok hr']
        exact hf a o₁ o₁' hworld

theorem ofExcept {x : Except Fault α} : Blind J (ofExcept x : EvalM ω α) := by
  cases x with
  | ok a => exact pure
  | error f => exact stop

theorem note {r : LogRecord} : Blind J (note r : EvalM ω Unit) := fun _ _ h => ⟨rfl, h⟩

theorem act {f : ω → α × ω} (h : ∀ w, J w → J (f w).2) : Blind J (act f) := by
  rintro o o' ⟨hworld, hJ⟩
  rw [act_apply, act_apply, hworld]
  exact ⟨rfl, rfl, h _ hJ⟩

theorem ofRun {f : ω → Except Shell.RunError α × ω} (h : ∀ w, J w → J (f w).2) :
    Blind J (ofRun f) := by
  refine bind (act h) fun r => ?_
  cases r with
  | ok a => exact pure
  | error e => exact stop

theorem ite {c : Prop} [Decidable c] {x y : EvalM ω α} (hx : Blind J x) (hy : Blind J y) :
    Blind J (if c then x else y) := by
  by_cases h : c
  · rw [if_pos h]; exact hx
  · rw [if_neg h]; exact hy

variable {host : Host ω}

section Calls

variable (hhost : host.Keeps J True)
include hhost

theorem write (texts : List String) : Blind J (EvalM.write host texts) := by
  refine bind (act (hhost.put .output texts)) fun r => ?_
  cases r with
  | some e => exact stop
  | none => exact pure

theorem builtin (f : Builtin) (args : Args) : Blind J (f.call host args) := by
  cases f with
  | print =>
    exact bind ofExcept fun _ => bind ofExcept fun _ => bind ofExcept fun _ =>
      bind (write hhost _) fun _ => pure
  | len | str | int | repr | range | quote => exact ofExcept
  | exit => exact bind ofExcept fun _ => stop
  | run d =>
    refine bind ofExcept fun v => ?_
    cases v with
    | str command =>
      refine bind note fun _ => ?_
      cases d with
      | stream => exact bind (ofRun (hhost.stream trivial command)) fun _ => pure
      | single => exact bind (ofRun (hhost.capture trivial command)) fun _ => pure
      | triple => exact bind (ofRun (hhost.captureTriple trivial command)) fun _ => pure
    | _ => exact stop

theorem callWith (v : Value) (args : Args) : Blind J (v.callWith host args) := by
  cases v with
  | builtin f => exact builtin hhost f args
  | method s m => exact ofExcept
  | _ => exact stop

theorem echo (v : Value) : Blind J (Tilde.echo host v) := by
  cases v with
  | none => exact pure
  | _ => exact write hhost _

end Calls

mutual

/-- **No expression reads the log.** -/
theorem eval (hhost : host.Keeps J True) (ns : Namespace) :
    ∀ e : Expr, Blind J (e.eval host ns)
  | .name _ => ofExcept
  | .int _ | .bool _ | .none | .str _ => pure
  | .template parts => bind (evalParts hhost ns parts) fun _ => pure
  | .tuple items | .list items => bind (evalAll hhost ns items) fun _ => pure
  | .star _ => stop
  | .unary _ e => bind (eval hhost ns e) fun _ => ofExcept
  | .binary _ l r => bind (eval hhost ns l) fun _ => bind (eval hhost ns r) fun _ => ofExcept
  | .compare _ l r => bind (eval hhost ns l) fun _ => bind (eval hhost ns r) fun _ =>
    bind ofExcept fun _ => pure
  | .logical op l r => by
    refine bind (eval hhost ns l) fun a => ?_
    cases op with
    | and | or => exact ite pure (eval hhost ns r)
  | .call f args keywords =>
    bind (eval hhost ns f) fun _ => bind (evalAll hhost ns args) fun _ =>
      bind (evalKeywords hhost ns keywords) fun _ => callWith hhost _ _
  | .attribute e _ => bind (eval hhost ns e) fun _ => ofExcept
  | .subscript e i => bind (eval hhost ns e) fun _ => bind (eval hhost ns i) fun _ => ofExcept

theorem evalAll (hhost : host.Keeps J True) (ns : Namespace) :
    ∀ es : List Expr, Blind J (Tilde.evalAll host ns es)
  | [] => pure
  | e :: es => bind (eval hhost ns e) fun _ => bind (evalAll hhost ns es) fun _ => pure

theorem evalKeywords (hhost : host.Keeps J True) (ns : Namespace) :
    ∀ ks : List Keyword, Blind J (Tilde.evalKeywords host ns ks)
  | [] => pure
  | .mk _ e :: ks => bind (eval hhost ns e) fun _ => bind (evalKeywords hhost ns ks) fun _ => pure

theorem evalParts (hhost : host.Keeps J True) (ns : Namespace) :
    ∀ ps : List Part, Blind J (Tilde.evalParts host ns ps)
  | [] => pure
  | .literal _ :: ps => bind (evalParts hhost ns ps) fun _ => pure
  | .field e _ :: ps => bind (eval hhost ns e) fun _ => bind ofExcept fun _ =>
    bind (evalParts hhost ns ps) fun _ => pure

end

end EvalM.Blind

/-! ## Execution -/

/-- The halt, reported `k` lines further down. -/
def Halt.moved (k : Nat) : Halt → Halt
  | .fault line f => .fault (line + k) f
  | h => h

theorem Halt.takenBy_moved (k : Nat) (h : Halt) (kind : Option String) :
    (h.moved k).takenBy kind = h.takenBy kind := by
  cases h <;> rfl

/-- Both machines have the same variables and the same world, which satisfies `J`. -/
structure Machine.Same (J : ω → Prop) (m m' : Machine ω) : Prop where
  vars : m'.vars = m.vars
  outside : Outside.SameWorld J m.outside m'.outside

theorem Machine.Same.trans {m m' m'' : Machine ω} (h : Same J m m') (h' : Same J m' m'') :
    Same J m m'' :=
  ⟨h'.vars.trans h.vars, h'.outside.1.trans h.outside.1, h.outside.2⟩

/-- What the handler of a halt starts from is the same further down. -/
theorem Machine.Same.handling {m m' : Machine ω} (hm : Same J m m') (h : Halt)
    (name : Option String) : Same J (m.handling h name) (m'.handling (h.moved k) name) := by
  have hkind : (h.moved k).kind? = h.kind? := by cases h <;> rfl
  have hmessage : (h.moved k).message = h.message := by cases h <;> rfl
  unfold Machine.handling
  rw [hkind, hmessage]
  refine ⟨?_, ?_⟩
  · cases name <;> simp [hm.vars]
  · cases h.kind? <;> exact hm.outside

namespace ExecM

/-- From machines that are the same but for the log, the second execution comes to the result of the
first one, a halt being moved down by `k` lines, and to the same machine but for the log. -/
def Follows (J : ω → Prop) (k : Nat) (x y : ExecM ω α) : Prop :=
  ∀ m m', Machine.Same J m m' →
    (y m').1 = (x m).1.mapError (Halt.moved k) ∧ Machine.Same J (x m).2 (y m').2

namespace Follows

theorem pure {a : α} : Follows J k (pure a : ExecM ω α) (pure a) := fun _ _ h => ⟨rfl, h⟩

theorem throw {h h' : Halt} (heq : h' = h.moved k) :
    Follows J k (throw h : ExecM ω α) (throw h') :=
  fun _ _ hm => ⟨congrArg Except.error heq, hm⟩

theorem bind {x y : ExecM ω α} {f g : α → ExecM ω β} (hx : Follows J k x y)
    (hf : ∀ a, Follows J k (f a) (g a)) : Follows J k (x >>= f) (y >>= g) := by
  intro m m' hm
  obtain ⟨hresult, hsame⟩ := hx m m' hm
  cases hr : x m with
  | mk r m₁ =>
    cases hr' : y m' with
    | mk r' m₁' =>
      rw [hr, hr'] at hresult hsame
      cases r with
      | error h =>
        cases hresult
        rw [Effects.bind_error hr, Effects.bind_error hr']
        exact ⟨rfl, hsame⟩
      | ok a =>
        cases hresult
        rw [Effects.bind_ok hr, Effects.bind_ok hr']
        exact hf a m₁ m₁' hsame

theorem ite {c : Prop} [Decidable c] {x x' y y' : ExecM ω α} (ht : Follows J k x y)
    (he : Follows J k x' y') : Follows J k (if c then x else x') (if c then y else y') := by
  by_cases h : c
  · rw [if_pos h, if_pos h]; exact ht
  · rw [if_neg h, if_neg h]; exact he

theorem evalAt {line : Nat} {eval : Namespace → EvalM ω α} (h : ∀ ns, (eval ns).Blind J) :
    Follows J k (evalAt line eval) (evalAt (line + k) eval) := by
  intro m m' hm
  obtain ⟨hresult, hworld⟩ := h m.vars m.outside m'.outside hm.outside
  rw [evalAt_apply, evalAt_apply, hm.vars, hresult]
  refine ⟨?_, rfl, hworld⟩
  cases (eval m.vars m.outside).1 with
  | ok a => rfl
  | error stop => cases stop <;> rfl

theorem bindAt {line : Nat} {target : Target} {v : Value} :
    Follows J k (bindAt line target v : ExecM ω Unit) (bindAt (line + k) target v) := by
  intro m m' hm
  rw [bindAt_apply, bindAt_apply, hm.vars]
  refine ⟨?_, rfl, hm.outside⟩
  cases (target.bind v m.vars).1 <;> rfl

theorem whileLoop {test test' : ExecM ω Bool} {body body' : ExecM ω Flow}
    (htest : Follows J k test test') (hbody : Follows J k body body') (budget : Nat) :
    Follows J k (whileLoop test body budget) (whileLoop test' body' budget) := by
  induction budget with
  | zero => exact throw rfl
  | succ budget ih =>
    refine bind htest fun b => ite (bind hbody fun flow => ?_) pure
    cases flow with
    | leave => exact pure
    | next | «repeat» => exact ih

theorem forEach {set set' : Value → ExecM ω Unit} {body body' : ExecM ω Flow}
    (hset : ∀ v, Follows J k (set v) (set' v)) (hbody : Follows J k body body')
    (items : List Value) : Follows J k (forEach set body items) (forEach set' body' items) := by
  induction items with
  | nil => exact pure
  | cons v vs ih =>
    refine bind (hset v) fun _ => bind hbody fun flow => ?_
    cases flow with
    | leave => exact pure
    | next | «repeat» => exact ih

/-- A handler takes a halt wherever it is reported. -/
theorem attempt {body body' : ExecM ω Flow} {handler? handler?' : Halt → Option (ExecM ω Flow)}
    (hbody : Follows J k body body')
    (hhandler : ∀ h : Halt, Follows J k ((handler? h).getD (MonadExcept.throw h))
      ((handler?' (h.moved k)).getD (MonadExcept.throw (h.moved k)))) :
    Follows J k (attempt body handler?) (attempt body' handler?') := by
  intro m m' hm
  obtain ⟨hresult, hsame⟩ := hbody m m' hm
  cases hr : body m with
  | mk r m₁ =>
    cases hr' : body' m' with
    | mk r' m₁' =>
      rw [hr, hr'] at hresult hsame
      cases r with
      | ok flow =>
        cases hresult
        rw [attempt_ok hr, attempt_ok hr']
        exact ⟨rfl, hsame⟩
      | error h =>
        cases hresult
        rw [attempt_error hr, attempt_error hr']
        exact hhandler h m₁ m₁' hsame

end Follows

end ExecM

open ExecM

section Statements

variable {run : Run ω}

mutual

/-- **A statement does the same wherever it stands and whatever has been logged.** -/
theorem exec_moved (hhost : run.host.Keeps J True) (k : Nat) :
    ∀ s : Stmt, Follows J k (s.exec run) ((s.moved k).exec run)
  | .evaluate line e =>
    .bind (.evalAt fun ns => .bind (.eval hhost ns e) fun v => .ite (.echo hhost v) .pure)
      fun _ => .pure
  | .assign line target e =>
    .bind (.evalAt fun ns => .eval hhost ns e) fun _ => .bind .bindAt fun _ => .pure
  | .assert line test message => by
    refine .bind (.evalAt fun ns => .bind (.eval hhost ns test) fun v => .ite ?_ .pure)
      fun _ => .pure
    cases message with
    | none => exact .stop
    | some e => exact .bind (.eval hhost ns e) fun _ => .stop
  | .pass _ | .breakLoop _ | .continueLoop _ => .pure
  | .branch line test body orelse =>
    .bind (.evalAt fun ns => .eval hhost ns test) fun _ =>
      .ite (execBody_moved hhost k body) (execBody_moved hhost k orelse)
  | .whileLoop line test body =>
    .bind (.whileLoop (.bind (.evalAt fun ns => .eval hhost ns test) fun _ => .pure)
      (execBody_moved hhost k body) run.budget) fun _ => .pure
  | .forEach line target items body => by
    refine .bind (.evalAt fun ns => .eval hhost ns items) fun v => ?_
    cases v.items? with
    | none => exact .throw rfl
    | some vs =>
      exact .bind (.forEach (fun _ => .bindAt) (execBody_moved hhost k body) vs) fun _ => .pure
  | .attempt line body handlers =>
    .attempt (execBody_moved hhost k body) (execHandlers_moved hhost k handlers)

theorem execBody_moved (hhost : run.host.Keeps J True) (k : Nat) :
    ∀ ss : List Stmt, Follows J k (execBody run ss) (execBody run (movedBody k ss))
  | [] => .pure
  | s :: ss => by
    refine .bind (exec_moved hhost k s) fun flow => ?_
    cases flow with
    | next => exact execBody_moved hhost k ss
    | leave | «repeat» => exact .pure

theorem execHandlers_moved (hhost : run.host.Keeps J True) (k : Nat) :
    ∀ (hs : List Handler) (h : Halt),
    Follows J k ((execHandlers run hs h).getD (throw h))
      ((execHandlers run (movedHandlers k hs) (h.moved k)).getD (throw (h.moved k)))
  | [], _ => .throw rfl
  | .mk kind name body :: hs, h => by
    have hmoved := Halt.takenBy_moved k h kind
    by_cases htaken : h.takenBy kind = true
    · intro m m' hm
      rw [movedHandlers, execHandlers_taken htaken, execHandlers_taken (hmoved.trans htaken)]
      exact execBody_moved hhost k body _ _ (hm.handling h name)
    · rw [movedHandlers, execHandlers, execHandlers, hmoved, if_neg htaken, if_neg htaken]
      exact execHandlers_moved hhost k hs h

end

theorem execProgram_moved (run : Run ω) (hhost : run.host.Keeps J True) (k : Nat) (ss : List Stmt) :
    Follows J k (execProgram run ss) (execProgram run (movedBody k ss)) := by
  induction ss with
  | nil => exact .pure
  | cons s ss ih =>
    refine .bind (exec_moved hhost k s) fun flow => ?_
    cases flow with
    | next => exact ih
    | leave | «repeat» => exact .throw (by rw [Stmt.line_moved]; rfl)

end Statements

theorem Machine.Same.logged {m m' : Machine ω} (hm : Same J m m') (rs rs' : List LogRecord) :
    Same J (m.logged rs) (m'.logged rs') := ⟨hm.vars, hm.outside⟩

theorem Halt.mapError_moved_zero {r : Except Halt α} : r.mapError (Halt.moved 0) = r := by
  cases r with
  | ok a => rfl
  | error h => cases h <;> rfl

/-- **No text reads the log.** -/
theorem runSource_same {host : Host ω} (hhost : host.Keeps J True) (budget : Nat) (source : String)
    (mode : Mode) {m m' : Machine ω} (hm : Machine.Same J m m') :
    (runSource host budget source mode m').1 = (runSource host budget source mode m).1
      ∧ Machine.Same J (runSource host budget source mode m).2
        (runSource host budget source mode m').2 := by
  unfold runSource
  cases parse source mode with
  | error e => exact ⟨rfl, hm⟩
  | ok p =>
    have hrun := execProgram_moved ⟨host, p.expand.mode, budget⟩ hhost 0 p.expand.body
    rw [movedBody_zero] at hrun
    obtain ⟨hresult, hsame⟩ := hrun _ _ (hm.logged (p.notes ++ [.expanded p.literalCount])
      (p.notes ++ [.expanded p.literalCount]))
    rw [Halt.mapError_moved_zero] at hresult
    exact ⟨congrArg (Except.mapError RunError.halted) hresult, hsame⟩

/-- The statements of two programs in a row. -/
theorem execProgram_append (run : Run ω) (ss ss' : List Stmt) :
    execProgram run (ss ++ ss') = execProgram run ss >>= fun _ => execProgram run ss' := by
  induction ss with
  | nil => simp only [List.nil_append, execProgram, pure_bind]
  | cons s ss ih =>
    simp only [List.cons_append, execProgram, bind_assoc, ih]
    refine bind_congr fun flow => ?_
    cases flow with
    | next => rfl
    | leave | «repeat» => rfl

end Tilde
