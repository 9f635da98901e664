import Tilde.Proofs.Interpretation.Statement

/-!
# What raises no fault of a jump

A `break` or a `continue` outside a loop is a fault of the program, raised where the statements of
the program are executed. The operators, the calls and the bindings have faults of their own, none
of which is this one, and an evaluation or a binding raises only theirs.
-/

namespace Tilde

variable {ω α β : Type}

/-! ## Faults of evaluations -/

/-- The result is not the fault of a jump with no loop around. -/
structure Spared (x : Except Fault α) : Prop where
  ne : x ≠ .error .outsideLoop

namespace Spared

theorem ok (a : α) : Spared (.ok a) := ⟨by rintro ⟨⟩⟩

theorem error {f : Fault} (h : f ≠ .outsideLoop) : Spared (.error f : Except Fault α) :=
  ⟨fun heq => h (Except.error.inj heq)⟩

theorem bind {x : Except Fault α} {f : α → Except Fault β} (hx : Spared x)
    (hf : ∀ a, Spared (f a)) : Spared (x >>= f) := by
  cases x with
  | error e => exact error fun h => hx.ne (congrArg _ h)
  | ok a => exact hf a

theorem map {x : Except Fault α} (hx : Spared x) (f : α → β) : Spared (x.map f) :=
  hx.bind fun a => ok (f a)

/-! ### Operators -/

theorem narrow (i : Int) : Spared (Value.narrow i) := by
  unfold Value.narrow
  split <;> exact ⟨by rintro ⟨⟩⟩

theorem unary (op : UnaryOp) (v : Value) : Spared (Value.unary op v) := by
  unfold Value.unary
  repeat' split
  all_goals first | exact (narrow _).map _ | exact ⟨by rintro ⟨⟩⟩

theorem arith (op : BinaryOp) (a b : Int) : Spared (Value.arith op a b) := by
  cases op with
  | add | sub | mul => exact narrow _
  | floorDiv =>
    rw [Value.arith]
    split
    · exact error (by rintro ⟨⟩)
    · exact narrow _
  | mod =>
    rw [Value.arith]
    split
    · exact error (by rintro ⟨⟩)
    · exact (narrow _).bind fun _ => narrow _

theorem copies (length : Nat) (n : Int64) : Spared (Value.copies length n) := by
  unfold Value.copies
  dsimp only
  repeat' split
  all_goals exact ⟨by rintro ⟨⟩⟩

theorem binary (op : BinaryOp) (l r : Value) : Spared (Value.binary op l r) := by
  unfold Value.binary
  repeat' split
  all_goals first
    | exact (arith ..).map _
    | exact (copies ..).map _
    | exact ⟨by rintro ⟨⟩⟩

theorem compared (op : Comparison) (l r : Value) : Spared (Value.compared op l r) := by
  have hholds : ∀ v w : Value, Spared (v.holds w) := by
    intro v w
    unfold Value.holds
    split <;> exact ⟨by rintro ⟨⟩⟩
  have horder : Spared (l.order r) := by
    unfold Value.order
    repeat' split
    all_goals exact ⟨by rintro ⟨⟩⟩
  cases op with
  | eq | ne => exact ok _
  | isIn => exact hholds r l
  | notIn => exact (hholds r l).map _
  | lt | le | gt | ge => exact horder.map _

theorem itemAt (v index : Value) : Spared (v.itemAt index) := by
  unfold Value.itemAt
  dsimp only
  repeat' split
  all_goals exact ⟨by rintro ⟨⟩⟩

theorem format (v : Value) (spec : Option String) : Spared (v.format spec) := by
  unfold Value.format
  repeat' split
  all_goals exact ⟨by rintro ⟨⟩⟩

theorem attributeOf (v : Value) (name : String) : Spared (v.attribute name) := by
  unfold Value.attribute
  split <;> exact ⟨by rintro ⟨⟩⟩

theorem find (ns : Namespace) (name : String) : Spared (ns.find name) := by
  unfold Namespace.find
  split <;> exact ⟨by rintro ⟨⟩⟩

/-! ### Calls -/

variable (args : Args) (function : String)

theorem rejectKeywords : Spared (args.rejectKeywords function) := by
  unfold Args.rejectKeywords
  split <;> exact ⟨by rintro ⟨⟩⟩

theorem between (least most : Nat) : Spared (args.between function least most) := by
  refine (rejectKeywords args function).bind fun _ => ?_
  dsimp only
  split <;> exact ⟨by rintro ⟨⟩⟩

theorem one : Spared (args.one function) := by
  refine (between ..).bind fun vs => ?_
  split <;> exact ⟨by rintro ⟨⟩⟩

theorem atMostOne : Spared (args.atMostOne function) := (between ..).bind fun _ => ok _

theorem noArgs : Spared (args.noArgs function) := (between ..).bind fun _ => ok _

theorem takeText (name default : String) : Spared (args.takeText name default) := by
  unfold Args.takeText
  split <;> exact ⟨by rintro ⟨⟩⟩

theorem lengthOf (v : Value) : Spared (Builtin.lengthOf v) := by
  cases v <;> exact ⟨by rintro ⟨⟩⟩

theorem toInt (v : Value) : Spared (Builtin.toInt v) := by
  unfold Builtin.toInt
  repeat' split
  all_goals exact ⟨by rintro ⟨⟩⟩

theorem bounds (vs : List Value) : Spared (Builtin.bounds vs) := by
  induction vs with
  | nil => exact ok _
  | cons v vs ih =>
    unfold Builtin.bounds
    split
    · exact ih.bind fun _ => ok _
    · exact error (by rintro ⟨⟩)

theorem rangeOf : Spared (Builtin.rangeOf args) := by
  have hlist : ∀ start stop step : Int, Spared (if step = 0 then .error .zeroStep else
      .ok (Value.list
        ((Builtin.progression start stop step).map fun i => .int (Int64.ofInt i)))) := by
    intro start stop step
    split <;> exact ⟨by rintro ⟨⟩⟩
  -- however many bounds are given, the list is made from three
  refine (between ..).bind fun vs => (bounds vs).bind fun bs => ?_
  split
  · next stop => exact hlist 0 stop 1
  · next start stop => exact hlist start stop 1
  · next start stop step => exact hlist start stop step
  · exact error (by rintro ⟨⟩)

theorem exitStatus : Spared (Builtin.exitStatus args) := by
  refine (atMostOne ..).bind fun v => ?_
  repeat' split
  all_goals exact ⟨by rintro ⟨⟩⟩

theorem quoteValue (v : Value) : Spared (Builtin.quoteValue v) := by
  unfold Builtin.quoteValue
  split <;> exact ⟨by rintro ⟨⟩⟩

theorem stripped (m : Method) (v : Option Value) : Spared (m.stripped v) := by
  unfold Method.stripped
  split <;> exact ⟨by rintro ⟨⟩⟩

theorem pieces (i : Nat) (vs : List Value) : Spared (Method.pieces i vs) := by
  induction vs generalizing i with
  | nil => exact ok _
  | cons v vs ih =>
    cases v with
    | str s => exact (ih (i + 1)).bind fun _ => ok _
    | _ => exact error (by rintro ⟨⟩)

theorem method (m : Method) (s : String) : Spared (m.call s args) := by
  cases m with
  | splitlines | upper | lower => exact (noArgs ..).bind fun _ => ok _
  | strip | lstrip | rstrip =>
    exact (atMostOne ..).bind fun v => (stripped _ v).bind fun _ => ok _
  | split =>
    refine (atMostOne ..).bind fun v => ?_
    repeat' split
    all_goals exact ⟨by rintro ⟨⟩⟩
  | startswith | endswith =>
    refine (one ..).bind fun v => ?_
    split <;> exact ⟨by rintro ⟨⟩⟩
  | replace =>
    refine (between ..).bind fun vs => ?_
    split <;> exact ⟨by rintro ⟨⟩⟩
  | join =>
    refine (one ..).bind fun v => ?_
    split
    · exact error (by rintro ⟨⟩)
    · exact (pieces ..).bind fun _ => ok _

theorem distribute (targets : List Target) (items : List Value) :
    Spared (Target.distribute targets items) := by
  unfold Target.distribute
  dsimp only
  repeat' split
  all_goals exact ⟨by rintro ⟨⟩⟩

end Spared

namespace EvalM

/-- Wherever it starts, the evaluation does not end in the fault of a jump with no loop around. -/
def Spared (x : EvalM ω α) : Prop := ∀ o, (x o).1 ≠ .error (.fault .outsideLoop)

namespace Spared

theorem pure (a : α) : Spared (pure a : EvalM ω α) := fun _ => by rintro ⟨⟩

theorem fail {f : Fault} (h : f ≠ .outsideLoop) : Spared (EvalM.fail f : EvalM ω α) := by
  rintro _ ⟨⟩
  exact h rfl

theorem exit (status : Int32) : Spared (throw (.exit status) : EvalM ω α) := fun _ => by rintro ⟨⟩

theorem ofExcept {x : Except Fault α} (h : Tilde.Spared x) :
    Spared (EvalM.ofExcept x : EvalM ω α) := by
  cases x with
  | error f => exact fail fun hf => h.ne (congrArg _ hf)
  | ok a => exact pure a

theorem bind {x : EvalM ω α} {f : α → EvalM ω β} (hx : Spared x) (hf : ∀ a, Spared (f a)) :
    Spared (x >>= f) := by
  intro o
  rcases h : x o with ⟨stop | a, o'⟩
  · have hstop := hx o
    rw [h] at hstop
    rw [Effects.bind_error h]
    exact fun heq => hstop (congrArg _ (Except.error.inj heq))
  · rw [Effects.bind_ok h]
    exact hf a o'

theorem act (f : ω → α × ω) : Spared (EvalM.act f) := fun _ => by rintro ⟨⟩

theorem write (host : Host ω) (texts : List String) : Spared (EvalM.write host texts) := by
  refine (act _).bind fun e => ?_
  cases e with
  | none => exact pure ()
  | some _ => exact fail (by rintro ⟨⟩)

theorem ofRun (f : ω → Except Shell.RunError α × ω) : Spared (EvalM.ofRun f) := by
  refine (act f).bind fun r => ?_
  cases r with
  | ok a => exact pure a
  | error _ => exact fail (by rintro ⟨⟩)

theorem runCommand (host : Host ω) (d : Shell.Delivery) (command : String) :
    Spared (Builtin.runCommand host d command) := by
  cases d with
  | stream => exact (ofRun _).bind fun _ => pure _
  | single => exact (ofRun _).bind fun _ => pure _
  | triple => exact (ofRun _).bind fun _ => pure _

theorem builtin (host : Host ω) (f : Builtin) (args : Args) : Spared (f.call host args) := by
  cases f with
  | print =>
    refine (ofExcept (.takeText ..)).bind fun _ => (ofExcept (.takeText ..)).bind fun _ => ?_
    exact (ofExcept (.rejectKeywords ..)).bind fun _ => (write _ _).bind fun _ => pure _
  | len => exact ofExcept ((Tilde.Spared.one ..).bind Tilde.Spared.lengthOf)
  | str => exact ofExcept ((Tilde.Spared.atMostOne ..).map _)
  | int => exact ofExcept ((Tilde.Spared.one ..).bind Tilde.Spared.toInt)
  | repr => exact ofExcept ((Tilde.Spared.one ..).map _)
  | range => exact ofExcept (.rangeOf args)
  | exit => exact (ofExcept (.exitStatus args)).bind exit
  | run d =>
    refine (ofExcept (.one ..)).bind fun v => ?_
    cases v with
    | str command => exact Spared.bind (fun _ => by rintro ⟨⟩) fun _ => runCommand host d command
    | _ => exact fail (by rintro ⟨⟩)
  | quote => exact ofExcept ((Tilde.Spared.one ..).bind Tilde.Spared.quoteValue)

theorem callWith (host : Host ω) (v : Value) (args : Args) : Spared (v.callWith host args) := by
  cases v with
  | builtin f => exact builtin host f args
  | method s m => exact ofExcept (.method args m s)
  | _ => exact fail (by rintro ⟨⟩)

theorem operations (host : Host ω) (ns : Namespace) :
    (Operations.ofHost host ns).Related (fun x _ => Spared x) (.ofHost host ns) where
  pure := pure
  bind := bind
  enter _ := pure ()
  find name := ofExcept (.find ns name)
  star := fail (by rintro ⟨⟩)
  unary op v := ofExcept (.unary op v)
  binary op a b := ofExcept (.binary op a b)
  compared op a b := ofExcept (.compared op a b)
  attributeOf v name := ofExcept (.attributeOf v name)
  itemAt v index := ofExcept (.itemAt v index)
  format v spec := ofExcept (.format v spec)
  call f args := callWith host f args

/-- **No evaluation raises the fault of a jump.** -/
theorem eval (host : Host ω) (ns : Namespace) (e : Expr) : Spared (e.eval host ns) := by
  rw [← e.interpret_ofHost host ns]
  exact e.interpret_related (operations host ns)

theorem echo (host : Host ω) (v : Value) : Spared (echo host v) := by
  cases v with
  | none => exact pure ()
  | _ => exact write _ _

/-! ### What statements evaluate -/

theorem evaluated (run : Run ω) (ns : Namespace) (e : Expr) :
    Spared (do
      let v ← e.eval run.host ns
      if run.mode = .interactive then Tilde.echo run.host v) := by
  refine (eval run.host ns e).bind fun v => ?_
  split
  · exact echo run.host v
  · exact pure ()

theorem asserted (run : Run ω) (ns : Namespace) (test : Expr) (message : Option Expr) :
    Spared (do
      if !(← test.eval run.host ns).truthy then
        match message with
        | some e => .fail (.assertion (← e.eval run.host ns).text)
        | none => .fail (.assertion "")
      : EvalM ω Unit) := by
  refine (eval run.host ns test).bind fun v => ?_
  split
  · cases message with
    | none => exact fail (by rintro ⟨⟩)
    | some e => exact (eval run.host ns e).bind fun _ => fail (by rintro ⟨⟩)
  · exact pure ()

end Spared

end EvalM

/-! ## Faults of executions -/

mutual

/-- Binding a value raises only faults of its own. -/
theorem Target.bind_spared : ∀ (target : Target) (v : Value) (ns : Namespace),
    Spared (target.bind v ns).1
  | .name n, v, ns => .ok ()
  | .star n, v, ns => by
    rw [Target.bind]
    cases v.items? with
    | none => exact .error (by rintro ⟨⟩)
    | some items => exact .ok ()
  | .sequence targets, v, ns => by
    rw [Target.bind]
    cases v.items? with
    | none => exact .error (by rintro ⟨⟩)
    | some items =>
      dsimp only
      have hparts := Spared.distribute targets items
      cases h : distribute targets items with
      | error f => exact .error fun hf => hparts.ne (h.trans (congrArg _ hf))
      | ok parts => exact bindAll_spared targets parts ns

theorem Target.bindAll_spared : ∀ (targets : List Target) (vs : List Value) (ns : Namespace),
    Spared (bindAll targets vs ns).1
  | [], vs, ns => by
    rw [bindAll]
    · exact .ok ()
    · rintro _ _ _ _ ⟨⟩
  | t :: ts, [], ns => .ok ()
  | t :: ts, v :: vs, ns => by
    have hbind := Target.bind_spared t v ns
    rw [bindAll]
    rcases h : t.bind v ns with ⟨f | _, ns'⟩
    · rw [Effects.bind_error h]
      exact h ▸ hbind
    · rw [Effects.bind_ok h]
      exact bindAll_spared ts vs ns'

end

namespace ExecM

/-- Wherever it starts, the execution does not end in the fault of a jump with no loop around. -/
def Spared (x : ExecM ω α) : Prop := ∀ m line, (x m).1 ≠ .error (.fault line .outsideLoop)

namespace Spared

variable {line : Nat}

theorem evalAt {x : Namespace → EvalM ω α} (h : ∀ ns, EvalM.Spared (x ns)) :
    Spared (evalAt line x) := by
  intro m line'
  have hx := h m.vars m.outside
  rw [evalAt_apply]
  rcases hr : (x m.vars m.outside).1 with (status | f) | a
  · rintro ⟨⟩
  · rintro ⟨⟩
    exact hx hr
  · rintro ⟨⟩

theorem bindAt (target : Target) (v : Value) : Spared (ω := ω) (bindAt line target v) := by
  intro m line'
  have hbind := target.bind_spared v m.vars
  rw [bindAt_apply]
  rcases hr : (target.bind v m.vars).1 with f | _
  · rintro ⟨⟩
    exact hbind.ne hr
  · rintro ⟨⟩

theorem pure (a : α) : Spared (pure a : ExecM ω α) := fun _ _ => by rintro ⟨⟩

theorem bind {x : ExecM ω α} {f : α → ExecM ω β} (hx : Spared x) (hf : ∀ a, Spared (f a)) :
    Spared (x >>= f) := by
  intro m line
  rcases h : x m with ⟨halt | a, m'⟩
  · have hhalt := hx m line
    rw [h] at hhalt
    rw [Effects.bind_error h]
    exact fun heq => hhalt (congrArg _ (Except.error.inj heq))
  · rw [Effects.bind_ok h]
    exact hf a m' line

end Spared

end ExecM

end Tilde
