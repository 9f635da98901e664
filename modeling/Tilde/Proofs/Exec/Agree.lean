import Tilde.Exec
import Tilde.Proofs.Effects
import Tilde.Proofs.Parser.Names

/-!
# Two executions side by side

Two executions agree on the machines whose variables satisfy an invariant, if from each of them they
come to the same result and the same machine, which satisfies the invariant again. Agreement
composes along every form of statement, loops and handlers included, so what remains to show about
two ways to execute a program is that they agree on the expressions.

With both executions the same, agreement says that the invariant is kept.
-/

namespace Tilde

variable {ω α β : Type}

/-- The machine in which a handler's block begins: the log tells of the handler, and the message is
bound to the handler's name. -/
def Machine.handling (m : Machine ω) (halt : Halt) (name : Option String) : Machine ω where
  vars := match name with
    | some n => m.vars.set n (.str halt.message)
    | none => m.vars
  outside := match halt.kind? with
    | some k => { m.outside with log := .handled k.name :: m.outside.log }
    | none => m.outside

/-- A handler that takes a halt runs its block. -/
theorem execHandlers_taken {run : Run ω} {kind name : Option String} {body : List Stmt}
    {hs : List Handler} {halt : Halt} (h : halt.takenBy kind = true) (m : Machine ω) :
    ((execHandlers run (.mk kind name body :: hs) halt).getD (throw halt)) m =
      execBody run body (m.handling halt name) := by
  rw [execHandlers, if_pos h]
  unfold Machine.handling
  cases name <;> cases halt.kind? <;> rfl

/-! ## Binding -/

/-- Variables whose names satisfy `W` may be set to values that satisfy `V`: this keeps `I`, and
taking such a value apart gives such values. -/
structure Settable (I : Namespace → Prop) (W : String → Prop) (V : Value → Prop) : Prop where
  set : ∀ {ns n v}, I ns → W n → V v → I (ns.set n v)
  items : ∀ {v items}, V v → v.items? = some items → ∀ item ∈ items, V item
  list : ∀ {items : List Value}, (∀ item ∈ items, V item) → V (.list items)
  str : ∀ s, V (.str s)

variable {I : Namespace → Prop} {W : String → Prop} {V : Value → Prop}

/-- The parts that a sequence gets of a value are items or lists of items. -/
theorem Target.distribute_mem (hS : Settable I W V) {targets : List Target}
    {items parts : List Value} (h : distribute targets items = .ok parts)
    (hitems : ∀ item ∈ items, V item) : ∀ part ∈ parts, V part := by
  unfold distribute at h
  dsimp only at h
  split at h
  · split at h
    · cases h
    · split at h
      · cases h
      · cases h
        exact hitems
  · split at h
    · cases h
    · cases h
      intro part hpart
      rcases List.mem_append.mp hpart with hfront | hback
      · exact hitems part (List.mem_of_mem_take hfront)
      · rcases List.mem_cons.mp hback with rfl | hback
        · exact hS.list fun item hitem =>
            hitems item (List.mem_of_mem_drop (List.mem_of_mem_take hitem))
        · exact hitems part (List.mem_of_mem_drop hback)

mutual

/-- Binding a value keeps the invariant, also where it fails halfway. -/
theorem Target.bind_keeps (hS : Settable I W V) : ∀ (target : Target) {v : Value} {ns : Namespace},
    target.Spells W → V v → I ns → I (target.bind v ns).2
  | .name n, v, ns, hn, hv, hns => hS.set hns hn hv
  | .star n, v, ns, hn, hv, hns => by
    rw [Target.bind]
    cases hitems : v.items? with
    | none => exact hns
    | some items => exact hS.set hns hn (hS.list (hS.items hv hitems))
  | .sequence targets, v, ns, ht, hv, hns => by
    rw [Target.bind]
    cases hitems : v.items? with
    | none => exact hns
    | some items =>
      dsimp only
      cases hparts : distribute targets items with
      | error f => exact hns
      | ok parts =>
        exact bindAll_keeps hS targets ht (distribute_mem hS hparts (hS.items hv hitems)) hns

theorem Target.bindAll_keeps (hS : Settable I W V) : ∀ (targets : List Target) {vs : List Value}
    {ns : Namespace}, spellsTargets W targets → (∀ v ∈ vs, V v) → I ns →
      I (bindAll targets vs ns).2
  | [], vs, ns, _, _, hns => by
    rw [bindAll]
    · exact hns
    · rintro _ _ _ _ ⟨⟩
  | t :: ts, [], ns, _, _, hns => hns
  | t :: ts, v :: vs, ns, ht, hv, hns => by
    have h1 := bind_keeps hS t ht.1 (hv v (List.mem_cons_self ..)) hns
    have h2 : ∀ {ns'}, I ns' → I (bindAll ts vs ns').2 := fun hns' =>
      bindAll_keeps hS ts ht.2 (fun v hv' => hv v (List.mem_cons_of_mem _ hv')) hns'
    rw [bindAll]
    simp only [Bind.bind, ExceptT.bind, ExceptT.mk, StateT.bind]
    cases hr : t.bind v ns with
    | mk r ns' =>
      rw [hr] at h1
      cases r with
      | error f => exact h1
      | ok u => exact h2 h1

end

namespace ExecM

/-! ## Executions as functions -/

theorem get_bind (f : Machine ω → ExecM ω α) (m : Machine ω) :
    (get >>= f : ExecM ω α) m = f m m := rfl

theorem evalAt_apply (line : Nat) (eval : Namespace → EvalM ω α) (m : Machine ω) :
    evalAt line eval m =
      ((eval m.vars m.outside).1.mapError (halted line),
        { m with outside := (eval m.vars m.outside).2 }) := by
  rw [evalAt, get_bind]
  cases eval m.vars m.outside with
  | mk r o => cases r <;> rfl

theorem bindAt_apply (line : Nat) (target : Target) (v : Value) (m : Machine ω) :
    bindAt line target v m =
      ((target.bind v m.vars).1.mapError (.fault line),
        { m with vars := (target.bind v m.vars).2 }) := by
  rw [bindAt, get_bind]
  cases target.bind v m.vars with
  | mk r vars => cases r <;> rfl

theorem attempt_ok {body : ExecM ω Flow} {handler? : Halt → Option (ExecM ω Flow)}
    {m m' : Machine ω} {flow : Flow} (h : body m = (.ok flow, m')) :
    attempt body handler? m = (.ok flow, m') :=
  Effects.tryCatch_ok h

theorem attempt_error {body : ExecM ω Flow} {handler? : Halt → Option (ExecM ω Flow)}
    {m m' : Machine ω} {halt : Halt} (h : body m = (.error halt, m')) :
    attempt body handler? m = ((handler? halt).getD (throw halt)) m' := by
  rw [attempt, Effects.tryCatch_error h]
  cases handler? halt with
  | none => rfl
  | some handler => rfl

/-! ## Agreement -/

/-- The variables of a machine satisfy `I`, and its world satisfies `J`. -/
def Within (I : Namespace → Prop) (J : ω → Prop) (m : Machine ω) : Prop :=
  I m.vars ∧ J m.outside.world

/-- The machine in which a handler's block begins is within `I` and `J` again. -/
theorem Within.handling {J : ω → Prop} (hS : Settable I W V) {m : Machine ω} (hm : Within I J m)
    {halt : Halt} {name : Option String} (hn : ∀ n ∈ name, W n) :
    Within I J (m.handling halt name) := by
  refine ⟨?_, ?_⟩
  · cases name with
    | none => exact hm.1
    | some n => exact hS.set hm.1 (hn n rfl) (hS.str _)
  · unfold Machine.handling
    cases halt.kind? <;> exact hm.2

/-- From a machine within `I` and `J`, both executions come to the same result and to the same
machine, again within `I` and `J`, and the value they give, if any, satisfies `Q`. -/
def Agree (I : Namespace → Prop) (J : ω → Prop) (Q : α → Prop) (x y : ExecM ω α) : Prop :=
  ∀ m : Machine ω, Within I J m → x m = y m ∧ Within I J (y m).2 ∧ ∀ a, (y m).1 = .ok a → Q a

variable {J : ω → Prop} {Q : α → Prop} {R : β → Prop}

namespace Agree

theorem pure {a : α} (h : Q a) : Agree I J Q (pure a : ExecM ω α) (pure a) := by
  intro m hm
  refine ⟨rfl, hm, fun a' ha => ?_⟩
  cases ha
  exact h

theorem throw {h : Halt} : Agree I J Q (throw h : ExecM ω α) (throw h) := by
  intro m hm
  exact ⟨rfl, hm, fun a ha => by cases ha⟩

theorem bind {x y : ExecM ω α} {f g : α → ExecM ω β} (hx : Agree I J Q x y)
    (hf : ∀ a, Q a → Agree I J R (f a) (g a)) : Agree I J R (x >>= f) (y >>= g) := by
  intro m hm
  obtain ⟨heq, hI, hval⟩ := hx m hm
  cases hy : y m with
  | mk r m' =>
    rw [hy] at heq hI hval
    cases r with
    | error h =>
      rw [Effects.bind_error heq, Effects.bind_error hy]
      exact ⟨rfl, hI, fun a ha => by cases ha⟩
    | ok a =>
      rw [Effects.bind_ok heq, Effects.bind_ok hy]
      exact hf a (hval a rfl) m' hI

theorem ite {c : Prop} [Decidable c] {x x' y y' : ExecM ω α} (ht : Agree I J Q x y)
    (he : Agree I J Q x' y') : Agree I J Q (if c then x else x') (if c then y else y') := by
  by_cases h : c
  · rw [if_pos h, if_pos h]; exact ht
  · rw [if_neg h, if_neg h]; exact he

/-- Evaluating changes no variable, so evaluations that agree on every namespace agree as
executions. -/
theorem evalAt {line : Nat} {u v : Namespace → EvalM ω α} (heq : ∀ ns, I ns → u ns = v ns)
    (hv : ∀ ns, I ns → (v ns).Holds J Q) : Agree I J Q (evalAt line u) (evalAt line v) := by
  intro m hm
  obtain ⟨hJ, hval⟩ := hv m.vars hm.1 m.outside hm.2
  rw [evalAt_apply, evalAt_apply, heq m.vars hm.1]
  refine ⟨rfl, ⟨hm.1, hJ⟩, fun a ha => ?_⟩
  cases hr : (v m.vars m.outside).1 with
  | error stop => simp only [hr] at ha; cases ha
  | ok a' =>
    simp only [hr] at ha
    cases ha
    exact hval _ hr

theorem bindAt (hS : Settable I W V) {line : Nat} {target : Target} {v : Value}
    (ht : target.Spells W) (hv : V v) :
    Agree I J (fun _ => True) (bindAt line target v : ExecM ω Unit) (bindAt line target v) := by
  intro m hm
  refine ⟨rfl, ?_, fun _ _ => trivial⟩
  rw [bindAt_apply]
  exact ⟨target.bind_keeps hS ht hv hm.1, hm.2⟩

/-! ### Loops and handlers -/

theorem whileLoop {test test' : ExecM ω Bool} {body body' : ExecM ω Flow}
    (htest : Agree I J (fun _ => True) test test') (hbody : Agree I J (fun _ => True) body body')
    (budget : Nat) :
    Agree I J (fun _ => True) (whileLoop test body budget) (whileLoop test' body' budget) := by
  induction budget with
  | zero => exact throw
  | succ budget ih =>
    refine bind htest fun b _ => ite (bind hbody fun flow _ => ?_) (pure trivial)
    cases flow with
    | leave => exact pure trivial
    | next | «repeat» => exact ih

theorem forEach {set set' : Value → ExecM ω Unit} {body body' : ExecM ω Flow}
    {items : List Value}
    (hset : ∀ v ∈ items, Agree I J (fun _ => True) (set v) (set' v))
    (hbody : Agree I J (fun _ => True) body body') :
    Agree I J (fun _ => True) (forEach set body items) (forEach set' body' items) := by
  induction items with
  | nil => exact pure trivial
  | cons v vs ih =>
    refine bind (hset v (List.mem_cons_self ..)) fun _ _ => bind hbody fun flow _ => ?_
    cases flow with
    | leave => exact pure trivial
    | next | «repeat» => exact ih fun w hw => hset w (List.mem_cons_of_mem v hw)

/-- Handlers agree where their blocks do, if the names they bind may be set. -/
theorem handler (hS : Settable I W V) {halt : Halt} {name : Option String}
    (hn : ∀ n ∈ name, W n) {x y body body' : ExecM ω α}
    (hx : ∀ m, x m = body (m.handling halt name)) (hy : ∀ m, y m = body' (m.handling halt name))
    (h : Agree I J Q body body') : Agree I J Q x y := by
  intro m hm
  rw [hx, hy]
  exact h _ (hm.handling hS hn)

/-- Handlers agree where, for each halt, what they do with it agrees; a halt that no handler takes is
thrown again. -/
theorem attempt {body body' : ExecM ω Flow} {handler? handler?' : Halt → Option (ExecM ω Flow)}
    (hbody : Agree I J (fun _ => True) body body')
    (hhandler : ∀ h, Agree I J (fun _ => True) ((handler? h).getD (MonadExcept.throw h))
      ((handler?' h).getD (MonadExcept.throw h))) :
    Agree I J (fun _ => True) (attempt body handler?) (attempt body' handler?') := by
  intro m hm
  -- the machine is kept where the body halts, so a handler begins where both executions halted
  obtain ⟨heq, hI, -⟩ := hbody m hm
  cases hy : body' m with
  | mk r m' =>
    rw [hy] at heq hI
    cases r with
    | ok flow =>
      rw [attempt_ok heq, attempt_ok hy]
      exact ⟨rfl, hI, fun _ _ => trivial⟩
    | error h =>
      rw [attempt_error heq, attempt_error hy]
      exact hhandler h m' hI

end Agree
end ExecM

end Tilde
