import Tilde.Eval.Basic

/-!
# Steps with effects

Evaluation and execution are functions on a state that may stop early. The equations here take such
a step apart at the state it starts from.
-/

namespace Tilde

namespace Effects

variable {ε σ α β : Type} {x : ExceptT ε (StateM σ) α} {f : α → ExceptT ε (StateM σ) β}
  {s s' : σ}

/-- A step that gives a value, and what follows it. -/
theorem bind_ok {a : α} (h : x s = (.ok a, s')) : (x >>= f) s = f a s' := by
  simp only [bind, ExceptT.bind, ExceptT.mk, StateT.bind, h]
  rfl

/-- A step that stops, and what would have followed it. -/
theorem bind_error {e : ε} (h : x s = (.error e, s')) : (x >>= f) s = (.error e, s') := by
  simp only [bind, ExceptT.bind, ExceptT.mk, StateT.bind, h]
  rfl

theorem tryCatch_ok {handler : ε → ExceptT ε (StateM σ) α} {a : α} (h : x s = (.ok a, s')) :
    tryCatch x handler s = (.ok a, s') := by
  simp only [tryCatch, tryCatchThe, MonadExceptOf.tryCatch, ExceptT.tryCatch, ExceptT.mk,
    Bind.bind, StateT.bind, h]
  rfl

/-- A handler goes on where the guarded step stops. -/
theorem tryCatch_error {handler : ε → ExceptT ε (StateM σ) α} {e : ε} (h : x s = (.error e, s')) :
    tryCatch x handler s = handler e s' := by
  simp only [tryCatch, tryCatchThe, MonadExceptOf.tryCatch, ExceptT.tryCatch, ExceptT.mk,
    Bind.bind, StateT.bind, h]

/-- Two steps in a row give a value if the first one does, and then the second one. -/
theorem bind_ok_iff {b : β} :
    (x >>= f) s = (.ok b, s') ↔ ∃ a mid, x s = (.ok a, mid) ∧ f a mid = (.ok b, s') := by
  cases h : x s with
  | mk r mid =>
    cases r with
    | error e =>
      rw [bind_error h]
      constructor
      · intro h'; cases h'
      · rintro ⟨_, _, h', _⟩; cases h'
    | ok a =>
      rw [bind_ok h]
      constructor
      · exact fun h' => ⟨a, mid, rfl, h'⟩
      · rintro ⟨_, _, ⟨⟩, h'⟩
        exact h'

/-! ## Images of states -/

variable {τ : Type} {φ : σ → τ}

/-- On the image of a state, the second computation does what the first one does on the state. -/
def Carried (φ : σ → τ) (x : ExceptT ε (StateM σ) α) (y : ExceptT ε (StateM τ) α) : Prop :=
  ∀ s, y (φ s) = ((x s).1, φ (x s).2)

namespace Carried

theorem pure (a : α) : Carried φ (pure a : ExceptT ε (StateM σ) α) (pure a) := fun _ => rfl

theorem throw (e : ε) : Carried φ (throw e : ExceptT ε (StateM σ) α) (throw e) := fun _ => rfl

theorem bind {x : ExceptT ε (StateM σ) α} {y : ExceptT ε (StateM τ) α}
    {f : α → ExceptT ε (StateM σ) β} {g : α → ExceptT ε (StateM τ) β} (hx : Carried φ x y)
    (hf : ∀ a, Carried φ (f a) (g a)) : Carried φ (x >>= f) (y >>= g) := by
  intro s
  have hy := hx s
  rcases h : x s with ⟨e | a, s'⟩
  · rw [h] at hy
    rw [bind_error h, bind_error hy]
  · rw [h] at hy
    rw [bind_ok h, bind_ok hy]
    exact hf a s'

theorem guarded {x : ExceptT ε (StateM σ) α} {y : ExceptT ε (StateM τ) α}
    {f : ε → ExceptT ε (StateM σ) α} {g : ε → ExceptT ε (StateM τ) α} (hx : Carried φ x y)
    (hf : ∀ e, Carried φ (f e) (g e)) : Carried φ (tryCatch x f) (tryCatch y g) := by
  intro s
  have hy := hx s
  rcases h : x s with ⟨e | a, s'⟩
  · rw [h] at hy
    rw [tryCatch_error h, tryCatch_error hy]
    exact hf e s'
  · rw [h] at hy
    rw [tryCatch_ok h, tryCatch_ok hy]

end Carried

end Effects

/-! ## Results without effects -/

/-- The result, if it is one, satisfies `Q`. -/
def Yields {ε α : Type} (Q : α → Prop) (x : Except ε α) : Prop := ∀ a, x = .ok a → Q a

namespace Yields

variable {ε α β : Type} {Q : α → Prop} {R : β → Prop}

theorem ok {a : α} (h : Q a) : Yields Q (.ok a : Except ε α) := by
  rintro _ ⟨⟩
  exact h

theorem error {e : ε} : Yields Q (.error e : Except ε α) := by
  rintro _ ⟨⟩

theorem bind {x : Except ε α} {f : α → Except ε β} (hx : Yields Q x)
    (hf : ∀ a, Q a → Yields R (f a)) : Yields R (x >>= f) := by
  intro b h
  cases x with
  | error e => cases h
  | ok a => exact hf a (hx a rfl) b h

/-- What follows a step decides, where nothing is known of the step. -/
theorem after {x : Except ε α} {f : α → Except ε β} (hf : ∀ a, Yields R (f a)) :
    Yields R (x >>= f) :=
  bind (fun _ _ => trivial : Yields (fun _ => True) x) fun a _ => hf a

theorem map {x : Except ε α} {f : α → β} (hf : ∀ a, R (f a)) : Yields R (x.map f) := by
  intro b h
  cases x with
  | error e => cases h
  | ok a => cases h; exact hf a

end Yields

namespace EvalM

variable {ω α β : Type}

theorem ofExcept_ok (a : α) : (.ofExcept (.ok a) : EvalM ω α) = pure a := rfl

theorem ofExcept_bind (x : Except Fault α) (g : α → Except Fault β) :
    (.ofExcept (x >>= g) : EvalM ω β) = .ofExcept x >>= fun a => .ofExcept (g a) := by
  cases x with
  | error f => rfl
  | ok a => rfl

/-- A result that is worked out without effects changes nothing outside. -/
theorem ofExcept_apply_ok {x : Except Fault α} {a : α} {o o' : Outside ω} :
    (.ofExcept x : EvalM ω α) o = (.ok a, o') ↔ x = .ok a ∧ o' = o := by
  cases x with
  | error f =>
    constructor
    · intro h; cases h
    · rintro ⟨⟨⟩, _⟩
  | ok b =>
    constructor
    · intro h; cases h; exact ⟨rfl, rfl⟩
    · rintro ⟨⟨⟩, rfl⟩; rfl

/-- An act changes the world alone. -/
theorem act_apply (f : ω → α × ω) (o : Outside ω) :
    EvalM.act f o = (.ok (f o.world).1, { o with world := (f o.world).2 }) := rfl

/-- From a world that satisfies `J`, the evaluation leads to a world that does, and the value it
gives, if any, satisfies `Q`. -/
def Holds (J : ω → Prop) (Q : α → Prop) (x : EvalM ω α) : Prop :=
  ∀ o : Outside ω, J o.world → J (x o).2.world ∧ ∀ a, (x o).1 = .ok a → Q a

variable {J : ω → Prop} {Q : α → Prop} {R : β → Prop}

namespace Holds

theorem pure {a : α} (h : Q a) : Holds J Q (pure a) := by
  intro o ho
  refine ⟨ho, fun a' ha => ?_⟩
  cases ha
  exact h

theorem stop {stop : Stop} : Holds J Q (throw stop) := by
  intro o ho
  exact ⟨ho, fun a ha => by cases ha⟩

theorem bind {x : EvalM ω α} {f : α → EvalM ω β} (hx : Holds J Q x)
    (hf : ∀ a, Q a → Holds J R (f a)) : Holds J R (x >>= f) := by
  intro o ho
  obtain ⟨hJ, hval⟩ := hx o ho
  cases h : x o with
  | mk r o' =>
    rw [h] at hJ hval
    cases r with
    | error stop =>
      rw [Effects.bind_error h]
      exact ⟨hJ, fun a ha => by cases ha⟩
    | ok a =>
      rw [Effects.bind_ok h]
      exact hf a (hval a rfl) o' hJ

theorem ofExcept {x : Except Fault α} (h : Yields Q x) : Holds J Q (EvalM.ofExcept x) := by
  cases x with
  | ok a => exact pure (h a rfl)
  | error f => exact stop

theorem note {r : LogRecord} : Holds J (fun _ => True) (EvalM.note r) :=
  fun _ ho => ⟨ho, fun _ _ => trivial⟩

theorem act {f : ω → α × ω} (h : ∀ w, J w → J (f w).2) :
    Holds J (fun _ => True) (EvalM.act f) := by
  intro o ho
  rw [act_apply]
  exact ⟨h o.world ho, fun _ _ => trivial⟩

theorem ofRun {f : ω → Except Shell.RunError α × ω} (h : ∀ w, J w → J (f w).2) :
    Holds J (fun _ => True) (EvalM.ofRun f) := by
  refine bind (act h) fun r _ => ?_
  cases r with
  | ok a => exact pure trivial
  | error e => exact stop

/-- Without demands on world and value, every evaluation will do. -/
theorem any {x : EvalM ω α} : Holds (fun _ => True) (fun _ => True) x :=
  fun _ _ => ⟨trivial, fun _ _ => trivial⟩

end Holds

end EvalM

/-- A host on which every command succeeds without output and every sink takes all. -/
def Host.silent : Host Unit where
  shell := "/bin/sh"
  start _ _ w := (.ok ⟨[], .exited 0⟩, w)
  write _ _ w := (none, w)
  flush _ w := (none, w)

end Tilde
