import Mathlib.Data.List.Forall2
import Tilde.Namespace
import Tilde.Proofs.Interpretation.Statement
import Tilde.Proofs.Traps.Access
import Tilde.Proofs.Traps.Call
import Tilde.Proofs.Traps.Parser
import Tilde.Run

/-!
# Running a program without traps

The last act that has accesses of its own is the binding of a target. With it, no program comes to a
trap, from its text to the end of its run.

## Binding targets

Where a sequence of targets has a star, the machine computes how many targets come after it, cuts the
items at two places and the targets at the star, and binds the three parts one after the other. The
number of items has been tested against the number of targets without the star, and the star is one
of the targets, so each of these places is there.

The targets of a sequence are cut as the acts that bind them (`binders`), so that the recursion
follows the target.
-/

namespace Tilde.Checked

/-- Binding one value. -/
abbrev Binder := Value → CheckedM Fault Namespace Unit

/-- Binds values, one to each target. -/
def bindEach : List Binder → List Value → CheckedM Fault Namespace Unit
  | bind :: binds, v :: vs => do
    bind v
    bindEach binds vs
  | _, _ => return ()

/-- Binds items to a sequence of targets with a star at the given place. -/
def bindAround (star : Nat) (binds : List Binder) (items : List Value) :
    CheckedM Fault Namespace Unit := do
  let rest ← .access (Access.minus binds.length star)
  let after ← .access (Access.minus rest 1)
  if items.length < star + after then throw (.tooFewForStar (star + after) items.length)
  else
    let (items, tail) ← .access (do Access.cut items (← Access.minus items.length after))
    let (items, middle) ← .access (Access.cut items star)
    let (front, _) ← .access (Access.cut binds star)
    bindEach front items
    let bind ← .access (Access.item binds star)
    bind (.list middle)
    let (_, back) ← .access (Access.cut binds (star + 1))
    bindEach back tail

/-- Binds items to a sequence of targets, given where its star is. -/
def bindItems (star : Option Nat) (binds : List Binder) (items : List Value) :
    CheckedM Fault Namespace Unit :=
  match star with
  | some star => bindAround star binds items
  | none =>
    if items.length < binds.length then throw (.tooFewItems binds.length items.length)
    else if binds.length < items.length then throw (.tooManyItems binds.length)
    else bindEach binds items

mutual

/-- Binds a value. -/
def assign : Target → Binder
  | .name n, v => .plain (BindM.setName n v)
  | .star n, v =>
    match v.items? with
    | some items => .plain (BindM.setName n (.list items))
    | none => throw (.notIterable v.type)
  | .sequence targets, v =>
    match v.items? with
    | none => throw (.notUnpackable v.type)
    | some items => bindItems (targets.findIdx? Target.isStar) (binders targets) items

/-- The acts that bind the targets of a sequence. -/
def binders : List Target → List Binder
  | [] => []
  | t :: ts => (fun v => assign t v) :: binders ts

end

/-! ### No trap -/

/-- The acts bind the targets, without a trap. -/
def Assigns (binds : List Binder) (targets : List Target) : Prop :=
  List.Forall₂ (fun bind t => ∀ v, Untrapped (bind v) (t.bind v)) binds targets

theorem bindEach_ok {binds : List Binder} {targets : List Target} (h : Assigns binds targets)
    (vs : List Value) : Untrapped (bindEach binds vs) (Target.bindAll targets vs) := by
  induction h generalizing vs with
  | nil => exact .pure ()
  | cons hbind _ ih =>
    cases vs with
    | nil => exact .pure ()
    | cons v vs => exact .bind (hbind v) fun _ => ih vs

theorem bindAll_append {ts : List Target} {vs : List Value} (h : ts.length = vs.length)
    (ts' : List Target) (vs' : List Value) :
    Target.bindAll (ts ++ ts') (vs ++ vs') =
      (Target.bindAll ts vs >>= fun _ => Target.bindAll ts' vs') := by
  induction ts generalizing vs with
  | nil =>
    cases List.length_eq_zero_iff.mp h.symm
    rfl
  | cons t ts ih =>
    obtain _ | ⟨v, vs⟩ := vs
    · cases h
    · rw [List.cons_append, List.cons_append, Target.bindAll, Target.bindAll, bind_assoc,
        ih (Nat.succ.inj h)]

/-- Binding around a star is binding what is in front of it, it, and what is behind it. -/
theorem bindAll_around {targets : List Target} {star : Nat} {t : Target}
    (ht : targets[star]? = some t) {front : List Value} (hfront : front.length = star) (v : Value)
    (back : List Value) :
    Target.bindAll targets (front ++ v :: back) =
      (do
        Target.bindAll (targets.take star) front
        t.bind v
        Target.bindAll (targets.drop (star + 1)) back) := by
  obtain ⟨hlt, hget⟩ := List.getElem?_eq_some_iff.mp ht
  have hparts : targets = targets.take star ++ t :: targets.drop (star + 1) := by
    rw [← hget, List.getElem_cons_drop, List.take_append_drop]
  have hlength : (targets.take star).length = front.length := by
    rw [List.length_take, hfront]
    omega
  calc Target.bindAll targets (front ++ v :: back)
      = Target.bindAll (targets.take star ++ t :: targets.drop (star + 1)) (front ++ v :: back) := by
        rw [← hparts]
    _ = _ := by rw [bindAll_append hlength, Target.bindAll]

/-- Binds the parts of items, as far as the targets can have them. -/
def bindParts (targets : List Target) (items : List Value) : BindM Unit :=
  match Target.distribute targets items with
  | .error f => throw f
  | .ok parts => Target.bindAll targets parts

/-- **All places at which items and targets are cut are there**, since the star is one of the targets
and there are enough items for the others. -/
theorem bindAround_ok {binds : List Binder} {targets : List Target} (h : Assigns binds targets)
    {star : Nat} (hstar : targets.findIdx? Target.isStar = some star) (items : List Value) :
    Untrapped (bindAround star binds items) (bindParts targets items) := by
  obtain ⟨hlt, -⟩ := List.findIdx?_eq_some_iff_getElem.mp hstar
  have hlength : binds.length = targets.length := h.length_eq
  have hbound : star < binds.length := hlength ▸ hlt
  unfold bindAround bindParts Target.distribute
  rw [hlength, hstar, Access.minus_ok (Nat.le_of_lt hlt), CheckedM.access_ok, pure_bind,
    Access.minus_ok (by omega), CheckedM.access_ok, pure_bind]
  dsimp only
  generalize hafter : targets.length - star - 1 = after
  by_cases hfew : items.length < star + after
  · rw [if_pos hfew, if_pos hfew]
    exact .throw _
  · -- the machine cuts the tail off first, and then the middle off what is left
    generalize hmiddle : items.length - star - after = middle
    have hhead : items.length - after = star + middle := by omega
    have hfront : (items.take (star + middle)).take star = items.take star := by
      rw [List.take_take, Nat.min_eq_left (Nat.le_add_right ..)]
    have hstarItems : (items.take star).length = star := by
      rw [List.length_take]
      omega
    have hcutItems : (do Access.cut items (← Access.minus items.length after))
        = .ok (items.take (star + middle), items.drop (star + middle)) := by
      rw [Access.minus_ok (by omega), hhead]
      exact Access.cut_ok (by omega)
    have hcutMiddle : Access.cut (items.take (star + middle)) star
        = .ok (items.take star, (items.drop star).take middle) := by
      rw [Access.cut_ok (by rw [List.length_take]; omega), hfront, List.take_drop]
    rw [if_neg hfew, if_neg hfew, hcutItems, CheckedM.access_ok, pure_bind, hcutMiddle,
      CheckedM.access_ok, pure_bind, Access.cut_ok (Nat.le_of_lt hbound), CheckedM.access_ok,
      pure_bind, Access.item_ok (List.getElem?_eq_getElem hbound)]
    dsimp only
    rw [bindAll_around (List.getElem?_eq_getElem hlt) hstarItems]
    refine .bind (bindEach_ok (List.forall₂_take star h) _) fun _ => ?_
    rw [CheckedM.access_ok, pure_bind, Access.cut_ok hbound, CheckedM.access_ok]
    exact .bind (List.Forall₂.get h hbound hlt _) fun _ =>
      bindEach_ok (List.forall₂_drop (star + 1) h) _

/-- Binding the parts of items comes to no trap. -/
theorem bindItems_ok {binds : List Binder} {targets : List Target} (h : Assigns binds targets)
    (items : List Value) :
    Untrapped (bindItems (targets.findIdx? Target.isStar) binds items)
      (bindParts targets items) := by
  cases hstar : targets.findIdx? Target.isStar with
  | some star => exact bindAround_ok h hstar items
  | none =>
    have hlength : binds.length = targets.length := h.length_eq
    unfold bindItems bindParts Target.distribute
    rw [hstar, hlength]
    dsimp only
    by_cases hfew : items.length < targets.length
    · rw [if_pos hfew, if_pos hfew]
      exact .throw _
    · by_cases hmany : targets.length < items.length
      · rw [if_neg hfew, if_neg hfew, if_pos hmany, if_pos hmany]
        exact .throw _
      · rw [if_neg hfew, if_neg hfew, if_neg hmany, if_neg hmany]
        exact bindEach_ok h items

mutual

/-- **Targets are bound without a trap.** -/
theorem assign_ok : ∀ (t : Target) (v : Value), Untrapped (assign t v) (t.bind v)
  | .name n, v => by
    rw [assign, Target.bind]
    exact .plain _
  | .star n, v => by
    rw [assign, Target.bind]
    cases v.items? with
    | none => exact .throw _
    | some items => exact .plain _
  | .sequence targets, v => by
    rw [assign, Target.bind]
    cases v.items? with
    | none => exact .throw _
    | some items => exact bindItems_ok (binders_ok targets) items

theorem binders_ok : ∀ ts : List Target, Assigns (binders ts) ts
  | [] => .nil
  | t :: ts => .cons (assign_ok t) (binders_ok ts)

end

end Tilde.Checked

/-!
## No program comes to a trap

A source text is cut into tokens, parsed, expanded and executed. Expanding its shell literals has no
access that could fail. Execution is made of operations and actions, and so is its meaning with the
accesses of each of them. As they come to no trap one by one, no execution of a program does, however
the program is put together, and the run of a source text comes to what it would come to if there
were no traps.
-/

namespace Tilde

variable {ω : Type}

/-! ### Expressions -/

/-- The operations of a host with their accesses. -/
def Operations.checked (host : Host ω) (ns : Namespace) :
    Operations (CheckedM Stop (Outside ω)) where
  enter _ := return ()
  find name := .ofChecked (.of (ns.find name))
  star := throw (.fault .misplacedStar)
  unary op v := .ofChecked (Checked.unary op v)
  binary op a b := .ofChecked (Checked.binary op a b)
  compared op a b := .ofChecked (.of (Value.compared op a b))
  attributeOf v name := .ofChecked (.of (v.attribute name))
  itemAt v index := .ofChecked (Checked.itemAt v index)
  format v spec := .ofChecked (Checked.format v spec)
  call f args := Checked.callWith host f args

/-- **No operation comes to a trap.** -/
theorem Operations.checked_untrapped (host : Host ω) (ns : Namespace) :
    (checked host ns).Related Untrapped (ofHost host ns) where
  pure := .pure
  bind := .bind
  enter _ := .pure ()
  find _ := .ofChecked rfl
  star := .throw _
  unary op v := .ofChecked (Checked.unary_ok op v)
  binary op a b := .ofChecked (Checked.binary_ok op a b)
  compared _ _ _ := .ofChecked rfl
  attributeOf _ _ := .ofChecked rfl
  itemAt v index := .ofChecked (Checked.itemAt_ok v index)
  format v spec := .ofChecked (Checked.format_ok v spec)
  call f args := Checked.callWith_ok host f args

/-! ### Statements -/

namespace Checked

variable {α : Type}

/-- Evaluates for a statement on the given line. -/
def evalAt (line : Nat) (x : Namespace → CheckedM Stop (Outside ω) α) :
    CheckedM Halt (Machine ω) α := fun m => do
  let (result, outside) ← x m.vars m.outside
  return (result.mapError (ExecM.halted line), { m with outside })

/-- Binds a value for a statement on the given line. -/
def bindAt (line : Nat) (target : Target) (v : Value) : CheckedM Halt (Machine ω) Unit := fun m => do
  let (result, vars) ← assign target v m.vars
  return (result.mapError (.fault line), { m with vars })

/-- Shows the value of an expression statement, if it has one to show. -/
def echo (host : Host ω) (v : Value) : CheckedM Stop (Outside ω) Unit :=
  match v with
  | .none => return ()
  | v => do
    let s ← .access (repr v)
    .plain (EvalM.write host [s, "\n"])

theorem evalAt_ok (line : Nat) {x : Namespace → CheckedM Stop (Outside ω) α}
    {y : Namespace → EvalM ω α} (h : ∀ ns, Untrapped (x ns) (y ns)) :
    Untrapped (evalAt line x) (ExecM.evalAt line y) := by
  intro m
  rw [evalAt, h, ExecM.evalAt_apply]
  rfl

theorem bindAt_ok (line : Nat) (target : Target) (v : Value) :
    Untrapped (bindAt line target v) (ExecM.bindAt line target v : ExecM ω Unit) := by
  intro m
  rw [bindAt, assign_ok, ExecM.bindAt_apply]
  rfl

theorem echo_ok (host : Host ω) (v : Value) : Untrapped (echo host v) (Tilde.echo host v) := by
  unfold echo Tilde.echo
  cases v with
  | none => exact .pure ()
  | _ =>
    dsimp only
    rw [repr_ok, CheckedM.access_ok, pure_bind]
    exact .plain _

end Checked

/-- The actions of a run with their accesses. -/
def Actions.checked (run : Run ω) : Actions (CheckedM Halt (Machine ω)) where
  enter _ := return ()
  eval line e := Checked.evalAt line fun ns => e.interpret (.checked run.host ns)
  text v := .access (Checked.text v)
  present line v :=
    if run.mode = .interactive then Checked.evalAt line fun _ => Checked.echo run.host v
    else return ()
  bind := Checked.bindAt
  halt := throw
  guarded := tryCatch
  take h name := .plain (modify fun m => m.handling h name)
  budget := run.budget

/-- **No action comes to a trap.** -/
theorem Actions.checked_untrapped (run : Run ω) :
    (checked run).Related (fun _ => True) Untrapped (ofRun run) where
  pure := .pure
  bind := .bind
  enter _ := .pure ()
  eval line e := Checked.evalAt_ok line fun ns =>
    e.interpret_related (Operations.checked_untrapped run.host ns)
  text v := by
    intro m
    simp only [checked, Checked.text_ok]
    rfl
  present line v := related_ite (Checked.evalAt_ok line fun _ => Checked.echo_ok run.host v) (.pure ())
  bindTarget := Checked.bindAt_ok
  halt h := .throw h
  guarded hx hf _ := .guarded hx hf
  take _ _ := .plain _
  budget := rfl

/-! ### Source texts -/

/-- Executes the statements of a program with their accesses. -/
def Checked.execProgram (run : Run ω) (body : List Stmt) : CheckedM Halt (Machine ω) Unit :=
  interpretProgram (.checked run) body

/-- Runs a source text with its accesses. -/
def Checked.runSource (trapped : Trap → ParseFault) (host : Host ω) (budget : Nat) (source : String)
    (mode : Mode) (m : Machine ω) : Except Trap (Except RunError Unit × Machine ω) := do
  match ← (Checked.parse trapped source mode).run with
  | .error e => return (.error (.unparsable e), m)
  | .ok p =>
    let start := m.logged (p.notes ++ [.expanded p.literalCount])
    let (result, m) ← execProgram ⟨host, p.expand.mode, budget⟩ p.expand.body start
    return (result.mapError .halted, m)

/-- Executing a program comes to no trap. -/
theorem Checked.execProgram_ok (run : Run ω) (body : List Stmt) :
    Untrapped (execProgram run body) (Tilde.execProgram run body) := by
  rw [← interpretProgram_ofRun]
  exact interpretProgram_related (Actions.checked_untrapped run) body (asksBody_any body)

/-- **No program comes to a trap.** Cutting any text into tokens, parsing it, calling any function or
method with any arguments, executing any program from any machine, and running any source text comes
to a result or to an error of the language, the same as without accesses that could fail. -/
theorem no_program_traps (host : Host ω) :
    (∀ source, Checked.tokenize source = .of (tokenize source))
    ∧ (∀ trapped source mode, Checked.parse trapped source mode = .of (parse source mode))
    ∧ (∀ f args, Untrapped (Checked.callWith host f args) (f.callWith host args))
    ∧ (∀ run : Run ω, ∀ body, Untrapped (Checked.execProgram run body) (execProgram run body))
    ∧ ∀ trapped budget source mode m,
      Checked.runSource trapped host budget source mode m = .ok (runSource host budget source mode m) := by
  refine ⟨Checked.tokenize_ok, Checked.parse_ok, Checked.callWith_ok host, Checked.execProgram_ok,
    fun trapped budget source mode m => ?_⟩
  unfold Checked.runSource runSource
  rw [Checked.parse_ok]
  cases parse source mode with
  | error e => rfl
  | ok p =>
    have hexec := Checked.execProgram_ok ⟨host, p.expand.mode, budget⟩ p.expand.body
      (m.logged (p.notes ++ [.expanded p.literalCount]))
    dsimp only [Checked.of, ExceptT.run, ExceptT.mk, bind, Except.bind]
    rw [hexec]
    rfl

end Tilde
