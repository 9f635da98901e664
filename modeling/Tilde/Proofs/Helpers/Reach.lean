import Tilde.Proofs.Expansion.Identity
import Tilde.Proofs.Helpers.Confined
import Tilde.Run

/-!
# The helpers stay out of reach

Whatever sequence of source texts has been run, in a namespace that started out fresh, the seal is
intact after every statement that is executed, at any depth. So a program that expands no literal
starts no command: the only functions that start one are helpers, and it has no way to come by one.

The execution of a text visits many machines. `Reaches` says which: a statement is executed from a
machine in the course of executing a larger piece of program from an earlier one. The seal is kept by
every step from a piece to its parts, and by every statement as a whole.
-/

namespace Tilde

variable {ω : Type}

open ExecM

/-! ## Confined statements keep the seal -/

section Statements

variable {J : ω → Prop} {commands : Prop}

/-- An execution that keeps namespaces sealed, and the world as `J` says. -/
abbrev KeepsSeal (J : ω → Prop) {α : Type} (Q : α → Prop) (x : ExecM ω α) : Prop :=
  Agree Namespace.Sealed J Q x x

theorem keepsSeal_eval {run : Run ω} (hhost : run.host.Keeps J commands) (line : Nat) {e : Expr}
    (h : e.Confined commands) : KeepsSeal J Value.Clean (.evalAt line (e.eval run.host)) :=
  .evalAt (fun _ _ => rfl) fun _ hns => holds_eval hns hhost e h

theorem holds_echo {host : Host ω} (hhost : host.Keeps J commands) (v : Value) :
    (echo host v).Holds J fun _ => True := by
  cases v with
  | none => exact .pure trivial
  | _ => exact holds_write hhost _

mutual

/-- **A confined statement keeps the seal.** -/
theorem exec_keepsSeal {run : Run ω} (hhost : run.host.Keeps J commands) :
    ∀ s : Stmt, s.Confined commands → KeepsSeal J (fun _ => True) (s.exec run)
  | .evaluate line e, h => by
    refine .bind (Q := fun _ => True) (.evalAt (fun _ _ => rfl) fun ns hns => ?_) fun _ _ =>
      .pure trivial
    refine .bind (holds_eval hns hhost e h) fun v _ => ?_
    split
    · exact holds_echo hhost v
    · exact .pure trivial
  | .assign line target e, h =>
    .bind (keepsSeal_eval hhost line h.2) fun _ hv =>
      .bind (.bindAt settable_sealed h.1 hv) fun _ _ => .pure trivial
  | .assert line test message, h => by
    refine .bind (Q := fun _ => True) (.evalAt (fun _ _ => rfl) fun ns hns => ?_) fun _ _ =>
      .pure trivial
    refine .bind (holds_eval hns hhost test h.1) fun v _ => ?_
    split
    · cases message with
      | none => exact .stop
      | some e => exact .bind (holds_eval hns hhost e (h.2 e rfl)) fun _ _ => .stop
    · exact .pure trivial
  | .pass _, _ | .breakLoop _, _ | .continueLoop _, _ => .pure trivial
  | .branch line test body orelse, h =>
    .bind (keepsSeal_eval hhost line h.1) fun _ _ =>
      .ite (execBody_keepsSeal hhost body h.2.1) (execBody_keepsSeal hhost orelse h.2.2)
  | .whileLoop line test body, h =>
    .bind
      (.whileLoop (.bind (keepsSeal_eval hhost line h.1) fun _ _ => .pure trivial)
        (execBody_keepsSeal hhost body h.2) run.budget)
      fun _ _ => .pure trivial
  | .forEach line target items body, h => by
    refine .bind (keepsSeal_eval hhost line h.2.1) fun v hv => ?_
    cases hvs : v.items? with
    | none => exact .throw
    | some vs =>
      refine .bind (.forEach (fun w hw => ?_) (execBody_keepsSeal hhost body h.2.2)) fun _ _ =>
        .pure trivial
      -- the items of a clean value are clean
      exact .bindAt settable_sealed h.1 (clean_of_items hv hvs w hw)
  | .attempt _ body handlers, h =>
    .attempt (execBody_keepsSeal hhost body h.1) (execHandlers_keepsSeal hhost handlers h.2)

theorem execBody_keepsSeal {run : Run ω} (hhost : run.host.Keeps J commands) :
    ∀ ss : List Stmt, confinedBody commands ss →
      KeepsSeal J (fun _ => True) (execBody run ss)
  | [], _ => .pure trivial
  | s :: ss, h => by
    refine .bind (exec_keepsSeal hhost s h.1) fun flow _ => ?_
    cases flow with
    | next => exact execBody_keepsSeal hhost ss h.2
    | leave | «repeat» => exact .pure trivial

theorem execHandlers_keepsSeal {run : Run ω} (hhost : run.host.Keeps J commands) :
    ∀ hs : List Handler, confinedHandlers commands hs → ∀ halt : Halt,
      KeepsSeal J (fun _ => True) ((execHandlers run hs halt).getD (throw halt))
  | [], _, _ => .throw
  | .mk kind name body :: hs, h, halt => by
    by_cases htaken : halt.takenBy kind = true
    · exact .handler settable_sealed h.1 (execHandlers_taken htaken) (execHandlers_taken htaken)
        (execBody_keepsSeal hhost body h.2.1)
    · rw [execHandlers, if_neg htaken]
      exact execHandlers_keepsSeal hhost hs h.2.2 halt

end

theorem execProgram_keepsSeal {run : Run ω} (hhost : run.host.Keeps J commands) {ss : List Stmt}
    (h : confinedBody commands ss) : KeepsSeal J (fun _ => True) (execProgram run ss) := by
  induction ss with
  | nil => exact .pure trivial
  | cons s ss ih =>
    refine .bind (exec_keepsSeal hhost s h.1) fun flow _ => ?_
    cases flow with
    | next => exact ih h.2
    | leave | «repeat» => exact .throw

end Statements

/-! ## The statements that an execution comes to -/

/-- A piece of program with what is left to do of it. -/
inductive Task where
  | stmt (s : Stmt)
  | body (ss : List Stmt)
  /-- The rounds that are left of a loop. -/
  | rounds (line : Nat) (test : Expr) (body : List Stmt) (budget : Nat)
  /-- The items that are left of a loop. -/
  | items (line : Nat) (target : Target) (vs : List Value) (body : List Stmt)
  /-- The handlers that are left to ask about a halt. -/
  | handlers (hs : List Handler) (halt : Halt)

/-- Executing the task from a machine comes to executing the statement from another machine. -/
inductive Reaches (run : Run ω) : Task → Machine ω → Stmt → Machine ω → Prop
  | here (s : Stmt) (m : Machine ω) : Reaches run (.stmt s) m s m
  | head {s ss m t m'} : Reaches run (.stmt s) m t m' → Reaches run (.body (s :: ss)) m t m'
  | tail {s ss m m₁ t m'} : s.exec run m = (.ok .next, m₁) → Reaches run (.body ss) m₁ t m' →
      Reaches run (.body (s :: ss)) m t m'
  | branch {line test body orelse m v m₁ t m'} :
      evalAt line (test.eval run.host) m = (.ok v, m₁) →
      Reaches run (.body (if v.truthy then body else orelse)) m₁ t m' →
      Reaches run (.stmt (.branch line test body orelse)) m t m'
  | whileLoop {line test body m t m'} : Reaches run (.rounds line test body run.budget) m t m' →
      Reaches run (.stmt (.whileLoop line test body)) m t m'
  | round {line test body budget m v m₁ t m'} :
      evalAt line (test.eval run.host) m = (.ok v, m₁) → v.truthy = true →
      Reaches run (.body body) m₁ t m' →
      Reaches run (.rounds line test body (budget + 1)) m t m'
  | nextRound {line test body budget m v m₁ flow m₂ t m'} :
      evalAt line (test.eval run.host) m = (.ok v, m₁) → v.truthy = true →
      execBody run body m₁ = (.ok flow, m₂) → flow ≠ .leave →
      Reaches run (.rounds line test body budget) m₂ t m' →
      Reaches run (.rounds line test body (budget + 1)) m t m'
  | forEach {line target items body m v vs m₁ t m'} :
      evalAt line (items.eval run.host) m = (.ok v, m₁) → v.items? = some vs →
      Reaches run (.items line target vs body) m₁ t m' →
      Reaches run (.stmt (.forEach line target items body)) m t m'
  | item {line target v vs body m m₁ t m'} : bindAt line target v m = (.ok (), m₁) →
      Reaches run (.body body) m₁ t m' →
      Reaches run (.items line target (v :: vs) body) m t m'
  | nextItem {line target v vs body m m₁ flow m₂ t m'} :
      bindAt line target v m = (.ok (), m₁) →
      execBody run body m₁ = (.ok flow, m₂) → flow ≠ .leave →
      Reaches run (.items line target vs body) m₂ t m' →
      Reaches run (.items line target (v :: vs) body) m t m'
  | guarded {line body handlers m t m'} : Reaches run (.body body) m t m' →
      Reaches run (.stmt (.attempt line body handlers)) m t m'
  | halted {line body handlers m halt m₁ t m'} :
      execBody run body m = (.error halt, m₁) →
      Reaches run (.handlers handlers halt) m₁ t m' →
      Reaches run (.stmt (.attempt line body handlers)) m t m'
  | handler {kind name body hs halt m t m'} : halt.takenBy kind = true →
      Reaches run (.body body) (m.handling halt name) t m' →
      Reaches run (.handlers (.mk kind name body :: hs) halt) m t m'
  | nextHandler {kind name body hs halt m t m'} : halt.takenBy kind = false →
      Reaches run (.handlers hs halt) m t m' →
      Reaches run (.handlers (.mk kind name body :: hs) halt) m t m'

section Reaching

variable {run : Run ω} {J : ω → Prop} {commands : Prop}

/-- What is left to do of the task is confined, and what is left to bind is clean. -/
def Task.Confined (commands : Prop) : Task → Prop
  | .stmt s => s.Confined commands
  | .body ss => confinedBody commands ss
  | .rounds _ test ss _ => test.Confined commands ∧ confinedBody commands ss
  | .items _ target vs ss =>
    target.Spells Bindable ∧ (∀ v ∈ vs, v.Clean) ∧ confinedBody commands ss
  | .handlers hs _ => confinedHandlers commands hs

/-- A machine that an execution leads to is within what the execution keeps. -/
theorem KeepsSeal.within {α : Type} {Q : α → Prop} {x : ExecM ω α} {m m' : Machine ω}
    {r : Except Halt α} (h : KeepsSeal J Q x) (hm : Within Namespace.Sealed J m)
    (hx : x m = (r, m')) : Within Namespace.Sealed J m' := by
  have := (h m hm).2.1
  rwa [hx] at this

/-- **Where a confined execution comes to a statement, the seal is intact.** -/
theorem reaches_sealed (hhost : run.host.Keeps J commands) {task : Task} {m m' : Machine ω}
    {t : Stmt} (h : Reaches run task m t m') (htask : task.Confined commands)
    (hm : Within Namespace.Sealed J m) : t.Confined commands ∧ Within Namespace.Sealed J m' := by
  have heval : ∀ {line : Nat} {e : Expr} {m m₁ : Machine ω} {v : Value}, e.Confined commands →
      Within Namespace.Sealed J m →
      evalAt line (e.eval run.host) m = (.ok v, m₁) → v.Clean ∧ Within Namespace.Sealed J m₁ := by
    intro line e m m₁ v he hm heq
    have hkeeps := keepsSeal_eval hhost line he
    exact ⟨(hkeeps m hm).2.2 v (by rw [heq]), hkeeps.within hm heq⟩
  -- each step leads to a part of the task, and the machine it leads to is sealed by what was run
  induction h with
  | here s m => exact ⟨htask, hm⟩
  | head _ ih => exact ih htask.1 hm
  | tail hs _ ih => exact ih htask.2 ((exec_keepsSeal hhost _ htask.1).within hm hs)
  | @branch _ _ _ _ _ v _ _ _ htest _ ih =>
    refine ih ?_ (heval htask.1 hm htest).2
    cases v.truthy
    · exact htask.2.2
    · exact htask.2.1
  | whileLoop _ ih => exact ih htask hm
  | round htest _ _ ih => exact ih htask.2 (heval htask.1 hm htest).2
  | nextRound htest _ hbody _ _ ih =>
    have hm₁ := (heval htask.1 hm htest).2
    exact ih htask ((execBody_keepsSeal hhost _ htask.2).within hm₁ hbody)
  | forEach hitems hvs _ ih =>
    obtain ⟨hv, hm₁⟩ := heval htask.2.1 hm hitems
    exact ih ⟨htask.1, clean_of_items hv hvs, htask.2.2⟩ hm₁
  | item hbind _ ih =>
    have hv := htask.2.1 _ (List.mem_cons_self ..)
    exact ih htask.2.2 (KeepsSeal.within (.bindAt settable_sealed htask.1 hv) hm hbind)
  | nextItem hbind hbody _ _ ih =>
    have hv := htask.2.1 _ (List.mem_cons_self ..)
    have hm₁ := KeepsSeal.within (.bindAt settable_sealed htask.1 hv) hm hbind
    refine ih ⟨htask.1, fun w hw => htask.2.1 w (List.mem_cons_of_mem _ hw), htask.2.2⟩ ?_
    exact (execBody_keepsSeal hhost _ htask.2.2).within hm₁ hbody
  | guarded _ ih => exact ih htask.1 hm
  | halted hbody _ ih =>
    exact ih htask.2 ((execBody_keepsSeal hhost _ htask.1).within hm hbody)
  | handler _ _ ih => exact ih htask.2.1 (hm.handling settable_sealed htask.1)
  | nextHandler _ _ ih => exact ih htask.2.2 hm

end Reaching

/-! ## Sequences of source texts -/

/-- A namespace that started out fresh and against which any texts have been run, one after the
other, each in a world of its own, with its shell literals expanded or as they are. -/
inductive Lived : Namespace → Prop
  | fresh : Lived .fresh
  | withArgs (args : List String) : Lived (.withArgs args)
  | expanded {ω : Type} (host : Host ω) (budget : Nat) (source : String) (mode : Mode)
      (m : Machine ω) : Lived m.vars → Lived (runSource host budget source mode m).2.vars
  | plain {ω : Type} (host : Host ω) (budget : Nat) (source : String) (mode : Mode)
      (m : Machine ω) : Lived m.vars → Lived (runPlain host budget source mode m).2.vars

/-- A parsed program is confined, expanded or not. -/
theorem confined_parse {source : String} {mode : Mode} {p q : Program}
    (hp : parse source mode = .ok p) (hq : q = p ∨ q = p.expand) : confinedBody True q.body := by
  have hspells := parse_spells hp
  rcases hq with rfl | rfl
  · exact confinedBody_of_spells q.body hspells
  · exact confinedBody_expand trivial p.body hspells

/-- The variables are sealed whatever texts have been run. -/
theorem Lived.sealed {ns : Namespace} (h : Lived ns) : ns.Sealed := by
  have hrun : ∀ {ω : Type} {host : Host ω} {budget : Nat} {source mode} {p q : Program}
      {m : Machine ω}, parse source mode = .ok p → q = p ∨ q = p.expand → m.vars.Sealed →
      (q.run host budget m).2.vars.Sealed := by
    intro ω host budget source mode p q m hp hq hm
    have hkeeps : KeepsSeal _ _ (execProgram ⟨host, q.mode, budget⟩ q.body) :=
      execProgram_keepsSeal host.keepsAnything (confined_parse hp hq)
    exact (hkeeps m ⟨hm, trivial⟩).2.1.1
  induction h with
  | fresh => exact sealed_fresh
  | withArgs args => exact sealed_withArgs args
  | expanded host budget source mode m _ ih =>
    unfold runSource
    cases hp : parse source mode with
    | error e => exact ih
    | ok p => exact hrun hp (.inr rfl) ih
  | plain host budget source mode m _ ih =>
    unfold runPlain
    cases hp : parse source mode with
    | error e => exact ih
    | ok p => exact hrun hp (.inl rfl) ih

/-- A host that also lists the commands it starts, the last of them first. -/
def Host.journaling (host : Host ω) : Host (ω × List (Wiring × String)) where
  shell := host.shell
  start wiring command w :=
    let (result, w') := host.start wiring command w.1
    (result, w', (wiring, command) :: w.2)
  write sink text w :=
    let (error, w') := host.write sink text w.1
    (error, w', w.2)
  flush sink w :=
    let (error, w') := host.flush sink w.1
    (error, w', w.2)

theorem Host.journaling_keeps (host : Host ω) (started : List (Wiring × String)) :
    host.journaling.Keeps (fun w => w.2 = started) False :=
  ⟨fun _ _ _ hw => hw, fun _ _ hw => hw, fun h => h.elim⟩

/-- A parsed program that runs as it is starts no command. -/
theorem run_plain_starts_nothing {host : Host ω} {budget : Nat} {source : String} {mode : Mode}
    {p : Program} (hp : parse source mode = .ok p)
    {m : Machine (ω × List (Wiring × String))} (hm : m.vars.Sealed) :
    (p.run host.journaling budget m).2.outside.world.2 = m.outside.world.2 := by
  have hconfined : confinedBody False p.body := confinedBody_of_spells p.body (parse_spells hp)
  have hkeeps : KeepsSeal _ _ (execProgram ⟨host.journaling, p.mode, budget⟩ p.body) :=
    execProgram_keepsSeal (host.journaling_keeps m.outside.world.2) hconfined
  exact (hkeeps m ⟨hm, rfl⟩).2.1.2

/--
**The helpers of shell literals are out of a program's reach.**

In a namespace against which any texts have been run, each helper's name is bound to its helper and
no other name to a value that holds one. This still holds after every statement that is executed when
a further text is run, expanded or not, at whatever depth the statement stands and however it ends.
And a text that expands no literal starts no command.
-/
theorem helpers_out_of_reach {ns : Namespace} (h : Lived ns) :
    ns.Sealed
      ∧ (∀ {ω : Type} (host : Host ω) (budget : Nat) (source : String) (mode : Mode)
          (p q : Program), parse source mode = .ok p → q = p ∨ q = p.expand →
          ∀ m : Machine ω, m.vars = ns → ∀ (t : Stmt) (m' : Machine ω),
            Reaches ⟨host, q.mode, budget⟩ (.body q.body) m t m' →
            (t.exec ⟨host, q.mode, budget⟩ m').2.vars.Sealed)
      ∧ (∀ {ω : Type} (host : Host ω) (budget : Nat) (source : String) (mode : Mode)
          (p : Program), parse source mode = .ok p → p.literalCount = 0 →
          ∀ m : Machine (ω × List (Wiring × String)), m.vars = ns →
            (runSource host.journaling budget source mode m).2.outside.world.2 =
                m.outside.world.2
              ∧ (runPlain host.journaling budget source mode m).2.outside.world.2 =
                m.outside.world.2) := by
  refine ⟨h.sealed, ?_, ?_⟩
  · -- any statement that is reached is executed from a sealed namespace, and leaves one
    intro ω host budget source mode p q hp hq m hm t m' hreach
    have hwithin : Within Namespace.Sealed (fun _ => True) m := ⟨hm ▸ h.sealed, trivial⟩
    obtain ⟨ht, hm'⟩ := reaches_sealed host.keepsAnything hreach (confined_parse hp hq) hwithin
    have hkeeps : KeepsSeal _ _ (t.exec ⟨host, q.mode, budget⟩) :=
      exec_keepsSeal host.keepsAnything t ht
    exact (hkeeps m' hm').2.1.1
  · -- without a literal the expansion is the program itself
    intro ω host budget source mode p hp hcount m hm
    have hsealed : m.vars.Sealed := hm ▸ h.sealed
    refine ⟨?_, ?_⟩
    · simp only [runSource, hp, Program.expand_eq_self hcount]
      exact run_plain_starts_nothing hp (m := m.logged _) hsealed
    · simp only [runPlain, hp]
      exact run_plain_starts_nothing hp hsealed

/-- The theorem at a namespace that a text with a command has been run against. -/
theorem helpers_out_of_reach_after_command :
    let ns := (runSource Host.silent 0 "x = ~'ls'" .file ⟨.fresh, (), []⟩).2.vars
    Lived ns ∧ ns.Sealed :=
  have hlived := Lived.expanded Host.silent 0 "x = ~'ls'" .file ⟨.fresh, (), []⟩ .fresh
  ⟨hlived, (helpers_out_of_reach hlived).1⟩

end Tilde
