import Tilde.Proofs.Effects
import Tilde.Proofs.Exec.Agree
import Tilde.Proofs.Helpers.Clean
import Tilde.Run

/-!
# Two meanings of shell literals

A literal can be run where it stands, or be expanded first. The two are the same.

## Running shell literals directly

What a program with shell literals means, without expanding it. Every form is evaluated and executed
by the rules of the interpreter, except a shell literal whose place delivers output: its command
text is built from its parts, and the command runs as the place asks. No helper takes part, neither
its name nor its call.

A place delivers output only where it says so itself: a whole statement, the value of an assignment,
an argument of a call, the base of an attribute. So the meaning of an expression takes the delivery
of its place (`site`), and passes one on to the operands of calls and attributes alone.
-/

namespace Tilde

open Shell (Delivery)

variable {ω : Type}

/-- Runs a command text for a shell literal and gives the value of the delivery. -/
def runLiteral (host : Host ω) (d : Delivery) (command : String) : EvalM ω Value := do
  .note (.running d command)
  Builtin.runCommand host d command

/-- The text that a field adds to a command: formatted by its spec and then quoted, or neither, where
the spec is `raw`. -/
def commandField (v : Value) (spec : Option String) : Except Fault String :=
  if spec = some rawSpec then v.format none
  else do
    let text ← v.format spec
    (Shell.quote text).mapError .unquotable

mutual

/-- Evaluates an expression whose place delivers output as `site` says. -/
def Expr.direct (host : Host ω) (ns : Namespace) (site : Option Delivery) :
    Expr → EvalM ω Value
  | .unary .invert (.str text) =>
    match site with
    | some d => runLiteral host d text
    | none => .ofExcept (Value.unary .invert (.str text))
  | .unary .invert (.template parts) =>
    match site with
    | some d => do runLiteral host d (← directCommand host ns parts)
    | none => do
      let text ← directParts host ns parts
      .ofExcept (Value.unary .invert (.str text))
  | .unary op e => do
    let v ← e.direct host ns none
    .ofExcept (Value.unary op v)
  | .name n => .ofExcept (ns.find n)
  | .int i => return .int i
  | .bool b => return .bool b
  | .none => return .none
  | .str s => return .str s
  | .template parts => return .str (← directParts host ns parts)
  | .tuple items => return .tuple (← directAll host ns none items)
  | .list items => return .list (← directAll host ns none items)
  | .star _ => .fail .misplacedStar
  | .binary op l r => do
    let a ← l.direct host ns none
    let b ← r.direct host ns none
    .ofExcept (Value.binary op a b)
  | .compare op l r => do
    let a ← l.direct host ns none
    let b ← r.direct host ns none
    return .bool (← .ofExcept (Value.compared op a b))
  | .logical op l r => do
    let a ← l.direct host ns none
    let decided := match op with
      | .and => !a.truthy
      | .or => a.truthy
    if decided then return a else r.direct host ns none
  | .call f args keywords => do
    let f ← f.direct host ns none
    let positional ← directAll host ns (some .single) args
    let keywords ← directKeywords host ns keywords
    f.callWith host ⟨positional, keywords⟩
  | .attribute e n => do
    let v ← e.direct host ns (some .single)
    .ofExcept (v.attribute n)
  | .subscript e i => do
    let v ← e.direct host ns none
    let index ← i.direct host ns none
    .ofExcept (v.itemAt index)

/-- Evaluates expressions in order, all of them in places of one kind. -/
def directAll (host : Host ω) (ns : Namespace) (site : Option Delivery) :
    List Expr → EvalM ω (List Value)
  | [] => return []
  | e :: es => do
    let v ← e.direct host ns site
    return v :: (← directAll host ns site es)

/-- Evaluates arguments given by name in order. -/
def directKeywords (host : Host ω) (ns : Namespace) :
    List Keyword → EvalM ω (List (String × Value))
  | [] => return []
  | .mk n e :: ks => do
    let v ← e.direct host ns (some .single)
    return (n, v) :: (← directKeywords host ns ks)

/-- Evaluates the parts of an interpolated string in order and joins their texts. -/
def directParts (host : Host ω) (ns : Namespace) : List Part → EvalM ω String
  | [] => return ""
  | .literal s :: ps => return s ++ (← directParts host ns ps)
  | .field e spec :: ps => do
    let v ← e.direct host ns none
    let s ← .ofExcept (v.format spec)
    return s ++ (← directParts host ns ps)

/-- Builds the text of an interpolated command: literals are copied, and each field is evaluated,
formatted and quoted before the next one. -/
def directCommand (host : Host ω) (ns : Namespace) : List Part → EvalM ω String
  | [] => return ""
  | .literal s :: ps => return s ++ (← directCommand host ns ps)
  | .field e spec :: ps => do
    let v ← e.direct host ns none
    let s ← .ofExcept (commandField v spec)
    return s ++ (← directCommand host ns ps)

end

mutual

/-- Executes a statement, its shell literals directly. -/
def Stmt.execDirect (run : Run ω) : Stmt → ExecM ω Flow
  | .evaluate line e => do
    .evalAt line fun ns => do
      let v ← e.direct run.host ns (some .stream)
      if run.mode = .interactive then echo run.host v
    return .next
  | .assign line target e => do
    let v ← .evalAt line fun ns =>
      e.direct run.host ns (some (if target.isSequence then .triple else .single))
    .bindAt line target v
    return .next
  | .assert line test message => do
    .evalAt line fun ns => do
      if !(← test.direct run.host ns none).truthy then
        match message with
        | some e => .fail (.assertion (← e.direct run.host ns none).text)
        | none => .fail (.assertion "")
    return .next
  | .pass _ => return .next
  | .breakLoop _ => return .leave
  | .continueLoop _ => return .repeat
  | .branch line test body orelse => do
    if (← .evalAt line fun ns => test.direct run.host ns none).truthy then
      execBodyDirect run body
    else execBodyDirect run orelse
  | .whileLoop line test body => do
    let test := return (← .evalAt line fun ns => test.direct run.host ns none).truthy
    ExecM.whileLoop test (execBodyDirect run body) run.budget
    return .next
  | .forEach line target items body => do
    let v ← .evalAt line fun ns => items.direct run.host ns none
    match v.items? with
    | none => throw (.fault line (.notIterable v.type))
    | some items =>
      ExecM.forEach (ExecM.bindAt line target) (execBodyDirect run body) items
      return .next
  | .attempt _ body handlers =>
    ExecM.attempt (execBodyDirect run body) (execHandlersDirect run handlers)

/-- Executes the statements of a block until one does not go on. -/
def execBodyDirect (run : Run ω) : List Stmt → ExecM ω Flow
  | [] => return .next
  | s :: ss => do
    match ← s.execDirect run with
    | .next => execBodyDirect run ss
    | flow => return flow

/-- The handler that takes a halt. It binds the message first, if it has a name for it. -/
def execHandlersDirect (run : Run ω) : List Handler → Halt → Option (ExecM ω Flow)
  | [], _ => none
  | .mk kind name body :: hs, h =>
    if h.takenBy kind then some do
      match h.kind? with
      | some k => .note (.handled k.name)
      | none => pure ()
      match name with
      | some n => modify fun machine =>
          { machine with vars := machine.vars.set n (.str h.message) }
      | none => pure ()
      execBodyDirect run body
    else execHandlersDirect run hs h

end

/-- Executes the statements of a program. None of them may leave or repeat a loop. -/
def execProgramDirect (run : Run ω) : List Stmt → ExecM ω Unit
  | [] => return ()
  | s :: ss => do
    match ← s.execDirect run with
    | .next => execProgramDirect run ss
    | .leave | .repeat => throw (.fault s.line .outsideLoop)

/-- Executes a program, its shell literals directly. -/
def Program.execDirect (p : Program) (host : Host ω) (budget : Nat) : ExecM ω Unit :=
  execProgramDirect ⟨host, p.mode, budget⟩ p.body

end Tilde

/-!
## Expansion keeps the meaning of a program

Where the helpers are bound, an expanded expression evaluates as its shell literals do directly.
The one step with content is a literal in a place that delivers output: there a call of a runner
stands for the run itself, and inside its text a call of the quoter for each quoted field.

Executing an expanded program and executing the program with its shell literals run directly are the
same: they come to the same result, the same variables, the same state of the world outside and the
same log, whatever the world does. The helpers have to be bound at the start; after that they stay
bound, since a parsed program sets only variables whose names are words.
-/

namespace Tilde

open Shell (Delivery)

variable {ω : Type} {host : Host ω} {ns : Namespace}

/-! ### Calls of helpers -/

/-- A call of a runner on a text runs the text. -/
theorem callWith_runner (d : Delivery) (text : String) :
    (Value.builtin (.run d)).callWith host ⟨[.str text], []⟩ = runLiteral host d text := rfl

/-- A call of the quoter on a text quotes it. -/
theorem callWith_quoter (text : String) :
    (Value.builtin .quote).callWith host ⟨[.str text], []⟩ =
      .ofExcept (((Shell.quote text).mapError .unquotable).map .str) := by
  have h : (Value.builtin .quote).callWith host ⟨[.str text], []⟩ =
      .ofExcept (Builtin.quoteValue (.str text)) := rfl
  rw [h, Builtin.quoteValue, Value.text]
  cases Shell.quote text with
  | error e => rfl
  | ok s => rfl

/-- A call of a bound runner evaluates its command and runs it. -/
theorem eval_runner (hns : ns.HasHelpers) (d : Delivery) (parts : List Part) :
    (Expr.callOf d.runner [.template parts]).eval host ns =
      (do runLiteral host d (← evalParts host ns parts)) := by
  simp only [Expr.callOf, Expr.eval, hns.runner, EvalM.ofExcept_ok, evalAll, evalKeywords,
    bind_assoc, pure_bind, callWith_runner]

/-- A call of the bound quoter on a formatted field gives the field's quoted text. -/
theorem eval_quoter (hns : ns.HasHelpers) (e : Expr) (spec : Option String) :
    (Expr.callOf Shell.quoter [.template [.field e spec]]).eval host ns =
      (do
        let v ← e.eval host ns
        let text ← .ofExcept (v.format spec)
        .ofExcept (((Shell.quote text).mapError .unquotable).map .str)) := by
  simp only [Expr.callOf, Expr.eval, hns.quoter, EvalM.ofExcept_ok, evalAll, evalKeywords,
    evalParts, bind_assoc, pure_bind, callWith_quoter, String.append_empty]

/-! ### The fields of a command -/

/-- A field of an expanded command adds the same text as the field itself does directly. -/
theorem evalParts_field (hns : ns.HasHelpers) (e : Expr) (spec : Option String)
    (ps : List Part) :
    evalParts host ns ((if spec = some rawSpec then Part.field e none
        else .field (.callOf Shell.quoter [.template [.field e spec]]) none) :: ps) =
      (do
        let v ← e.eval host ns
        let s ← .ofExcept (commandField v spec)
        return s ++ (← evalParts host ns ps)) := by
  by_cases hraw : spec = some rawSpec
  · simp only [if_pos hraw, evalParts, commandField]
  · simp only [if_neg hraw, evalParts, eval_quoter hns, commandField, EvalM.ofExcept_bind,
      bind_assoc]
    refine bind_congr fun v => bind_congr fun text => ?_
    cases Shell.quote text with
    | error e => rfl
    | ok s => rfl

/-! ### Every form -/

mutual

/-- **An expanded expression evaluates as the expression does directly.** -/
theorem eval_expand (hns : ns.HasHelpers) (site : Option Delivery) :
    ∀ e : Expr, (e.expand site).eval host ns = e.direct host ns site
  | .unary op e => by
    have h := eval_expand hns none e
    cases op with
    | invert =>
      -- a literal is the one operand that the place decides about
      cases e with
      | str text =>
        cases site with
        | none => rfl
        | some d =>
          simp only [Expr.expand, Expr.direct, Expr.callOf, Expr.eval, hns.runner,
            EvalM.ofExcept_ok, evalAll, evalKeywords, pure_bind, callWith_runner]
      | template parts =>
        cases site with
        | none =>
          simp only [Expr.expand, Expr.eval, Expr.direct, bind_assoc, pure_bind,
            evalParts_expand hns parts]
        | some d =>
          simp only [Expr.expand, Expr.direct, eval_runner hns, evalParts_command hns parts]
      | name _ | int _ | bool _ | none | star _ => rfl
      | _ =>
        simp only [Expr.expand, Expr.eval, Expr.direct] at h ⊢
        rw [h]
    | neg => simp only [Expr.expand, Expr.eval, Expr.direct, h]
    | not => simp only [Expr.expand, Expr.eval, Expr.direct, h]
  | .name n => rfl
  | .int i => rfl
  | .bool b => rfl
  | .none => rfl
  | .str s => rfl
  | .template parts => by
    simp only [Expr.expand, Expr.eval, Expr.direct, evalParts_expand hns parts]
  | .tuple items => by
    simp only [Expr.expand, Expr.eval, Expr.direct, evalAll_expand hns none items]
  | .list items => by
    simp only [Expr.expand, Expr.eval, Expr.direct, evalAll_expand hns none items]
  | .star e => rfl
  | .binary op l r => by
    simp only [Expr.expand, Expr.eval, Expr.direct, eval_expand hns none l,
      eval_expand hns none r]
  | .compare op l r => by
    simp only [Expr.expand, Expr.eval, Expr.direct, eval_expand hns none l,
      eval_expand hns none r]
  | .logical .and l r | .logical .or l r => by
    simp only [Expr.expand, Expr.eval, Expr.direct, eval_expand hns none l,
      eval_expand hns none r]
  | .call f args keywords => by
    simp only [Expr.expand, Expr.eval, Expr.direct, eval_expand hns none f,
      evalAll_expand hns (some .single) args, evalKeywords_expand hns keywords]
  | .attribute e n => by
    simp only [Expr.expand, Expr.eval, Expr.direct, eval_expand hns (some .single) e]
  | .subscript e i => by
    simp only [Expr.expand, Expr.eval, Expr.direct, eval_expand hns none e,
      eval_expand hns none i]

theorem evalAll_expand (hns : ns.HasHelpers) (site : Option Delivery) :
    ∀ es : List Expr, evalAll host ns (expandAll site es) = directAll host ns site es
  | [] => rfl
  | e :: es => by
    simp only [expandAll, evalAll, directAll, eval_expand hns site e,
      evalAll_expand hns site es]

theorem evalKeywords_expand (hns : ns.HasHelpers) :
    ∀ ks : List Keyword, evalKeywords host ns (expandKeywords ks) = directKeywords host ns ks
  | [] => rfl
  | .mk n e :: ks => by
    simp only [expandKeywords, evalKeywords, directKeywords, eval_expand hns (some .single) e,
      evalKeywords_expand hns ks]

theorem evalParts_expand (hns : ns.HasHelpers) :
    ∀ ps : List Part, evalParts host ns (expandParts ps) = directParts host ns ps
  | [] => rfl
  | .literal s :: ps => by
    simp only [expandParts, evalParts, directParts, evalParts_expand hns ps]
  | .field e spec :: ps => by
    simp only [expandParts, evalParts, directParts, eval_expand hns none e,
      evalParts_expand hns ps]

theorem evalParts_command (hns : ns.HasHelpers) :
    ∀ ps : List Part, evalParts host ns (commandParts ps) = directCommand host ns ps
  | [] => rfl
  | .literal s :: ps => by
    simp only [commandParts, evalParts, directCommand, evalParts_command hns ps]
  | .field e spec :: ps => by
    simp only [commandParts, evalParts_field hns, directCommand, eval_expand hns none e,
      evalParts_command hns ps]

end

end Tilde

/-! ### Executing an expanded program -/

namespace Tilde

variable {ω : Type}

/-- Every variable whose name is a word may be set to any value without touching a helper. -/
theorem settable_hasHelpers : Settable Namespace.HasHelpers IsWord fun _ => True where
  set h hn _ := h.set hn.not_helper
  items _ _ _ _ := trivial
  list _ := trivial
  str _ := trivial

/-- Executions of statements that agree wherever the helpers are bound. -/
abbrev SameMeaning {α : Type} (x y : ExecM ω α) : Prop :=
  ExecM.Agree Namespace.HasHelpers (fun _ => True) (fun _ => True) x y

open ExecM

/-- An expanded expression in a statement evaluates as the expression does directly. -/
theorem same_eval (run : Run ω) (line : Nat) (site : Option Shell.Delivery) (e : Expr) :
    SameMeaning (.evalAt line ((e.expand site).eval run.host))
      (.evalAt line fun ns => e.direct run.host ns site) :=
  .evalAt (fun _ hns => eval_expand hns site e) fun _ _ => .any

/-- A handler that takes a halt runs its block, also directly. -/
theorem execHandlersDirect_taken {run : Run ω} {kind name : Option String} {body : List Stmt}
    {hs : List Handler} {halt : Halt} (h : halt.takenBy kind = true) (m : Machine ω) :
    ((execHandlersDirect run (.mk kind name body :: hs) halt).getD (throw halt)) m =
      execBodyDirect run body (m.handling halt name) := by
  rw [execHandlersDirect, if_pos h]
  unfold Machine.handling
  cases name <;> cases halt.kind? <;> rfl

mutual

/-- **An expanded statement executes as the statement does directly.** -/
theorem exec_expand (run : Run ω) :
    ∀ s : Stmt, s.Spells IsWord → SameMeaning (s.expand.exec run) (s.execDirect run)
  | .evaluate line e, _ => by
    -- the helpers are there whenever an expression is evaluated, which is all that its expansion
    -- needs
    refine .bind (.evalAt (fun ns hns => ?_) fun _ _ => .any) fun _ _ => .pure trivial
    rw [eval_expand hns]
  | .assign line target e, h =>
    .bind (same_eval run line _ e) fun _ _ =>
      .bind (.bindAt settable_hasHelpers h.1 trivial) fun _ _ => .pure trivial
  | .assert line test message, _ => by
    refine .bind (.evalAt (fun ns hns => ?_) fun _ _ => .any) fun _ _ => .pure trivial
    cases message with
    | none => simp only [eval_expand hns, Option.map_none]
    | some e => simp only [eval_expand hns, Option.map_some]
  | .pass _, _ => .pure trivial
  | .breakLoop _, _ => .pure trivial
  | .continueLoop _, _ => .pure trivial
  | .branch line test body orelse, h =>
    .bind (same_eval run line none test) fun _ _ =>
      .ite (execBody_expand run body h.2.1) (execBody_expand run orelse h.2.2)
  | .whileLoop line test body, h =>
    .bind
      (.whileLoop (.bind (same_eval run line none test) fun _ _ => .pure trivial)
        (execBody_expand run body h.2) run.budget)
      fun _ _ => .pure trivial
  | .forEach line target items body, h => by
    refine .bind (same_eval run line none items) fun v _ => ?_
    cases v.items? with
    | none => exact .throw
    | some vs =>
      refine .bind (.forEach (fun v _ => ?_) (execBody_expand run body h.2.2)) fun _ _ =>
        .pure trivial
      -- the names of a target are words, so no helper is overwritten
      exact .bindAt settable_hasHelpers h.1 trivial
  | .attempt _ body handlers, h =>
    .attempt (execBody_expand run body h.1) (execHandlers_expand run handlers h.2)

theorem execBody_expand (run : Run ω) :
    ∀ ss : List Stmt, spellsBody IsWord ss →
      SameMeaning (execBody run (expandBody ss)) (execBodyDirect run ss)
  | [], _ => .pure trivial
  | s :: ss, h => by
    refine .bind (exec_expand run s h.1) fun flow _ => ?_
    cases flow with
    | next => exact execBody_expand run ss h.2
    | leave | «repeat» => exact .pure trivial

theorem execHandlers_expand (run : Run ω) :
    ∀ hs : List Handler, spellsHandlers IsWord hs → ∀ halt : Halt,
      SameMeaning ((execHandlers run (expandHandlers hs) halt).getD (throw halt))
        ((execHandlersDirect run hs halt).getD (throw halt))
  | [], _, _ => .throw
  | .mk kind name body :: hs, h, halt => by
    by_cases htaken : halt.takenBy kind = true
    · exact .handler settable_hasHelpers h.2.1 (execHandlers_taken htaken)
        (execHandlersDirect_taken htaken) (execBody_expand run body h.2.2.1)
    · rw [expandHandlers, execHandlers, execHandlersDirect, if_neg htaken, if_neg htaken]
      exact execHandlers_expand run hs h.2.2.2 halt

end

theorem execProgram_expand (run : Run ω) {ss : List Stmt} (h : spellsBody IsWord ss) :
    SameMeaning (execProgram run (expandBody ss)) (execProgramDirect run ss) := by
  induction ss with
  | nil => exact .pure trivial
  | cons s ss ih =>
    refine .bind (exec_expand run s h.1) fun flow _ => ?_
    cases flow with
    | next => exact ih h.2
    | leave | «repeat» => cases s <;> exact .throw

/--
**Expansion keeps the meaning of every parsed program.**

The host stands for whatever commands and sinks do, the machine for any variables among which the
helpers are bound, and the budget for how long a loop is followed. The two executions agree in all
there is to observe: how the program ends, with the line and the data of a fault or the status of an
exit, its variables, the world after every command and every write, and the log.
-/
theorem expand_keeps_meaning {source : String} {mode : Mode} {p : Program}
    (hp : parse source mode = .ok p) (host : Host ω) (budget : Nat) (m : Machine ω)
    (hm : m.vars.HasHelpers) : p.expand.exec host budget m = p.execDirect host budget m :=
  (execProgram_expand ⟨host, p.mode, budget⟩ (parse_spells hp) m ⟨hm, trivial⟩).1

/-- The theorem at a loop with an interpolated command in a fresh namespace. -/
theorem expand_keeps_meaning_of_loop :
    ∃ p, parse "for x in [1]:\n    ~f'echo {x}'" .file = .ok p
      ∧ Namespace.fresh.HasHelpers
      ∧ p.expand.exec Host.silent 0 ⟨.fresh, (), []⟩ =
          p.execDirect Host.silent 0 ⟨.fresh, (), []⟩ := by
  have hok : (parse "for x in [1]:\n    ~f'echo {x}'" .file).isOk = true := by decide +kernel
  cases hp : parse "for x in [1]:\n    ~f'echo {x}'" .file with
  | error e => rw [hp] at hok; cases hok
  | ok p =>
    exact ⟨p, rfl, Namespace.hasHelpers_fresh,
      expand_keeps_meaning hp Host.silent 0 _ Namespace.hasHelpers_fresh⟩

end Tilde
