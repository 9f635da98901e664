import Tilde.Proofs.Interpretation.Statement
import Tilde.Proofs.Session.Whole

/-!
# Runs in different worlds

A run depends on the world only through the answers of its host, and on the showing of values not at
all.

## Maps of worlds

A program learns of the world only what its host answers. So if a map of worlds takes what one host
does to what another host does, with the same answers, it takes every evaluation with the one to the
evaluation with the other, and every execution likewise.

What an execution shows of the values of expression statements is left open here: two executions may
differ in this, as long as the map takes the one way of showing to the other.
-/

namespace Tilde

open Effects (Carried)

variable {ω ω' α β : Type} {φ : ω → ω'}

/-- The image of the world outside, with the log as it is. -/
def Outside.map (φ : ω → ω') (o : Outside ω) : Outside ω' := ⟨φ o.world, o.log⟩

/-- The machine with the image of its world. -/
def Machine.map (φ : ω → ω') (m : Machine ω) : Machine ω' := ⟨m.vars, m.outside.map φ⟩

/-- The second act does to the image of a world what the first one does to the world. -/
def Mirrors (φ : ω → ω') (f : ω → α × ω) (g : ω' → α × ω') : Prop :=
  ∀ w, g (φ w) = ((f w).1, φ (f w).2)

theorem Mirrors.eq {f : ω → α × ω} {g : ω' → α × ω'} (h : Mirrors φ f g) {w w' : ω} {a : α}
    (hf : f w = (a, w')) : g (φ w) = (a, φ w') := by
  rw [h w, hf]

/-- The map takes what the first host does to what the second one does. Only the output counts, since
programs write nowhere else. -/
structure Host.Mirrored (φ : ω → ω') (host : Host ω) (host' : Host ω') : Prop where
  shell : host'.shell = host.shell
  start : ∀ wiring command, Mirrors φ (host.start wiring command) (host'.start wiring command)
  write : ∀ text, Mirrors φ (host.write .output text) (host'.write .output text)
  flush : Mirrors φ (host.flush .output) (host'.flush .output)

section Hosts

variable {host : Host ω} {host' : Host ω'} (h : host.Mirrored φ host')
include h

namespace Host.Mirrored

theorem emit (text : String) : Mirrors φ (host.emit .output text) (host'.emit .output text) := by
  intro w
  unfold Host.emit
  by_cases hempty : text.isEmpty = true
  · rw [if_pos hempty, if_pos hempty]
  · rw [if_neg hempty, if_neg hempty]
    exact h.write text w

theorem put (texts : List String) :
    Mirrors φ (host.put .output texts) (host'.put .output texts) := by
  induction texts with
  | nil => exact h.flush
  | cons text texts ih =>
    intro w
    rw [Host.put, Host.put]
    rcases hw : host.emit .output text w with ⟨_ | e, w'⟩
    · rw [(h.emit text).eq hw]
      exact ih w'
    · rw [(h.emit text).eq hw]

theorem pass (text : String) : Mirrors φ (host.pass .output text) (host'.pass .output text) := by
  intro w
  unfold Host.pass
  by_cases hempty : text.isEmpty = true
  · rw [if_pos hempty, if_pos hempty]
  · rw [if_neg hempty, if_neg hempty]
    exact h.put [text] w

theorem shellStart (wiring : Wiring) (command : String) :
    Mirrors φ (Shell.start host wiring command) (Shell.start host' wiring command) := by
  intro w
  unfold Shell.start
  rw [h.start wiring command w, h.shell]

theorem forward (d : Utf8.Decoder) (pieces : List (List UInt8)) :
    Mirrors φ (Shell.forward host d pieces) (Shell.forward host' d pieces) := by
  induction pieces generalizing d with
  | nil => exact h.pass _
  | cons piece pieces ih =>
    intro w
    rw [Shell.forward, Shell.forward]
    dsimp only
    rcases hw : host.pass .output (String.ofList (d.feed piece).1) w with ⟨_ | e, w'⟩
    · rw [(h.pass _).eq hw]
      exact ih _ w'
    · rw [(h.pass _).eq hw]

theorem stream (command : String) :
    Mirrors φ (Shell.stream host command) (Shell.stream host' command) := by
  intro w
  unfold Shell.stream
  rcases hs : Shell.start host .merged command w with ⟨e | child, w'⟩
  · rw [(h.shellStart .merged command).eq hs]
  · rw [(h.shellStart .merged command).eq hs]
    dsimp only
    rcases hf : Shell.forward host {} (child.pieces.map (·.2)) w' with ⟨_ | e, w''⟩
    · rw [(h.forward {} _).eq hf, hf]
    · rw [(h.forward {} _).eq hf, hf]

theorem capture (command : String) :
    Mirrors φ (Shell.capture host command) (Shell.capture host' command) := by
  intro w
  unfold Shell.capture
  rcases hs : Shell.start host .merged command w with ⟨e | child, w'⟩
  · rw [(h.shellStart .merged command).eq hs]
  · rw [(h.shellStart .merged command).eq hs]

theorem captureTriple (command : String) :
    Mirrors φ (Shell.captureTriple host command) (Shell.captureTriple host' command) := by
  intro w
  unfold Shell.captureTriple
  rcases hs : Shell.start host .separate command w with ⟨e | child, w'⟩
  · rw [(h.shellStart .separate command).eq hs]
  · rw [(h.shellStart .separate command).eq hs]

end Host.Mirrored

end Hosts

/-! ### Evaluation -/

namespace Effects.Carried

theorem act {f : ω → α × ω} {g : ω' → α × ω'} (h : Mirrors φ f g) :
    Carried (Outside.map φ) (EvalM.act f) (EvalM.act g) := by
  intro o
  have hworld : g (o.map φ).world = ((f o.world).1, φ (f o.world).2) := h o.world
  rw [EvalM.act_apply, EvalM.act_apply, hworld]
  rfl

theorem ofExcept (x : Except Fault α) :
    Carried (Outside.map φ) (EvalM.ofExcept x) (EvalM.ofExcept x) := by
  cases x with
  | ok a => exact pure a
  | error f => exact throw _

theorem note (r : LogRecord) : Carried (Outside.map φ) (EvalM.note r) (EvalM.note r) :=
  fun _ => rfl

theorem ofRun {f : ω → Except Shell.RunError α × ω} {g : ω' → Except Shell.RunError α × ω'}
    (h : Mirrors φ f g) : Carried (Outside.map φ) (EvalM.ofRun f) (EvalM.ofRun g) := by
  refine bind (act h) fun r => ?_
  cases r with
  | ok a => exact pure a
  | error e => exact throw _

section Calls

variable {host : Host ω} {host' : Host ω'} (h : host.Mirrored φ host')
include h

theorem write (texts : List String) :
    Carried (Outside.map φ) (EvalM.write host texts) (EvalM.write host' texts) := by
  refine bind (act (h.put texts)) fun r => ?_
  cases r with
  | some e => exact throw _
  | none => exact pure ()

theorem builtin (f : Builtin) (args : Args) :
    Carried (Outside.map φ) (f.call host args) (f.call host' args) := by
  cases f with
  | print =>
    exact bind (ofExcept _) fun _ => bind (ofExcept _) fun _ => bind (ofExcept _) fun _ =>
      bind (write h _) fun _ => pure _
  | len | str | int | repr | range | quote => exact ofExcept _
  | exit => exact bind (ofExcept _) fun _ => throw _
  | run d =>
    refine bind (ofExcept _) fun v => ?_
    cases v with
    | str command =>
      refine bind (note _) fun _ => ?_
      cases d with
      | stream => exact bind (ofRun (h.stream command)) fun _ => pure _
      | single => exact bind (ofRun (h.capture command)) fun _ => pure _
      | triple => exact bind (ofRun (h.captureTriple command)) fun _ => pure _
    | _ => exact throw _

theorem callWith (v : Value) (args : Args) :
    Carried (Outside.map φ) (v.callWith host args) (v.callWith host' args) := by
  cases v with
  | builtin f => exact builtin h f args
  | method s m => exact ofExcept _
  | _ => exact throw _

end Calls

end Effects.Carried

theorem Operations.ofHost_carried {host : Host ω} {host' : Host ω'} (h : host.Mirrored φ host')
    (ns : Namespace) :
    (Operations.ofHost host ns).Related (Carried (Outside.map φ)) (.ofHost host' ns) where
  pure := .pure
  bind := .bind
  enter _ := .pure ()
  find _ := .ofExcept _
  star := .throw _
  unary _ _ := .ofExcept _
  binary _ _ _ := .ofExcept _
  compared _ _ _ := .ofExcept _
  attributeOf _ _ := .ofExcept _
  itemAt _ _ := .ofExcept _
  format _ _ := .ofExcept _
  call _ _ := .callWith h _ _

/-! ### Execution -/

theorem Effects.Carried.evalAt {line : Nat} {x : Namespace → EvalM ω α} {y : Namespace → EvalM ω' α}
    (h : ∀ ns, Carried (Outside.map φ) (x ns) (y ns)) :
    Carried (Machine.map φ) (ExecM.evalAt line x) (ExecM.evalAt line y) := by
  intro m
  have hy : y (m.map φ).vars (m.map φ).outside
      = ((x m.vars m.outside).1, (x m.vars m.outside).2.map φ) := h m.vars m.outside
  rw [ExecM.evalAt_apply, ExecM.evalAt_apply, hy]
  rfl

theorem Machine.map_handling (φ : ω → ω') (m : Machine ω) (halt : Halt) (name : Option String) :
    (m.handling halt name).map φ = (m.map φ).handling halt name := by
  unfold handling
  cases halt.kind? <;> rfl

/-- The actions of a run that shows values in a way of its own. -/
def Actions.showing (run : Run ω) (present : Nat → Value → ExecM ω Unit) : Actions (ExecM ω) :=
  { Actions.ofRun run with present }

/-- **A map that takes one host and its way of showing values to another takes executions with the
one to executions with the other.** -/
theorem Actions.showing_carried {run : Run ω} {run' : Run ω'} (h : run.host.Mirrored φ run'.host)
    (hbudget : run'.budget = run.budget) {present : Nat → Value → ExecM ω Unit}
    {present' : Nat → Value → ExecM ω' Unit}
    (hpresent : ∀ line v, Carried (Machine.map φ) (present line v) (present' line v)) :
    (Actions.showing run present).Related (fun _ => True) (Carried (Machine.map φ))
      (.showing run' present') where
  pure := .pure
  bind := .bind
  enter _ := .pure ()
  -- the worlds are read and changed by evaluations and by what is presented only
  eval line e := by
    have heval : Carried (Machine.map φ)
        (ExecM.evalAt line fun ns => e.interpret (.ofHost run.host ns))
        (ExecM.evalAt line fun ns => e.interpret (.ofHost run'.host ns)) :=
      .evalAt fun ns => e.interpret_related (Operations.ofHost_carried h ns)
    exact heval
  text _ := .pure _
  present := hpresent
  bindTarget line target v := by
    intro m
    simp only [showing, ofRun, ExecM.bindAt_apply]
    rfl
  halt := .throw
  guarded hx hf _ := .guarded hx hf
  take halt name := by
    intro m
    have hmap := m.map_handling φ halt name
    exact congrArg (fun m => ((.ok () : Except Halt Unit), m)) hmap.symm
  budget := hbudget

end Tilde

/-!
## Echoes

An interactive run shows the values of expression statements, and the run of a file does not. Nothing
that a program does can depend on it, as long as writing does not fail.

Between the two stands a staged run. It records what it does in the world, and where an expression
statement has a value that would be shown, it records the value itself. Taking each such value for
the text that shows it makes the staged run the interactive one, and leaving the values out makes it
the run of the file. Both are maps of worlds, so all three runs come to the same end, and what the
first two have written is what the scenes say, with the shown values and without.
-/

namespace Tilde

open Effects (Carried)

variable {χ : Type}

/-! ### Hosts that never fail to write -/

/-- How commands behave: what a command does, in each state of the world, and the state it leaves. -/
abbrev Children (χ : Type) := Wiring → String → χ → Except OsError Child × χ

/-- A host whose commands behave in the given way and whose sinks never fail. -/
def Host.ofChildren (shell : String) (children : Children χ) : Host χ where
  shell
  start := children
  write _ _ w := (none, w)
  flush _ w := (none, w)

/-- What a staged run records. -/
inductive Scene where
  | event (e : Event)
  /-- An expression statement has the value, which is not `None`. -/
  | shown (v : Value)

namespace Scene

def isShown : Scene → Bool
  | event _ => false
  | shown _ => true

/-- The text that a scene leaves in the output. A shown value is written as in a program, on a line
of its own. -/
def text : Scene → String
  | event (.wrote .output text) => text
  | event _ => ""
  | shown v => v.repr ++ "\n"

/-- What an interactive run does in a scene, the last event first. -/
def interactive : Scene → List Event
  | event e => [e]
  | shown v => [.wrote .output "\n", .wrote .output v.repr]

/-- What the run of a file does in a scene. -/
def inFile : Scene → List Event
  | event e => [e]
  | shown _ => []

end Scene

/-- The host of a staged run, which records scenes, the last one first. -/
def Host.staged (shell : String) (children : Children χ) : Host (χ × List Scene) where
  shell
  start wiring command w :=
    let (r, c) := children wiring command w.1
    (r, c, .event (.started wiring command) :: w.2)
  write sink text w := (none, w.1, .event (.wrote sink text) :: w.2)
  flush _ w := (none, w)

/-- The world with the events of its scenes. -/
def played (events : Scene → List Event) (w : χ × List Scene) : χ × List Event :=
  (w.1, w.2.flatMap events)

theorem Host.staged_mirrored {events : Scene → List Event} (h : ∀ e, events (.event e) = [e])
    (shell : String) (children : Children χ) :
    (Host.staged shell children).Mirrored (played events)
      (Host.ofChildren shell children).recorded where
  shell := rfl
  start wiring command w := by
    simp only [staged, played, recorded, ofChildren, List.flatMap_cons, h, List.singleton_append]
  write text w := by
    simp only [staged, played, recorded, ofChildren, List.flatMap_cons, h, List.singleton_append]
  flush _ := rfl

/-! ### Staged runs -/

/-- Records that an expression statement has a value. -/
def stage (v : Value) : ExecM (χ × List Scene) Unit :=
  match v with
  | .none => return ()
  | v => modify fun m =>
      { m with outside := { m.outside with
          world := (m.outside.world.1, .shown v :: m.outside.world.2) } }

/-- Executes the statements of a program and records the scenes. -/
def execStaged (shell : String) (children : Children χ) (budget : Nat) (ss : List Stmt) :
    ExecM (χ × List Scene) Unit :=
  interpretProgram (.showing ⟨.staged shell children, .file, budget⟩ fun _ v => stage v) ss

/-- No value is written as nothing. -/
theorem Value.repr_ne_empty : ∀ v : Value, v.repr ≠ ""
  | .none => (by decide : "None" ≠ "")
  | .bool true => (by decide : "True" ≠ "")
  | .bool false => (by decide : "False" ≠ "")
  | .int i => by
    have hint : toString i.toInt ≠ "" := by
      rw [Int.toString_eq_repr]
      cases i.toInt <;> simp [Int.repr]
    exact hint
  | .str s => (by simp [writeString] : writeString s ≠ "")
  | .tuple [v] => (by simp : "(" ++ v.repr ++ ",)" ≠ "")
  | .tuple [] => (by simp : "(" ++ ", ".intercalate (reprs []) ++ ")" ≠ "")
  | .tuple (v :: w :: vs) => (by simp : "(" ++ ", ".intercalate (reprs (v :: w :: vs)) ++ ")" ≠ "")
  | .list vs => (by simp : "[" ++ ", ".intercalate (reprs vs) ++ "]" ≠ "")
  | .builtin f => (by simp [toString] : s!"<built-in function {f.name}>" ≠ "")
  | .method _ m =>
    (by simp [toString] : s!"<built-in method {m.name} of {ValueType.str.name} object>" ≠ "")

/-- On a recorded host whose sinks never fail, a value that is not `None` is shown on a line of its
own. -/
theorem echo_recorded (shell : String) (children : Children χ) {v : Value} (hv : v ≠ .none)
    (o : Outside (χ × List Event)) :
    echo (Host.ofChildren shell children).recorded v o =
      (.ok (), ⟨(o.world.1, Scene.interactive (.shown v) ++ o.world.2), o.log⟩) := by
  have hemit : ∀ text : String, text ≠ "" → ∀ w : χ × List Event,
      (Host.ofChildren shell children).recorded.emit .output text w =
        (none, w.1, .wrote .output text :: w.2) :=
    fun _ htext w => Host.emit_of_ne_empty htext w
  have hput : (Host.ofChildren shell children).recorded.put .output [v.repr, "\n"] o.world =
      (none, o.world.1, Scene.interactive (.shown v) ++ o.world.2) := by
    rw [Host.put, hemit _ v.repr_ne_empty]
    dsimp only
    rw [Host.put, hemit _ (by decide)]
    rfl
  have hecho : echo (Host.ofChildren shell children).recorded v =
      .write (Host.ofChildren shell children).recorded [v.repr, "\n"] := by
    cases v with
    | none => exact absurd rfl hv
    | _ => rfl
  have hact : EvalM.act ((Host.ofChildren shell children).recorded.put .output [v.repr, "\n"]) o =
      (.ok none, ⟨(o.world.1, Scene.interactive (.shown v) ++ o.world.2), o.log⟩) := by
    rw [EvalM.act_apply, hput]
  rw [hecho, EvalM.write, Effects.bind_ok hact]
  rfl

theorem stage_interactive (shell : String) (children : Children χ) (line : Nat) (v : Value) :
    Carried (Machine.map (played Scene.interactive)) (stage v)
      (ExecM.evalAt line fun _ => echo (Host.ofChildren shell children).recorded v) := by
  intro m
  by_cases hv : v = .none
  · subst hv
    rfl
  · rw [ExecM.evalAt_apply, echo_recorded shell children hv]
    cases v with
    | none => exact absurd rfl hv
    | _ => rfl

theorem stage_inFile (v : Value) :
    Carried (Machine.map (played (χ := χ) Scene.inFile)) (stage v) (pure ()) := by
  intro m
  cases v <;> rfl

/-! ### The two modes -/

theorem Actions.ofRun_interactive {ω : Type} (host : Host ω) (budget : Nat) :
    Actions.ofRun ⟨host, .interactive, budget⟩ =
      .showing ⟨host, .interactive, budget⟩ fun line v => .evalAt line fun _ => echo host v :=
  rfl

theorem Actions.ofRun_file {ω : Type} (host : Host ω) (budget : Nat) :
    Actions.ofRun ⟨host, .file, budget⟩ = .showing ⟨host, .file, budget⟩ fun _ _ => return () :=
  rfl

section Modes

variable (shell : String) (children : Children χ) (budget : Nat) (ss : List Stmt)

/-- **The staged run is the interactive one, with the values for their texts.** -/
theorem execStaged_interactive :
    Carried (Machine.map (played Scene.interactive)) (execStaged shell children budget ss)
      (execProgram ⟨(Host.ofChildren shell children).recorded, .interactive, budget⟩ ss) := by
  rw [← interpretProgram_ofRun, Actions.ofRun_interactive]
  exact interpretProgram_related
    (Actions.showing_carried (φ := played Scene.interactive)
      (Host.staged_mirrored (fun _ => rfl) shell children) rfl (stage_interactive shell children))
    ss (asksBody_any ss)

/-- **The staged run is the run of the file, without the values.** -/
theorem execStaged_inFile :
    Carried (Machine.map (played Scene.inFile)) (execStaged shell children budget ss)
      (execProgram ⟨(Host.ofChildren shell children).recorded, .file, budget⟩ ss) := by
  rw [← interpretProgram_ofRun, Actions.ofRun_file]
  exact interpretProgram_related
    (Actions.showing_carried (φ := played Scene.inFile)
      (Host.staged_mirrored (fun _ => rfl) shell children) rfl fun _ => stage_inFile)
    ss (asksBody_any ss)

end Modes

/-! ### What is written and run -/

theorem writtenTo_append (sink : Sink) (later earlier : List Event) :
    writtenTo sink (later ++ earlier) = writtenTo sink earlier ++ writtenTo sink later := by
  simp only [writtenTo, List.reverse_append, List.filterMap_append, String.join_append]

theorem commandsOf_append (later earlier : List Event) :
    commandsOf (later ++ earlier) = commandsOf earlier ++ commandsOf later := by
  simp only [commandsOf, List.reverse_append, List.filterMap_append]

/-- The commands of scenes are the same in both modes, since a shown value starts none. -/
theorem commandsOf_scenes (scenes : List Scene) :
    commandsOf (scenes.flatMap Scene.interactive) = commandsOf (scenes.flatMap Scene.inFile) := by
  induction scenes with
  | nil => rfl
  | cons scene scenes ih =>
    rw [List.flatMap_cons, List.flatMap_cons, commandsOf_append, commandsOf_append, ih]
    cases scene <;> rfl

theorem writtenTo_interactive (scenes : List Scene) :
    writtenTo .output (scenes.flatMap Scene.interactive) =
      String.join (scenes.reverse.map Scene.text) := by
  induction scenes with
  | nil => rfl
  | cons scene scenes ih =>
    rw [List.flatMap_cons, writtenTo_append, ih, List.reverse_cons, List.map_append,
      String.join_append]
    refine congrArg _ ?_
    cases scene with
    | shown v => simp [Scene.interactive, Scene.text, writtenTo, String.join_cons]
    | event e =>
      cases e with
      | started wiring command => rfl
      | wrote sink text => cases sink <;> simp [Scene.interactive, Scene.text, writtenTo]

theorem writtenTo_inFile (scenes : List Scene) :
    writtenTo .output (scenes.flatMap Scene.inFile) =
      String.join ((scenes.reverse.filter fun scene => !scene.isShown).map Scene.text) := by
  induction scenes with
  | nil => rfl
  | cons scene scenes ih =>
    rw [List.flatMap_cons, writtenTo_append, ih, List.reverse_cons, List.filter_append,
      List.map_append, String.join_append]
    refine congrArg _ ?_
    cases scene with
    | shown v => rfl
    | event e =>
      cases e with
      | started wiring command => rfl
      | wrote sink text =>
        cases sink <;> simp [Scene.inFile, Scene.text, Scene.isShown, writtenTo]

/--
**Interactive mode only adds echoes.**

Let a body be executed in both modes, in any namespace, where the commands behave in any way and the
sinks never fail. Both runs come to the same result: they succeed, or they halt with the same fault
on the same line, or with the same status. They lead to the same variables, they leave the commands'
world and the log in the same state, and they start the same commands in the same order.

What they write is told by the scenes of the staged run, in which each expression statement that has
a value other than `None` leaves this value, in whatever block and in whatever round of a loop it
stands. The output of the interactive run is the text of all scenes; the output of the file's run is
the text of the same scenes without the shown values.
-/
theorem interactive_adds_echoes (shell : String) (children : Children χ) (budget : Nat)
    (body : List Stmt) (ns : Namespace) (c : χ) (log : List LogRecord) :
    let host := (Host.ofChildren shell children).recorded
    let interactive := (⟨body, .interactive⟩ : Program).exec host budget ⟨ns, (c, []), log⟩
    let file := (⟨body, .file⟩ : Program).exec host budget ⟨ns, (c, []), log⟩
    let staged := execStaged shell children budget body ⟨ns, (c, []), log⟩
    let scenes := staged.2.outside.world.2.reverse
    interactive.1 = file.1
      ∧ interactive.2.vars = file.2.vars
      ∧ interactive.2.outside.world.1 = file.2.outside.world.1
      ∧ interactive.2.outside.log = file.2.outside.log
      ∧ commandsOf interactive.2.outside.world.2 = commandsOf file.2.outside.world.2
      ∧ writtenTo .output interactive.2.outside.world.2 = String.join (scenes.map Scene.text)
      ∧ writtenTo .output file.2.outside.world.2 =
        String.join ((scenes.filter fun scene => !scene.isShown).map Scene.text) := by
  intro host interactive file staged scenes
  have hinteractive : interactive = (staged.1, staged.2.map (played Scene.interactive)) :=
    execStaged_interactive shell children budget body ⟨ns, (c, []), log⟩
  have hfile : file = (staged.1, staged.2.map (played Scene.inFile)) :=
    execStaged_inFile shell children budget body ⟨ns, (c, []), log⟩
  rw [hinteractive, hfile]
  exact ⟨rfl, rfl, rfl, rfl, commandsOf_scenes _, writtenTo_interactive _, writtenTo_inFile _⟩

/-- A loop that has a value in each round, and writes. -/
example :
    let host := (Host.ofChildren "/bin/sh" fun _ _ c => (.ok ⟨[], .exited 0⟩, c)).recorded
    let written mode := (runSource host 0 "for i in range(2):\n    i\n    print('-')" mode
      ⟨.fresh, ((), []), []⟩).2.outside.world.2
    writtenTo .output (written .interactive) = "0\n-\n1\n-\n"
      ∧ writtenTo .output (written .file) = "-\n-\n" := by
  decide +kernel

end Tilde
