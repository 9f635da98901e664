import Tilde.Eval
import Tilde.Proofs.Steps.Basic
import Tilde.Proofs.Traps.Call

/-!
# Evaluating an expression step by step

The evaluation of an expression as a machine. Its state is what is being done and, as a list of
frames, what waits for the value: an operator for an operand, a call for its arguments, a string for
its next field. No step descends into an expression, a loop of its own or a command: the numbers of
a range are counted one a step, and the output of a command is read one piece a step for as long as
there is a next piece. Whether the machine comes to a result is left open.

With an open host whose commands end, the machine follows the evaluation of the expression by the
closed host, below any frames. The induction is on the expression, and it needs no more of a subterm
than the lemma itself, since the lemma holds below all frames.
-/

namespace Tilde.Steps

open Shell (Delivery RunError)

variable {ω : Type}

/-! ## Operations -/

/-- An operation on one value. -/
inductive Unary where
  | operator (op : UnaryOp)
  | attribute (name : String)

def Unary.apply : Unary → Value → Except Fault Value
  | .operator op, v => Value.unary op v
  | .attribute name, v => v.attribute name

/-- An operation on two values, both of which it needs. -/
inductive Binary where
  | operator (op : BinaryOp)
  | comparison (op : Comparison)
  | subscript

def Binary.apply : Binary → Value → Value → Except Fault Value
  | .operator op, a, b => Value.binary op a b
  | .comparison op, a, b => (Value.compared op a b).map .bool
  | .subscript, a, b => a.itemAt b

/-- The left operand decides a connective, which skips the right one. -/
def decides : Connective → Value → Bool
  | .and, v => !v.truthy
  | .or, v => v.truthy

/-- The first number of a range, its end and its step. -/
def rangeBounds (args : Args) : Except Fault (Int64 × Int64 × Int64) := do
  let (start, stop, step) ← match ← Checked.numbers (← args.between Builtin.range.name 1 3) with
    | [stop] => pure (0, stop, 1)
    | [start, stop] => pure (start, stop, 1)
    | [start, stop, step] => pure (start, stop, step)
    | ns => throw (.argumentCount Builtin.range.name (.exactly 3) ns.length)
  if step = 0 then throw .zeroStep else return (start, stop, step)

theorem rangeOf_eq (args : Args) : Builtin.rangeOf args =
    (rangeBounds args).map fun (i, stop, step) => .list (Checked.rangeFrom i stop step) := by
  rw [← Checked.rangeOf_ok]
  unfold Checked.rangeOf rangeBounds
  have hlist : ∀ start stop step : Int64,
      (if step = 0 then throw .zeroStep else return .list (Checked.rangeFrom start stop step)
        : Except Fault Value) =
      (if step = 0 then throw .zeroStep else return (start, stop, step)
        : Except Fault (Int64 × Int64 × Int64)).map fun (i, stop, step) =>
          .list (Checked.rangeFrom i stop step) := by
    intro start stop step
    by_cases h : step = 0
    · rw [if_pos h, if_pos h]
      rfl
    · rw [if_neg h, if_neg h]
      rfl
  cases args.between Builtin.range.name 1 3 with
  | error f => rfl
  | ok vs =>
    dsimp only [bind, Except.bind]
    cases Checked.numbers vs with
    | error f => rfl
    | ok ns =>
      match ns with
      | [] => rfl
      | [stop] => exact hlist 0 stop 1
      | [start, stop] => exact hlist start stop 1
      | [start, stop, step] => exact hlist start stop step
      | _ :: _ :: _ :: _ :: _ => rfl

/-! ## Commands -/

/-- The wiring of a command whose output is delivered this way. -/
def wiringOf : Delivery → Wiring
  | .stream | .single => .merged
  | .triple => .separate

/-- The value of a command that has ended. -/
def delivered (c : Child) : Delivery → Except RunError Value
  | .stream => (Shell.check c.status).map fun _ => .none
  | .single => (Shell.check c.status).map fun _ => .str (Utf8.decodeText c.merged)
  | .triple => .ok (.tuple [.str (Utf8.decodeText (c.bytesOf .out)),
      .str (Utf8.decodeText (c.bytesOf .err)), .int c.status.code.toInt64])

/-- What is done with the pieces of a command's output. -/
inductive Reading where
  /-- They are passed on. -/
  | forward (decoder : Utf8.Decoder)
  /-- A write has failed. The end of the command is waited for. -/
  | drain (error : OsError)
  /-- They are kept until the command has ended. -/
  | collect (delivery : Delivery) (pieces : List (Stream × List UInt8))

/-- How the reading of a command begins. -/
def Reading.first : Delivery → Reading
  | .stream => .forward {}
  | .single => .collect .single []
  | .triple => .collect .triple []

/-! ## The machine -/

/-- What a row of expressions is for. -/
inductive Row where
  | tuple
  | list
  | arguments (function : Value) (keywords : List Keyword)

/-- What an evaluation is doing. -/
inductive Control where
  | eval (e : Expr)
  /-- It has a value for the frame on top. -/
  | value (v : Value)
  | row (use : Row) (done : List Value) (todo : List Expr)
  | keywords (function : Value) (args : List Value) (done : List (String × Value))
      (todo : List Keyword)
  | parts (text : String) (todo : List Part)
  | call (function : Value) (args : Args)
  /-- It counts the numbers of a range. -/
  | count (done : List Value) (i stop step : Int64)
  /-- It waits for the `n`-th piece of a command's output, or for the end of the command. -/
  | read (reading : Reading) (command : Activity) (n : Nat)

/-- What waits for a value. -/
inductive Frame where
  | unary (op : Unary)
  | left (op : Binary) (right : Expr)
  | right (op : Binary) (left : Value)
  | connective (op : Connective) (right : Expr)
  | function (args : List Expr) (keywords : List Keyword)
  | item (use : Row) (done : List Value) (todo : List Expr)
  | keyword (function : Value) (args : List Value) (done : List (String × Value)) (name : String)
      (todo : List Keyword)
  | field (text : String) (spec : Option String) (todo : List Part)

/-- A state of an evaluation. -/
structure Evaluation (ω : Type) where
  control : Control
  frames : List Frame
  outside : Outside ω

/-- A state of an evaluation, or its result. -/
abbrev Evaluated (ω : Type) := Evaluation ω ⊕ Except Stop Value × Outside ω

namespace Evaluated

/-- The evaluation goes on. -/
def go (c : Control) (fs : List Frame) (o : Outside ω) : Evaluated ω := .inl ⟨c, fs, o⟩

/-- The evaluation stops. -/
def stop (stop : Stop) (o : Outside ω) : Evaluated ω := .inr (.error stop, o)

/-- The evaluation goes on with a value, or it stops with a fault. -/
def settle (fs : List Frame) (r : Except Fault Value) (o : Outside ω) : Evaluated ω :=
  match r with
  | .ok v => go (.value v) fs o
  | .error f => stop (.fault f) o

/-- Where an evaluation goes on with what a computation has come to. -/
def land {α : Type} (value : α → Outside ω → Evaluated ω) : Except Stop α × Outside ω → Evaluated ω
  | (.ok a, o) => value a o
  | (.error s, o) => stop s o

end Evaluated

namespace Evaluation

open Evaluated

variable (host : OpenHost ω) (ns : Namespace)

/-- Begins an expression. -/
def enter (e : Expr) (fs : List Frame) (o : Outside ω) : Evaluated ω :=
  match e with
  | .name n => settle fs (ns.find n) o
  | .int i => go (.value (.int i)) fs o
  | .bool b => go (.value (.bool b)) fs o
  | .none => go (.value .none) fs o
  | .str s => go (.value (.str s)) fs o
  | .template parts => go (.parts "" parts) fs o
  | .tuple items => go (.row .tuple [] items) fs o
  | .list items => go (.row .list [] items) fs o
  | .star _ => stop (.fault .misplacedStar) o
  | .unary op e => go (.eval e) (.unary (.operator op) :: fs) o
  | .binary op l r => go (.eval l) (.left (.operator op) r :: fs) o
  | .compare op l r => go (.eval l) (.left (.comparison op) r :: fs) o
  | .logical op l r => go (.eval l) (.connective op r :: fs) o
  | .call f args keywords => go (.eval f) (.function args keywords :: fs) o
  | .attribute e n => go (.eval e) (.unary (.attribute n) :: fs) o
  | .subscript e i => go (.eval e) (.left .subscript i :: fs) o

/-- Gives a value to the frame that waits for it. -/
def resume (v : Value) (f : Frame) (fs : List Frame) (o : Outside ω) : Evaluated ω :=
  match f with
  | .unary op => settle fs (op.apply v) o
  | .left op r => go (.eval r) (.right op v :: fs) o
  | .right op a => settle fs (op.apply a v) o
  | .connective op r => if decides op v then go (.value v) fs o else go (.eval r) fs o
  | .function args keywords => go (.row (.arguments v keywords) [] args) fs o
  | .item use done todo => go (.row use (done ++ [v]) todo) fs o
  | .keyword f args done name todo => go (.keywords f args (done ++ [(name, v)]) todo) fs o
  | .field text spec todo =>
    match v.format spec with
    | .ok s => go (.parts (text ++ s) todo) fs o
    | .error f => stop (.fault f) o

/-- Uses a row of values. -/
def use (values : List Value) (row : Row) (fs : List Frame) (o : Outside ω) : Evaluated ω :=
  match row with
  | .tuple => go (.value (.tuple values)) fs o
  | .list => go (.value (.list values)) fs o
  | .arguments f keywords => go (.keywords f values [] keywords) fs o

/-- Starts a command. -/
def launch (d : Delivery) (command : String) (fs : List Frame) (o : Outside ω) : Evaluated ω :=
  match host.launch (wiringOf d) command o.world with
  | (.ok a, w) => go (.read (.first d) a 0) fs { o with world := w }
  | (.error e, w) => stop (.fault (.shell (.notStarted host.shell e))) { o with world := w }

/-- Calls a value. -/
def call (f : Value) (args : Args) (fs : List Frame) (o : Outside ω) : Evaluated ω :=
  match f with
  | .builtin .range =>
    match rangeBounds args with
    | .ok (start, stop, step) => go (.count [] start stop step) fs o
    | .error f => stop (.fault f) o
  | .builtin (.run d) =>
    match args.one d.runner with
    | .ok (.str command) => launch host d command fs { o with log := .running d command :: o.log }
    | .ok v => stop (.fault (.notCommand d.runner v.type)) o
    | .error f => stop (.fault f) o
  | f =>
    -- no other function runs a command, so this is one act
    land (fun v => go (.value v) fs) (f.callWith host.muted args o)

/-- Counts a number. -/
def count (done : List Value) (i stop step : Int64) (fs : List Frame) (o : Outside ω) :
    Evaluated ω :=
  if (0 < step ∧ i < stop) ∨ (step < 0 ∧ stop < i) then
    match Checked.add? i step with
    | some i' => go (.count (done ++ [.int i]) i' stop step) fs o
    | none => go (.value (.list (done ++ [.int i]))) fs o
  else go (.value (.list done)) fs o

/-- Takes the next piece of a command's output, or its end. -/
def read (reading : Reading) (a : Activity) (n : Nat) (fs : List Frame) (o : Outside ω) :
    Evaluated ω :=
  match a.piece n, reading with
  | some p, .forward d =>
    let (text, d) := d.feed p.2
    match host.muted.pass .output (String.ofList text) o.world with
    | (some e, w) => go (.read (.drain e) a (n + 1)) fs { o with world := w }
    | (none, w) => go (.read (.forward d) a (n + 1)) fs { o with world := w }
  | some _, .drain e => go (.read (.drain e) a (n + 1)) fs o
  | some p, .collect d ps => go (.read (.collect d (ps ++ [p])) a (n + 1)) fs o
  | none, .forward d =>
    match host.muted.pass .output (String.ofList d.finish) o.world with
    | (some e, w) => stop (.fault (.shell (.io e))) { o with world := w }
    | (none, w) =>
      settle fs ((delivered ⟨[], a.status⟩ .stream).mapError .shell) { o with world := w }
  | none, .drain e => stop (.fault (.shell (.io e))) o
  | none, .collect d ps => settle fs ((delivered ⟨ps, a.status⟩ d).mapError .shell) o

/-- One step of an evaluation. -/
def step : Evaluation ω → Evaluated ω
  | ⟨.eval e, fs, o⟩ => enter ns e fs o
  | ⟨.value v, [], o⟩ => .inr (.ok v, o)
  | ⟨.value v, f :: fs, o⟩ => resume v f fs o
  | ⟨.row row done [], fs, o⟩ => use done row fs o
  | ⟨.row row done (e :: es), fs, o⟩ => go (.eval e) (.item row done es :: fs) o
  | ⟨.keywords f args done [], fs, o⟩ => go (.call f ⟨args, done⟩) fs o
  | ⟨.keywords f args done (.mk n e :: ks), fs, o⟩ =>
    go (.eval e) (.keyword f args done n ks :: fs) o
  | ⟨.parts text [], fs, o⟩ => go (.value (.str text)) fs o
  | ⟨.parts text (.literal s :: ps), fs, o⟩ => go (.parts (text ++ s) ps) fs o
  | ⟨.parts text (.field e spec :: ps), fs, o⟩ => go (.eval e) (.field text spec ps :: fs) o
  | ⟨.call f args, fs, o⟩ => call host f args fs o
  | ⟨.count done i stop step, fs, o⟩ => count done i stop step fs o
  | ⟨.read reading a n, fs, o⟩ => read host reading a n fs o

end Evaluation

/-! ## The evaluation is followed -/

open Evaluated

/-- The machine follows a computation, which never gives up. -/
abbrev Works {α : Type} (host : OpenHost ω) (ns : Namespace) (start : Outside ω → Evaluated ω)
    (x : EvalM ω α) (value : α → Outside ω → Evaluated ω) : Prop :=
  Follows (Evaluation.step host ns) (fun _ => False) 0 start x value stop

section

variable {α : Type} {host : OpenHost ω} {ns : Namespace} {start : Outside ω → Evaluated ω}
  {x : EvalM ω α} {value : α → Outside ω → Evaluated ω} {fs : List Frame} {o : Outside ω}

theorem Works.of_reaches
    (h : ∀ o, Reaches (Evaluation.step host ns) (start o) (land value (x o))) :
    Works host ns start x value := by
  intro o
  have ho := h o
  constructor
  · intro a o' hx
    rw [hx] at ho
    exact ho
  · intro s o' hx
    rw [hx] at ho
    exact ⟨fun _ => ho, False.elim⟩

theorem settle_works (r : Except Fault Value) :
    Works host ns (settle fs r) (.ofExcept r) fun v => go (.value v) fs := by
  cases r with
  | ok v => exact .pure fun _ => rfl
  | error f => exact .throw (fun _ => rfl) id

/-! ### Commands -/

/-- The outcome of a command whose output has been passed on, or could not be. -/
def forwarded (status : Status) : Option OsError × ω → Except RunError Value × ω
  | (some e, w) => (.error (.io e), w)
  | (none, w) => (delivered ⟨[], status⟩ .stream, w)

/-- The outcome of a command. -/
def runValue (host : Host ω) (d : Delivery) (command : String) (w : ω) :
    Except RunError Value × ω :=
  match Shell.start host (wiringOf d) command w with
  | (.error e, w) => (.error e, w)
  | (.ok c, w) =>
    match d with
    | .stream => forwarded c.status (Shell.forward host {} (c.pieces.map (·.2)) w)
    | d => (delivered c d, w)

theorem ofRun_apply {f : ω → Except RunError α × ω} {r : Except RunError α} {w : ω}
    (h : f o.world = (r, w)) :
    EvalM.ofRun f o = (r.mapError fun e => .fault (.shell e), { o with world := w }) := by
  have hact : EvalM.act f o = (.ok r, { o with world := w }) := by rw [EvalM.act_apply, h]
  rw [EvalM.ofRun, Effects.bind_ok hact]
  cases r <;> rfl

/-- The value that is made of a command's result. -/
theorem ofRun_map {β : Type} (f : ω → Except RunError α × ω) (g : α → β) :
    (do return g (← .ofRun f) : EvalM ω β) = .ofRun fun w => ((f w).1.map g, (f w).2) := by
  funext o
  cases hf : f o.world with
  | mk r w =>
    have hg : (fun w => ((f w).1.map g, (f w).2)) o.world = (r.map g, w) := by
      dsimp only
      rw [hf]
    rw [ofRun_apply hg]
    cases r with
    | error e => exact Effects.bind_error (ofRun_apply hf)
    | ok a => exact Effects.bind_ok (ofRun_apply hf)

theorem runCommand_eq (host : Host ω) (d : Delivery) (command : String) :
    Builtin.runCommand host d command = .ofRun (runValue host d command) := by
  cases d with
  | stream =>
    refine (ofRun_map (Shell.stream host command) fun _ => Value.none).trans
      (congrArg _ (funext fun w => ?_))
    unfold Shell.stream runValue wiringOf
    dsimp only
    rcases Shell.start host .merged command w with ⟨e | c, w⟩
    · rfl
    · dsimp only
      generalize Shell.forward host {} (c.pieces.map (·.2)) w = r
      rcases r with ⟨_ | e, w⟩ <;> rfl
  | single =>
    refine (ofRun_map (Shell.capture host command) Value.str).trans
      (congrArg _ (funext fun w => ?_))
    unfold Shell.capture runValue wiringOf
    dsimp only
    rcases Shell.start host .merged command w with ⟨e | c, w⟩
    · rfl
    · dsimp only [delivered]
      cases Shell.check c.status <;> rfl
  | triple =>
    refine (ofRun_map (Shell.captureTriple host command) fun c =>
      Value.tuple [.str c.out, .str c.err, .int c.code.toInt64]).trans
      (congrArg _ (funext fun w => ?_))
    unfold Shell.captureTriple runValue wiringOf
    dsimp only
    rcases Shell.start host .separate command w with ⟨e | c, w⟩ <;> rfl

/-- Where an evaluation goes on after a command. -/
def ran (fs : List Frame) (o : Outside ω) (r : Except RunError Value × ω) : Evaluated ω :=
  settle fs (r.1.mapError .shell) { o with world := r.2 }

theorem Works.ofRun {f : ω → Except RunError Value × ω}
    (h : ∀ o, Reaches (Evaluation.step host ns) (start o) (ran fs o (f o.world))) :
    Works host ns start (.ofRun f) fun v => go (.value v) fs := by
  refine .of_reaches fun o => ?_
  have ho := h o
  cases hf : f o.world with
  | mk r w =>
    rw [hf] at ho
    rw [ofRun_apply hf]
    cases r <;> exact ho

/-- A command whose output cannot be passed on is waited for. -/
theorem drain_reaches {a : Activity} {n : Nat} {ps : List (Stream × List UInt8)}
    (hps : a.Writes n ps) (e : OsError) :
    Reaches (Evaluation.step host ns) (go (.read (.drain e) a n) fs o)
      (stop (.fault (.shell (.io e))) o) := by
  induction hps with
  | done hend =>
    refine .head ?_
    unfold Evaluation.step Evaluation.read
    dsimp only
    rw [hend]
    exact .refl
  | more hp _ ih =>
    refine .head ?_
    unfold Evaluation.step Evaluation.read
    dsimp only
    rw [hp]
    exact ih

/-- Output is passed on piece by piece as it is passed on as a whole. -/
theorem forward_reaches (hc : host.CommandsEnd) {a : Activity} {n : Nat}
    {ps : List (Stream × List UInt8)} (hps : a.Writes n ps) (d : Utf8.Decoder) :
    Reaches (Evaluation.step host ns) (go (.read (.forward d) a n) fs o)
      (ran fs o (forwarded a.status
        (Shell.forward (host.closed hc) d (ps.map (·.2)) o.world))) := by
  induction hps generalizing d o with
  | done hend =>
    refine .head ?_
    unfold Evaluation.step Evaluation.read
    dsimp only
    rw [hend]
    have hpass : (host.closed hc).pass = host.muted.pass := rfl
    rw [List.map_nil, Shell.forward, hpass]
    dsimp only
    cases host.muted.pass .output (String.ofList d.finish) o.world with
    | mk e w => cases e <;> exact .refl
  | @more n p ps hp hps ih =>
    refine .head ?_
    unfold Evaluation.step Evaluation.read
    dsimp only
    rw [hp]
    have hpass : (host.closed hc).pass = host.muted.pass := rfl
    rw [List.map_cons, Shell.forward, hpass]
    dsimp only
    cases host.muted.pass .output (String.ofList (d.feed p.2).1) o.world with
    | mk e w =>
      cases e with
      -- a failing write is the last one, and the command is waited for
      | some e => exact drain_reaches hps e
      | none => exact ih (d.feed p.2).2

/-- Output that is kept is complete when the command has ended. -/
theorem collect_reaches {a : Activity} {n : Nat} {ps kept : List (Stream × List UInt8)}
    (hps : a.Writes n ps) (d : Delivery) :
    Reaches (Evaluation.step host ns) (go (.read (.collect d kept) a n) fs o)
      (ran fs o (delivered ⟨kept ++ ps, a.status⟩ d, o.world)) := by
  induction hps generalizing kept with
  | done hend =>
    refine .head ?_
    unfold Evaluation.step Evaluation.read
    dsimp only
    rw [hend, List.append_nil]
    exact .refl
  | more hp _ ih =>
    refine .head ?_
    unfold Evaluation.step Evaluation.read
    dsimp only
    rw [hp, List.append_cons]
    exact ih

/-- **A command that ends is read to its end.** -/
theorem launch_works (hc : host.CommandsEnd) (d : Delivery) (command : String) :
    Works host ns (Evaluation.launch host d command fs)
      (Builtin.runCommand (host.closed hc) d command) fun v => go (.value v) fs := by
  rw [runCommand_eq]
  refine .ofRun fun o => ?_
  unfold Evaluation.launch runValue Shell.start
  cases hlaunch : host.launch (wiringOf d) command o.world with
  | mk r w =>
    cases r with
    | error e =>
      rw [OpenHost.closed_start_error hlaunch]
      exact .refl
    | ok a =>
      have hps := a.writes_pieces (hc hlaunch)
      rw [OpenHost.closed_start_ok hlaunch]
      cases d with
      | stream => exact forward_reaches hc hps {}
      | single => exact collect_reaches hps .single
      | triple => exact collect_reaches hps .triple

/-! ### Ranges -/

theorem count_reaches (i stop step : Int64) (done : List Value) :
    Reaches (Evaluation.step host ns) (go (.count done i stop step) fs o)
      (go (.value (.list (done ++ Checked.rangeFrom i stop step))) fs o) := by
  fun_induction Checked.rangeFrom i stop step generalizing done with
  | case1 i hbefore ih =>
    refine .head ?_
    rw [Evaluation.step, Evaluation.count, if_pos hbefore]
    cases hadd : Checked.add? i step with
    | none => exact .refl
    | some i' =>
      have hrest := ih i' hadd (done ++ [.int i])
      rw [← List.append_cons] at hrest
      exact hrest
  | case2 i hbefore =>
    refine .head ?_
    rw [Evaluation.step, Evaluation.count, if_neg hbefore, List.append_nil]
    exact .refl

/-! ### Calls -/

theorem call_works (hc : host.CommandsEnd) (f : Value) (args : Args) :
    Works host ns (Evaluation.call host f args fs) (f.callWith (host.closed hc) args)
      fun v => go (.value v) fs := by
  cases f with
  | builtin b =>
    cases b with
    | range =>
      refine .of_reaches fun o => ?_
      rw [Value.callWith, Builtin.call, rangeOf_eq, Evaluation.call]
      rcases rangeBounds args with f | ⟨i, stop, step⟩
      · exact .refl
      · exact count_reaches i stop step []
    | run d =>
      unfold Evaluation.call Value.callWith Builtin.call Builtin.runGiven
      dsimp only
      cases hone : args.one d.runner with
      | error f => exact .throw (fun _ => rfl) id
      | ok v =>
        cases v with
        | str command =>
          exact fun o => launch_works hc d command { o with log := .running d command :: o.log }
        | _ => exact .throw (fun _ => rfl) id
    | _ => exact .of_reaches fun o => .refl
  | _ => exact .of_reaches fun o => .refl

/-! ### Expressions -/

mutual

/-- **The machine follows the evaluation of an expression.** -/
theorem eval_works (hc : host.CommandsEnd) : ∀ (e : Expr) (fs : List Frame),
    Works host ns (go (.eval e) fs) (e.eval (host.closed hc) ns) fun v => go (.value v) fs
  | .name n, fs => .head (settle_works (ns.find n))
  | .int _, _ | .bool _, _ | .none, _ | .str _, _ => .head (.pure fun _ => rfl)
  | .template parts, fs => by
    refine .head ((parts_work hc parts "" fs).bind fun text => .head ?_)
    rw [String.empty_append]
    exact .pure fun _ => rfl
  | .tuple items, fs => by
    refine .head ((all_work hc items .tuple [] fs).bind fun _ => ?_)
    exact .head (.pure fun _ => rfl)
  | .list items, fs => by
    refine .head ((all_work hc items .list [] fs).bind fun _ => ?_)
    exact .head (.pure fun _ => rfl)
  | .star _, _ => .head (.throw (fun _ => rfl) id)
  | .unary op e, fs => by
    refine .head ((eval_works hc e _).bind fun v => ?_)
    exact .head (settle_works (Value.unary op v))
  | .binary op l r, fs => by
    refine .head ((eval_works hc l _).bind fun a => ?_)
    refine .head ((eval_works hc r _).bind fun b => ?_)
    exact .head (settle_works (Value.binary op a b))
  | .compare op l r, fs => by
    refine .head ((eval_works hc l _).bind fun a => ?_)
    refine .head ((eval_works hc r _).bind fun b => .head ?_)
    cases hcompared : Value.compared op a b with
    | error f =>
      refine .throw (fun o => ?_) id
      simp only [Evaluation.step, Evaluation.resume, Binary.apply, hcompared]
      rfl
    | ok b =>
      refine .pure fun o => ?_
      simp only [Evaluation.step, Evaluation.resume, Binary.apply, hcompared]
      rfl
  | .logical op l r, fs => by
    refine .head ((eval_works hc l _).bind fun a => .head ?_)
    have hright := eval_works hc r fs
    -- both operators look at the left side alone first
    have hdecided : Works host ns
        (fun o => if decides op a then go (.value a) fs o else go (.eval r) fs o)
        (if decides op a then pure a else r.eval (host.closed hc) ns) fun v => go (.value v) fs := by
      cases decides op a with
      | true => exact .pure fun _ => rfl
      | false => exact hright
    cases op <;> exact hdecided
  | .call f args keywords, fs => by
    refine .head ((eval_works hc f _).bind fun f => ?_)
    refine .head ((all_work hc args _ [] fs).bind fun args => ?_)
    refine .head ((keywords_work hc keywords f args [] fs).bind fun keywords => ?_)
    exact .head (.head (call_works hc f ⟨args, keywords⟩))
  | .attribute e n, fs => by
    refine .head ((eval_works hc e _).bind fun v => ?_)
    exact .head (settle_works (v.attribute n))
  | .subscript e i, fs => by
    refine .head ((eval_works hc e _).bind fun a => ?_)
    refine .head ((eval_works hc i _).bind fun b => ?_)
    exact .head (settle_works (a.itemAt b))

theorem all_work (hc : host.CommandsEnd) : ∀ (es : List Expr) (row : Row) (done : List Value)
    (fs : List Frame), Works host ns (go (.row row done es) fs) (evalAll (host.closed hc) ns es)
      fun vs => go (.row row (done ++ vs) []) fs
  | [], row, done, fs => by
    refine .pure fun o => ?_
    rw [List.append_nil]
  | e :: es, row, done, fs => by
    refine .head ((eval_works hc e _).bind fun v => .head ?_)
    refine (all_work hc es row (done ++ [v]) fs).bind fun vs => ?_
    rw [← List.append_cons]
    exact .pure fun _ => rfl

theorem keywords_work (hc : host.CommandsEnd) : ∀ (ks : List Keyword) (f : Value)
    (args : List Value) (done : List (String × Value)) (fs : List Frame),
    Works host ns (go (.keywords f args done ks) fs) (evalKeywords (host.closed hc) ns ks)
      fun vs => go (.keywords f args (done ++ vs) []) fs
  | [], f, args, done, fs => by
    refine .pure fun o => ?_
    rw [List.append_nil]
  | .mk n e :: ks, f, args, done, fs => by
    refine .head ((eval_works hc e _).bind fun v => .head ?_)
    refine (keywords_work hc ks f args (done ++ [(n, v)]) fs).bind fun vs => ?_
    rw [← List.append_cons]
    exact .pure fun _ => rfl

theorem parts_work (hc : host.CommandsEnd) : ∀ (ps : List Part) (text : String)
    (fs : List Frame), Works host ns (go (.parts text ps) fs) (evalParts (host.closed hc) ns ps)
      fun s => go (.parts (text ++ s) []) fs
  | [], text, fs => by
    refine .pure fun o => ?_
    rw [String.append_empty]
  | .literal s :: ps, text, fs => by
    refine .head ((parts_work hc ps (text ++ s) fs).bind fun rest => ?_)
    rw [String.append_assoc]
    exact .pure fun _ => rfl
  | .field e spec :: ps, text, fs => by
    refine .head ((eval_works hc e _).bind fun v => .head ?_)
    cases hformat : v.format spec with
    | error f =>
      refine .throw (fun o => ?_) id
      simp only [Evaluation.step, Evaluation.resume, hformat]
    | ok s =>
      have hresume : ∀ o, Evaluation.step host ns ⟨.value v, .field text spec ps :: fs, o⟩ =
          go (.parts (text ++ s) ps) fs o := by
        intro o
        simp only [Evaluation.step, Evaluation.resume, hformat]
      simp only [hresume]
      refine (parts_work hc ps (text ++ s) fs).bind fun rest => ?_
      rw [String.append_assoc]
      exact .pure fun _ => rfl

end

/-- An expression by itself is evaluated to its result. -/
theorem eval_reaches (hc : host.CommandsEnd) (e : Expr) (o : Outside ω) :
    Reaches (Evaluation.step host ns) (go (.eval e) [] o)
      (.inr (e.eval (host.closed hc) ns o)) := by
  obtain ⟨hvalue, hstop⟩ := eval_works hc e [] o
  rcases heval : e.eval (host.closed hc) ns o with ⟨s | v, o'⟩
  · exact (hstop s o' heval).1 id
  · exact (hvalue v o' heval).trans (.head .refl)

end

end Tilde.Steps
