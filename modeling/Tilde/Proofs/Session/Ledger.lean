import Mathlib.Data.List.Induction
import Tilde.Proofs.Exec.Moved
import Tilde.Session

/-!
# The lines of a session

A session keeps its lines as one text. A ledger keeps them apart: it says of each input what becomes
of it, and which lines are held since the last execution or interrupt. What it says depends on the
probe and the inputs alone, not on what programs do or whether writing fails.

The session does what the ledger says. So every line is in one executed text, or is dropped by one
interrupt, or is held; and the buffer is the lines held. Lines that are dropped leave nothing behind
but log records, which no program reads, so a session that never saw them goes on alike.
-/

namespace Tilde

variable {ω : Type}

/-! ## Ledgers -/

/-- The text of an input that is a line. -/
def Input.line? : Input → Option String
  | .line text => some text
  | .interrupt | .endOfInput => none

/-- The lines among some inputs. -/
def linesOf (inputs : List Input) : List String := inputs.filterMap Input.line?

/-- Some lines as one text. -/
def joined (lines : List String) : String := "\n".intercalate lines

theorem joined_cons {lines : List String} (h : lines ≠ []) (line : String) :
    joined (line :: lines) = line ++ "\n" ++ joined lines := by
  cases lines with
  | nil => exact absurd rfl h
  | cons line' lines => exact String.intercalate_cons_cons

theorem joined_append {lines lines' : List String} (h : lines ≠ []) (h' : lines' ≠ []) :
    joined (lines ++ lines') = joined lines ++ "\n" ++ joined lines' := by
  induction lines with
  | nil => exact absurd rfl h
  | cons line lines ih =>
    cases lines with
    | nil => exact joined_cons h' line
    | cons line' lines =>
      rw [List.cons_append, joined_cons (by simp), joined_cons (by simp), ih (by simp)]
      simp only [String.append_assoc]

/-- What becomes of an input. -/
inductive Act where
  /-- It is a line that is held, with those before it. -/
  | hold (lines : List String)
  /-- It is a line that makes the lines held run, itself among them. -/
  | run (lines : List String)
  /-- It is an interrupt, which drops the lines held. -/
  | drop (lines : List String)
  /-- It is the end of the input. -/
  | close

/-- The lines that are held no longer. -/
def Act.settled : Act → List String
  | .run lines | .drop lines => lines
  | .hold _ | .close => []

/-- What has become of some inputs. -/
structure Ledger where
  acts : List Act := []
  /-- The inputs up to the last execution or interrupt. -/
  past : List Input := []
  /-- The inputs since then. -/
  since : List Input := []

namespace Ledger

/-- The lines that are held. -/
def held (L : Ledger) : List String := linesOf L.since

/-- What becomes of a further input. -/
def act (L : Ledger) (probe : Probe) : Input → Act
  | .line text =>
    let lines := L.held ++ [text]
    if L.held ≠ [] ∧ (Text.trim text).isEmpty = true then .run lines
    else match probe (joined lines) with
      | .incomplete => .hold lines
      | .complete | .invalid => .run lines
  | .interrupt => .drop L.held
  | .endOfInput => .close

/-- The ledger with a further input. -/
def enter (L : Ledger) (probe : Probe) (input : Input) : Ledger :=
  match L.act probe input with
  | .hold lines => { L with acts := L.acts ++ [.hold lines], since := L.since ++ [input] }
  | .close => { L with acts := L.acts ++ [.close], since := L.since ++ [input] }
  | .run lines => ⟨L.acts ++ [.run lines], L.past ++ L.since ++ [input], []⟩
  | .drop lines => ⟨L.acts ++ [.drop lines], L.past ++ L.since ++ [input], []⟩

/-- The ledger of some inputs. -/
def of (probe : Probe) (inputs : List Input) : Ledger :=
  inputs.foldl (fun L input => L.enter probe input) {}

/-- The inputs without the lines that are held. -/
def spared (L : Ledger) : List Input :=
  L.past ++ L.since.filter fun input => input.line?.isNone

theorem of_concat (probe : Probe) (inputs : List Input) (input : Input) :
    of probe (inputs ++ [input]) = (of probe inputs).enter probe input := by
  simp [of]

theorem enter_acts (L : Ledger) (probe : Probe) (input : Input) :
    (L.enter probe input).acts = L.acts ++ [L.act probe input] := by
  unfold enter
  cases L.act probe input <;> rfl

/-- A ledger forgets no input. -/
theorem inputs_of (probe : Probe) (inputs : List Input) :
    (of probe inputs).past ++ (of probe inputs).since = inputs := by
  induction inputs using List.reverseRecOn with
  | nil => rfl
  | append_singleton inputs input ih =>
    have hinputs : (of probe inputs).past ++ (of probe inputs).since ++ [input]
        = inputs ++ [input] := by rw [ih]
    rw [of_concat, ← hinputs]
    unfold enter
    cases (of probe inputs).act probe input <;> simp

theorem linesOf_append (is js : List Input) : linesOf (is ++ js) = linesOf is ++ linesOf js :=
  List.filterMap_append

/-- A line is held, or makes the lines held run. -/
theorem act_line (L : Ledger) (probe : Probe) (text : String) :
    L.act probe (.line text) = .run (L.held ++ [text])
      ∨ L.act probe (.line text) = .hold (L.held ++ [text]) := by
  unfold act
  dsimp only
  split
  · exact .inl rfl
  · split
    · exact .inr rfl
    · exact .inl rfl
    · exact .inl rfl

/-- What a further input adds to the inputs without the lines held: nothing, if it is held itself;
itself, if it is the end of the input; and else all that has been left out, and itself. -/
theorem spared_enter (L : Ledger) (probe : Probe) (input : Input) :
    (∃ lines, L.act probe input = .hold lines ∧ (L.enter probe input).spared = L.spared)
      ∨ (input = .endOfInput ∧ (L.enter probe input).spared = L.spared ++ [input])
      ∨ (L.enter probe input).spared = L.past ++ L.since ++ [input] := by
  unfold enter spared
  cases input with
  | line text =>
    rcases L.act_line probe text with hact | hact <;> rw [hact]
    · exact .inr (.inr (by simp))
    · exact .inl ⟨_, rfl, by simp [Input.line?]⟩
  | interrupt => exact .inr (.inr (by simp [act]))
  | endOfInput => exact .inr (.inl ⟨rfl, by simp [act, Input.line?]⟩)

/-- The lines that a further input settles are the last ones, and those held are the others. -/
theorem settled_enter (L : Ledger) (probe : Probe) (input : Input) :
    (L.act probe input).settled ++ (L.enter probe input).held = L.held ++ linesOf [input] := by
  unfold enter
  cases input with
  | line text =>
    rcases L.act_line probe text with hact | hact <;> rw [hact]
    · exact List.append_nil _
    · exact linesOf_append L.since [.line text]
  | interrupt => rfl
  | endOfInput => exact linesOf_append L.since [.endOfInput]

/-- **Each line is settled once, in order, or held.** -/
theorem lines_of (probe : Probe) (inputs : List Input) :
    linesOf inputs = (of probe inputs).acts.flatMap Act.settled ++ (of probe inputs).held := by
  induction inputs using List.reverseRecOn with
  | nil => rfl
  | append_singleton inputs input ih =>
    rw [linesOf_append, ih, List.append_assoc, ← settled_enter (of probe inputs) probe input,
      of_concat, enter_acts, List.flatMap_append, List.append_assoc]
    simp

end Ledger

/-! ## What the acts do -/

/-- Writes a text and the end of its line, and flushes the sink. A failure is the end of it. -/
def Host.emitLine (host : Host ω) (sink : Sink) (text : String) (w : ω) : Option OsError × ω :=
  host.put sink [text, "\n"] w

namespace Machine

/-- The machine in another world. -/
def inWorld (m : Machine ω) (w : ω) : Machine ω :=
  { m with outside := { m.outside with world := w } }

/-- Writes an empty line. This comes to the given outcome, unless it fails. -/
def endLine (m : Machine ω) (host : Host ω) (outcome : Outcome) : Outcome × Machine ω :=
  let (error, w) := host.emitLine .output "" m.outside.world
  (error.elim outcome .failed, m.inWorld w)

/-- What the result of a text comes to: an error that is no exit is reported in a line. -/
def report (m : Machine ω) (host : Host ω) : Except RunError Unit → Outcome × Machine ω
  | .ok _ => (.goOn, m)
  | .error e =>
    match e.exitStatus? with
    | some status => (.over status, m)
    | none =>
      let (error, w) := host.emitLine .diagnostics e.diagnostic m.outside.world
      (error.elim .goOn .failed, m.inWorld w)

end Machine

/-- What an act does to the machine of a session. -/
def Act.perform (settings : Settings ω) (m : Machine ω) : Act → Outcome × Machine ω
  | .hold lines => (.goOn, m.logged [.incomplete (Text.lines (joined lines).toList).length])
  | .run lines =>
    let (result, m) := runSource settings.host settings.budget (joined lines) .interactive m
    m.report settings.host result
  | .drop lines =>
    (m.logged [.dropped (joined lines).utf8ByteSize]).endLine settings.host .goOn
  | .close => m.endLine settings.host (.over 0)

/-- What some acts do, one after the other. -/
def performAll (settings : Settings ω) (m : Machine ω) : List Act → List Outcome × Machine ω
  | [] => ([], m)
  | act :: acts =>
    let (outcome, m') := act.perform settings m
    let (outcomes, m'') := performAll settings m' acts
    (outcome :: outcomes, m'')

theorem performAll_cons (settings : Settings ω) (m : Machine ω) (act : Act) (acts : List Act) :
    performAll settings m (act :: acts)
      = ((act.perform settings m).1 :: (performAll settings (act.perform settings m).2 acts).1,
        (performAll settings (act.perform settings m).2 acts).2) := rfl

theorem performAll_append (settings : Settings ω) (m : Machine ω) (acts acts' : List Act) :
    performAll settings m (acts ++ acts')
      = ((performAll settings m acts).1
          ++ (performAll settings (performAll settings m acts).2 acts').1,
        (performAll settings (performAll settings m acts).2 acts').2) := by
  induction acts generalizing m with
  | nil => rfl
  | cons act acts ih => simp only [List.cons_append, performAll_cons, ih]

namespace Session

/-- Gives a session some inputs, whatever becomes of each. -/
def feed (settings : Settings ω) (s : Session ω) : List Input → List Outcome × Session ω
  | [] => ([], s)
  | input :: inputs =>
    let (outcome, s') := s.handle settings input
    let (outcomes, s'') := feed settings s' inputs
    (outcome :: outcomes, s'')

theorem feed_append (settings : Settings ω) (s : Session ω) (inputs inputs' : List Input) :
    feed settings s (inputs ++ inputs')
      = ((feed settings s inputs).1 ++ (feed settings (feed settings s inputs).2 inputs').1,
        (feed settings (feed settings s inputs).2 inputs').2) := by
  induction inputs generalizing s with
  | nil => rfl
  | cons input inputs ih => simp only [List.cons_append, feed, ih]

theorem writeLine_eq (s : Session ω) (host : Host ω) (sink : Sink) (text : String) :
    s.writeLine host sink text
      = ((host.emitLine sink text s.machine.outside.world).1,
        { s with
          machine := s.machine.inWorld (host.emitLine sink text s.machine.outside.world).2 }) :=
  rfl

theorem endLine_eq (s : Session ω) (host : Host ω) (outcome : Outcome) :
    s.endLine host outcome
      = ((s.machine.endLine host outcome).1,
        { s with machine := (s.machine.endLine host outcome).2 }) := by
  unfold endLine Machine.endLine
  rw [writeLine_eq]
  cases host.emitLine .output "" s.machine.outside.world with
  | mk e w => cases e <;> rfl

/-- Running the buffer empties it, whatever it comes to. -/
theorem runBuffer_eq (s : Session ω) (settings : Settings ω) :
    s.runBuffer settings =
      let (result, m) := runSource settings.host settings.budget s.buffer .interactive s.machine
      ((m.report settings.host result).1, ⟨(m.report settings.host result).2, "", .statement⟩) := by
  unfold runBuffer
  cases runSource settings.host settings.budget s.buffer .interactive s.machine with
  | mk r m =>
    cases r with
    | ok _ => rfl
    | error e =>
      dsimp only [Machine.report]
      cases e.exitStatus? with
      | some status => rfl
      | none =>
        dsimp only
        rw [writeLine_eq]
        cases settings.host.emitLine .diagnostics e.diagnostic m.outside.world with
        | mk e w => cases e <;> rfl

/-- The session holds the lines that the ledger says. -/
structure Holds (L : Ledger) (s : Session ω) : Prop where
  buffer : s.buffer = joined L.held
  waiting : s.waiting = if L.held = [] then .statement else .continuation

theorem Holds.gathered {L : Ledger} {s : Session ω} (hs : s.Holds L) (line : String) :
    s.gathered line = joined (L.held ++ [line]) := by
  unfold Session.gathered
  rw [hs.waiting, hs.buffer]
  by_cases hheld : L.held = []
  · rw [if_pos hheld, hheld]
    rfl
  · rw [if_neg hheld, joined_append hheld (by simp)]
    rfl

/-- **The session does what the ledger says.** -/
theorem handle_eq (settings : Settings ω) {L : Ledger} {s : Session ω} (hs : s.Holds L)
    (input : Input) :
    (s.handle settings input).1 = ((L.act settings.probe input).perform settings s.machine).1
      ∧ (s.handle settings input).2.machine
        = ((L.act settings.probe input).perform settings s.machine).2
      ∧ (s.handle settings input).2.Holds (L.enter settings.probe input) := by
  cases input with
  | interrupt =>
    rw [Session.handle, endLine_eq, note, hs.buffer]
    exact ⟨rfl, rfl, rfl, rfl⟩
  | endOfInput =>
    have hheld : (L.enter settings.probe .endOfInput).held = L.held := by
      exact (Ledger.linesOf_append L.since [.endOfInput]).trans (List.append_nil _)
    rw [Session.handle, endLine_eq]
    exact ⟨rfl, rfl, by rw [hheld]; exact hs.buffer, by rw [hheld]; exact hs.waiting⟩
  | line text =>
    -- an empty line runs what is held, if anything is
    have hblank : (s.waiting = .continuation && (Text.trim text).isEmpty) = true
        ↔ L.held ≠ [] ∧ (Text.trim text).isEmpty = true := by
      rw [hs.waiting]
      by_cases hheld : L.held = [] <;> simp [hheld]
    rw [Session.handle, takeLine, hs.gathered]
    dsimp only
    unfold Ledger.enter Ledger.act
    dsimp only
    by_cases hrun : L.held ≠ [] ∧ (Text.trim text).isEmpty = true
    · rw [if_pos hrun, if_pos (hblank.mpr hrun), runBuffer_eq]
      exact ⟨rfl, rfl, rfl, rfl⟩
    · rw [if_neg hrun, if_neg (fun h => hrun (hblank.mp h))]
      cases settings.probe (joined (L.held ++ [text])) with
      | complete | invalid =>
        dsimp only
        rw [runBuffer_eq]
        exact ⟨rfl, rfl, rfl, rfl⟩
      | incomplete =>
        have hheld : linesOf (L.since ++ [.line text]) = L.held ++ [text] :=
          Ledger.linesOf_append L.since [.line text]
        refine ⟨rfl, rfl, ?_, ?_⟩
        · exact congrArg joined hheld.symm
        · exact (if_neg (by simp [Ledger.held, hheld])).symm

/-- After any inputs, the session has done what their ledger says. -/
theorem feed_eq (settings : Settings ω) (m : Machine ω) (inputs : List Input) :
    (feed settings ⟨m, "", .statement⟩ inputs).1
        = (performAll settings m (Ledger.of settings.probe inputs).acts).1
      ∧ (feed settings ⟨m, "", .statement⟩ inputs).2.machine
        = (performAll settings m (Ledger.of settings.probe inputs).acts).2
      ∧ (feed settings ⟨m, "", .statement⟩ inputs).2.Holds (Ledger.of settings.probe inputs) := by
  induction inputs using List.reverseRecOn with
  | nil => exact ⟨rfl, rfl, rfl, rfl⟩
  | append_singleton inputs input ih =>
    obtain ⟨houtcomes, hmachine, hholds⟩ := ih
    obtain ⟨houtcome, hmachine', hholds'⟩ := handle_eq settings hholds input
    rw [Ledger.of_concat, Ledger.enter_acts, feed_append, performAll_append, ← houtcomes,
      ← hmachine]
    refine ⟨?_, hmachine', hholds'⟩
    exact congrArg (fun o => (feed settings ⟨m, "", .statement⟩ inputs).1 ++ [o]) houtcome

/-! ## Sessions that cannot be told apart -/

/-- Both sessions are in the same state, but for the log. -/
structure Same (s s' : Session ω) : Prop where
  machine : Machine.Same (fun _ => True) s.machine s'.machine
  buffer : s'.buffer = s.buffer
  waiting : s'.waiting = s.waiting

end Session

theorem Machine.Same.endLine {m m' : Machine ω} (hm : Same (fun _ => True) m m') (host : Host ω)
    (outcome : Outcome) :
    (m'.endLine host outcome).1 = (m.endLine host outcome).1
      ∧ Same (fun _ => True) (m.endLine host outcome).2 (m'.endLine host outcome).2 := by
  unfold Machine.endLine
  rw [hm.outside.1]
  exact ⟨rfl, hm.vars, rfl, trivial⟩

theorem Machine.Same.report {m m' : Machine ω} (hm : Same (fun _ => True) m m') (host : Host ω)
    (r : Except RunError Unit) :
    (m'.report host r).1 = (m.report host r).1
      ∧ Same (fun _ => True) (m.report host r).2 (m'.report host r).2 := by
  cases r with
  | ok _ => exact ⟨rfl, hm⟩
  | error e =>
    unfold Machine.report
    dsimp only
    cases e.exitStatus? with
    | some status => exact ⟨rfl, hm⟩
    | none =>
      dsimp only
      rw [hm.outside.1]
      exact ⟨rfl, hm.vars, rfl, trivial⟩

namespace Session

variable {s s' : Session ω} (settings : Settings ω)

theorem Same.runBuffer (hs : Same s s') :
    (s'.runBuffer settings).1 = (s.runBuffer settings).1
      ∧ Same (s.runBuffer settings).2 (s'.runBuffer settings).2 := by
  obtain ⟨hresult, hmachine⟩ := runSource_same (settings.host.keepsAnything) settings.budget s.buffer
    .interactive hs.machine
  rw [runBuffer_eq, runBuffer_eq, hs.buffer]
  dsimp only
  rw [hresult]
  obtain ⟨houtcome, hmachine'⟩ := hmachine.report settings.host _
  exact ⟨houtcome, hmachine', rfl, rfl⟩

/-- **A session goes on without reading its log.** -/
theorem Same.handle (hs : Same s s') (input : Input) :
    (s'.handle settings input).1 = (s.handle settings input).1
      ∧ Same (s.handle settings input).2 (s'.handle settings input).2 := by
  cases input with
  | interrupt =>
    rw [Session.handle, Session.handle, endLine_eq, endLine_eq, note, note, hs.buffer]
    obtain ⟨houtcome, hmachine⟩ := (hs.machine.logged [.dropped s.buffer.utf8ByteSize]
      [.dropped s.buffer.utf8ByteSize]).endLine settings.host .goOn
    exact ⟨houtcome, hmachine, rfl, rfl⟩
  | endOfInput =>
    rw [Session.handle, Session.handle, endLine_eq, endLine_eq]
    obtain ⟨houtcome, hmachine⟩ := hs.machine.endLine settings.host (.over 0)
    exact ⟨houtcome, hmachine, hs.buffer, hs.waiting⟩
  | line text =>
    -- what is run is told by the buffer, on which the sessions agree
    have hgathered : s'.gathered text = s.gathered text := by
      unfold Session.gathered
      rw [hs.waiting, hs.buffer]
    rw [Session.handle, Session.handle, takeLine, takeLine, hgathered]
    dsimp only
    rw [hs.waiting]
    have hsame : Same { s with buffer := s.gathered text } { s' with buffer := s.gathered text } :=
      ⟨hs.machine, rfl, hs.waiting⟩
    by_cases hrun : (s.waiting = .continuation && (Text.trim text).isEmpty) = true
    · rw [if_pos hrun, if_pos hrun]
      exact hsame.runBuffer settings
    · rw [if_neg hrun, if_neg hrun]
      cases settings.probe (s.gathered text) with
      | complete | invalid => exact hsame.runBuffer settings
      | incomplete => exact ⟨rfl, hs.machine.logged _ _, rfl, rfl⟩

theorem Same.feed (hs : Same s s') (inputs : List Input) :
    (s'.feed settings inputs).1 = (s.feed settings inputs).1
      ∧ Same (s.feed settings inputs).2 (s'.feed settings inputs).2 := by
  induction inputs generalizing s s' with
  | nil => exact ⟨rfl, hs⟩
  | cons input inputs ih =>
    obtain ⟨houtcome, hs₁⟩ := hs.handle settings input
    obtain ⟨houtcomes, hs₂⟩ := ih hs₁
    rw [Session.feed, Session.feed]
    exact ⟨congrArg₂ List.cons houtcome houtcomes, hs₂⟩

/-! ## Dropped lines -/

/-- An interrupt leaves the same behind, whatever is held. -/
theorem interrupt_same (hm : Machine.Same (fun _ => True) s.machine s'.machine) :
    (s'.handle settings .interrupt).1 = (s.handle settings .interrupt).1
      ∧ Same (s.handle settings .interrupt).2 (s'.handle settings .interrupt).2 := by
  rw [Session.handle, Session.handle, endLine_eq, endLine_eq]
  obtain ⟨houtcome, hmachine⟩ := (hm.logged [.dropped s.buffer.utf8ByteSize]
    [.dropped s'.buffer.utf8ByteSize]).endLine settings.host .goOn
  exact ⟨houtcome, hmachine, rfl, rfl⟩

/-- **Lines that are held leave nothing but log records behind.** -/
theorem feed_spared (m : Machine ω) (inputs : List Input) :
    Machine.Same (fun _ => True) (feed settings ⟨m, "", .statement⟩ inputs).2.machine
      (feed settings ⟨m, "", .statement⟩ (Ledger.of settings.probe inputs).spared).2.machine := by
  induction inputs using List.reverseRecOn with
  | nil => exact ⟨rfl, rfl, trivial⟩
  | append_singleton inputs input ih =>
    obtain ⟨-, hmachine, -⟩ := handle_eq settings (feed_eq settings m inputs).2.2 input
    rw [Ledger.of_concat]
    rcases Ledger.spared_enter (Ledger.of settings.probe inputs) settings.probe input with
      ⟨lines, hact, hspared⟩ | ⟨rfl, hspared⟩ | hspared <;> rw [hspared]
    · -- a line that is held adds a record to the log
      rw [hact] at hmachine
      rw [feed_append]
      change Machine.Same _ ((feed settings ⟨m, "", .statement⟩ inputs).2.handle settings
        input).2.machine _
      rw [hmachine]
      exact ⟨ih.vars, ih.outside⟩
    · -- the end of the input writes an empty line in both
      rw [feed_append, feed_append]
      change Machine.Same _ (Session.handle _ settings .endOfInput).2.machine
        (Session.handle _ settings .endOfInput).2.machine
      rw [Session.handle, Session.handle, endLine_eq, endLine_eq]
      exact (ih.endLine settings.host (.over 0)).2
    · -- whatever was held has been settled in both
      rw [Ledger.inputs_of]
      exact ⟨rfl, rfl, trivial⟩

end Session

/--
**No line of a session is lost, or runs twice.**

Whatever inputs a session has been given, and whatever they came to, it is in the state that their
ledger says. Where it waits for a statement it holds nothing; where it waits for a continuation its
buffer is the lines since the last execution or interrupt. The lines of the inputs are, in order,
those of the executed texts and of the interrupts, each of them settled once, and those that are
held; and what the inputs came to is what executing those texts comes to.

After an interrupt, whether or not it can write its empty line, the session goes on as one that was
never given the lines that it drops: each further input comes to the same, and leads to the same
state, but for the log.
-/
theorem session_settles_lines (settings : Settings ω) (m : Machine ω) (inputs : List Input) :
    let L := Ledger.of settings.probe inputs
    let (outcomes, s) := Session.feed settings ⟨m, "", .statement⟩ inputs
    let (_, s') := Session.feed settings ⟨m, "", .statement⟩ L.spared
    (match s.waiting with
      | .statement => s.buffer = "" ∧ L.held = []
      | .continuation => s.buffer = joined L.held ∧ L.held ≠ [])
      ∧ linesOf inputs = L.acts.flatMap Act.settled ++ L.held
      ∧ (outcomes, s.machine) = performAll settings m L.acts
      ∧ ∀ after,
        (s'.feed settings (.interrupt :: after)).1 = (s.feed settings (.interrupt :: after)).1
          ∧ (s.feed settings (.interrupt :: after)).2.Same
            (s'.feed settings (.interrupt :: after)).2 := by
  obtain ⟨houtcomes, hmachine, hholds⟩ := Session.feed_eq settings m inputs
  refine ⟨?_, Ledger.lines_of settings.probe inputs, Prod.ext houtcomes hmachine, fun after => ?_⟩
  · rw [hholds.waiting, hholds.buffer]
    by_cases hheld : (Ledger.of settings.probe inputs).held = []
    · rw [if_pos hheld, hheld]
      exact ⟨rfl, rfl⟩
    · rw [if_neg hheld]
      exact ⟨rfl, hheld⟩
  · obtain ⟨houtcome, hsame⟩ :=
      Session.interrupt_same settings (Session.feed_spared settings m inputs)
    obtain ⟨houtcomes', hsame'⟩ := hsame.feed settings after
    exact ⟨congrArg₂ List.cons houtcome houtcomes', hsame'⟩

end Tilde
