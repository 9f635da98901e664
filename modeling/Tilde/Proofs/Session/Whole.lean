import Tilde.Proofs.Joined.Program
import Tilde.Proofs.Session.Ledger

/-!
# A session and its whole text

A session cuts its lines into texts, where the probe and the blank lines ask for it, and runs one
after the other. If nothing goes wrong, this comes to the same as running all the lines as one text:
the texts parse, so they can be joined by line ends, and the statements of the joined text are theirs
in a row, on lines further down.

A text that goes wrong is reported to the diagnostics. What has been written stays written, so a
session without diagnostics is one in which no text went wrong.
-/

namespace Tilde

variable {ω : Type}

/-! ## Recorded hosts -/

/-- What a program does to the world. -/
inductive Event where
  | started (wiring : Wiring) (command : String)
  | wrote (sink : Sink) (text : String)
  deriving DecidableEq, Repr

/-- The text that has been written to a sink. The last event comes first. -/
def writtenTo (sink : Sink) (events : List Event) : String :=
  String.join (events.reverse.filterMap fun
    | .wrote other text => if other = sink then some text else none
    | .started .. => none)

/-- The commands that have been started, in order. The last event comes first. -/
def commandsOf (events : List Event) : List (Wiring × String) :=
  events.reverse.filterMap fun
    | .started wiring command => some (wiring, command)
    | .wrote .. => none

/-- A host that also records what it starts and writes, the last event first. -/
def Host.recorded (host : Host ω) : Host (ω × List Event) where
  shell := host.shell
  start wiring command w :=
    let (result, w') := host.start wiring command w.1
    (result, w', .started wiring command :: w.2)
  write sink text w :=
    match host.write sink text w.1 with
    | (some e, w') => (some e, w', w.2)
    | (none, w') => (none, w', .wrote sink text :: w.2)
  flush sink w :=
    let (error, w') := host.flush sink w.1
    (error, w', w.2)

theorem Host.emit_of_ne_empty {host : Host ω} {sink : Sink} {text : String} (htext : text ≠ "")
    (w : ω) : host.emit sink text w = host.write sink text w :=
  if_neg fun hempty => htext (String.isEmpty_iff.mp hempty)

/-- Something has been written to the diagnostics. -/
def Noisy (w : ω × List Event) : Prop := ∃ text, Event.wrote .diagnostics text ∈ w.2

/-- What has been written stays written. -/
theorem Host.recorded_keeps (host : Host ω) : host.recorded.Keeps Noisy True where
  write sink text w := by
    rintro ⟨text', h⟩
    unfold Host.recorded
    cases hw : host.write sink text w.1 with
    | mk e w' =>
      cases e with
      | some e => exact ⟨text', by simpa [hw] using h⟩
      | none => exact ⟨text', by simpa [hw] using .inr h⟩
  flush _ _ := id
  start _ wiring command w := by
    rintro ⟨text', h⟩
    exact ⟨text', List.mem_cons_of_mem _ h⟩

theorem Host.Keeps.emitLine {J : ω → Prop} {host : Host ω} {commands : Prop}
    (hhost : host.Keeps J commands) (sink : Sink) (text : String) {w : ω} (hw : J w) :
    J (host.emitLine sink text w).2 :=
  hhost.put sink [text, "\n"] w hw

/-- A text that is written to the diagnostics of a recorded host is heard, unless it is empty. -/
theorem noisy_emit {host : Host ω} {text : String} {w w' : ω × List Event} (htext : text ≠ "")
    (h : host.recorded.emit .diagnostics text w = (none, w')) : Noisy w' := by
  rw [Host.emit_of_ne_empty htext] at h
  unfold Host.recorded at h
  dsimp only at h
  cases hw : host.write .diagnostics text w.1 with
  | mk e w'' =>
    rw [hw] at h
    cases e with
    | some e => cases h
    | none =>
      cases h
      exact ⟨text, List.mem_cons_self ..⟩

/-- A line that is written to the diagnostics of a recorded host is heard. -/
theorem noisy_emitLine {host : Host ω} {text : String} {w : ω × List Event}
    (h : (host.recorded.emitLine .diagnostics text w).1 = none) :
    Noisy (host.recorded.emitLine .diagnostics text w).2 := by
  unfold Host.emitLine at h ⊢
  rw [Host.put] at h ⊢
  rcases htext : host.recorded.emit .diagnostics text w with ⟨_ | e, w'⟩
  · rw [htext] at h
    dsimp only at h ⊢
    -- the end of the line is not empty, and flushing takes nothing back
    rw [Host.put] at h ⊢
    rcases hline : host.recorded.emit .diagnostics "\n" w' with ⟨_ | e, w''⟩
    · exact host.recorded_keeps.put .diagnostics [] w'' (noisy_emit (by decide) hline)
    · rw [hline] at h
      cases h
  · rw [htext] at h
    cases h

section Acts

variable {J : ω → Prop} {settings : Settings ω} (hhost : settings.host.Keeps J True)
include hhost

/-- What the host keeps, an act of a session keeps. -/
theorem perform_keeps {m : Machine ω} (act : Act) (hm : J m.outside.world) :
    J (act.perform settings m).2.outside.world := by
  cases act with
  | hold lines => exact hm
  | drop lines => exact hhost.emitLine .output "" hm
  | close => exact hhost.emitLine .output "" hm
  | run lines =>
    have hself : Machine.Same J m m := ⟨rfl, rfl, hm⟩
    have hrun := (runSource_same hhost settings.budget (joined lines) .interactive hself).2.outside.2
    rw [Act.perform]
    cases hr : runSource settings.host settings.budget (joined lines) .interactive m with
    | mk r m' =>
      rw [hr] at hrun
      cases r with
      | ok _ => exact hrun
      | error e =>
        dsimp only [Machine.report]
        cases e.exitStatus? with
        | some status => exact hrun
        | none => exact hhost.emitLine .diagnostics e.diagnostic hrun

theorem performAll_keeps {m : Machine ω} (acts : List Act) (hm : J m.outside.world) :
    J (performAll settings m acts).2.outside.world := by
  induction acts generalizing m with
  | nil => exact hm
  | cons act acts ih => exact ih (perform_keeps hhost act hm)

end Acts

/-- A text whose run goes on and leaves the diagnostics silent has not gone wrong. -/
theorem report_quiet {host : Host ω} {m : Machine (ω × List Event)} {r : Except RunError Unit}
    (hgo : (m.report host.recorded r).1 = .goOn)
    (hquiet : ¬Noisy (m.report host.recorded r).2.outside.world) :
    r = .ok () ∧ (m.report host.recorded r).2 = m := by
  cases r with
  | ok _ => exact ⟨rfl, rfl⟩
  | error e =>
    unfold Machine.report at hgo hquiet
    dsimp only at hgo hquiet
    cases he : e.exitStatus? with
    | some status => rw [he] at hgo; cases hgo
    | none =>
      rw [he] at hgo hquiet
      dsimp only at hgo hquiet
      cases hline : (host.recorded.emitLine .diagnostics e.diagnostic m.outside.world).1 with
      | some e => rw [hline] at hgo; cases hgo
      | none => exact absurd (noisy_emitLine hline) hquiet

/-! ## Joined texts -/

/-- What follows an execution that gives a value gives it too. -/
theorem ExecM.Follows.ok {α : Type} {J : ω → Prop} {k : Nat} {x y : ExecM ω α}
    {m n m' : Machine ω} {v : α} (h : Follows J k x y) (hmn : Machine.Same J m n)
    (hx : x m = (.ok v, m')) : ∃ n', y n = (.ok v, n') ∧ Machine.Same J m' n' := by
  obtain ⟨hresult, hsame⟩ := h m n hmn
  rw [hx] at hresult hsame
  exact ⟨(y n).2, Prod.ext hresult rfl, hsame⟩

section Joined

variable {host : Host ω} {budget : Nat} {m m₁ m₂ : Machine ω} {a b : String}

theorem Program.run_eq_ok {p : Program} : p.run host budget m = (.ok (), m₁)
    ↔ execProgram ⟨host, p.mode, budget⟩ p.body m = (.ok (), m₁) := by
  unfold Program.run Program.exec
  cases execProgram ⟨host, p.mode, budget⟩ p.body m with
  | mk r m' =>
    cases r with
    | error _ => exact ⟨nofun, nofun⟩
    | ok _ => exact ⟨fun h => by cases h; rfl, fun h => by cases h; rfl⟩

theorem runSource_eq_ok {source : String} {mode : Mode} :
    runSource host budget source mode m = (.ok (), m₁) ↔ ∃ p, parse source mode = .ok p
      ∧ execProgram ⟨host, mode, budget⟩ (expandBody p.body)
        (m.logged (p.notes ++ [.expanded p.literalCount])) = (.ok (), m₁) := by
  unfold runSource
  cases hp : parse source mode with
  | error e => simp
  | ok p =>
    obtain ⟨-, -, -, rfl⟩ := parse_eq_ok.mp hp
    simp only [Except.ok.injEq, exists_eq_left']
    exact Program.run_eq_ok

/-- No lines are a text that does nothing. -/
theorem runSource_empty (host : Host ω) (budget : Nat) (m : Machine ω) :
    ∃ records, runSource host budget (joined []) .interactive m = (.ok (), m.logged records) := by
  have hparse : parse (joined []) .interactive = .ok ⟨[], .interactive⟩ := rfl
  exact ⟨_, runSource_eq_ok.mpr ⟨_, hparse, rfl⟩⟩

/-- **Two texts that run one after the other run joined by a line end.** -/
theorem runSource_joined (ha : runSource host budget a .interactive m = (.ok (), m₁))
    (hb : runSource host budget b .interactive m₁ = (.ok (), m₂)) :
    ∃ m', runSource host budget (a ++ "\n" ++ b) .interactive m = (.ok (), m')
      ∧ Machine.Same (fun _ => True) m₂ m' := by
  obtain ⟨p, hp, hp'⟩ := runSource_eq_ok.mp ha
  obtain ⟨q, hq, hq'⟩ := runSource_eq_ok.mp hb
  have hjoined := parse_append hp hq
  generalize a.toList.count '\n' + 1 = k at hjoined
  generalize hr : (⟨p.body ++ movedBody k q.body, .interactive⟩ : Program) = r at hjoined
  -- the statements of the first text, and then those of the second one, further down
  have hbody : expandBody r.body = expandBody p.body ++ movedBody k (expandBody q.body) := by
    rw [← hr, expandBody_append, expandBody_moved]
  have hsame : Machine.Same (fun _ => True) (m.logged (p.notes ++ [.expanded p.literalCount]))
      (m.logged (r.notes ++ [.expanded r.literalCount])) := ⟨rfl, rfl, trivial⟩
  have hfirst := execProgram_moved ⟨host, .interactive, budget⟩ host.keepsAnything 0
    (expandBody p.body)
  rw [movedBody_zero] at hfirst
  obtain ⟨m₁', hrun, hsame₁⟩ := hfirst.ok hsame hp'
  have hsecond := execProgram_moved ⟨host, .interactive, budget⟩ host.keepsAnything k
    (expandBody q.body)
  have hseam :
      Machine.Same (fun _ => True) (m₁.logged (q.notes ++ [.expanded q.literalCount])) m₁' :=
    ⟨hsame₁.vars, hsame₁.outside⟩
  obtain ⟨m₂', hrun', hsame₂⟩ := hsecond.ok hseam hq'
  refine ⟨m₂', runSource_eq_ok.mpr ⟨r, hjoined, ?_⟩, hsame₂⟩
  rw [hbody, execProgram_append, Effects.bind_ok hrun]
  exact hrun'

end Joined

/-! ## Sessions of lines -/

/-- Acts that lines alone lead to: each holds its line, or runs some. -/
def Act.OfLine : Act → Prop
  | .hold _ => True
  | .run lines => lines ≠ []
  | .drop _ | .close => False

theorem Ledger.ofLine (probe : Probe) (lines : List String) :
    ∀ act ∈ (Ledger.of probe (lines.map .line)).acts, act.OfLine := by
  induction lines using List.reverseRecOn with
  | nil => nofun
  | append_singleton lines line ih =>
    intro act hact
    rw [List.map_append, List.map_singleton, Ledger.of_concat, Ledger.enter_acts] at hact
    rcases List.mem_append.mp hact with hact | hact
    · exact ih act hact
    · rw [List.mem_singleton.mp hact]
      rcases (Ledger.of probe (lines.map .line)).act_line probe line with h | h <;> rw [h]
      · exact List.append_ne_nil_of_right_ne_nil _ (by simp)
      · trivial

/-- **Texts that run one after the other, without trouble, run as one.** -/
theorem performAll_joined {host : Host ω} {budget : Nat} {probe : Probe}
    {m : Machine (ω × List Event)} (acts : List Act) (hacts : ∀ act ∈ acts, act.OfLine)
    (hgo : ∀ o ∈ (performAll ⟨host.recorded, budget, probe⟩ m acts).1, o = .goOn)
    (hquiet : ¬Noisy (performAll ⟨host.recorded, budget, probe⟩ m acts).2.outside.world) :
    ∃ m', runSource host.recorded budget (joined (acts.flatMap Act.settled)) .interactive m
        = (.ok (), m')
      ∧ Machine.Same (fun _ => True) (performAll ⟨host.recorded, budget, probe⟩ m acts).2 m' := by
  -- by induction on the acts: the first text runs, and then the others, which run as one
  induction acts generalizing m with
  | nil =>
    obtain ⟨records, hrun⟩ := runSource_empty host.recorded budget m
    exact ⟨_, hrun, rfl, rfl, trivial⟩
  | cons act acts ih =>
    rw [performAll_cons] at hgo hquiet ⊢
    obtain ⟨m', hrun, hsame⟩ := ih (fun act' h => hacts act' (List.mem_cons_of_mem act h))
      (fun o h => hgo o (List.mem_cons_of_mem _ h)) hquiet
    rw [List.flatMap_cons]
    cases act with
    | drop lines => exact (hacts _ (List.mem_cons_self ..)).elim
    | close => exact (hacts _ (List.mem_cons_self ..)).elim
    | hold lines =>
      -- the line that is held adds a record to the log
      have hlogged : Machine.Same (fun _ => True)
          ((Act.hold lines).perform ⟨host.recorded, budget, probe⟩ m).2 m := ⟨rfl, rfl, trivial⟩
      obtain ⟨hresult, hsame'⟩ := runSource_same host.recorded.keepsAnything budget
        (joined (acts.flatMap Act.settled)) .interactive hlogged
      rw [hrun] at hresult hsame'
      exact ⟨(runSource _ _ _ _ m).2, Prod.ext hresult rfl, hsame.trans hsame'⟩
    | run lines =>
      have hlines : lines ≠ [] := hacts _ (List.mem_cons_self ..)
      obtain ⟨hok, hmachine⟩ := report_quiet (hgo _ (List.mem_cons_self ..))
        fun h => hquiet (performAll_keeps host.recorded_keeps acts h)
      have hfirst : runSource host.recorded budget (joined lines) .interactive m
          = (.ok (), ((Act.run lines).perform ⟨host.recorded, budget, probe⟩ m).2) :=
        Prod.ext hok hmachine.symm
      by_cases hrest : acts.flatMap Act.settled = []
      · -- nothing is left to run, which adds log records alone
        obtain ⟨records, hempty⟩ := runSource_empty host.recorded budget
          ((Act.run lines).perform ⟨host.recorded, budget, probe⟩ m).2
        rw [hrest] at hrun ⊢
        cases hrun.symm.trans hempty
        rw [List.append_nil]
        exact ⟨_, hfirst, hsame.vars, hsame.outside⟩
      · obtain ⟨m'', hrun', hsame'⟩ := runSource_joined hfirst hrun
        rw [Act.settled, joined_append hlines hrest]
        exact ⟨m'', hrun', hsame.trans hsame'⟩

/--
**A session agrees with its whole text.**

Let a session be given some lines, with any probe and in any namespace. If each of them lets it go
on, nothing is written to the diagnostics, and in the end it waits for a statement, then the lines,
joined by line ends, run as one text in the same namespace and the same world. The run succeeds, and
leads to the same variables and the same world; it writes the same text to the output, and starts the
same commands in the same order.
-/
theorem session_agrees_with_text {host : Host ω} {budget : Nat} {probe : Probe}
    {lines : List String} {m : Machine (ω × List Event)} {outcomes : List Outcome}
    {s : Session (ω × List Event)}
    (hfeed : Session.feed ⟨host.recorded, budget, probe⟩ ⟨m, "", .statement⟩ (lines.map .line)
      = (outcomes, s))
    (hgo : ∀ o ∈ outcomes, o = .goOn)
    (hquiet : ∀ text, Event.wrote .diagnostics text ∉ s.machine.outside.world.2)
    (hwaiting : s.waiting = .statement) :
    ∃ m', runSource host.recorded budget ("\n".intercalate lines) .interactive m = (.ok (), m')
      ∧ m'.vars = s.machine.vars
      ∧ writtenTo .output m'.outside.world.2 = writtenTo .output s.machine.outside.world.2
      ∧ commandsOf m'.outside.world.2 = commandsOf s.machine.outside.world.2
      ∧ m'.outside.world = s.machine.outside.world := by
  obtain ⟨houtcomes, hmachine, hholds⟩ :=
    Session.feed_eq ⟨host.recorded, budget, probe⟩ m (lines.map .line)
  rw [hfeed] at houtcomes hmachine hholds
  -- a session that waits for a statement holds no line, so all lines have run
  have hheld : (Ledger.of probe (lines.map .line)).held = [] := by
    by_contra hheld
    have := hholds.waiting.symm.trans hwaiting
    rw [if_neg hheld] at this
    cases this
  have hlines : lines = (Ledger.of probe (lines.map .line)).acts.flatMap Act.settled := by
    have hsettled := Ledger.lines_of probe (lines.map .line)
    rw [hheld, List.append_nil] at hsettled
    rw [← hsettled]
    simp [linesOf, List.filterMap_map, Function.comp_def, Input.line?]
  obtain ⟨m', hrun, hsame⟩ := performAll_joined _ (Ledger.ofLine probe lines)
    (by rw [← houtcomes]; exact hgo) (by rw [← hmachine]; rintro ⟨text, h⟩; exact hquiet text h)
  rw [← hlines] at hrun
  rw [← hmachine] at hsame
  exact ⟨m', hrun, hsame.vars, by rw [hsame.outside.1], by rw [hsame.outside.1], hsame.outside.1⟩

/-- The theorem at a block that an empty line ends, and a command. -/
theorem session_agrees_with_text_of_block :
    let lines := ["if 1:", "    x = 'a'", "", "~f'echo {x}'"]
    let m : Machine (Unit × List Event) := ⟨.fresh, ((), []), []⟩
    let settings : Settings (Unit × List Event) := ⟨Host.silent.recorded, 0, probe⟩
    let r := Session.feed settings ⟨m, "", .statement⟩ (lines.map .line)
    r.1 = [.goOn, .goOn, .goOn, .goOn]
      ∧ r.2.machine.outside.world = ((), [.started .merged "echo a"])
      ∧ ∃ m', runSource Host.silent.recorded 0 ("\n".intercalate lines) .interactive m = (.ok (), m')
        ∧ m'.vars = r.2.machine.vars ∧ commandsOf m'.outside.world.2 = [(.merged, "echo a")] := by
  intro lines m settings r
  have houtcomes : r.1 = [.goOn, .goOn, .goOn, .goOn] := by decide +kernel
  have hworld : r.2.machine.outside.world = ((), [.started .merged "echo a"]) := by decide +kernel
  have hwaiting : r.2.waiting = .statement := by decide +kernel
  obtain ⟨m', hrun, hvars, -, hcommands, -⟩ := session_agrees_with_text
    (Prod.eta r).symm (by rw [houtcomes]; simp) (by rw [hworld]; simp) hwaiting
  exact ⟨houtcomes, hworld, m', hrun, hvars, by rw [hcommands, hworld]; rfl⟩

end Tilde
