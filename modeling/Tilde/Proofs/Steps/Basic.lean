import Mathlib.Data.Nat.Find
import Mathlib.Logic.Function.Iterate
import Tilde.Host
import Tilde.Proofs.Effects

/-!
# Machines that take steps

A machine goes from state to state until it comes to a result. Its configurations are the states and
the results, a result being followed by itself, so that "after `n` steps" is an iterate of one
function and two runs from the same configuration can be compared however long they are.

A computation with a state and failures is followed by a machine if the machine comes, from the
configuration where the computation starts, to the one that belongs to its value or to its failure.
Some failures are not of the computation's own making: it gives up. There the machine need not arrive
anywhere; what is asked of it is to go on for as many steps as the computation was patient. The
judgment composes along `>>=`, so a machine is shown to follow a recursive computation by one lemma
a constructor.
-/

namespace Tilde.Steps

variable {σ σ' ρ ρ' : Type}

/-- What follows a configuration. -/
def next (step : σ → σ ⊕ ρ) : σ ⊕ ρ → σ ⊕ ρ := Sum.elim step .inr

/-- The machine comes from one configuration to the other. -/
def Reaches (step : σ → σ ⊕ ρ) (c c' : σ ⊕ ρ) : Prop := ∃ n, (next step)^[n] c = c'

/-- The machine has no result after `n` steps. -/
def Lasts (step : σ → σ ⊕ ρ) (n : Nat) (c : σ ⊕ ρ) : Prop := ((next step)^[n] c).isLeft

variable {step : σ → σ ⊕ ρ} {c c' c'' : σ ⊕ ρ} {n k : Nat}

/-- A result stays. -/
theorem iterate_result (n : Nat) (r : ρ) : (next step)^[n] (.inr r) = .inr r :=
  Function.iterate_fixed rfl n

namespace Reaches

theorem refl : Reaches step c c := ⟨0, rfl⟩

/-- A run that begins with a given step. -/
theorem head {s : σ} (h : Reaches step (step s) c) : Reaches step (.inl s) c := by
  obtain ⟨n, hn⟩ := h
  exact ⟨n + 1, hn⟩

theorem trans (h : Reaches step c c') (h' : Reaches step c' c'') : Reaches step c c'' := by
  obtain ⟨n, hn⟩ := h
  obtain ⟨k, hk⟩ := h'
  refine ⟨k + n, ?_⟩
  rw [Function.iterate_add_apply, hn, hk]

/-- **A configuration has one result at most.** -/
theorem unique {r r' : ρ} (h : Reaches step c (.inr r)) (h' : Reaches step c (.inr r')) :
    r = r' := by
  obtain ⟨n, hn⟩ := h
  obtain ⟨k, hk⟩ := h'
  -- after both numbers of steps together, the machine is where each of them alone brings it
  have hboth : (next step)^[k + n] c = .inr r := by
    rw [Function.iterate_add_apply, hn, iterate_result]
  have hboth' : (next step)^[n + k] c = .inr r' := by
    rw [Function.iterate_add_apply, hk, iterate_result]
  rw [Nat.add_comm, hboth'] at hboth
  exact (Sum.inr.inj hboth).symm

/-- A machine inside another one. Where the outer machine does each step of the inner one and goes on
from its result, it comes to what follows this result. -/
theorem lift {step' : σ' → σ' ⊕ ρ'} {embed : σ → σ'} {leave : ρ → σ' ⊕ ρ'}
    (hstep : ∀ s, step' (embed s) = Sum.elim (.inl ∘ embed) leave (step s)) {s : σ} {r : ρ}
    (h : Reaches step (.inl s) (.inr r)) : Reaches step' (.inl (embed s)) (leave r) := by
  obtain ⟨n, hn⟩ := h
  induction n generalizing s with
  | zero => cases hn
  | succ n ih =>
    refine head ?_
    rw [hstep]
    have hrest : (next step)^[n] (step s) = .inr r := hn
    cases hs : step s with
    | inl s' =>
      rw [hs] at hrest
      exact ih hrest
    | inr r' =>
      rw [hs, iterate_result] at hrest
      cases hrest
      exact refl

end Reaches

namespace Lasts

theorem mono (h : Lasts step n c) (hk : k ≤ n) : Lasts step k c := by
  unfold Lasts at h ⊢
  cases hc : (next step)^[k] c with
  | inl s => rfl
  | inr r =>
    obtain ⟨d, rfl⟩ := Nat.exists_eq_add_of_le' hk
    rw [Function.iterate_add_apply, hc, iterate_result] at h
    cases h

theorem head {s : σ} (h : Lasts step n (step s)) : Lasts step (n + 1) (.inl s) := h

/-- A run that is still to last from where it is has lasted. -/
theorem of_reaches (h : Reaches step c c') (h' : Lasts step n c') : Lasts step n c := by
  obtain ⟨k, hk⟩ := h
  have hall : Lasts step (n + k) c := by
    unfold Lasts
    rw [Function.iterate_add_apply, hk]
    exact h'
  exact hall.mono (Nat.le_add_right n k)

/-- A configuration that comes to a result does not last for ever. -/
theorem not_forever {r : ρ} (h : Reaches step c (.inr r)) : ∃ n, ¬ Lasts step n c := by
  obtain ⟨n, hn⟩ := h
  refine ⟨n, fun hlasts => ?_⟩
  rw [Lasts, hn] at hlasts
  cases hlasts

end Lasts

/-! ## Following a computation -/

section Follows

variable {τ ε α β : Type} {GivesUp : ε → Prop}

/-- From the configuration `start t`, the machine follows the computation `x` on the state `t`: it
comes to what belongs to its value or its failure, and where the computation gives up, the machine
goes on for `patience` steps. -/
def Follows (step : σ → σ ⊕ ρ) (GivesUp : ε → Prop) (patience : Nat) (start : τ → σ ⊕ ρ)
    (x : ExceptT ε (StateM τ) α) (value : α → τ → σ ⊕ ρ) (failure : ε → τ → σ ⊕ ρ) : Prop :=
  ∀ t, (∀ a t', x t = (.ok a, t') → Reaches step (start t) (value a t'))
    ∧ ∀ e t', x t = (.error e, t') →
      (¬ GivesUp e → Reaches step (start t) (failure e t'))
        ∧ (GivesUp e → Lasts step patience (start t))

namespace Follows

variable {start mid : τ → σ ⊕ ρ} {x : ExceptT ε (StateM τ) α} {f : α → ExceptT ε (StateM τ) β}
  {value : α → τ → σ ⊕ ρ} {value' : β → τ → σ ⊕ ρ} {failure : ε → τ → σ ⊕ ρ} {patience : Nat}

theorem pure {a : α} (h : ∀ t, start t = value a t) :
    Follows step GivesUp patience start (pure a : ExceptT ε (StateM τ) α) value failure := by
  intro t
  constructor
  · intro a' t' hx
    cases hx
    rw [h]
    exact .refl
  · intro e t' hx
    cases hx

theorem throw {e : ε} (h : ∀ t, start t = failure e t) (he : ¬ GivesUp e) :
    Follows step GivesUp patience start (throw e : ExceptT ε (StateM τ) α) value failure := by
  intro t
  constructor
  · intro a' t' hx
    cases hx
  · intro e' t' hx
    cases hx
    rw [h]
    exact ⟨fun _ => .refl, fun he' => absurd he' he⟩

/-- What comes before changes nothing about where the machine arrives. -/
theorem after (hreach : ∀ t, Reaches step (start t) (mid t))
    (h : Follows step GivesUp patience mid x value failure) :
    Follows step GivesUp patience start x value failure := by
  intro t
  obtain ⟨hok, herror⟩ := h t
  constructor
  · intro a t' hx
    exact (hreach t).trans (hok a t' hx)
  · intro e t' hx
    obtain ⟨hcome, hlast⟩ := herror e t' hx
    exact ⟨fun he => (hreach t).trans (hcome he), fun he => (hlast he).of_reaches (hreach t)⟩

/-- A computation that begins with a given step of the machine. -/
theorem head {s : τ → σ} (h : Follows step GivesUp patience (fun t => step (s t)) x value failure) :
    Follows step GivesUp patience (fun t => .inl (s t)) x value failure :=
  h.after fun _ => .head .refl

/-- The step counts for one more round of patience. -/
theorem head_succ {s : τ → σ}
    (h : Follows step GivesUp patience (fun t => step (s t)) x value failure) :
    Follows step GivesUp (patience + 1) (fun t => .inl (s t)) x value failure := by
  intro t
  obtain ⟨hok, herror⟩ := h t
  constructor
  · intro a t' hx
    exact .head (hok a t' hx)
  · intro e t' hx
    obtain ⟨hcome, hlast⟩ := herror e t' hx
    exact ⟨fun he => .head (hcome he), fun he => .head (hlast he)⟩

/-- A computation that gives up at once has no patience left. -/
theorem giveUp {s : τ → σ} {e : ε} (h : GivesUp e) :
    Follows step GivesUp 0 (fun t => .inl (s t)) (MonadExcept.throw e : ExceptT ε (StateM τ) α)
      value failure := by
  intro t
  constructor
  · intro a t' hx
    cases hx
  · intro e' t' hx
    cases hx
    exact ⟨fun he => absurd h he, fun _ => rfl⟩

theorem mono {k : Nat} (h : Follows step GivesUp patience start x value failure)
    (hk : k ≤ patience) : Follows step GivesUp k start x value failure := by
  intro t
  obtain ⟨hok, herror⟩ := h t
  refine ⟨hok, fun e t' hx => ?_⟩
  obtain ⟨hcome, hlast⟩ := herror e t' hx
  exact ⟨hcome, fun he => (hlast he).mono hk⟩

/-- **The machine follows two computations in a row if it follows each of them.** -/
theorem bind (hx : Follows step GivesUp patience start x value failure)
    (hf : ∀ a, Follows step GivesUp patience (value a) (f a) value' failure) :
    Follows step GivesUp patience start (x >>= f) value' failure := by
  intro t
  obtain ⟨hok, herror⟩ := hx t
  cases hxt : x t with
  | mk r t₁ =>
    cases r with
    | error e =>
      rw [Effects.bind_error hxt]
      constructor
      · intro b t' h
        cases h
      · intro e' t' h
        cases h
        exact herror e t₁ hxt
    | ok a =>
      rw [Effects.bind_ok hxt]
      have hreach := hok a t₁ hxt
      obtain ⟨hok', herror'⟩ := hf a t₁
      constructor
      · intro b t' h
        exact hreach.trans (hok' b t' h)
      · intro e t' h
        obtain ⟨hcome, hlast⟩ := herror' e t' h
        exact ⟨fun he => hreach.trans (hcome he), fun he => (hlast he).of_reaches hreach⟩

/-- What comes behind a value or a failure belongs to it as well. -/
theorem before {value' : α → τ → σ ⊕ ρ} {failure' : ε → τ → σ ⊕ ρ}
    (h : Follows step GivesUp patience start x value failure)
    (hvalue : ∀ a t, Reaches step (value a t) (value' a t))
    (hfailure : ∀ e t, Reaches step (failure e t) (failure' e t)) :
    Follows step GivesUp patience start x value' failure' := by
  intro t
  obtain ⟨hok, herror⟩ := h t
  constructor
  · intro a t' hx
    exact (hok a t' hx).trans (hvalue a t')
  · intro e t' hx
    obtain ⟨hcome, hlast⟩ := herror e t' hx
    exact ⟨fun he => (hcome he).trans (hfailure e t'), hlast⟩

/-- The machine follows a guarded computation, if nothing handles giving up. -/
theorem guarded {value' : α → τ → σ ⊕ ρ} {failure' : ε → τ → σ ⊕ ρ}
    {handler : ε → ExceptT ε (StateM τ) α}
    (h : Follows step GivesUp patience start x value failure)
    (hvalue : ∀ a t, Reaches step (value a t) (value' a t))
    (hhandler : ∀ e, ¬ GivesUp e →
      Follows step GivesUp patience (failure e) (handler e) value' failure')
    (hpass : ∀ e, GivesUp e → handler e = MonadExcept.throw e) :
    Follows step GivesUp patience start (tryCatch x handler) value' failure' := by
  intro t
  obtain ⟨hok, herror⟩ := h t
  cases hxt : x t with
  | mk r t₁ =>
    cases r with
    | ok a =>
      rw [Effects.tryCatch_ok hxt]
      constructor
      · intro b t' h
        cases h
        exact (hok a t₁ hxt).trans (hvalue a t₁)
      · intro e t' h
        cases h
    | error e =>
      rw [Effects.tryCatch_error hxt]
      obtain ⟨hcome, hlast⟩ := herror e t₁ hxt
      -- a failure by which the run gives up passes the handler, any other one goes on in it
      by_cases he : GivesUp e
      · rw [hpass e he]
        constructor
        · intro b t' h
          cases h
        · intro e' t' h
          cases h
          exact ⟨fun he' => absurd he he', hlast⟩
      · obtain ⟨hok', herror'⟩ := hhandler e he t₁
        constructor
        · intro b t' h
          exact (hcome he).trans (hok' b t' h)
        · intro e' t' h
          obtain ⟨hcome', hlast'⟩ := herror' e' t' h
          exact ⟨fun he' => (hcome he).trans (hcome' he'),
            fun he' => (hlast' he').of_reaches (hcome he)⟩

end Follows

end Follows

/-!
## Commands that may go on for ever

A host runs a command to its end and gives what it did as a whole. An open host only starts the
command. What it does is there to be read piece by piece, and there may be no end to it. Where each
command that is started ends, an open host is closed by reading each of them to its end, and every
host is closed in this sense: it is that of the open host which hands out its pieces one by one.
-/

/-- What a command does after its start: the pieces of output it writes, until there is no next one,
and how it has ended then. -/
structure Activity where
  piece : Nat → Option (Stream × List UInt8)
  status : Status

namespace Activity

/-- The command ends. -/
def Ends (a : Activity) : Prop := ∃ n, a.piece n = none

/-- The pieces that are written from the `n`-th on, up to the end. -/
inductive Writes (a : Activity) : Nat → List (Stream × List UInt8) → Prop where
  | done {n : Nat} (h : a.piece n = none) : Writes a n []
  | more {n : Nat} {p : Stream × List UInt8} {ps : List (Stream × List UInt8)}
      (h : a.piece n = some p) (hs : Writes a (n + 1) ps) : Writes a n (p :: ps)

/-- All that the command writes. -/
def pieces (a : Activity) (h : a.Ends) : List (Stream × List UInt8) :=
  (List.range' 0 (Nat.find h)).filterMap a.piece

/-- The pieces up to a place where there is none, if there is one at each place before. -/
theorem writes_range (a : Activity) {k : Nat} : ∀ {n : Nat}, a.piece (n + k) = none →
    (∀ i, n ≤ i → i < n + k → a.piece i ≠ none) →
    a.Writes n ((List.range' n k).filterMap a.piece) := by
  induction k with
  | zero =>
    intro n hend _
    exact .done hend
  | succ k ih =>
    intro n hend hbefore
    cases hp : a.piece n with
    | none => exact absurd hp (hbefore n (Nat.le_refl n) (by omega))
    | some p =>
      rw [List.range'_succ, List.filterMap_cons_some hp]
      refine .more hp (ih ?_ fun i hi hlt => hbefore i (by omega) (by omega))
      rw [← hend]
      congr 1
      omega

theorem writes_pieces (a : Activity) (h : a.Ends) : a.Writes 0 (a.pieces h) := by
  refine a.writes_range ?_ fun i _ hlt => Nat.find_min h (by omega)
  rw [Nat.zero_add]
  exact Nat.find_spec h

theorem Writes.unique {a : Activity} {n : Nat} {ps ps' : List (Stream × List UInt8)}
    (h : a.Writes n ps) (h' : a.Writes n ps') : ps = ps' := by
  induction h generalizing ps' with
  | done h =>
    cases h' with
    | done => rfl
    | more h'' => rw [h] at h''; cases h''
  | more h hs ih =>
    cases h' with
    | done h'' => rw [h] at h''; cases h''
    | more h'' hs' =>
      rw [h] at h''
      cases h''
      rw [ih hs']

/-- A command as a whole. -/
def child (a : Activity) (h : a.Ends) : Child := ⟨a.pieces h, a.status⟩

/-- The pieces of a finished command one by one. -/
def ofChild (c : Child) : Activity where
  piece n := c.pieces[n]?
  status := c.status

theorem ofChild_ends (c : Child) : (ofChild c).Ends :=
  ⟨c.pieces.length, List.getElem?_eq_none (Nat.le_refl _)⟩

theorem writes_drop (c : Child) (n : Nat) : (ofChild c).Writes n (c.pieces.drop n) := by
  induction hk : c.pieces.length - n generalizing n with
  | zero =>
    rw [List.drop_eq_nil_of_le (by omega)]
    exact .done (List.getElem?_eq_none (by omega))
  | succ k ih =>
    have hlt : n < c.pieces.length := by omega
    rw [List.drop_eq_getElem_cons hlt]
    exact .more (List.getElem?_eq_getElem hlt) (ih (n + 1) (by omega))

theorem child_ofChild (c : Child) (h : (ofChild c).Ends) : (ofChild c).child h = c := by
  have hpieces : (ofChild c).pieces h = c.pieces :=
    ((ofChild c).writes_pieces h).unique (writes_drop c 0)
  rw [child, hpieces]
  rfl

end Activity

/-- The acts by which a program reaches a world in which commands run by themselves. -/
structure OpenHost (ω : Type) where
  /-- The name of the program that runs commands. -/
  shell : String
  /-- Starts a command. -/
  launch : Wiring → String → ω → Except OsError Activity × ω
  /-- Writes a text that is not empty. -/
  write : Sink → String → ω → Option OsError × ω
  /-- Passes on what has been written, or finds that this fails. -/
  flush : Sink → ω → Option OsError × ω

namespace OpenHost

variable {ω : Type}

/-- Each command that is started ends. -/
def CommandsEnd (host : OpenHost ω) : Prop :=
  ∀ {wiring command w a w'}, host.launch wiring command w = (.ok a, w') → a.Ends

/-- The host that runs each command to its end. -/
def closed (host : OpenHost ω) (h : host.CommandsEnd) : Host ω where
  shell := host.shell
  start wiring command w :=
    match hlaunch : host.launch wiring command w with
    | (.ok a, w') => (.ok (a.child (h hlaunch)), w')
    | (.error e, w') => (.error e, w')
  write := host.write
  flush := host.flush

/-- The host without its commands: none can be started. -/
def muted (host : OpenHost ω) : Host ω where
  shell := host.shell
  start _ _ w := (.error (.other ""), w)
  write := host.write
  flush := host.flush

variable {host : OpenHost ω} {h : host.CommandsEnd} {wiring : Wiring} {command : String} {w w' : ω}

theorem closed_start_ok {a : Activity} (hlaunch : host.launch wiring command w = (.ok a, w')) :
    (host.closed h).start wiring command w = (.ok (a.child (h hlaunch)), w') := by
  unfold closed
  dsimp only
  split
  · next a' w'' heq =>
    rw [hlaunch] at heq
    cases heq
    rfl
  · next heq =>
    rw [hlaunch] at heq
    cases heq

theorem closed_start_error {e : OsError}
    (hlaunch : host.launch wiring command w = (.error e, w')) :
    (host.closed h).start wiring command w = (.error e, w') := by
  unfold closed
  dsimp only
  split
  · next heq =>
    rw [hlaunch] at heq
    cases heq
  · next heq =>
    rw [hlaunch] at heq
    cases heq
    rfl

/-- The open host that hands out the pieces of a host's commands. -/
def ofHost (host : Host ω) : OpenHost ω where
  shell := host.shell
  launch wiring command w := (host.start wiring command w).map (Except.map .ofChild) id
  write := host.write
  flush := host.flush

theorem ofHost_commandsEnd (host : Host ω) : (ofHost host).CommandsEnd := by
  intro wiring command w a w' hlaunch
  have hresult : (host.start wiring command w).1.map Activity.ofChild = .ok a :=
    congrArg Prod.fst hlaunch
  cases hstart : (host.start wiring command w).1 with
  | error e => rw [hstart] at hresult; cases hresult
  | ok c =>
    rw [hstart] at hresult
    cases hresult
    exact Activity.ofChild_ends c

/-- **Every host is the closed one of an open host.** -/
theorem closed_ofHost (host : Host ω) : (ofHost host).closed (ofHost_commandsEnd host) = host := by
  have hstart : ((ofHost host).closed (ofHost_commandsEnd host)).start = host.start := by
    funext wiring command w
    cases hs : host.start wiring command w with
    | mk result w' =>
      have hlaunch : (ofHost host).launch wiring command w = (result.map .ofChild, w') :=
        congrArg (Prod.map _ id) hs
      cases result with
      | error e => exact closed_start_error hlaunch
      | ok c =>
        rw [closed_start_ok hlaunch, Activity.child_ofChild]
  cases host
  unfold closed at hstart ⊢
  dsimp only at hstart
  rw [hstart]
  rfl

end OpenHost

end Tilde.Steps
