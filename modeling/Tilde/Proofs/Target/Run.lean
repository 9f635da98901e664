import Tilde.Proofs.Exec.Agree
import Tilde.Proofs.Expansion.Identity
import Tilde.Proofs.Grammar.Form
import Tilde.Proofs.Target.Unpacking
import Tilde.Run

/-!
# The two readings of a form

One form is read in one way where it is assigned to and in another where a loop binds it. The two
readings are compared by the values that fit them, and the programs that bind one variable to them
by how their runs end (`endAlike_iff`).

## Sequences of a single target

A sequence of a single target asks for an iterable of one item, and the target alone for the item
itself. Two targets that differ in nothing but such sequences have one core (`Target.core`); the two
readings of a form do. They fit the same values only if they are the same (`Target.eq_of_fits`): where
one of them has a name, the other one would have a sequence, and the number that fits the name does not
fit that. A star makes the one exception, since what follows an only star is an iterable anyway.
-/

namespace Tilde

namespace Target

/-- A sequence of targets, or the target if it is the only one. -/
def unwrapped : List Target → Target
  | [t] => t
  | ts => .sequence ts

mutual

/-- The target without its sequences of a single target. -/
def core : Target → Target
  | .name n => .name n
  | .star n => .star n
  | .sequence ts => unwrapped (cores ts)

/-- The cores of targets. -/
def cores : List Target → List Target
  | [] => []
  | t :: ts => t.core :: cores ts

end

theorem cores_eq_map (ts : List Target) : cores ts = ts.map core := by
  induction ts with
  | nil => rfl
  | cons t ts ih => rw [cores, ih, List.map_cons]

/-- Unwrapping two sequences alike, they are the same, or one of them is the only item of the other. -/
theorem unwrapped_inj {ts us : List Target} (h : unwrapped ts = unwrapped us) :
    ts = us ∨ (ts = [.sequence us] ∧ us.length ≠ 1) ∨ (us = [.sequence ts] ∧ ts.length ≠ 1) := by
  unfold unwrapped at h
  split at h
  next t =>
    split at h
    next u => exact .inl (by rw [h])
    next hus =>
      refine .inr (.inl ⟨by rw [h], fun hlen => ?_⟩)
      obtain ⟨u, rfl⟩ := List.length_eq_one_iff.mp hlen
      exact hus u rfl
  next hts =>
    split at h
    next u =>
      refine .inr (.inr ⟨by rw [h], fun hlen => ?_⟩)
      obtain ⟨t, rfl⟩ := List.length_eq_one_iff.mp hlen
      exact hts t rfl
    next => exact .inl (Target.sequence.inj h)

/-! ### Values that fit -/

mutual

/-- A value that fits the target. -/
def sample : Target → Value
  | .name _ => .int 0
  | .star _ => .list []
  | .sequence ts => .list (samples ts)

/-- Values that fit the targets. -/
def samples : List Target → List Value
  | [] => []
  | t :: ts => t.sample :: samples ts

end

theorem samples_length (ts : List Target) : (samples ts).length = ts.length := by
  induction ts with
  | nil => rfl
  | cons t ts ih => rw [samples, List.length_cons, List.length_cons, ih]

/-- The value fits the target as an item of a sequence: any item fits a star. -/
def FitsItem (t : Target) (v : Value) : Prop := t.isStar = true ∨ t.Fits v

/-- What the targets get of as many items. -/
def dealt (ts : List Target) (vs : List Value) : List Value :=
  List.zipWith (fun t v => if t.isStar then .list [v] else v) ts vs

theorem deals_dealt {ts : List Target} {vs : List Value} (h : vs.length = ts.length) :
    Deals ts vs (dealt ts vs) := by
  induction ts generalizing vs with
  | nil =>
    obtain rfl := List.length_eq_zero_iff.mp h
    exact .nil
  | cons t ts ih =>
    obtain _ | ⟨v, vs⟩ := vs
    · cases h
    have hrest := ih (Nat.succ.inj h)
    cases t with
    | star n => exact Deals.star [v] hrest
    | name _ | sequence _ => exact .item rfl hrest

theorem eachAll_dealt {ts : List Target} {vs : List Value} (h : vs.length = ts.length) :
    eachAll (fun _ _ => True) ts (dealt ts vs) ↔ List.Forall₂ FitsItem ts vs := by
  induction ts generalizing vs with
  | nil =>
    obtain rfl := List.length_eq_zero_iff.mp h
    exact iff_of_true trivial .nil
  | cons t ts ih =>
    obtain _ | ⟨v, vs⟩ := vs
    · cases h
    rw [List.forall₂_cons, ← ih (Nat.succ.inj h)]
    refine and_congr_left fun _ => ?_
    cases t with
    | star n => exact iff_of_true ⟨[v], rfl, trivial⟩ (.inl rfl)
    | name _ | sequence _ => exact ⟨.inr, fun h => h.resolve_left nofun⟩

/-- A sequence fits as many items if each of them fits its target. -/
theorem fits_sequence_iff {ts : List Target} (hts : ts.countP isStar ≤ 1) {vs : List Value}
    (h : vs.length = ts.length) :
    (Target.sequence ts).Fits (.list vs) ↔ List.Forall₂ FitsItem ts vs := by
  rw [← eachAll_dealt h]
  constructor
  · rintro ⟨items, hitems, -, parts, hdeals, hfits⟩
    cases hitems
    rwa [← hdeals.unique (deals_dealt h) hts]
  · intro hfits
    refine ⟨vs, rfl, ?_, _, deals_dealt h, hfits⟩
    unfold Takes
    split <;> omega

mutual

theorem fits_sample : ∀ t : Target, t.SingleStars → t.Fits t.sample
  | .name _, _ => trivial
  | .star _, _ => ⟨[], rfl, trivial⟩
  | .sequence ts, h => (fits_sequence_iff h.1 (samples_length ts)).mpr (fit_samples ts h.2)

theorem fit_samples : ∀ ts : List Target, singleStarsAll ts →
    List.Forall₂ FitsItem ts (samples ts)
  | [], _ => .nil
  | t :: ts, h => .cons (.inr (fits_sample t h.1)) (fit_samples ts h.2)

end

/-- A number fits nothing but a name. -/
theorem fits_int {t : Target} {i : Int64} (h : t.Fits (.int i)) : ∃ n, t = .name n := by
  cases t with
  | name n => exact ⟨n, rfl⟩
  | star n | sequence ts =>
    obtain ⟨items, hitems, -⟩ := h
    cases hitems

/-- A sequence of one target takes one item, unless the target is starred. -/
theorem length_of_fits_single {t : Target} (ht : t.isStar = false) {vs : List Value}
    (h : (Target.sequence [t]).Fits (.list vs)) : vs.length = 1 := by
  obtain ⟨items, hitems, htakes, -⟩ := h
  cases hitems
  simpa [Takes, ht] using htakes

/-- A sequence of one target that is a sequence of some other number at its core fits other
values. -/
theorem not_fits_single {t : Target} {us : List Target} (ht : t.core = .sequence (cores us))
    (hus : us.length ≠ 1) (hstars : (Target.sequence us).SingleStars)
    (h : ∀ v, (Target.sequence [t]).Fits v ↔ (Target.sequence us).Fits v) : False := by
  have hstar : t.isStar = false := by
    cases t with
    | star n => cases ht
    | _ => rfl
  have hfits := length_of_fits_single hstar ((h _).mpr (fits_sample _ hstars))
  exact hus ((samples_length us).symm.trans hfits)

/-! ### Targets of one core -/

/-- As an item, a star fits what no other target of its core fits. -/
theorem isStar_of_fitsItem {t u : Target} (hcore : t.core = u.core) (ht : t.isStar = true)
    (h : ∀ v, t.FitsItem v ↔ u.FitsItem v) : u.isStar = true := by
  rcases (h (.int 0)).mp (.inl ht) with hu | hu
  · exact hu
  · obtain ⟨n, rfl⟩ := fits_int hu
    cases t with
    | star m => cases hcore
    | _ => cases ht

mutual

/-- **Targets of one core that fit the same values are the same**, unless one of them is a star. -/
theorem eq_of_fits : ∀ t u : Target, t.SingleStars → u.SingleStars → t.core = u.core →
    t.isStar = u.isStar → (∀ v, t.Fits v ↔ u.Fits v) → t = u
  | .name _, .name _, _, _, hcore, _, _ => hcore
  | .star _, .star _, _, _, hcore, _, _ => hcore
  | .name _, .star _, _, _, _, hstar, _ | .star _, .name _, _, _, _, hstar, _
  | .star _, .sequence _, _, _, _, hstar, _ | .sequence _, .star _, _, _, _, hstar, _ =>
    nomatch hstar
  | .name _, .sequence _, _, _, _, _, h => nomatch fits_int ((h (.int 0)).mp trivial)
  | .sequence _, .name _, _, _, _, _, h => nomatch fits_int ((h (.int 0)).mpr trivial)
  | .sequence ts, .sequence us, ht, hu, hcore, _, h => by
    rcases unwrapped_inj hcore with hcores | ⟨hts, hlen⟩ | ⟨hus, hlen⟩
    · have hlen : ts.length = us.length := by
        simpa [cores_eq_map] using congrArg List.length hcores
      refine congrArg _ (eq_of_fit ts us ht.2 hu.2 hcores fun vs => ?_)
      by_cases hvs : vs.length = ts.length
      · rw [← fits_sequence_iff ht.1 hvs, ← fits_sequence_iff hu.1 (hvs.trans hlen)]
        exact h _
      · exact iff_of_false (fun hfit => hvs hfit.length_eq.symm)
          fun hfit => hvs (hfit.length_eq.symm.trans hlen.symm)
    · obtain ⟨t, rfl, hlone⟩ := List.map_eq_singleton_iff.mp ((cores_eq_map ts).symm.trans hts)
      refine (not_fits_single hlone ?_ hu h).elim
      simpa [cores_eq_map] using hlen
    · obtain ⟨u, rfl, hlone⟩ := List.map_eq_singleton_iff.mp ((cores_eq_map us).symm.trans hus)
      refine (not_fits_single hlone ?_ ht fun v => (h v).symm).elim
      simpa [cores_eq_map] using hlen

theorem eq_of_fit : ∀ ts us : List Target, singleStarsAll ts → singleStarsAll us →
    cores ts = cores us →
    (∀ vs, List.Forall₂ FitsItem ts vs ↔ List.Forall₂ FitsItem us vs) → ts = us
  | [], [], _, _, _, _ => rfl
  | [], _ :: _, _, _, hcores, _ => nomatch hcores
  | _ :: _, [], _, _, hcores, _ => nomatch hcores
  | t :: ts, u :: us, ht, hu, hcores, h => by
    obtain ⟨hcore, hcores⟩ := List.cons.inj hcores
    -- one of the items varies, and the others are samples
    have hitem : ∀ v, t.FitsItem v ↔ u.FitsItem v := fun v =>
      ⟨fun hv => (List.forall₂_cons.mp ((h _).mp (.cons hv (fit_samples ts ht.2)))).1,
        fun hv => (List.forall₂_cons.mp ((h _).mpr (.cons hv (fit_samples us hu.2)))).1⟩
    have hitems : ∀ vs, List.Forall₂ FitsItem ts vs ↔ List.Forall₂ FitsItem us vs := fun vs =>
      ⟨fun hvs => (List.forall₂_cons.mp
          ((h _).mp (.cons (.inr (fits_sample t ht.1)) hvs))).2,
        fun hvs => (List.forall₂_cons.mp
          ((h _).mpr (.cons (.inr (fits_sample u hu.1)) hvs))).2⟩
    have hstar : t.isStar = u.isStar := Bool.eq_iff_iff.mpr
      ⟨fun hs => isStar_of_fitsItem hcore hs hitem,
        fun hs => isStar_of_fitsItem hcore.symm hs fun v => (hitem v).symm⟩
    have heq : t = u := by
      refine eq_of_fits t u ht.1 hu.1 hcore hstar fun v => ?_
      cases t with
      | star n =>
        -- a star is told from its core
        cases u with
        | star m => cases hcore; exact Iff.rfl
        | _ => cases hstar
      | name _ | sequence _ =>
        have hv := hitem v
        rw [FitsItem, FitsItem, ← hstar] at hv
        simpa [isStar] using hv
    rw [heq, eq_of_fit ts us ht.2 hu.2 hcores hitems]

end

/-! ### What a loop binds as a whole -/

theorem isStar_joined (ts : List Target) : (joined ts).isStar = false := by
  unfold joined
  split
  · split
    next => rfl
    next h => simpa using h
  · rfl

theorem core_joined (ts : List Target) : (joined ts).core = unwrapped (cores ts) := by
  unfold joined
  split
  · split <;> rfl
  · rfl

theorem SingleStars.joined {t : Target} (h : t.SingleStars) : (joined [t]).SingleStars := by
  cases t with
  | star n => exact ⟨Nat.le_refl 1, trivial, trivial⟩
  | name _ | sequence _ => exact h

/-- A starred name takes what a sequence of it takes. -/
theorem fits_joined (t : Target) (v : Value) : (joined [t]).Fits v ↔ t.Fits v := by
  cases t with
  | star n =>
    constructor
    · rintro ⟨items, hitems, -⟩
      exact ⟨items, hitems, trivial⟩
    · rintro ⟨items, hitems, -⟩
      have hdeals : Deals [.star n] (items ++ []) [.list items] := .star items .nil
      rw [List.append_nil] at hdeals
      exact ⟨items, hitems, Nat.zero_le _, _, hdeals, ⟨items, rfl, trivial⟩, trivial⟩
  | name _ | sequence _ => exact Iff.rfl

end Target

namespace Grammar

theorem Forms.core_assigned (fs : Forms) :
    fs.assigned.core = Target.unwrapped (Target.cores fs.assignedEach) := by
  cases fs <;> rfl

mutual

/-- The two readings of a form have one core. -/
theorem Form.core_looped : ∀ f : Form, f.looped.core = f.assigned.core
  | .name _ _ | .star _ _ _ => rfl
  | .bracket .square fs => congrArg Target.unwrapped fs.cores_looped
  | .bracket .round fs => by
    rw [Form.assigned, fs.core_assigned, ← fs.cores_looped]
    rfl

theorem Forms.cores_looped : ∀ fs : Forms,
    Target.cores fs.loopedEach = Target.cores fs.assignedEach
  | .done => rfl
  | .last f => congrArg (fun t => [t]) f.core_looped
  | .comma f fs => congrArg₂ List.cons f.core_looped fs.cores_looped

end

theorem Forms.core_looped (fs : Forms) : fs.looped.core = fs.assigned.core := by
  rw [Forms.looped, Target.core_joined, fs.cores_looped, fs.core_assigned]

/-- **The two readings of forms fit the same values** if and only if they are the same, but that a
loop has a sequence of a lone starred name. -/
theorem Forms.fits_iff {fs : Forms} (hassigned : fs.assigned.SingleStars)
    (hlooped : fs.looped.SingleStars) :
    (∀ v, fs.assigned.Fits v ↔ fs.looped.Fits v) ↔ fs.looped = .joined [fs.assigned] := by
  constructor
  · intro h
    have hstar : fs.looped.isStar = (Target.joined [fs.assigned]).isStar := by
      rw [Target.isStar_joined, Forms.looped, Target.isStar_joined]
    refine Target.eq_of_fits _ _ hlooped hassigned.joined ?_ hstar fun v => ?_
    · rw [fs.core_looped, Target.core_joined]
      rfl
    · rw [Target.fits_joined]
      exact (h v).symm
  · intro h v
    rw [h, Target.fits_joined]

end Grammar
end Tilde

/-!
## Running assignments and loops

An assignment of a variable and a loop over it alone bind the value of the variable, each to its
target. So whether the two end alike is up to their targets, and that is the case for the two
readings of a form if and only if a loop reads what an assignment reads, where a lone starred name
counts as a sequence of it.
-/

namespace Tilde

variable {ω : Type} {line line' k : Nat} {w source : String} {mode : Mode} {t u : Target}

/-! ### One program of either kind -/

/-- How a statement ends that binds the value of a variable to a target. -/
def binding (line : Nat) (w : String) (t : Target) (m : Machine ω) : Except Halt Unit × Machine ω :=
  match m.vars.find w with
  | .error f => (.error (.fault line f), m)
  | .ok v => ExecM.bindAt line t v m

theorem evalAt_name (line : Nat) (w : String) (host : Host ω) (m : Machine ω) :
    ExecM.evalAt line ((Expr.name w).eval host) m = ((m.vars.find w).mapError (.fault line), m) := by
  rw [ExecM.evalAt_apply, Expr.eval]
  cases m.vars.find w <;> rfl

theorem evalAt_list (line : Nat) (w : String) (host : Host ω) (m : Machine ω) :
    ExecM.evalAt line ((Expr.list [.name w]).eval host) m
      = (((m.vars.find w).map fun v => Value.list [v]).mapError (.fault line), m) := by
  rw [ExecM.evalAt_apply]
  cases h : m.vars.find w <;> simp only [Expr.eval, evalAll, h] <;> rfl

theorem exec_assign (run : Run ω) (m : Machine ω) :
    (Stmt.assign line t (.name w)).exec run m
      = ((binding line w t m).1.map fun _ => .next, (binding line w t m).2) := by
  have heval := evalAt_name line w run.host m
  rw [Stmt.exec, binding]
  cases hw : m.vars.find w with
  | error f =>
    rw [hw] at heval
    exact Effects.bind_error heval
  | ok v =>
    rw [hw] at heval
    rw [Effects.bind_ok heval]
    dsimp only
    cases hbind : ExecM.bindAt line t v m with
    | mk r m' =>
      cases r with
      | error f => exact Effects.bind_error hbind
      | ok u => exact Effects.bind_ok hbind

theorem exec_forEach (run : Run ω) (m : Machine ω) :
    (Stmt.forEach line t (.list [.name w]) [.pass k]).exec run m
      = ((binding line w t m).1.map fun _ => .next, (binding line w t m).2) := by
  have heval := evalAt_list line w run.host m
  rw [Stmt.exec, binding]
  cases hw : m.vars.find w with
  | error f =>
    rw [hw] at heval
    exact Effects.bind_error heval
  | ok v =>
    rw [hw] at heval
    rw [Effects.bind_ok heval]
    dsimp only
    cases hbind : ExecM.bindAt line t v m with
    | mk r m' =>
      cases r with
      | error f => exact Effects.bind_error (Effects.bind_error hbind)
      | ok u =>
        have hround : ExecM.forEach (ExecM.bindAt line t) (execBody run [.pass k]) [v] m
            = (.ok (), m') := Effects.bind_ok hbind
        exact Effects.bind_ok hround

/-- How a run of such a statement alone ends. -/
def bindingRun (line : Nat) (w : String) (t : Target) (m : Machine ω) :
    Except RunError Unit × Machine ω :=
  ((binding line w t m).1.mapError .halted, (binding line w t m).2)

theorem bindingRun_unbound {m : Machine ω} {f : Fault} (h : m.vars.find w = .error f) :
    bindingRun line w t m = (.error (.halted (.fault line f)), m) := by
  rw [bindingRun, binding, h]
  rfl

theorem bindingRun_bound {m : Machine ω} {v : Value} (h : m.vars.find w = .ok v) :
    bindingRun line w t m = ((t.bind v m.vars).1.mapError (.halted ∘ .fault line),
      { m with vars := (t.bind v m.vars).2 }) := by
  rw [bindingRun, binding, h]
  dsimp only
  rw [ExecM.bindAt_apply]
  cases (t.bind v m.vars).1 <;> rfl

/-- A program without literals of one statement that ends in one way or halts. -/
theorem runSource_lone {s : Stmt} {r : Machine ω → Except Halt Unit × Machine ω}
    (hparse : parse source mode = .ok ⟨[s], mode⟩) (hnotes : s.notes = []) (host : Host ω)
    (budget : Nat) (hexec : ∀ m, s.exec ⟨host, mode, budget⟩ m = ((r m).1.map fun _ => .next, (r m).2))
    (m : Machine ω) :
    runSource host budget source mode m
      = ((r (m.logged [.expanded 0])).1.mapError .halted, (r (m.logged [.expanded 0])).2) := by
  have hbody : Program.notes ⟨[s], mode⟩ = [] := by
    rw [Program.notes, bodyNotes, hnotes]
    rfl
  have hcount : Program.literalCount ⟨[s], mode⟩ = 0 := by
    rw [Program.literalCount, hbody, List.countP_nil]
  rw [runSource, hparse]
  dsimp only
  rw [Program.expand_eq_self hcount, hbody, hcount, List.nil_append, Program.run, Program.exec,
    execProgram]
  have hrun := hexec (m.logged [.expanded 0])
  cases h : r (m.logged [.expanded 0]) with
  | mk result m' =>
    rw [h] at hrun
    cases result with
    | error f => rw [Effects.bind_error hrun]
    | ok u =>
      rw [Effects.bind_ok hrun]
      rfl

/-- An assignment of a variable. -/
theorem runSource_assign (h : parse source mode = .ok ⟨[.assign line t (.name w)], mode⟩)
    (host : Host ω) (budget : Nat) (m : Machine ω) :
    runSource host budget source mode m = bindingRun line w t (m.logged [.expanded 0]) :=
  runSource_lone h rfl host budget (exec_assign _) m

/-- A loop over a variable alone that does nothing but bind. -/
theorem runSource_forEach
    (h : parse source mode = .ok ⟨[.forEach line t (.list [.name w]) [.pass k]], mode⟩)
    (host : Host ω) (budget : Nat) (m : Machine ω) :
    runSource host budget source mode m = bindingRun line w t (m.logged [.expanded 0]) :=
  runSource_lone h rfl host budget (exec_forEach _) m

/-! ### Runs that end alike -/

/-- Two runs end alike: with the same bindings, or with errors of one kind. -/
inductive EndAlike : Except RunError Unit × Machine ω → Except RunError Unit × Machine ω → Prop
  | ok {m m' : Machine ω} (h : ∀ n, m.vars.get? n = m'.vars.get? n) :
    EndAlike (.ok (), m) (.ok (), m')
  | error {e e' : RunError} {m m' : Machine ω} (h : e.kindName = e'.kindName) :
    EndAlike (.error e, m) (.error e', m')

theorem EndAlike.ok_iff {a b : Except RunError Unit × Machine ω} (h : EndAlike a b) :
    a.1 = .ok () ↔ b.1 = .ok () := by
  cases h with
  | ok h => exact iff_of_true rfl rfl
  | error h => exact iff_of_false nofun nofun

theorem bind_ok_iff_fits (ht : t.SingleStars) (v : Value) (ns : Namespace) :
    (t.bind v ns).1 = .ok () ↔ t.Fits v := by
  have hends := bind_ends t ht v ns
  cases hrun : t.bind v ns with
  | mk r ns' =>
    rw [hrun] at hends
    cases r with
    | ok u => exact iff_of_true rfl hends.1
    | error f => exact iff_of_false nofun (Target.Misfits.not_fits ht hends)

/-- A lone starred name binds what a sequence of it binds. -/
theorem bind_star (n : String) (v : Value) (ns : Namespace) :
    ((Target.star n).bind v ns = (.error (.notIterable v.type), ns)
      ∧ (Target.sequence [.star n]).bind v ns = (.error (.notUnpackable v.type), ns))
    ∨ ∃ ns', (Target.star n).bind v ns = (.ok (), ns')
      ∧ (Target.sequence [.star n]).bind v ns = (.ok (), ns') := by
  rw [Target.bind, Target.bind]
  cases v.items? with
  | none => exact .inl ⟨rfl, rfl⟩
  | some items =>
    have hitems : Target.distribute [.star n] items = .ok [.list items] := by
      simp [Target.distribute, Target.isStar]
    refine .inr ⟨ns.set n (.list items), rfl, ?_⟩
    simp only [hitems]
    rfl

/-- A run does not tell a lone starred name from a sequence of it. -/
theorem endAlike_joined (t : Target) (m : Machine ω) :
    EndAlike (bindingRun line w t m) (bindingRun line' w (.joined [t]) m) := by
  cases hw : m.vars.find w with
  | error f =>
    rw [bindingRun_unbound hw, bindingRun_unbound hw]
    exact .error rfl
  | ok v =>
    rw [bindingRun_bound hw, bindingRun_bound hw]
    cases t with
    | star n =>
      rw [show Target.joined [.star n] = .sequence [.star n] from rfl]
      rcases bind_star n v m.vars with ⟨hstar, hsequence⟩ | ⟨vars, hstar, hsequence⟩
      · rw [hstar, hsequence]
        exact .error rfl
      · rw [hstar, hsequence]
        exact .ok fun _ => rfl
    | name _ | sequence _ =>
      rw [Target.joined, if_neg (by simp [Target.isStar])]
      cases (Target.bind _ v m.vars).1 with
      | error f => exact .error rfl
      | ok u => exact .ok fun _ => rfl

/-- Where the variable has a value, the run ends well if the value fits the target. -/
theorem bindingRun_ok_iff (ht : t.SingleStars) {v : Value} {m : Machine ω}
    (hw : m.vars.get? w = some v) : (bindingRun line w t m).1 = .ok () ↔ t.Fits v := by
  have hfind : m.vars.find w = .ok v := by rw [Namespace.find, hw]
  rw [← bind_ok_iff_fits ht v m.vars, bindingRun_bound hfind]
  cases (t.bind v m.vars).1 with
  | error f => exact iff_of_false (by rintro ⟨⟩) (by rintro ⟨⟩)
  | ok u => exact iff_of_true rfl rfl

/-- **The two readings of forms end alike in every run** if and only if they are the same, but that a
loop has a sequence of a lone starred name. -/
theorem endAlike_iff {fs : Grammar.Forms} (hassigned : fs.assigned.SingleStars)
    (hlooped : fs.looped.SingleStars) (outside : Outside ω) :
    (∀ vars, EndAlike (bindingRun line w fs.assigned ⟨vars, outside⟩)
        (bindingRun line' w fs.looped ⟨vars, outside⟩))
      ↔ fs.looped = .joined [fs.assigned] := by
  constructor
  · intro h
    refine (Grammar.Forms.fits_iff hassigned hlooped).mp fun v => ?_
    have hw : (Namespace.fresh.set w v).get? w = some v := by rw [Namespace.get?_set, if_pos rfl]
    have hassign : (bindingRun line w fs.assigned ⟨Namespace.fresh.set w v, outside⟩).1 = .ok ()
        ↔ fs.assigned.Fits v := bindingRun_ok_iff hassigned hw
    have hloop : (bindingRun line' w fs.looped ⟨Namespace.fresh.set w v, outside⟩).1 = .ok ()
        ↔ fs.looped.Fits v := bindingRun_ok_iff hlooped hw
    rw [← hassign, ← hloop]
    exact (h (Namespace.fresh.set w v)).ok_iff
  · intro h vars
    rw [h]
    exact endAlike_joined fs.assigned _

end Tilde
