import Mathlib.Data.List.Nodup
import Tilde.Proofs.Effects
import Tilde.Proofs.Helpers.Clean
import Tilde.Proofs.Parser.Run

/-!
# Taking values apart

What a target asks of a value, and what it makes of one. A sequence of targets deals out the items of
a value in order: one to each target, and to a starred name the list of those that its neighbours
leave (`Deals`). The relation says nothing about how the places are found at which the items are cut.
It determines the parts as long as there is one star at most, and then the machine finds them.

Whether a target fits a value, what each name is bound to, and where a value does not fit are all said
in terms of the parts, by recursion along the target. One induction over targets then says how binding
ends (`Target.Ends`); the rest follows from it, since a value that misfits does not fit.
-/

namespace Tilde

/-! ## Targets and their parts -/

mutual

/-- The names that a target binds, in order. -/
def Target.names : Target → List String
  | .name n | .star n => [n]
  | .sequence items => targetNames items

/-- The names that targets bind, in order. -/
def targetNames : List Target → List String
  | [] => []
  | t :: ts => t.names ++ targetNames ts

end

mutual

/-- No sequence of the target has two stars. -/
def Target.SingleStars : Target → Prop
  | .name _ | .star _ => True
  | .sequence items => items.countP Target.isStar ≤ 1 ∧ singleStarsAll items

/-- No sequence of the targets has two stars. -/
def singleStarsAll : List Target → Prop
  | [] => True
  | t :: ts => t.SingleStars ∧ singleStarsAll ts

end

/-- The targets of a sequence take apart an iterable of `k` items: one for each of them, where a
starred name takes any number. -/
def Takes (targets : List Target) (k : Nat) : Prop :=
  if targets.any Target.isStar then targets.length - 1 ≤ k else k = targets.length

/-- The parts that the targets of a sequence get of some items. Together they are the items, in
order. -/
inductive Deals : List Target → List Value → List Value → Prop where
  | nil : Deals [] [] []
  | item {t : Target} {v : Value} {ts : List Target} {vs parts : List Value}
    (ht : t.isStar = false) (h : Deals ts vs parts) : Deals (t :: ts) (v :: vs) (v :: parts)
  | star {n : String} {ts : List Target} {vs parts : List Value} (middle : List Value)
    (h : Deals ts vs parts) : Deals (.star n :: ts) (middle ++ vs) (.list middle :: parts)

mutual

/-- The target takes the value apart, and `P` holds of each name and its own part. -/
def Target.Each (P : String → Value → Prop) : Target → Value → Prop
  | .name n, v => P n v
  | .star n, v => ∃ items, v.items? = some items ∧ P n (.list items)
  | .sequence ts, v => ∃ items, v.items? = some items ∧ Takes ts items.length
    ∧ ∃ parts, Deals ts items parts ∧ eachAll P ts parts

/-- The targets take the values apart, one each, and `P` holds of each name and its own part. -/
def eachAll (P : String → Value → Prop) : List Target → List Value → Prop
  | [], [] => True
  | t :: ts, v :: vs => t.Each P v ∧ eachAll P ts vs
  | _, _ => False

end

/-- The target fits the value: a name fits anything, a star any iterable, and a sequence an iterable
that it takes apart, where each part fits its target. -/
def Target.Fits (t : Target) (v : Value) : Prop := t.Each (fun _ _ => True) v

/-- Each name of the target is bound to its own part of the value. -/
def Target.Bound (ns : Namespace) (t : Target) (v : Value) : Prop :=
  t.Each (fun n part => ns.get? n = some part) v

mutual

/-- Why a target does not fit a value, told by the kind of fault: something is no iterable, or has a
wrong number of items. The first part that does not fit counts. -/
inductive Target.Misfits : Target → Value → FaultKind → Prop where
  | star {n : String} {v : Value} (h : v.items? = none) : Target.Misfits (.star n) v .typeError
  | iterable {ts : List Target} {v : Value} (h : v.items? = none) :
    Target.Misfits (.sequence ts) v .typeError
  | count {ts : List Target} {v : Value} {items : List Value} (h : v.items? = some items)
    (hcount : ¬Takes ts items.length) : Target.Misfits (.sequence ts) v .valueError
  | part {ts : List Target} {v : Value} {items parts : List Value} {kind : FaultKind}
    (h : v.items? = some items) (hparts : Deals ts items parts)
    (hmisfit : MisfitsAll ts parts kind) : Target.Misfits (.sequence ts) v kind

/-- One of the targets does not fit its part, and those in front of it fit theirs. -/
inductive MisfitsAll : List Target → List Value → FaultKind → Prop where
  | here {t : Target} {v : Value} {ts : List Target} {vs : List Value} {kind : FaultKind}
    (h : Target.Misfits t v kind) : MisfitsAll (t :: ts) (v :: vs) kind
  | later {t : Target} {v : Value} {ts : List Target} {vs : List Value} {kind : FaultKind}
    (ht : t.Fits v) (h : MisfitsAll ts vs kind) : MisfitsAll (t :: ts) (v :: vs) kind

end

mutual

/-- The items of a value in order, those of an item in its place where the target takes it apart. -/
inductive Target.Opens : Target → Value → List Value → Prop where
  | name {n : String} {v : Value} : Target.Opens (.name n) v [v]
  | star {n : String} {v : Value} {items : List Value} (h : v.items? = some items) :
    Target.Opens (.star n) v items
  | sequence {ts : List Target} {v : Value} {items leaves : List Value}
    (h : v.items? = some items) (hitems : OpensAll ts items leaves) :
    Target.Opens (.sequence ts) v leaves

/-- The same of items that are dealt out to targets. -/
inductive OpensAll : List Target → List Value → List Value → Prop where
  | nil : OpensAll [] [] []
  | item {t : Target} {v : Value} {ts : List Target} {vs leaves leaves' : List Value}
    (ht : t.isStar = false) (h : Target.Opens t v leaves) (hs : OpensAll ts vs leaves') :
    OpensAll (t :: ts) (v :: vs) (leaves ++ leaves')
  | star {n : String} {ts : List Target} {vs leaves : List Value} (middle : List Value)
    (hs : OpensAll ts vs leaves) : OpensAll (.star n :: ts) (middle ++ vs) (middle ++ leaves)

end

mutual

/-- What the names of the target hold, in order: a starred name holds several items. -/
def Target.readBack (ns : Namespace) : Target → List Value
  | .name n => (ns.get? n).toList
  | .star n => ((ns.get? n).bind Value.items?).getD []
  | .sequence items => readBackAll ns items

/-- What the names of the targets hold, in order. -/
def readBackAll (ns : Namespace) : List Target → List Value
  | [] => []
  | t :: ts => t.readBack ns ++ readBackAll ns ts

end

/-- The target is a name, or a sequence of plain and starred names. -/
def Target.IsFlat : Target → Prop
  | .name _ | .star _ => True
  | .sequence items => ∀ t ∈ items, ∃ n, t = .name n ∨ t = .star n

/-! ## Dealing out items -/

namespace Deals

variable {ts us : List Target} {vs ws parts parts' : List Value}

theorem length (h : Deals ts vs parts) : parts.length = ts.length := by
  induction h with
  | nil => rfl
  | item _ _ ih => simp [ih]
  | star _ _ ih => simp [ih]

theorem append (h : Deals ts vs parts) (h' : Deals us ws parts') :
    Deals (ts ++ us) (vs ++ ws) (parts ++ parts') := by
  induction h with
  | nil => exact h'
  | item ht _ ih => exact .item ht ih
  | star middle _ ih =>
    rw [List.append_assoc]
    exact .star middle ih

/-- Without a star, each target gets an item. -/
theorem plain (hts : ts.countP Target.isStar = 0) (hvs : vs.length = ts.length) :
    Deals ts vs vs := by
  induction ts generalizing vs with
  | nil =>
    cases List.length_eq_zero_iff.mp hvs
    exact .nil
  | cons t ts ih =>
    obtain _ | ⟨v, vs⟩ := vs
    · cases hvs
    rw [List.countP_cons] at hts
    have ht : t.isStar = false := by
      cases h : t.isStar with
      | false => rfl
      | true => rw [h] at hts; simp at hts
    exact .item ht (ih (by omega) (Nat.succ.inj hvs))

theorem length_of_plain (h : Deals ts vs parts) (hts : ts.countP Target.isStar = 0) :
    vs.length = ts.length := by
  induction h with
  | nil => rfl
  | item _ _ ih =>
    rw [List.countP_cons] at hts
    simp [ih (by omega)]
  | star => simp [Target.isStar] at hts

/-- With one star at most, there is one way to deal out some items. -/
theorem unique (h : Deals ts vs parts) (h' : Deals ts vs parts')
    (hts : ts.countP Target.isStar ≤ 1) : parts = parts' := by
  induction h generalizing parts' with
  | nil => cases h'; rfl
  | @item t v ts vs parts ht _ ih =>
    rw [List.countP_cons] at hts
    generalize hws : v :: vs = ws at h'
    cases h' with
    | item _ h' =>
      cases hws
      rw [ih h' (by omega)]
    | star => cases ht
  | @star n ts vs parts middle h ih =>
    -- the targets behind the star fix the number of items behind it
    have hplain : ts.countP Target.isStar = 0 := by
      rw [List.countP_cons_of_pos rfl] at hts
      omega
    generalize hws : middle ++ vs = ws at h'
    cases h' with
    | item ht => cases ht
    | star middle' h' =>
      have hlen := (h.length_of_plain hplain).trans (h'.length_of_plain hplain).symm
      obtain ⟨rfl, rfl⟩ := List.append_inj' hws hlen
      rw [ih h' (by omega)]

end Deals

/-- **Finding the parts.** The machine deals out the items if the targets take so many, and else it
refuses their number. -/
theorem distribute_cases {ts : List Target} (hts : ts.countP Target.isStar ≤ 1)
    (items : List Value) :
    (Takes ts items.length ∧ ∃ parts, Target.distribute ts items = .ok parts ∧ Deals ts items parts)
      ∨ ¬Takes ts items.length
        ∧ ∃ f, Target.distribute ts items = .error f ∧ f.kind = .valueError := by
  unfold Target.distribute Takes
  cases hstar : ts.findIdx? Target.isStar with
  | none =>
    have hplain : ts.countP Target.isStar = 0 := by
      rw [List.countP_eq_zero]
      intro t ht
      rw [List.findIdx?_eq_none_iff.mp hstar t ht]
      exact nofun
    have hany : ts.any Target.isStar = false := by
      rw [List.any_eq_false]
      exact List.countP_eq_zero.mp hplain
    rw [hany, if_neg nofun]
    dsimp only
    split_ifs with hfew hmany
    · exact .inr ⟨by omega, _, rfl, rfl⟩
    · exact .inr ⟨by omega, _, rfl, rfl⟩
    · have hlen : items.length = ts.length := by omega
      exact .inl ⟨hlen, items, rfl, .plain hplain hlen⟩
  | some before =>
    obtain ⟨hlt, hget, hfirst⟩ := List.findIdx?_eq_some_iff_getElem.mp hstar
    have hany : ts.any Target.isStar = true :=
      List.any_eq_true.mpr ⟨ts[before], List.getElem_mem hlt, hget⟩
    rw [hany, if_pos rfl]
    dsimp only
    split_ifs with hfew
    · exact .inr ⟨by omega, _, rfl, rfl⟩
    obtain ⟨n, hn⟩ : ∃ n, ts[before] = .star n := by
      cases h : ts[before] with
      | star n => exact ⟨n, rfl⟩
      | _ => rw [h] at hget; cases hget
    have hparts : ts = ts.take before ++ .star n :: ts.drop (before + 1) := by
      rw [← hn, List.getElem_cons_drop, List.take_append_drop]
    -- the star is the only one, so that the targets around it take one item each
    have hcount : (ts.take before).countP Target.isStar = 0
        ∧ (ts.drop (before + 1)).countP Target.isStar = 0 := by
      rw [hparts, List.countP_append, List.countP_cons] at hts
      simp only [Target.isStar, if_true] at hts
      omega
    generalize hmiddle : items.length - before - (ts.length - before - 1) = middle
    refine .inl ⟨by omega, _, rfl, ?_⟩
    have hitems : items = items.take before
        ++ ((items.drop before).take middle ++ items.drop (before + middle)) := by
      rw [← List.drop_drop, List.take_append_drop, List.take_append_drop]
    have hfront : Deals (ts.take before) (items.take before) (items.take before) :=
      .plain hcount.1 (by rw [List.length_take, List.length_take]; omega)
    have hback : Deals (ts.drop (before + 1)) (items.drop (before + middle))
        (items.drop (before + middle)) :=
      .plain hcount.2 (by rw [List.length_drop, List.length_drop]; omega)
    have hall := hfront.append (Deals.star (n := n) ((items.drop before).take middle) hback)
    rwa [← hparts, ← hitems] at hall

/-! ## Along the target -/

mutual

theorem Target.Each.mono {P Q : String → Value → Prop} : ∀ {t : Target} {v : Value},
    (∀ n ∈ t.names, ∀ part, P n part → Q n part) → t.Each P v → t.Each Q v
  | .name _, _, hPQ, h => hPQ _ (List.mem_singleton_self _) _ h
  | .star _, _, hPQ, ⟨items, hitems, h⟩ =>
    ⟨items, hitems, hPQ _ (List.mem_singleton_self _) _ h⟩
  | .sequence _, _, hPQ, ⟨items, hitems, htakes, parts, hdeals, h⟩ =>
    ⟨items, hitems, htakes, parts, hdeals, eachAll.mono hPQ h⟩

theorem eachAll.mono {P Q : String → Value → Prop} : ∀ {ts : List Target} {vs : List Value},
    (∀ n ∈ targetNames ts, ∀ part, P n part → Q n part) → eachAll P ts vs → eachAll Q ts vs
  | [], [], _, _ => trivial
  | _ :: _, _ :: _, hPQ, ⟨ht, hts⟩ =>
    ⟨Target.Each.mono (fun n hn => hPQ n (List.mem_append_left _ hn)) ht,
      eachAll.mono (fun n hn => hPQ n (List.mem_append_right _ hn)) hts⟩
  | [], _ :: _, _, h => h.elim
  | _ :: _, [], _, h => h.elim

end

mutual

/-- A value that misfits does not fit. -/
theorem Target.Misfits.not_fits {kind : FaultKind} : ∀ {t : Target} {v : Value}, t.SingleStars →
    t.Misfits v kind → ¬t.Fits v
  | .name _, _, _, h => nomatch h
  | .star _, _, _, .star h => fun ⟨items, hitems, _⟩ => by rw [h] at hitems; cases hitems
  | .sequence _, _, _, .iterable h => fun ⟨items, hitems, _⟩ => by rw [h] at hitems; cases hitems
  | .sequence _, _, _, .count h hcount => fun ⟨items, hitems, htakes, _⟩ => by
    rw [h] at hitems
    cases hitems
    exact hcount htakes
  | .sequence _, _, hstars, .part h hdeals hmisfit => fun ⟨items, hitems, _, parts, hparts, hfit⟩ => by
    rw [h] at hitems
    cases hitems
    rw [hparts.unique hdeals hstars.1] at hfit
    exact MisfitsAll.not_fit hstars.2 hmisfit hfit

theorem MisfitsAll.not_fit {kind : FaultKind} : ∀ {ts : List Target} {vs : List Value},
    singleStarsAll ts → MisfitsAll ts vs kind → ¬eachAll (fun _ _ => True) ts vs
  | _ :: _, _ :: _, hstars, .here h => fun hfit => h.not_fits hstars.1 hfit.1
  | _ :: _, _ :: _, hstars, .later _ h => fun hfit => h.not_fit hstars.2 hfit.2

end

mutual

/-- Reading the names back gives the items. -/
theorem Target.Bound.opens {ns : Namespace} : ∀ {t : Target} {v : Value}, t.Bound ns v →
    t.Opens v (t.readBack ns)
  | .name n, v, h => by
    have hv : ns.get? n = some v := h
    rw [Target.readBack, hv]
    exact .name
  | .star n, v, ⟨items, hitems, h⟩ => by
    have hlist : (Value.list items).items? = some items := rfl
    rw [Target.readBack, h, Option.bind_some, hlist, Option.getD_some]
    exact .star hitems
  | .sequence _, _, ⟨_, hitems, _, _, hdeals, h⟩ => .sequence hitems (opensAll_of_bound hdeals h)

theorem opensAll_of_bound {ns : Namespace} : ∀ {ts : List Target} {vs parts : List Value},
    Deals ts vs parts → eachAll (fun n part => ns.get? n = some part) ts parts →
      OpensAll ts vs (readBackAll ns ts)
  | [], _, _, .nil, _ => .nil
  | _ :: _, _, _, .item ht hdeals, ⟨h, hs⟩ =>
    .item ht (Target.Bound.opens h) (opensAll_of_bound hdeals hs)
  | .star n :: ts, _, _, .star middle hdeals, ⟨⟨items, hitems, h⟩, hs⟩ => by
    cases hitems
    have hread : (Target.star n).readBack ns = middle := by
      rw [Target.readBack, h]
      rfl
    rw [readBackAll, hread]
    exact .star middle (opensAll_of_bound hdeals hs)

end

/-! ## How binding ends -/

variable {ns : Namespace}

/-- How binding a value to a target ends. -/
def Target.Ends (t : Target) (v : Value) (ns : Namespace) : Except Fault Unit × Namespace → Prop
  | (.ok _, ns') => t.Fits v ∧ (∀ m, m ∉ t.names → ns'.get? m = ns.get? m)
    ∧ (t.names.Nodup → t.Bound ns' v)
  | (.error f, _) => t.Misfits v f.kind

/-- How binding parts to targets ends. -/
def EndsAll (ts : List Target) (vs : List Value) (ns : Namespace) :
    Except Fault Unit × Namespace → Prop
  | (.ok _, ns') => eachAll (fun _ _ => True) ts vs
    ∧ (∀ m, m ∉ targetNames ts → ns'.get? m = ns.get? m)
    ∧ ((targetNames ts).Nodup → eachAll (fun n part => ns'.get? n = some part) ts vs)
  | (.error f, _) => MisfitsAll ts vs f.kind

/-- Setting the name of a plain or starred target binds it. -/
theorem get?_set_ends (ns : Namespace) (n : String) (v : Value) :
    (ns.set n v).get? n = some v ∧ ∀ m, m ∉ [n] → (ns.set n v).get? m = ns.get? m := by
  refine ⟨by rw [Namespace.get?_set, if_pos rfl], fun m hm => ?_⟩
  rw [Namespace.get?_set, if_neg (by simpa using hm)]

mutual

/-- **Binding a value to a target**: each name gets its own part, or the value misfits. -/
theorem bind_ends : ∀ (t : Target), t.SingleStars → ∀ (v : Value) (ns : Namespace),
    t.Ends v ns (t.bind v ns)
  | .name n, _, v, ns => by
    obtain ⟨hself, hother⟩ := get?_set_ends ns n v
    exact ⟨trivial, hother, fun _ => hself⟩
  | .star n, _, v, ns => by
    rw [Target.bind]
    cases hitems : v.items? with
    | none => exact .star hitems
    | some items =>
      obtain ⟨hself, hother⟩ := get?_set_ends ns n (.list items)
      exact ⟨⟨items, hitems, trivial⟩, hother, fun _ => ⟨items, hitems, hself⟩⟩
  | .sequence ts, hstars, v, ns => by
    rw [Target.bind]
    cases hitems : v.items? with
    | none => exact .iterable hitems
    | some items =>
      -- the items are dealt out to the targets, or they are too few or too many
      rcases distribute_cases hstars.1 items with
        ⟨htakes, parts, hparts, hdeals⟩ | ⟨hcount, f, hf, hkind⟩
      · have hends := bindAll_ends ts hstars.2 parts hdeals.length ns
        simp only [hparts]
        cases hrun : Target.bindAll ts parts ns with
        | mk r ns' =>
          rw [hrun] at hends
          cases r with
          | error f => exact .part hitems hdeals hends
          | ok u =>
            obtain ⟨hfit, hother, hbound⟩ := hends
            exact ⟨⟨items, hitems, htakes, parts, hdeals, hfit⟩, hother,
              fun hnames => ⟨items, hitems, htakes, parts, hdeals, hbound hnames⟩⟩
      · have hmisfit : (Target.sequence ts).Misfits v f.kind := hkind ▸ .count hitems hcount
        simp only [hf]
        exact hmisfit

theorem bindAll_ends : ∀ (ts : List Target), singleStarsAll ts → ∀ (vs : List Value),
    vs.length = ts.length → ∀ ns, EndsAll ts vs ns (Target.bindAll ts vs ns)
  | [], _, [], _, _ => ⟨trivial, fun _ _ => rfl, fun _ => trivial⟩
  | [], _, _ :: _, h, _ => nomatch h
  | _ :: _, _, [], h, _ => nomatch h
  | t :: ts, hstars, v :: vs, hlen, ns => by
    have hfirst := bind_ends t hstars.1 v ns
    rw [Target.bindAll]
    cases hrun : t.bind v ns with
    | mk r ns₁ =>
      rw [hrun] at hfirst
      cases r with
      | error f =>
        rw [Effects.bind_error hrun]
        exact .here hfirst
      | ok u =>
        obtain ⟨hfit, hother, hbound⟩ := hfirst
        have hrest := bindAll_ends ts hstars.2 vs (Nat.succ.inj hlen) ns₁
        rw [Effects.bind_ok hrun]
        cases hrun' : Target.bindAll ts vs ns₁ with
        | mk r ns₂ =>
          rw [hrun'] at hrest
          cases r with
          | error f => exact .later hfit hrest
          | ok u' =>
            obtain ⟨hfits, hothers, hbounds⟩ := hrest
            refine ⟨⟨hfit, hfits⟩, fun m hm => ?_, fun hnames => ⟨?_, hbounds hnames.of_append_right⟩⟩
            · rw [targetNames, List.mem_append, not_or] at hm
              rw [hothers m hm.2, hother m hm.1]
            · -- the later targets leave the names of this one alone
              refine Target.Each.mono (fun n hn part hpart => ?_) (hbound hnames.of_append_left)
              rw [hothers n fun hn' => (List.nodup_append.mp hnames).2.2 n hn n hn' rfl]
              exact hpart

end

/-- Plain and starred names fit the parts they get. -/
theorem eachAll_of_flat {ts : List Target} {vs parts : List Value} (h : Deals ts vs parts)
    (hflat : ∀ t ∈ ts, ∃ n, t = .name n ∨ t = .star n) : eachAll (fun _ _ => True) ts parts := by
  induction h with
  | nil => trivial
  | item ht _ ih =>
    obtain ⟨n, rfl | rfl⟩ := hflat _ (List.mem_cons_self ..)
    · exact ⟨trivial, ih fun t ht => hflat t (List.mem_cons_of_mem _ ht)⟩
    · cases ht
  | star middle _ ih =>
    exact ⟨⟨middle, rfl, trivial⟩, ih fun t ht => hflat t (List.mem_cons_of_mem _ ht)⟩

/-- Binding that fails before it comes to the parts has bound nothing. -/
theorem bind_flat {t : Target} (hstars : t.SingleStars) (hflat : t.IsFlat) {v : Value} {f : Fault}
    (hf : (t.bind v ns).1 = .error f) : (t.bind v ns).2 = ns := by
  cases t with
  | name n => cases hf
  | star n =>
    rw [Target.bind] at hf ⊢
    cases hitems : v.items? with
    | none => rfl
    | some items => rw [hitems] at hf; cases hf
  | sequence ts =>
    rw [Target.bind] at hf ⊢
    cases hitems : v.items? with
    | none => rfl
    | some items =>
      rw [hitems] at hf
      rcases distribute_cases hstars.1 items with ⟨-, parts, hparts, hdeals⟩ | ⟨-, g, hg, -⟩
      · -- the parts fit, so that binding them does not fail
        have hends := bindAll_ends ts hstars.2 parts hdeals.length ns
        simp only [hparts] at hf
        cases hrun : Target.bindAll ts parts ns with
        | mk r ns' =>
          rw [hrun] at hf hends
          cases hf
          exact absurd (eachAll_of_flat hdeals hflat) (MisfitsAll.not_fit hstars.2 hends)
      · simp only [hg]
        rfl

/-! ## Targets of programs -/

namespace Parser

mutual

/-- No sequence of a target of a program has two stars. -/
theorem toTarget_singleStars : ∀ {e : Expr} {t : Target}, toTarget e = .ok t → t.SingleStars
  | .name _, _, h => by cases h; trivial
  | .star e, _, h => by cases e <;> cases h; trivial
  | .tuple items, _, h | .list items, _, h => by
    obtain ⟨ts, rfl, hstars, hts⟩ := toTarget_sequence h
    exact ⟨by rwa [countP_toTargets hts], toTargets_singleStars hts⟩
  | .call .., _, h | .attribute .., _, h | .subscript .., _, h | .int _, _, h | .str _, _, h
  | .template _, _, h | .bool _, _, h | .none, _, h | .unary .., _, h | .binary .., _, h
  | .compare .., _, h | .logical .., _, h => by cases h

theorem toTargets_singleStars : ∀ {es : List Expr} {ts : List Target},
    List.Forall₂ (fun e t => toTarget e = .ok t) es ts → singleStarsAll ts
  | [], _, .nil => trivial
  | _ :: _, _, .cons h hs => ⟨toTarget_singleStars h, toTargets_singleStars hs⟩

end

end Parser

/--
**Unpacking is exact.**

A value is bound to a target of a program if and only if the target fits it. Then each name is bound
to its own part, and to read the names back in order gives all items of the value, none of them lost
or repeated; no other name changes. Where the target does not fit, the fault is a `ValueError` if the
number of items is wrong and a `TypeError` if something is no iterable, whichever comes first; a
target of plain and starred names then leaves the namespace as it was.
-/
theorem unpacking_exact {e : Expr} {t : Target} (ht : Parser.toTarget e = .ok t)
    (hnames : t.names.Nodup) (v : Value) (ns : Namespace) :
    ((t.bind v ns).1 = .ok () ↔ t.Fits v)
      ∧ ((t.bind v ns).1 = .ok () → t.Bound (t.bind v ns).2 v
        ∧ t.Opens v (t.readBack (t.bind v ns).2)
        ∧ ∀ m, m ∉ t.names → (t.bind v ns).2.get? m = ns.get? m)
      ∧ ∀ f, (t.bind v ns).1 = .error f →
        t.Misfits v f.kind ∧ (t.IsFlat → (t.bind v ns).2 = ns) := by
  have hstars := Parser.toTarget_singleStars ht
  have hends := bind_ends t hstars v ns
  have hflat : ∀ f, (t.bind v ns).1 = .error f → t.IsFlat → (t.bind v ns).2 = ns :=
    fun f hf hflat => bind_flat hstars hflat hf
  cases hrun : t.bind v ns with
  | mk r ns' =>
    rw [hrun] at hends hflat
    cases r with
    | ok u =>
      obtain ⟨hfit, hother, hbound⟩ := hends
      have hbound := hbound hnames
      exact ⟨⟨fun _ => hfit, fun _ => rfl⟩, fun _ => ⟨hbound, hbound.opens, hother⟩, nofun⟩
    | error f =>
      refine ⟨⟨nofun, fun hfit => absurd hfit (Target.Misfits.not_fits hstars hends)⟩, nofun,
        fun g hg => ?_⟩
      cases hg
      exact ⟨hends, hflat f rfl⟩

/-- A value in a value is taken apart: `a, (b, *c), *d` gets the items of a text among others. -/
theorem unpacking_exact_of_nested :
    let t : Target := .sequence [.name "a", .sequence [.name "b", .star "c"], .star "d"]
    let v : Value := .tuple [.int 1, .str "xyz", .int 2, .int 3]
    (t.bind v .fresh).1 = .ok () ∧ t.Fits v
      ∧ t.readBack (t.bind v .fresh).2
        = [.int 1, .str "x", .str "y", .str "z", .int 2, .int 3]
      ∧ t.Misfits (.tuple [.int 1, .int 2]) .typeError := by
  intro t v
  have ht : Parser.toTarget (.tuple [.name "a", .tuple [.name "b", .star (.name "c")],
      .star (.name "d")]) = .ok t := rfl
  have hnames : t.names.Nodup := by decide
  have hall := unpacking_exact ht hnames v .fresh
  exact ⟨rfl, hall.1.mp rfl, rfl,
    ((unpacking_exact ht hnames (.tuple [.int 1, .int 2]) .fresh).2.2 _ rfl).1⟩

end Tilde
