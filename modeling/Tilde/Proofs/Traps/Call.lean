import Mathlib.Data.List.Basic
import Mathlib.Tactic.Ring
import Tilde.Eval
import Tilde.Proofs.Traps.Access
import Tilde.Proofs.Traps.Value

/-!
# Calls

The accesses of functions and methods. An argument is taken out of the others where a search has
found it, or where the number of arguments has been tested. A range goes from number to number and
tests each sum, so it ends where the next number would not be one.
-/

namespace Tilde.Checked

/-! ## Arguments -/

/-- Takes an argument given by name out of the others. -/
def take (args : Args) (name : String) : Except Trap (Option Value × Args) :=
  match args.keywords.findIdx? (·.1 == name) with
  | none => .ok (none, args)
  | some i => do
    let (keyword, rest) ← Access.remove args.keywords i
    return (some keyword.2, { args with keywords := rest })

theorem lookup_eq (keywords : List (String × Value)) (name : String) :
    keywords.lookup name =
      ((keywords.findIdx? (·.1 == name)).bind (keywords[·]?)).map (·.2) := by
  induction keywords with
  | nil => rfl
  | cons keyword keywords ih =>
    obtain ⟨key, v⟩ := keyword
    rw [List.lookup_cons, List.findIdx?_cons]
    by_cases h : key = name
    · subst h
      simp
    · rw [beq_false_of_ne h, beq_false_of_ne (Ne.symm h)]
      simp only [Bool.false_eq_true, if_false, ih]
      cases keywords.findIdx? (·.1 == name) <;> rfl

theorem take_ok (args : Args) (name : String) : take args name = .ok (args.take name) := by
  unfold take Args.take
  rw [lookup_eq, List.eraseP_eq_eraseIdx]
  cases h : args.keywords.findIdx? (·.1 == name) with
  | none => rfl
  | some i =>
    obtain ⟨hlt, -⟩ := List.findIdx?_eq_some_iff_getElem.mp h
    dsimp only
    rw [Access.remove_ok (List.getElem?_eq_getElem hlt), Option.bind_some,
      List.getElem?_eq_getElem hlt]
    rfl

/-- Takes a text given by name, or its default. -/
def takeText (args : Args) (name default : String) : Checked Fault (String × Args) := do
  match ← access (take args name) with
  | (none, args) | (some .none, args) => return (default, args)
  | (some (.str s), args) => return (s, args)
  | (some v, _) => throw (.notText name v.type)

theorem takeText_ok (args : Args) (name default : String) :
    takeText args name default = of (args.takeText name default) := by
  unfold takeText Args.takeText
  rw [take_ok, access_ok, pure_bind]
  rcases args.take name with ⟨_ | v, rest⟩
  · rfl
  · cases v <;> rfl

/-- The one argument of a function. -/
def one (args : Args) (function : String) : Checked Fault Value := do
  let vs ← of (args.between function 1 1)
  return (← access (Access.remove vs 0)).1

theorem between_length {args : Args} {function : String} {least most : Nat} {vs : List Value}
    (h : args.between function least most = .ok vs) : least ≤ vs.length ∧ vs.length ≤ most := by
  unfold Args.between at h
  cases hr : args.rejectKeywords function with
  | error f => rw [hr] at h; cases h
  | ok u =>
    rw [hr] at h
    dsimp only [bind, Except.bind] at h
    split at h
    · next hcount =>
      cases h
      simpa using hcount
    · cases h

/-- **The argument that is taken is there**, since the number of arguments has been tested. -/
theorem one_ok (args : Args) (function : String) : one args function = of (args.one function) := by
  unfold one Args.one
  cases h : args.between function 1 1 with
  | error f => rfl
  | ok vs =>
    obtain ⟨hleast, hmost⟩ := between_length h
    obtain ⟨v, rfl⟩ := List.length_eq_one_iff.mp (Nat.le_antisymm hmost hleast)
    rfl

/-! ## Ranges -/

/-- The numbers from `i` on that come before the end. -/
def rangeFrom (i stop step : Int64) : List Value :=
  if (0 < step ∧ i < stop) ∨ (step < 0 ∧ stop < i) then
    .int i :: match _h : add? i step with
      | some next => rangeFrom next stop step
      | none => []
  else []
termination_by if 0 < step then (stop.toInt - i.toInt).toNat else (i.toInt - stop.toInt).toNat
decreasing_by
  have hnext := Value.int64?_eq_some.mp _h
  simp only [Int64.lt_iff_toInt_lt, Int64.toInt_zero] at *
  split <;> omega

/-- The numbers given as bounds. -/
def numbers : List Value → Except Fault (List Int64)
  | [] => .ok []
  | v :: vs =>
    match v.asInt? with
    | some i => return i :: (← numbers vs)
    | none => .error (.notBound v.type)

/-- The list of numbers between two bounds. -/
def rangeOf (args : Args) : Except Fault Value := do
  let (start, stop, step) ← match ← numbers (← args.between Builtin.range.name 1 3) with
    | [stop] => pure (0, stop, 1)
    | [start, stop] => pure (start, stop, 1)
    | [start, stop, step] => pure (start, stop, step)
    | ns => throw (.argumentCount Builtin.range.name (.exactly 3) ns.length)
  if step = 0 then throw .zeroStep
  else return .list (rangeFrom start stop step)

theorem bounds_eq (vs : List Value) :
    Builtin.bounds vs = (numbers vs).map (List.map Int64.toInt) := by
  induction vs with
  | nil => rfl
  | cons v vs ih =>
    rw [Builtin.bounds, numbers, ih]
    cases v.asInt? with
    | none => rfl
    | some i => cases numbers vs <;> rfl

/-- How many numbers of a progression come before its end, where the first is `d` away and each next
one `w` nearer. -/
theorem count_succ {d w : Int} (hd : 0 < d) (hw : 0 < w) :
    ((d + w - 1) / w).toNat = ((d - w + w - 1) / w).toNat + 1 := by
  have hsum : d + w - 1 = d - 1 + 1 * w := by omega
  have hrest : d - w + w - 1 = d - 1 := by omega
  have hnonneg : 0 ≤ (d - 1) / w := Int.ediv_nonneg (by omega) (by omega)
  rw [hrest, hsum, Int.add_mul_ediv_right _ _ (by omega)]
  omega

theorem count_zero {d w : Int} (hd : d ≤ 0) (hw : 0 < w) : ((d + w - 1) / w).toNat = 0 := by
  have hlt : (d + w - 1) / w < 1 := Int.ediv_lt_of_lt_mul hw (by omega)
  omega

section Progression

variable {start stop step : Int}

theorem progression_nil (hpos : 0 < step → stop ≤ start) (hneg : step < 0 → start ≤ stop)
    (hstep : step ≠ 0) : Builtin.progression start stop step = [] := by
  unfold Builtin.progression
  by_cases h : step > 0
  · have := hpos h
    dsimp only
    rw [if_pos h, count_zero (by omega) h]
    rfl
  · have := hneg (by omega)
    have hcount : start - stop - step - 1 = start - stop + -step - 1 := by omega
    dsimp only
    rw [if_neg h, hcount, count_zero (by omega) (by omega)]
    rfl

theorem progression_cons (h : (0 < step ∧ start < stop) ∨ (step < 0 ∧ stop < start)) :
    Builtin.progression start stop step
      = start :: Builtin.progression (start + step) stop step := by
  have hmap : ∀ n, (List.range (n + 1)).map (fun k : Nat => start + k * step)
      = start :: (List.range n).map fun k : Nat => start + step + k * step := by
    intro n
    rw [List.range_succ_eq_map, List.map_cons, List.map_map]
    refine congrArg₂ _ (by simp) (List.map_congr_left fun k _ => ?_)
    simp only [Function.comp_apply]
    push_cast
    ring
  unfold Builtin.progression
  dsimp only
  rcases h with ⟨hstep, hlt⟩ | ⟨hstep, hlt⟩
  · have hrest : stop - (start + step) + step - 1 = stop - start - step + step - 1 := by omega
    rw [if_pos hstep, if_pos hstep, count_succ (by omega) hstep, hmap, hrest]
  · have hcount : start - stop - step - 1 = start - stop + -step - 1 := by omega
    have hrest : start + step - stop - step - 1 = start - stop - -step + -step - 1 := by omega
    rw [if_neg (by omega), if_neg (by omega), hcount, count_succ (by omega) (by omega), hmap, hrest]

end Progression

/-- **The numbers of a range are those of the progression**, none of which wraps. -/
theorem rangeFrom_eq (i stop : Int64) {step : Int64} (hstep : step ≠ 0) :
    rangeFrom i stop step = (Builtin.progression i.toInt stop.toInt step.toInt).map fun k =>
      .int (Int64.ofInt k) := by
  have hstepInt := toInt_ne_zero.mpr hstep
  have hstop := toInt_bounds stop
  have hguard : ∀ i : Int64, (0 < step ∧ i < stop) ∨ (step < 0 ∧ stop < i) ↔
      (0 < step.toInt ∧ i.toInt < stop.toInt) ∨ (step.toInt < 0 ∧ stop.toInt < i.toInt) := by
    intro i
    simp only [Int64.lt_iff_toInt_lt, Int64.toInt_zero]
  fun_induction rangeFrom i stop step with
  | case1 i h ih =>
    rw [progression_cons ((hguard i).mp h), List.map_cons, Int64.ofInt_toInt]
    refine congrArg _ ?_
    cases hadd : add? i step with
    | none =>
      -- the next number would be past both the end and the greatest or the least number
      have hlarge := Value.int64?_eq_none.mp hadd
      have hi := toInt_bounds i
      rw [progression_nil (by omega) (by omega) hstepInt]
      rfl
    | some next =>
      rw [← Value.int64?_eq_some.mp hadd]
      exact ih next hadd
  | case2 i h =>
    rw [hguard i] at h
    rw [progression_nil (by omega) (by omega) hstepInt]
    rfl

theorem rangeOf_ok (args : Args) : rangeOf args = Builtin.rangeOf args := by
  unfold rangeOf Builtin.rangeOf
  -- with a step that is not zero no number of the range overflows
  have hlist : ∀ start stop step : Int64,
      (if step = 0 then throw .zeroStep else return .list (rangeFrom start stop step)
        : Except Fault Value) =
      if step.toInt = 0 then throw .zeroStep
      else return .list ((Builtin.progression start.toInt stop.toInt step.toInt).map fun i =>
        .int (Int64.ofInt i)) := by
    intro start stop step
    by_cases h : step = 0
    · rw [if_pos h, if_pos (toInt_eq_zero.mpr h)]
    · rw [if_neg h, if_neg (toInt_ne_zero.mpr h), rangeFrom_eq start stop h]
  cases args.between Builtin.range.name 1 3 with
  | error f => rfl
  | ok vs =>
    dsimp only [bind, Except.bind]
    rw [bounds_eq]
    cases numbers vs with
    | error f => rfl
    | ok ns =>
      match ns with
      | [] => rfl
      | [stop] => exact hlist 0 stop 1
      | [start, stop] => exact hlist start stop 1
      | [start, stop, step] => exact hlist start stop step
      | _ :: _ :: _ :: _ :: rest =>
        simp only [Except.map, List.map_cons, List.length_cons, List.length_map]
        rfl

/-! ## Functions -/

variable {ω : Type}

/-- The texts of values. -/
def texts : List Value → Except Trap (List String)
  | [] => .ok []
  | v :: vs => do
    let s ← text v
    return s :: (← texts vs)

theorem texts_ok (vs : List Value) : texts vs = .ok (vs.map Value.text) := by
  induction vs with
  | nil => rfl
  | cons v vs ih => rw [texts, text_ok, ih]; rfl

/-- Writes values to the output, with a separator between and a text at the end. -/
def printValues (host : Host ω) (args : Args) : CheckedM Stop (Outside ω) Value := do
  let (sep, args) ← .ofChecked (takeText args "sep" " ")
  let (last, args) ← .ofChecked (takeText args "end" "\n")
  .ofChecked (of (args.rejectKeywords Builtin.print.name))
  let texts ← .ofChecked (access (texts args.positional))
  .plain (EvalM.write host [sep.intercalate texts, last])
  return .none

/-- Calls a built-in function. -/
def builtin (host : Host ω) (f : Builtin) (args : Args) : CheckedM Stop (Outside ω) Value :=
  match f with
  | .print => printValues host args
  | .len => .ofChecked (one args f.name >>= fun v => of (Builtin.lengthOf v))
  | .str => .ofChecked do
    match ← of (args.atMostOne f.name) with
    | some v => return .str (← access (text v))
    | none => return .str ""
  | .int => .ofChecked (one args f.name >>= fun v => of (Builtin.toInt v))
  | .repr => .ofChecked do return .str (← access (repr (← one args f.name)))
  | .range => .ofChecked (of (rangeOf args))
  | .exit => .plain (Builtin.exit.call host args)
  | .run d => do
    match ← .ofChecked (one args d.runner) with
    | .str command =>
      .plain (EvalM.note (.running d command))
      .plain (Builtin.runCommand host d command)
    | v => throw (.fault (.notCommand d.runner v.type))
  | .quote => .ofChecked do
    let s ← access (text (← one args f.name))
    match Shell.quote s with
    | .ok s => return .str s
    | .error e => throw (.unquotable e)

/-- **Functions come to no trap.** -/
theorem builtin_ok (host : Host ω) (f : Builtin) (args : Args) :
    Untrapped (builtin host f args) (f.call host args) := by
  cases f with
  | print =>
    refine .bind (.ofChecked (takeText_ok _ _ _)) fun _ => .bind (.ofChecked (takeText_ok _ _ _))
      fun r => .bind (.ofChecked rfl) fun _ => ?_
    rw [texts_ok]
    exact .bind (.plain _) fun _ => .bind (.plain _) fun _ => .pure _
  | len | int => exact .ofChecked (by rw [one_ok]; exact bind_of fun _ _ => rfl)
  | str =>
    refine .ofChecked ?_
    cases args.atMostOne Builtin.str.name with
    | error f => rfl
    | ok v =>
      cases v with
      | none => rfl
      | some v =>
        simp only [of_ok, pure_bind, text_ok, access_ok]
        rfl
  | repr =>
    refine .ofChecked ?_
    rw [one_ok]
    cases args.one Builtin.repr.name with
    | error f => rfl
    | ok v =>
      rw [of_ok, pure_bind, repr_ok]
      rfl
  | range => exact .ofChecked (by rw [rangeOf_ok])
  | exit => exact .plain _
  | run d =>
    refine .bind (.ofChecked (one_ok _ _)) fun v => ?_
    cases v with
    | str command => exact .bind (.plain _) fun _ => .plain _
    | _ => exact .throw _
  | quote =>
    refine .ofChecked ?_
    rw [one_ok]
    refine bind_of fun v _ => ?_
    rw [text_ok, access_ok, pure_bind, Builtin.quoteValue]
    cases Shell.quote v.text <;> rfl

/-! ## Methods -/

/-- Calls a method. -/
def method (m : Method) (s : String) (args : Args) : Checked Fault Value := do
  match m with
  | .startswith =>
    match ← one args m.name with
    | .str front => return .bool (Text.startsWith front.toList s.toList)
    | v => throw (.notString m.name v.type)
  | .endswith =>
    match ← one args m.name with
    | .str back => return .bool (Text.endsWith back.toList s.toList)
    | v => throw (.notString m.name v.type)
  | .replace =>
    let vs ← of (args.between m.name 2 2)
    match ← access (Access.item vs 0), ← access (Access.item vs 1) with
    | .str old, .str new =>
      return .str (String.ofList (Text.replace old.toList new.toList s.toList))
    | .str _, v | v, _ => throw (.notString m.name v.type)
  | .join =>
    let v ← one args m.name
    match v.items? with
    | none => throw (.notJoinable v.type)
    | some items => return .str (s.intercalate (← of (Method.pieces 0 items)))
  | m => of (m.call s args)

/-- **Methods come to no trap.** -/
theorem method_ok (m : Method) (s : String) (args : Args) :
    method m s args = of (m.call s args) := by
  cases m with
  | startswith | endswith =>
    rw [method, Method.call, one_ok]
    refine bind_of fun v _ => ?_
    cases v <;> rfl
  | replace =>
    rw [method, Method.call]
    refine bind_of fun vs hvs => ?_
    -- there are two arguments
    obtain ⟨hleast, hmost⟩ := between_length hvs
    obtain ⟨v, w, rfl⟩ := List.length_eq_two.mp (Nat.le_antisymm hmost hleast)
    cases v <;> first | rfl | (cases w <;> rfl)
  | join =>
    rw [method, Method.call, one_ok]
    refine bind_of fun v _ => ?_
    cases v.items? with
    | none => rfl
    | some items => cases hpieces : Method.pieces 0 items <;> simp only [hpieces] <;> rfl
  | _ => rfl

/-- Calls a value. -/
def callWith (host : Host ω) (v : Value) (args : Args) : CheckedM Stop (Outside ω) Value :=
  match v with
  | .builtin f => builtin host f args
  | .method receiver m => .ofChecked (method m receiver args)
  | v => throw (.fault (.notCallable v.type))

theorem callWith_ok (host : Host ω) (v : Value) (args : Args) :
    Untrapped (callWith host v args) (v.callWith host args) := by
  cases v with
  | builtin f => exact builtin_ok host f args
  | method receiver m => exact .ofChecked (method_ok m receiver args)
  | _ => exact .throw _

end Tilde.Checked
