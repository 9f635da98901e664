import Mathlib.Tactic.SplitIfs
import Mathlib.Tactic.Tauto
import Tilde.Proofs.Traps.Access
import Tilde.Proofs.Written.Lexer
import Tilde.Value.Arith
import Tilde.Value.Format

/-!
# Operations on values without traps

Arithmetic first, then everything else that an operator or a subscript does with its operands.

## Numbers of 64 bits

The operators work on unbounded integers and narrow the result. The machine works on numbers of 64
bits all the way. It tests whether the main operation of each operator has a result; only what
corrects a quotient or a remainder, to round down, is done without a test. It cannot go wrong, since
it is done only after a division with a remainder: the divisor is then neither one nor minus one, so
the quotient is far from both ends.
-/

namespace Tilde

namespace Value

theorem int64?_eq_some {i : Int} {n : Int64} : int64? i = some n ↔ n.toInt = i := by
  have hmin : Int64.minValue.toInt = -2 ^ 63 := Int64.toInt_minValue
  have hmax : Int64.maxValue.toInt = 2 ^ 63 - 1 := Int64.toInt_maxValue
  rw [int64?]
  constructor
  · intro h
    split at h
    · cases h
      exact Int64.toInt_ofInt_of_le (by omega) (by omega)
    · cases h
  · rintro rfl
    rw [if_pos ⟨Int64.minValue_le_toInt n, Int64.toInt_le n⟩, Int64.ofInt_toInt]

theorem int64?_eq_none {i : Int} : int64? i = Option.none ↔ i < -0x8000000000000000 ∨ 0x8000000000000000 ≤ i := by
  have hmin : Int64.minValue.toInt = -2 ^ 63 := Int64.toInt_minValue
  have hmax : Int64.maxValue.toInt = 2 ^ 63 - 1 := Int64.toInt_maxValue
  rw [int64?]
  split
  · simp only [reduceCtorEq, false_iff]
    omega
  · simp only [true_iff]
    omega

end Value

theorem toInt_bounds (n : Int64) :
    -0x8000000000000000 ≤ n.toInt ∧ n.toInt < 0x8000000000000000 :=
  ⟨n.le_toInt, n.toInt_lt⟩

namespace Access

theorem number_ok {i : Int} {n : Int64} (h : n.toInt = i) : number i = .ok n := by
  rw [number, Value.int64?_eq_some.mpr h]

/-- An integer within the bounds is the result of an operation. -/
theorem number_fits {i : Int} (hmin : -0x8000000000000000 ≤ i) (hmax : i < 0x8000000000000000) :
    ∃ n : Int64, n.toInt = i ∧ number i = .ok n := by
  cases h : Value.int64? i with
  | none =>
    rcases Value.int64?_eq_none.mp h with h | h <;> omega
  | some n => exact ⟨n, Value.int64?_eq_some.mp h, number_ok (Value.int64?_eq_some.mp h)⟩

end Access

/-! ### Division -/

/-- Rounding down is rounding toward zero, corrected where there is a remainder and the signs
differ. -/
theorem fdiv_eq_ite {a b : Int} (hb : b ≠ 0) :
    a.fdiv b = if a.tmod b ≠ 0 ∧ (a < 0 ↔ ¬b < 0) then a.tdiv b - 1 else a.tdiv b := by
  rw [Int.fdiv_eq_tdiv]
  by_cases hdvd : b ∣ a
  · simp [hdvd, Int.dvd_iff_tmod_eq_zero.mp hdvd]
  · have hmod : a.tmod b ≠ 0 := fun h => hdvd (Int.dvd_iff_tmod_eq_zero.mpr h)
    rw [if_neg hdvd]
    rcases Int.lt_trichotomy b 0 with hneg | rfl | hpos
    · rw [Int.sign_eq_neg_one_of_neg hneg]
      split_ifs <;> omega
    · exact absurd rfl hb
    · rw [Int.sign_eq_one_of_pos hpos]
      split_ifs <;> omega

/-- A remainder has the sign of the dividend. -/
theorem tmod_neg_iff {a b : Int} (h : a.tmod b ≠ 0) : a.tmod b < 0 ↔ a < 0 := by
  constructor
  · refine fun hneg => Int.not_le.mp fun ha => ?_
    have := Int.tmod_nonneg b ha
    omega
  · intro ha
    have := Int.tmod_nonneg b (Int.neg_nonneg_of_nonpos (Int.le_of_lt ha))
    rw [Int.neg_tmod] at this
    omega

theorem fmod_eq_ite {a b : Int} (hb : b ≠ 0) :
    a.fmod b =
      if a.tmod b ≠ 0 ∧ (a.tmod b < 0 ↔ ¬b < 0) then a.tmod b + b else a.tmod b := by
  have hdiv := fdiv_eq_ite (a := a) hb
  have hf := Int.mul_fdiv_add_fmod a b
  have ht := Int.mul_tdiv_add_tmod a b
  by_cases hmod : a.tmod b = 0
  · rw [if_neg (fun h => h.1 hmod)] at hdiv ⊢
    rw [hdiv] at hf
    omega
  · simp only [← tmod_neg_iff hmod] at hdiv
    split_ifs at hdiv ⊢ with hc
    · rw [hdiv, Int.mul_sub, Int.mul_one] at hf
      omega
    · rw [hdiv] at hf
      omega

/-- A division with a remainder at least halves. -/
theorem two_mul_natAbs_tdiv_le {a b : Int} (h : a.tmod b ≠ 0) :
    2 * (a.tdiv b).natAbs ≤ a.natAbs := by
  have hb : b.natAbs ≠ 1 := by
    intro hb
    rw [← Int.natAbs_ne_zero, Int.natAbs_tmod, hb, Nat.mod_one] at h
    exact h rfl
  rcases Nat.lt_or_gt_of_ne hb with hzero | hlarge
  · have : b = 0 := by omega
    subst this
    simp
  · rw [Int.natAbs_tdiv]
    calc 2 * (a.natAbs / b.natAbs) ≤ b.natAbs * (a.natAbs / b.natAbs) :=
          Nat.mul_le_mul_right _ hlarge
      _ ≤ a.natAbs := Nat.mul_div_le ..

/-- A quotient that rounds down fits where the one that rounds toward zero does. -/
theorem int64?_fdiv {a b : Int64} (hb : b.toInt ≠ 0) :
    (Value.int64? (a.toInt.fdiv b.toInt)).isSome ↔
      (Value.int64? (a.toInt.tdiv b.toInt)).isSome := by
  have ha := toInt_bounds a
  rw [fdiv_eq_ite hb]
  split_ifs with h
  · -- there is a remainder, so both quotients fit
    have hhalf := two_mul_natAbs_tdiv_le h.1
    have hfits : ∀ i : Int, 2 * i.natAbs ≤ a.toInt.natAbs + 2 → (Value.int64? i).isSome := by
      intro i hi
      obtain ⟨n, hn, -⟩ := Access.number_fits (i := i) (by omega) (by omega)
      rw [Value.int64?_eq_some.mpr hn]
      rfl
    exact iff_of_true (hfits _ (by omega)) (hfits _ (by omega))
  · rfl

theorem fdiv_none {a b : Int64} (hb : b.toInt ≠ 0)
    (h : Value.int64? (a.toInt.tdiv b.toInt) = none) :
    Value.int64? (a.toInt.fdiv b.toInt) = none := by
  have hfits := int64?_fdiv (a := a) hb
  rw [h] at hfits
  exact Option.not_isSome_iff_eq_none.mp fun hsome => Bool.false_ne_true (hfits.mp hsome)

theorem fdiv_some {a b q : Int64} (hb : b.toInt ≠ 0)
    (h : Value.int64? (a.toInt.tdiv b.toInt) = some q) :
    ∃ n, Value.int64? (a.toInt.fdiv b.toInt) = some n := by
  have hfits := int64?_fdiv (a := a) hb
  rw [h] at hfits
  exact Option.isSome_iff_exists.mp (hfits.mpr rfl)

/-! ### Operators -/

namespace Checked

/-- The sum, if it is a number. -/
def add? (a b : Int64) : Option Int64 := Value.int64? (a.toInt + b.toInt)

/-- The difference, if it is a number. -/
def sub? (a b : Int64) : Option Int64 := Value.int64? (a.toInt - b.toInt)

/-- The product, if it is a number. -/
def mul? (a b : Int64) : Option Int64 := Value.int64? (a.toInt * b.toInt)

/-- The number with the other sign, if it is a number. -/
def neg? (a : Int64) : Option Int64 := Value.int64? (-a.toInt)

/-- The quotient, rounded toward zero, if there is one and it is a number. -/
def div? (a b : Int64) : Option Int64 :=
  if b = 0 then none else Value.int64? (a.toInt.tdiv b.toInt)

/-- The remainder of such a division. There is none where there is no quotient. -/
def rem? (a b : Int64) : Option Int64 :=
  (div? a b).bind fun _ => Value.int64? (a.toInt.tmod b.toInt)

/-- A quotient, rounded down: the quotient rounded toward zero is one too great if the signs differ
and the division leaves a remainder. -/
def floorDiv (a b : Int64) : Except Trap (Option Int64) :=
  match div? a b with
  | none => .ok none
  | some q => do
    if (← Access.rem a b) ≠ 0 ∧ (decide (a < 0) ≠ decide (b < 0)) then return some (← Access.sub q 1)
    else return some q

/-- A remainder with the sign of the divisor. -/
def floorMod (a b : Int64) : Except Trap (Option Int64) :=
  match rem? a b with
  | none => .ok none
  | some r => do
    if r ≠ 0 ∧ (decide (r < 0) ≠ decide (b < 0)) then return some (← Access.add r b)
    else return some r

/-- An operator between two numbers. -/
def arith (op : BinaryOp) (a b : Int64) : Checked Fault Int64 := do
  if (op = .floorDiv ∨ op = .mod) ∧ b = 0 then throw .divisionByZero
  let result ← match op with
    | .add => pure (add? a b)
    | .sub => pure (sub? a b)
    | .mul => pure (mul? a b)
    | .floorDiv => access (floorDiv a b)
    | .mod => access (floorMod a b)
  match result with
  | some n => return n
  | none => throw .overflow

end Checked

section Division

variable {a b : Int64}

theorem toInt_eq_zero : a.toInt = 0 ↔ a = 0 := by
  rw [← Int64.toInt_inj, Int64.toInt_zero]

theorem toInt_ne_zero : a.toInt ≠ 0 ↔ a ≠ 0 := not_congr toInt_eq_zero

theorem signs_differ :
    decide (a < 0) ≠ decide (b < 0) ↔ (a.toInt < 0 ↔ ¬b.toInt < 0) := by
  rw [Ne, decide_eq_decide, Int64.lt_iff_toInt_lt, Int64.lt_iff_toInt_lt, Int64.toInt_zero]
  tauto

/-- A remainder is a number, since it is no greater than the dividend and less than the divisor. -/
theorem exists_tmod (hb : b ≠ 0) : ∃ r : Int64, r.toInt = a.toInt.tmod b.toInt := by
  have ha := toInt_bounds a
  have hbounds := toInt_bounds b
  have hmod := Int.natAbs_tmod a.toInt b.toInt
  have hle := Nat.mod_le a.toInt.natAbs b.toInt.natAbs
  have hlt := Nat.mod_lt a.toInt.natAbs (Int.natAbs_pos.mpr (toInt_ne_zero.mpr hb))
  obtain ⟨r, hr, -⟩ := Access.number_fits (i := a.toInt.tmod b.toInt) (by omega) (by omega)
  exact ⟨r, hr⟩

namespace Checked

/-- **The correction of a quotient does not wrap.** -/
theorem floorDiv_ok (hb : b ≠ 0) :
    floorDiv a b = .ok (Value.int64? (a.toInt.fdiv b.toInt)) := by
  have hbInt := toInt_ne_zero.mpr hb
  rw [floorDiv, div?, if_neg hb]
  cases hq : Value.int64? (a.toInt.tdiv b.toInt) with
  | none => rw [fdiv_none hbInt hq]
  | some q =>
    have hqt := Value.int64?_eq_some.mp hq
    obtain ⟨r, hr⟩ := exists_tmod (a := a) hb
    have hrem : Access.rem a b = .ok r := by
      rw [Access.rem, if_neg hb, Access.number_ok hqt, Access.number_ok hr]
      rfl
    -- the corrected quotient is the one that rounds down, which is known to be a number
    obtain ⟨n, hn⟩ := fdiv_some hbInt hq
    have hnt := Value.int64?_eq_some.mp hn
    rw [fdiv_eq_ite hbInt] at hnt
    dsimp only
    rw [hrem, hn]
    dsimp only [bind, Except.bind]
    by_cases hc : r ≠ 0 ∧ decide (a < 0) ≠ decide (b < 0)
    · rw [if_pos ⟨by rw [← hr]; exact toInt_ne_zero.mpr hc.1, signs_differ.mp hc.2⟩] at hnt
      have hsub : Access.sub q 1 = .ok n := Access.number_ok (by rw [hnt, hqt]; rfl)
      rw [if_pos hc, hsub]
      rfl
    · rw [if_neg fun h => hc ⟨toInt_ne_zero.mp (by rw [hr]; exact h.1), signs_differ.mpr h.2⟩]
        at hnt
      rw [if_neg hc, Int64.toInt_inj.mp (hnt.trans hqt.symm)]
      rfl

/-- **The correction of a remainder does not wrap.** -/
theorem floorMod_ok (hb : b ≠ 0) :
    floorMod a b = .ok ((Value.int64? (a.toInt.fdiv b.toInt)).bind fun _ =>
      Value.int64? (a.toInt.fmod b.toInt)) := by
  have hbInt := toInt_ne_zero.mpr hb
  rw [floorMod, rem?, div?, if_neg hb]
  cases hq : Value.int64? (a.toInt.tdiv b.toInt) with
  | none => rw [fdiv_none hbInt hq]; rfl
  | some q =>
    obtain ⟨r, hr⟩ := exists_tmod (a := a) hb
    obtain ⟨n, hn⟩ := fdiv_some hbInt hq
    rw [hn, Option.bind_some, Option.bind_some, Value.int64?_eq_some.mpr hr, fmod_eq_ite hbInt, ← hr]
    dsimp only
    by_cases hc : r ≠ 0 ∧ decide (r < 0) ≠ decide (b < 0)
    · -- the summands have different signs
      have hsigns := signs_differ.mp hc.2
      have hrb := toInt_bounds r
      have hbb := toInt_bounds b
      obtain ⟨m, hm, hadd⟩ := Access.number_fits (i := r.toInt + b.toInt) (by omega) (by omega)
      rw [if_pos hc, if_pos ⟨toInt_ne_zero.mpr hc.1, hsigns⟩, Access.add, hadd,
        Value.int64?_eq_some.mpr hm]
      rfl
    · rw [if_neg hc, if_neg fun h => hc ⟨toInt_ne_zero.mp h.1, signs_differ.mpr h.2⟩,
        Value.int64?_eq_some.mpr rfl]
      rfl

/-- **Operators between numbers come to no trap.** -/
theorem arith_ok (op : BinaryOp) : arith op a b = of (Value.arith op a.toInt b.toInt) := by
  have hnarrow : ∀ i : Int, (match Value.int64? i with
      | some n => pure n
      | none => throw .overflow : Checked Fault Int64) = of (Value.narrow i) := by
    intro i
    rw [Value.narrow]
    cases Value.int64? i <;> rfl
  cases op with
  | add | sub | mul => exact hnarrow _
  -- the machine tests the divisor first, so that the division never traps on zero
  | floorDiv =>
    rw [Value.arith]
    by_cases hb : b = 0
    · rw [if_pos (toInt_eq_zero.mpr hb), arith, if_pos ⟨.inl rfl, hb⟩]
      rfl
    · rw [if_neg (toInt_ne_zero.mpr hb), arith, if_neg fun h => hb h.2, ← hnarrow, floorDiv_ok hb]
      rfl
  | mod =>
    rw [Value.arith]
    by_cases hb : b = 0
    · rw [if_pos (toInt_eq_zero.mpr hb), arith, if_pos ⟨.inr rfl, hb⟩]
      rfl
    · rw [if_neg (toInt_ne_zero.mpr hb), arith, if_neg fun h => hb h.2, floorMod_ok hb]
      simp only [Value.narrow]
      cases Value.int64? (a.toInt.fdiv b.toInt) with
      | none => rfl
      | some n => exact hnarrow _

end Checked

end Division

end Tilde

/-!
## Values

The accesses of operators, subscripts and format specs. A place is computed with the numbers of the
language, so the sum of a negative index and a length must be one; a text is repeated only after the
length of the result has been tested; and the padding on one side is never more than all of it.
-/

namespace Tilde.Checked

/-! ### Operators -/

/-- An operator in front of a value. -/
def unary (op : UnaryOp) (v : Value) : Checked Fault Value :=
  match op with
  | .not => return .bool !v.truthy
  | op =>
    match v.asInt? with
    | none => throw (.notNumber op v.type)
    | some i =>
      match op with
      | .neg =>
        match neg? i with
        | some n => return .int n
        | none => throw .overflow
      | _ => return .int (~~~i)

theorem narrow_not (i : Int64) : Value.narrow (-i.toInt - 1) = .ok (~~~i) := by
  have hi := toInt_bounds i
  have hnot : (~~~i).toInt = -i.toInt - 1 := by
    rw [Int64.toInt_not]
    exact Int.bmod_eq_of_le (by omega) (by omega)
  rw [Value.narrow, Value.int64?_eq_some.mpr hnot]

theorem unary_ok (op : UnaryOp) (v : Value) : unary op v = of (Value.unary op v) := by
  cases op with
  | not => rfl
  | neg =>
    simp only [unary, Value.unary, neg?, Value.narrow]
    cases v.asInt? with
    | none => rfl
    | some i =>
      dsimp only
      cases Value.int64? (-i.toInt) <;> rfl
  | invert =>
    simp only [unary, Value.unary]
    cases v.asInt? with
    | none => rfl
    | some i => simp only [narrow_not]; rfl

/-- A string repeated. -/
def repeatString (s : String) (n : Int64) : Checked Fault Value := do
  let count ← of (Value.copies s.utf8ByteSize n)
  return .str (← access (Access.repeated s count))

/-- What may be repeated is short. -/
theorem copies_le {length count : Nat} {n : Int64} (h : Value.copies length n = .ok count) :
    length * count ≤ Value.maxLength := by
  unfold Value.copies at h
  dsimp only at h
  split_ifs at h with hzero hle
  · rw [hzero, Nat.zero_mul]
    exact Nat.zero_le _
  · cases h
    exact hle

theorem repeatString_ok (s : String) (n : Int64) :
    repeatString s n = of (Value.repeatString s n) := by
  unfold repeatString Value.repeatString
  cases hcopies : Value.copies s.utf8ByteSize n with
  | error f => rfl
  | ok count =>
    have hle := copies_le hcopies
    have hrep : Access.repeated s count = .ok (Text.times s count) :=
      Access.repeated_ok (Nat.le_trans hle (by decide))
    rw [of_ok, pure_bind, hrep]
    rfl

/-- An operator between two values. -/
def binary (op : BinaryOp) (l r : Value) : Checked Fault Value :=
  match l.asInt?, r.asInt? with
  | some a, some b => Value.int <$> arith op a b
  | _, _ =>
    match op, l, r with
    | .mul, .str s, .int n | .mul, .int n, .str s => repeatString s n
    | op, l, r => of (Value.binary op l r)

theorem binary_ok (op : BinaryOp) (l r : Value) : binary op l r = of (Value.binary op l r) := by
  unfold binary
  split
  · next a b ha hb =>
    unfold Value.binary
    rw [arith_ok, of_map, ha, hb]
  · split
    · exact repeatString_ok _ _
    · exact repeatString_ok _ _
    · rfl

/-! ### Subscripts -/

/-- Where an index points: a negative one counts from the end. -/
def place (length i : Int64) : Except Trap Int64 :=
  if i < 0 then Access.add i length else .ok i

/-- The item at an index, if the index points into the sequence. -/
def pick {α : Type} (xs : List α) (i : Int64) : Except Trap (Option α) :=
  match Value.int64? xs.length with
  | none => .ok none
  | some length => do
    let i ← place length i
    if 0 ≤ i ∧ i < length then return some (← Access.item xs i.toInt.toNat) else return none

/-- The item at an index. -/
def itemAt (v index : Value) : Checked Fault Value := do
  match index.asInt? with
  | none => throw (.notIndex index.type)
  | some i =>
    match v with
    | .str s =>
      match ← access (pick s.toList i) with
      | some c => return .str (String.singleton c)
      | none => throw (.indexOutOfRange v.type)
    | .tuple items | .list items =>
      match ← access (pick items i) with
      | some item => return item
      | none => throw (.indexOutOfRange v.type)
    | v => throw (.notSubscriptable v.type)

/-- The sum of a negative number and a length does not wrap. -/
theorem place_ok {length : Int64} (i : Int64) (hlength : 0 ≤ length.toInt) :
    ∃ j : Int64, place length i = .ok j
      ∧ j.toInt = if i.toInt < 0 then i.toInt + length.toInt else i.toInt := by
  have hi := toInt_bounds i
  have hbounds := toInt_bounds length
  unfold place
  by_cases hneg : i < 0
  · have hneg' : i.toInt < 0 := Int64.lt_iff_toInt_lt.mp hneg
    obtain ⟨j, hj, hadd⟩ := Access.number_fits (i := i.toInt + length.toInt) (by omega) (by omega)
    exact ⟨j, by rw [if_pos hneg, Access.add, hadd], by rw [hj, if_pos hneg']⟩
  · have hneg' : ¬i.toInt < 0 := fun h => hneg (Int64.lt_iff_toInt_lt.mpr h)
    exact ⟨i, if_neg hneg, (if_neg hneg').symm⟩

/-- **An item is read in range.** -/
theorem pick_ok {α : Type} (xs : List α) (i : Int64) :
    pick xs i = .ok ((Value.place? xs.length i.toInt).bind (xs[·]?)) := by
  have hmax : Int64.maxValue.toInt = 2 ^ 63 - 1 := Int64.toInt_maxValue
  unfold pick Value.place?
  dsimp only
  cases hlength : Value.int64? (xs.length : Int) with
  | none =>
    have hlarge := Value.int64?_eq_none.mp hlength
    rw [if_neg (by omega)]
    rfl
  | some length =>
    have htoInt := Value.int64?_eq_some.mp hlength
    have hbounds := toInt_bounds length
    obtain ⟨j, hj, hjInt⟩ := place_ok i (show 0 ≤ length.toInt by omega)
    rw [htoInt] at hjInt
    dsimp only
    rw [hj, ← hjInt]
    dsimp only [bind, Except.bind]
    -- the test on numbers of 64 bits says the same as the one on integers
    have hrange : (0 ≤ j ∧ j < length)
        ↔ 0 ≤ j.toInt ∧ j.toInt < xs.length ∧ xs.length ≤ Int64.maxValue.toInt := by
      rw [Int64.le_iff_toInt_le, Int64.lt_iff_toInt_lt, Int64.toInt_zero, htoInt]
      omega
    by_cases hin : 0 ≤ j ∧ j < length
    · have hin' := hrange.mp hin
      have hlt : j.toInt.toNat < xs.length := by omega
      rw [if_pos hin, if_pos hin', Access.item_ok (List.getElem?_eq_getElem hlt), Option.bind_some,
        List.getElem?_eq_getElem hlt]
      rfl
    · rw [if_neg hin, if_neg (mt hrange.mpr hin)]
      rfl

theorem itemAt_ok (v index : Value) : itemAt v index = of (v.itemAt index) := by
  unfold itemAt Value.itemAt
  cases index.asInt? with
  | none => rfl
  | some i =>
    cases v with
    | str s =>
      dsimp only
      rw [pick_ok, List.length_map, access_ok, pure_bind]
      cases Value.place? s.toList.length i.toInt with
      | none => rfl
      | some k =>
        rw [Option.bind_some, Option.bind_some, List.getElem?_map]
        cases s.toList[k]? <;> rfl
    | tuple items | list items =>
      dsimp only
      rw [pick_ok, access_ok, pure_bind]
      cases (Value.place? items.length i.toInt).bind (items[·]?) <;> rfl
    | _ => rfl

/-! ### Texts -/

mutual

/-- A value as it is written in a program. -/
def repr : Value → Except Trap String
  | .tuple items => do
    let texts ← reprs items
    if items.length = 1 then return "(" ++ (← Access.item texts 0) ++ ",)"
    else return "(" ++ ", ".intercalate texts ++ ")"
  | .list items => do return "[" ++ ", ".intercalate (← reprs items) ++ "]"
  | v => .ok v.repr

/-- Values as they are written in a program. -/
def reprs : List Value → Except Trap (List String)
  | [] => .ok []
  | v :: vs => do
    let text ← repr v
    return text :: (← reprs vs)

end

mutual

theorem repr_ok : ∀ v : Value, repr v = .ok v.repr
  | .none | .bool _ | .int _ | .str _ | .builtin _ | .method .. => rfl
  | .list items => by
    rw [repr, reprs_ok items]
    rfl
  | .tuple [v] => by
    rw [repr, reprs_ok [v]]
    rfl
  | .tuple [] => rfl
  | .tuple (v :: w :: vs) => by
    rw [repr, reprs_ok (v :: w :: vs)]
    rfl

theorem reprs_ok : ∀ vs : List Value, reprs vs = .ok (Value.reprs vs)
  | [] => rfl
  | v :: vs => by
    rw [reprs, repr_ok v, reprs_ok vs]
    rfl

end

/-- A value as text. -/
def text : Value → Except Trap String
  | .str s => .ok s
  | v => repr v

theorem text_ok (v : Value) : text v = .ok v.text := by
  cases v with
  | str s => rfl
  | _ => exact repr_ok _

/-! ### Format specs -/

/-- The number of fill characters before and after a text. A text that is wider than the width has
none. -/
def padding (align : Value.Align) (length width : Nat) : Except Trap (Nat × Nat) :=
  let n := width - length
  match align with
  | .left => .ok (0, n)
  | .right => .ok (n, 0)
  | .center => do return (n / 2, ← Access.minus n (n / 2))

theorem padding_ok (align : Value.Align) (length width : Nat) :
    padding align length width = .ok (Value.padding align length width) := by
  cases align with
  | left | right => rfl
  | center => rw [padding, Access.minus_ok (Nat.div_le_self ..)]; rfl

/-- A value as text, formatted by a spec. -/
def format (v : Value) (spec : Option String) : Checked Fault String := do
  let text ← access (text v)
  match spec with
  | none => return text
  | some spec =>
    if spec.isEmpty then return text
    else
      match Value.Spec.read? spec.toList with
      | none => throw (.badFormat spec v.type)
      | some s =>
        match s.width? with
        | none => throw (.badWidth spec)
        | some width =>
          let (before, after) ← access (padding (s.align.getD v.side) text.length width)
          let front ← access (Access.repeated (String.singleton s.fill) before)
          let back ← access (Access.repeated (String.singleton s.fill) after)
          return front ++ text ++ back

/-- A width is no greater than a text may be. -/
theorem width_le {s : Value.Spec} {width : Nat} (h : s.width? = some width) :
    width ≤ Value.maxLength := by
  unfold Value.Spec.width? at h
  dsimp only at h
  split_ifs at h with _ hle
  cases h
  exact hle

theorem pushn_eq (s : String) (c : Char) (n : Nat) :
    s.pushn c n = s ++ Text.times (String.singleton c) n := by
  induction n with
  | zero => exact String.append_empty.symm
  | succ n ih =>
    have hpush : s.pushn c (n + 1) = (s.pushn c n).push c := rfl
    have htimes : Text.times (String.singleton c) (n + 1)
        = Text.times (String.singleton c) n ++ String.singleton c := rfl
    rw [hpush, htimes, ih, ← String.append_assoc, String.append_singleton]

/-- Fill characters may be repeated up to the greatest width. -/
theorem repeated_fill (c : Char) {n : Nat} (h : n ≤ Value.maxLength) :
    Access.repeated (String.singleton c) n = .ok (Text.times (String.singleton c) n) := by
  refine Access.repeated_ok ?_
  rw [String.utf8ByteSize_singleton]
  calc c.utf8Size * n ≤ 4 * Value.maxLength := Nat.mul_le_mul c.utf8Size_le_four h
    _ ≤ maxSize := by decide

theorem padding_le (align : Value.Align) (length width : Nat) :
    (Value.padding align length width).1 ≤ width ∧ (Value.padding align length width).2 ≤ width := by
  cases align <;> simp only [Value.padding] <;> omega

theorem format_ok (v : Value) (spec : Option String) : format v spec = of (v.format spec) := by
  unfold format Value.format
  rw [text_ok, access_ok, pure_bind]
  cases spec with
  | none => rfl
  | some spec =>
    dsimp only
    by_cases hempty : spec.isEmpty = true
    · rw [if_pos hempty, if_pos hempty]
      rfl
    · rw [if_neg hempty, if_neg hempty]
      cases Value.Spec.read? spec.toList with
      | none => rfl
      | some s =>
        dsimp only
        cases hwidth : s.width? with
        | none => rfl
        | some width =>
          have hle := width_le hwidth
          dsimp only
          obtain ⟨hfront, hback⟩ := padding_le (s.align.getD v.side) v.text.length width
          rw [padding_ok, access_ok, pure_bind, repeated_fill _ (Nat.le_trans hfront hle),
            repeated_fill _ (Nat.le_trans hback hle)]
          simp only [access_ok, pure_bind, pushn_eq, String.empty_append]
          rfl

end Tilde.Checked
