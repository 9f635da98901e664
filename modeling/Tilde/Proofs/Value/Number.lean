import Mathlib.Data.List.Nodup
import Mathlib.Data.Rat.Floor
import Tilde.Proofs.Traps.Call

/-!
# Arithmetic on numbers of 64 bits

Operators between numbers have the result of exact arithmetic wherever it has 64 bits, and refuse
the others as an overflow. A division rounds down. It is refused for one pair of numbers, and so is
its remainder, which would be zero.

A machine has no exact arithmetic. It divides toward zero and corrects the quotient by one, or the
remainder by the divisor, where the signs differ; and it counts a range up by adding the step, until
the sum is past the end or is no number. That these are the same results, and that a correction
never leaves the 64 bits, is what `Checked` gives, and the theorems here say it along with the
results.
-/

namespace Tilde.Value

/-- The integer is a number of the language. -/
def Fits (i : Int) : Prop := Int64.minValue.toInt ≤ i ∧ i ≤ Int64.maxValue.toInt

/-- An operation that has the integer for its result where it is a number, and is refused as an
overflow where it is none. -/
def Narrows (result : Except Fault Value) (i : Int) : Prop :=
  (Fits i → ∃ n : Int64, n.toInt = i ∧ result = .ok (.int n))
    ∧ (¬Fits i → result = .error .overflow)

theorem fits_iff {i : Int} : Fits i ↔ -0x8000000000000000 ≤ i ∧ i < 0x8000000000000000 := by
  have hmin : Int64.minValue.toInt = -0x8000000000000000 := rfl
  have hmax : Int64.maxValue.toInt = 0x7fffffffffffffff := rfl
  rw [Fits, hmin, hmax]
  omega

theorem fits_toInt (n : Int64) : Fits n.toInt := fits_iff.mpr (toInt_bounds n)

theorem fits_iff_exists {i : Int} : Fits i ↔ ∃ n : Int64, n.toInt = i := by
  constructor
  · intro h
    obtain ⟨n, hn, -⟩ := Access.number_fits (fits_iff.mp h).1 (fits_iff.mp h).2
    exact ⟨n, hn⟩
  · rintro ⟨n, rfl⟩
    exact fits_toInt n

theorem narrow_fits {n : Int64} {i : Int} (h : n.toInt = i) : narrow i = .ok n := by
  rw [narrow, int64?_eq_some.mpr h]

theorem narrow_overflow {i : Int} (h : ¬Fits i) : narrow i = .error .overflow := by
  rw [fits_iff] at h
  rw [narrow, int64?_eq_none.mpr (by omega)]

theorem narrows_narrow (i : Int) : Narrows ((narrow i).map .int) i := by
  refine ⟨fun h => ?_, fun h => by rw [narrow_overflow h]; rfl⟩
  obtain ⟨n, hn⟩ := fits_iff_exists.mp h
  exact ⟨n, hn, by rw [narrow_fits hn]; rfl⟩

/-! ## Division -/

/-- Rounding down is the floor of the quotient of rational numbers. -/
theorem floor_div_eq_fdiv {i j : Int} (hj : j ≠ 0) : ⌊(i : ℚ) / j⌋ = i.fdiv j := by
  -- a negative divisor has its sign moved to the dividend
  have hpos : ∀ i j : Int, 0 < j → ⌊(i : ℚ) / j⌋ = i.fdiv j := by
    intro i j hj
    obtain ⟨d, rfl⟩ := Int.eq_ofNat_of_zero_le (Int.le_of_lt hj)
    rw [Int.fdiv_eq_ediv_of_nonneg _ (Int.le_of_lt hj)]
    exact Rat.floor_intCast_div_natCast i d
  rcases Int.lt_or_gt_of_ne hj with hneg | hj
  · have hquotient := hpos (-i) (-j) (by omega)
    rw [Int.neg_fdiv_neg, Int.cast_neg, Int.cast_neg, neg_div_neg_eq] at hquotient
    exact hquotient
  · exact hpos i j hj

/-- A remainder has the sign of the divisor, and is nearer to zero. -/
theorem fmod_bounds (i : Int) {j : Int} :
    (0 < j → 0 ≤ i.fmod j ∧ i.fmod j < j) ∧ (j < 0 → j < i.fmod j ∧ i.fmod j ≤ 0) := by
  refine ⟨fun hj => ⟨Int.fmod_nonneg_of_pos i hj, Int.fmod_lt_of_pos i hj⟩, fun hj => ?_⟩
  have hnonneg := Int.fmod_nonneg_of_pos (-i) (Int.neg_pos_of_neg hj)
  have hlt := Int.fmod_lt_of_pos (-i) (Int.neg_pos_of_neg hj)
  rw [Int.neg_fmod_neg] at hnonneg hlt
  omega

variable {a b : Int64}

/-- A quotient of numbers is one, but for that of the least number and minus one. -/
theorem fits_fdiv (hb : b ≠ 0) :
    Fits (a.toInt.fdiv b.toInt) ↔ ¬(a = Int64.minValue ∧ b = -1) := by
  have hbInt := toInt_ne_zero.mpr hb
  have ha := toInt_bounds a
  have hmin : a = Int64.minValue ↔ a.toInt = -0x8000000000000000 := Int64.toInt_inj.symm
  have hminus : b = -1 ↔ b.toInt = -1 := Int64.toInt_inj.symm
  have hround : Fits (a.toInt.fdiv b.toInt) ↔ Fits (a.toInt.tdiv b.toInt) := by
    have hsome : ∀ i : Int, Fits i ↔ (int64? i).isSome := by
      intro i
      rw [fits_iff_exists, Option.isSome_iff_exists]
      exact exists_congr fun n => int64?_eq_some.symm
    rw [hsome, hsome]
    exact int64?_fdiv hbInt
  rw [hround, hmin, hminus, fits_iff]
  obtain hone | hmany : b.toInt.natAbs = 1 ∨ 2 ≤ b.toInt.natAbs := by omega
  · obtain hone | hone : b.toInt = 1 ∨ b.toInt = -1 := by omega
    · rw [hone, Int.tdiv_one]
      omega
    · rw [hone, Int.tdiv_neg, Int.tdiv_one]
      omega
  · -- any other divisor at least halves
    have hhalf : (a.toInt.tdiv b.toInt).natAbs ≤ a.toInt.natAbs / 2 := by
      rw [Int.natAbs_tdiv]
      exact Nat.div_le_div_left hmany (by decide)
    omega

/-- **No correction leaves the 64 bits.** There is one only where the division toward zero leaves a
remainder; then the quotient is far from both ends, and the remainder is corrected by a divisor of
the other sign. -/
theorem fits_correction {q n : Int64} (hq : Checked.div? a b = some q)
    (hn : Checked.rem? a b = some n) (hne : n ≠ 0) :
    Fits (q.toInt - 1) ∧ ((n < 0 ↔ ¬b < 0) → Fits (n.toInt + b.toInt)) := by
  have hb : b ≠ 0 := by
    rintro rfl
    cases hq
  rw [Checked.rem?, hq, Option.bind_some, int64?_eq_some] at hn
  rw [Checked.div?, if_neg hb, int64?_eq_some] at hq
  have ha := toInt_bounds a
  have hbb := toInt_bounds b
  have hnb := toInt_bounds n
  constructor
  · have hhalf := two_mul_natAbs_tdiv_le (hn ▸ toInt_ne_zero.mpr hne)
    exact fits_iff.mpr (by omega)
  · intro hsigns
    rw [Int64.lt_iff_toInt_lt, Int64.lt_iff_toInt_lt, Int64.toInt_zero] at hsigns
    exact fits_iff.mpr (by omega)

/-! ## Operators -/

variable {l r : Value}

/-- An operator between values that are numbers is one between these. -/
theorem binary_numbers (op : BinaryOp) (hl : l.asInt? = some a) (hr : r.asInt? = some b) :
    binary op l r = (arith op a.toInt b.toInt).map .int := by
  simp only [binary, hl, hr]

/-- What a division by a number other than zero comes to: a quotient that is rounded down, and the
remainder that it leaves. -/
structure FloorDivision (a b : Int64) (quotient remainder : Except Fault Value) : Prop where
  /-- The quotient is the exact one, rounded down. -/
  quotient_exact : Narrows quotient ⌊(a.toInt : ℚ) / b.toInt⌋
  /-- There is one pair of numbers whose quotient is none. -/
  quotient_overflow : quotient = .error .overflow ↔ a = Int64.minValue ∧ b = -1
  /-- Every other pair has a remainder. It belongs to the quotient that is rounded down, so it lies
  between zero and the divisor. -/
  remainder_exact : ¬(a = Int64.minValue ∧ b = -1) → ∃ n : Int64, remainder = .ok (.int n)
    ∧ n.toInt = a.toInt - b.toInt * ⌊(a.toInt : ℚ) / b.toInt⌋
    ∧ (0 < b.toInt → 0 ≤ n.toInt ∧ n.toInt < b.toInt)
    ∧ (b.toInt < 0 → b.toInt < n.toInt ∧ n.toInt ≤ 0)
  /-- This pair has none, although it would be zero. -/
  remainder_overflow : a = Int64.minValue ∧ b = -1 → remainder = .error .overflow
    ∧ a.toInt - b.toInt * ⌊(a.toInt : ℚ) / b.toInt⌋ = 0
  /-- The quotient and the remainder make up the dividend. -/
  whole : ∀ q n : Int64, quotient = .ok (.int q) → remainder = .ok (.int n) →
    q.toInt * b.toInt + n.toInt = a.toInt

theorem floorDivision (hl : l.asInt? = some a) (hr : r.asInt? = some b) (hb : b ≠ 0) :
    FloorDivision a b (binary .floorDiv l r) (binary .mod l r) := by
  have hbInt := toInt_ne_zero.mpr hb
  have hfits := fits_fdiv (a := a) hb
  have hquotient : binary .floorDiv l r = (narrow (a.toInt.fdiv b.toInt)).map .int := by
    rw [binary_numbers _ hl hr, arith, if_neg hbInt]
  -- the remainder is worked out after the quotient, which must be a number
  have hremainder : ∀ {q : Int64}, q.toInt = a.toInt.fdiv b.toInt →
      ∃ n : Int64, n.toInt = a.toInt.fmod b.toInt ∧ binary .mod l r = .ok (.int n) := by
    intro q hq
    have hbounds : -0x8000000000000000 ≤ a.toInt.fmod b.toInt
        ∧ a.toInt.fmod b.toInt < 0x8000000000000000 := by
      have hmod := fmod_bounds a.toInt (j := b.toInt)
      have hdivisor := toInt_bounds b
      omega
    obtain ⟨n, hn⟩ := fits_iff_exists.mp (fits_iff.mpr ⟨hbounds.1, hbounds.2⟩)
    refine ⟨n, hn, ?_⟩
    rw [binary_numbers _ hl hr, arith, if_neg hbInt, narrow_fits hq, narrow_fits hn]
    rfl
  have hrefused : ¬Fits (a.toInt.fdiv b.toInt) → binary .mod l r = .error .overflow := by
    intro h
    rw [binary_numbers _ hl hr, arith, if_neg hbInt, narrow_overflow h]
    rfl
  have hmod := Int.fmod_def a.toInt b.toInt
  constructor
  · rw [floor_div_eq_fdiv hbInt, hquotient]
    exact narrows_narrow _
  · rw [hquotient]
    by_cases h : Fits (a.toInt.fdiv b.toInt)
    · obtain ⟨q, hq⟩ := fits_iff_exists.mp h
      rw [narrow_fits hq]
      exact iff_of_false (by rintro ⟨⟩) (hfits.mp h)
    · rw [narrow_overflow h]
      exact iff_of_true rfl (Decidable.not_not.mp (mt hfits.mpr h))
  · intro h
    obtain ⟨q, hq⟩ := fits_iff_exists.mp (hfits.mpr h)
    obtain ⟨n, hn, hresult⟩ := hremainder hq
    rw [floor_div_eq_fdiv hbInt, ← hmod, ← hn]
    exact ⟨n, hresult, rfl, hn ▸ fmod_bounds a.toInt⟩
  · intro h
    refine ⟨hrefused fun hq => hfits.mp hq h, ?_⟩
    rw [floor_div_eq_fdiv hbInt, h.1, h.2]
    rfl
  · intro q n hq hn
    rw [hquotient] at hq
    by_cases h : Fits (a.toInt.fdiv b.toInt)
    · obtain ⟨q', hq'⟩ := fits_iff_exists.mp h
      obtain ⟨n', hn', hresult⟩ := hremainder hq'
      rw [narrow_fits hq'] at hq
      rw [hresult] at hn
      cases hq
      cases hn
      rw [hq', hn', hmod, Int.mul_comm]
      omega
    · rw [narrow_overflow h] at hq
      cases hq

/-- A division fails for want of a divisor if and only if that is zero. -/
theorem zeroDivision_iff (hl : l.asInt? = some a) (hr : r.asInt? = some b) {op : BinaryOp}
    (hop : op = .floorDiv ∨ op = .mod) :
    (∃ f, binary op l r = .error f ∧ f.kind = .zeroDivisionError) ↔ b = 0 := by
  constructor
  · rintro ⟨f, hf, hkind⟩
    by_contra hb
    have hdivision := floorDivision hl hr hb
    have hoverflow : binary op l r ≠ .error .overflow := by
      intro h
      rw [h] at hf
      cases hf
      cases hkind
    -- a division by another number is refused as an overflow or not at all
    rcases hop with rfl | rfl
    · by_cases h : Fits ⌊(a.toInt : ℚ) / b.toInt⌋
      · obtain ⟨n, -, hn⟩ := hdivision.quotient_exact.1 h
        rw [hn] at hf
        cases hf
      · exact hoverflow (hdivision.quotient_exact.2 h)
    · by_cases h : a = Int64.minValue ∧ b = -1
      · exact hoverflow (hdivision.remainder_overflow h).1
      · obtain ⟨n, hn, -⟩ := hdivision.remainder_exact h
        rw [hn] at hf
        cases hf
  · rintro rfl
    refine ⟨.divisionByZero, ?_, rfl⟩
    rw [binary_numbers _ hl hr]
    rcases hop with rfl | rfl <;> rfl

/--
**Arithmetic on numbers of 64 bits is exact.**

Take two values that are numbers, a boolean counting as zero or one. Sum, difference, product and
negation are those of integers, where they are numbers, and are refused as an overflow otherwise.
The complement of a number is always one. A division, for its quotient or for its remainder, fails
for want of a divisor if and only if that is zero; any other division rounds down (`FloorDivision`).

The machine, which has nothing but numbers of 64 bits, comes to the same results without a trap. So
what it subtracts from a quotient or adds to a remainder, to round down, gives a number again.
-/
theorem arithmetic_exact (hl : l.asInt? = some a) (hr : r.asInt? = some b) :
    Narrows (binary .add l r) (a.toInt + b.toInt)
      ∧ Narrows (binary .sub l r) (a.toInt - b.toInt)
      ∧ Narrows (binary .mul l r) (a.toInt * b.toInt)
      ∧ Narrows (unary .neg l) (-a.toInt)
      ∧ (∃ n : Int64, n.toInt = -a.toInt - 1 ∧ unary .invert l = .ok (.int n))
      ∧ (∀ op, op = .floorDiv ∨ op = .mod →
        ((∃ f, binary op l r = .error f ∧ f.kind = .zeroDivisionError) ↔ b = 0))
      ∧ (b ≠ 0 → FloorDivision a b (binary .floorDiv l r) (binary .mod l r))
      ∧ Fault.overflow.kind = .valueError
      ∧ (∀ op, Checked.binary op l r = .of (binary op l r))
      ∧ (∀ op, Checked.unary op l = .of (unary op l))
      ∧ ∀ q n : Int64, Checked.div? a b = some q → Checked.rem? a b = some n → n ≠ 0 →
        Fits (q.toInt - 1) ∧ ((n < 0 ↔ ¬b < 0) → Fits (n.toInt + b.toInt)) := by
  have hoperator : ∀ op i, arith op a.toInt b.toInt = narrow i → Narrows (binary op l r) i := by
    intro op i h
    rw [binary_numbers op hl hr, h]
    exact narrows_narrow i
  refine ⟨hoperator _ _ rfl, hoperator _ _ rfl, hoperator _ _ rfl, ?_, ?_,
    fun op => zeroDivision_iff hl hr, floorDivision hl hr, rfl, fun op => Checked.binary_ok op l r,
    fun op => Checked.unary_ok op l, fun q n => fits_correction⟩
  · simp only [unary, hl]
    exact narrows_narrow _
  · have ha := toInt_bounds a
    obtain ⟨hexact, -⟩ := narrows_narrow (-a.toInt - 1)
    simp only [unary, hl]
    exact hexact (fits_iff.mpr (by omega))

/-- The theorem at the one pair of numbers whose quotient is none. -/
theorem arithmetic_exact_of_least :
    let l := Value.int Int64.minValue
    let r := Value.int (-1)
    l.asInt? = some Int64.minValue ∧ r.asInt? = some (-1)
      ∧ binary .floorDiv l r = .error .overflow
      ∧ binary .mod l r = .error .overflow
      ∧ Narrows (binary .add l r) (Int64.minValue.toInt - 1)
      ∧ FloorDivision Int64.minValue (-1) (binary .floorDiv l r) (binary .mod l r) := by
  intro l r
  obtain ⟨hadd, -, -, -, -, -, hdivision, -⟩ :=
    arithmetic_exact (l := l) (r := r) (a := Int64.minValue) (b := -1) rfl rfl
  have h := hdivision (by decide)
  exact ⟨rfl, rfl, h.quotient_overflow.mpr ⟨rfl, rfl⟩, (h.remainder_overflow ⟨rfl, rfl⟩).1, hadd, h⟩

end Tilde.Value

/-! ## Ranges -/

namespace Tilde.Builtin

open Value

/-- The integer lies before the end of a range, in the direction of the step. -/
def Before (stop step i : Int) : Prop := (0 < step ∧ i < stop) ∨ (step < 0 ∧ stop < i)

/-- How many numbers of a progression come before its end, where the first is `d` away and each next
one `w` nearer. -/
theorem lt_count {d w : Int} (hw : 0 < w) (k : Nat) : k < ((d + w - 1) / w).toNat ↔ k * w < d := by
  rw [Int.lt_toNat, ← Int.add_one_le_iff, Int.le_ediv_iff_mul_le hw, Int.add_mul, Int.one_mul]
  omega

/-- **The numbers of a progression are all those before the end.** -/
theorem lt_length_progression {start stop step : Int} (hstep : step ≠ 0) (k : Nat) :
    k < (progression start stop step).length ↔ Before stop step (start + k * step) := by
  unfold progression Before
  dsimp only
  rw [List.length_map, List.length_range]
  rcases Int.lt_or_gt_of_ne hstep with hneg | hpos
  · have hcount : start - stop - step - 1 = start - stop + -step - 1 := by omega
    rw [if_neg (by omega), hcount, lt_count (by omega), Int.mul_neg]
    omega
  · rw [if_pos hpos, lt_count hpos]
    omega

theorem getElem_progression {start stop step : Int} {k : Nat}
    (h : k < (progression start stop step).length) :
    (progression start stop step)[k] = start + k * step := by
  simp [progression]

/-- What lies between two numbers is one. -/
theorem fits_progression {start stop step : Int64} {i : Int}
    (hi : i ∈ progression start.toInt stop.toInt step.toInt) (hstep : step.toInt ≠ 0) : Fits i := by
  obtain ⟨k, hk, rfl⟩ := List.getElem_of_mem hi
  have hbefore := (lt_length_progression hstep k).mp hk
  have hstart := toInt_bounds start
  have hstop := toInt_bounds stop
  rw [getElem_progression hk, fits_iff]
  rcases hbefore with ⟨hpos, hlt⟩ | ⟨hneg, hlt⟩
  · have := Int.mul_nonneg (Int.natCast_nonneg k) (Int.le_of_lt hpos)
    omega
  · have := Int.mul_nonneg (Int.natCast_nonneg k) (Int.neg_nonneg_of_nonpos (Int.le_of_lt hneg))
    rw [Int.mul_neg] at this
    omega

/-- A range of three numbers. -/
theorem rangeOf_three {u v w : Value} {start stop step : Int64} (hu : u.asInt? = some start)
    (hv : v.asInt? = some stop) (hw : w.asInt? = some step) :
    rangeOf ⟨[u, v, w], []⟩ =
      if step = 0 then .error .zeroStep else .ok (.list (Checked.rangeFrom start stop step)) := by
  have hnumbers : Checked.numbers [u, v, w] = .ok [start, stop, step] := by
    simp only [Checked.numbers, hu, hv, hw]
    rfl
  have hargs : (⟨[u, v, w], []⟩ : Args).between range.name 1 3 = .ok [u, v, w] := rfl
  rw [← Checked.rangeOf_ok, Checked.rangeOf, hargs]
  simp only [bind, Except.bind, hnumbers]
  rfl

/--
**A range is the arithmetic progression, in order and without bounds.**

A range of three numbers, the last of which is not zero, has the numbers `start + k * step` for
`k = 0, 1, 2, …`, each at its place, as long as these integers, of any size, are before the end in
the direction of the step. No two are alike. The machine comes to the same numbers by adding the step,
although it also ends where a sum has more than 64 bits. With a step of zero there is no range.
-/
theorem range_progression {ω : Type} (host : Host ω) {u v w : Value} {start stop step : Int64}
    (hu : u.asInt? = some start) (hv : v.asInt? = some stop) (hw : w.asInt? = some step) :
    (step = 0 → range.call host ⟨[u, v, w], []⟩ = .fail .zeroStep
        ∧ Fault.zeroStep.kind = .valueError)
      ∧ (step ≠ 0 → ∃ numbers : List Int64,
        range.call host ⟨[u, v, w], []⟩ = pure (.list (numbers.map .int))
          ∧ (∀ k : Nat, k < numbers.length ↔
            Before stop.toInt step.toInt (start.toInt + k * step.toInt))
          ∧ (∀ k (h : k < numbers.length), numbers[k].toInt = start.toInt + k * step.toInt)
          ∧ numbers.Nodup
          ∧ Checked.rangeFrom start stop step = numbers.map .int) := by
  have hcall : range.call host ⟨[u, v, w], []⟩ = .ofExcept (rangeOf ⟨[u, v, w], []⟩) := rfl
  rw [hcall, rangeOf_three hu hv hw]
  refine ⟨fun h => ⟨by rw [if_pos h]; rfl, rfl⟩, fun h => ?_⟩
  have hstep := toInt_ne_zero.mpr h
  have hfrom := Checked.rangeFrom_eq start stop h
  have hlength : ∀ k : Nat, k < (progression start.toInt stop.toInt step.toInt).length ↔
      Before stop.toInt step.toInt (start.toInt + k * step.toInt) := lt_length_progression hstep
  -- no number of the progression exceeds the bounds of the integers, so each is exact
  have hitem : ∀ k
      (hk : k < ((progression start.toInt stop.toInt step.toInt).map Int64.ofInt).length),
      ((progression start.toInt stop.toInt step.toInt).map Int64.ofInt)[k].toInt
        = start.toInt + k * step.toInt := by
    intro k hk
    rw [List.length_map] at hk
    have hfits := fits_iff.mp (fits_progression (List.getElem_mem hk) hstep)
    rw [getElem_progression hk] at hfits
    rw [List.getElem_map, getElem_progression hk]
    exact Int64.toInt_ofInt_of_le hfits.1 hfits.2
  rw [if_neg h, hfrom]
  refine ⟨(progression start.toInt stop.toInt step.toInt).map Int64.ofInt, ?_, ?_, hitem, ?_, ?_⟩
  · rw [List.map_map]
    rfl
  · rw [List.length_map]
    exact hlength
  · rw [List.nodup_iff_injective_getElem]
    rintro ⟨j, hj⟩ ⟨k, hk⟩ hjk
    have hinteger := congrArg Int64.toInt hjk
    simp only [hitem] at hinteger
    have hmul : (j : Int) * step.toInt = k * step.toInt := by omega
    have hsame := Int.eq_of_mul_eq_mul_right hstep hmul
    exact Fin.ext (Int.ofNat_inj.mp hsame)
  · rw [List.map_map]
    rfl

/-- The theorem at a range that ends where the sum is no number: of one and the greatest number. -/
theorem range_progression_of_overflow :
    let start := Value.bool true
    let stop := Value.int Int64.maxValue
    start.asInt? = some 1 ∧ stop.asInt? = some Int64.maxValue
      ∧ Checked.add? 1 Int64.maxValue = Option.none
      ∧ ∃ n : Int64, n.toInt = 1
        ∧ range.call Host.silent ⟨[start, stop, stop], []⟩ = pure (.list [.int n]) := by
  intro start stop
  have hstart : start.asInt? = some 1 := rfl
  have hstop : stop.asInt? = some Int64.maxValue := rfl
  obtain ⟨-, hrange⟩ := range_progression Host.silent hstart hstop hstop
  obtain ⟨numbers, hcall, hlength, hitem, -, -⟩ := hrange (by decide)
  refine ⟨hstart, hstop, rfl, ?_⟩
  have hfirst : 0 < numbers.length := (hlength 0).mpr (.inl (by decide))
  have hsecond : ¬1 < numbers.length := by
    intro h
    rcases (hlength 1).mp h with h | h
    · exact absurd h (by decide)
    · exact absurd h (by decide)
  have hone : numbers.length = 1 := by omega
  obtain ⟨n, rfl⟩ := List.length_eq_one_iff.mp hone
  exact ⟨n, (hitem 0 hfirst).trans (by decide), hcall⟩

end Tilde.Builtin
