import Tilde.Proofs.Effects
import Tilde.Text.Pieces
import Tilde.Value

/-!
# Accesses that can go wrong

A machine reads sequences at places, cuts them, and takes differences of lengths, and its numbers
have 64 bits. None of this is possible for all operands. Where it is not, the machine stops the
program (`Trap`), which is neither a value nor a fault that the program could handle.

What the rest of this directory shows is that no program comes to a trap. Each function that has such
an access is given once more, with its accesses as the machine carries them out (`Checked`), and is
proved to be the function without traps. Where a function changes a state, it is free of traps if from
every state it comes to the result and the state of the function without traps (`Untrapped`). This
composes, so it remains to be shown for the single acts of a program.
-/

namespace Tilde

/-- Why the machine stops a program. -/
inductive Trap where
  /-- A sequence is read, removed from, or cut at a place that it does not have. -/
  | outOfRange
  /-- A difference of lengths is negative. -/
  | negativeLength
  /-- A result is no number of 64 bits, or there is none, since the divisor is zero. -/
  | overflow
  /-- A text is longer than a length can say. -/
  | tooLong
  deriving DecidableEq, Repr

/-- The greatest length that the machine knows. -/
def maxSize : Nat := 18446744073709551615

/-! ## Single accesses -/

namespace Access

variable {α : Type}

/-- Reads the item at a place. -/
def item (xs : List α) (i : Nat) : Except Trap α :=
  match xs[i]? with
  | some x => .ok x
  | none => .error .outOfRange

/-- Takes the item at a place out of the others. -/
def remove (xs : List α) (i : Nat) : Except Trap (α × List α) :=
  (item xs i).map fun x => (x, xs.eraseIdx i)

/-- Cuts a sequence in two, at a place of it or at its end. -/
def cut (xs : List α) (i : Nat) : Except Trap (List α × List α) :=
  if i ≤ xs.length then .ok (xs.splitAt i) else .error .outOfRange

/-- A difference of lengths. -/
def minus (a b : Nat) : Except Trap Nat := if b ≤ a then .ok (a - b) else .error .negativeLength

/-- The result of an operation on numbers. -/
def number (i : Int) : Except Trap Int64 :=
  match Value.int64? i with
  | some n => .ok n
  | none => .error .overflow

def add (a b : Int64) : Except Trap Int64 := number (a.toInt + b.toInt)

def sub (a b : Int64) : Except Trap Int64 := number (a.toInt - b.toInt)

/-- The remainder of a division that rounds toward zero. It is refused with its quotient. -/
def rem (a b : Int64) : Except Trap Int64 :=
  if b = 0 then .error .overflow
  else (number (a.toInt.tdiv b.toInt)).bind fun _ => number (a.toInt.tmod b.toInt)

/-- A text that many times over. -/
def repeated (s : String) (n : Nat) : Except Trap String :=
  if s.utf8ByteSize * n ≤ maxSize then .ok (Text.times s n) else .error .tooLong

variable {xs : List α} {i : Nat}

theorem item_ok {x : α} (h : xs[i]? = some x) : item xs i = .ok x := by
  rw [item, h]

theorem remove_ok {x : α} (h : xs[i]? = some x) : remove xs i = .ok (x, xs.eraseIdx i) := by
  rw [remove, item_ok h]
  rfl

theorem cut_ok (h : i ≤ xs.length) : cut xs i = .ok (xs.take i, xs.drop i) := by
  rw [cut, if_pos h, List.splitAt_eq]

theorem minus_ok {a b : Nat} (h : b ≤ a) : minus a b = .ok (a - b) := if_pos h

theorem repeated_ok {s : String} {n : Nat} (h : s.utf8ByteSize * n ≤ maxSize) :
    repeated s n = .ok (Text.times s n) := if_pos h

example : cut [0, 1] 3 = .error .outOfRange := rfl

example : rem Int64.minValue (-1) = .error .overflow := rfl

end Access

/-! ## Work in steps -/

/-- Work of the machine that may end with a fault of the program, and that stops at a trap. -/
abbrev Checked (ε : Type) := ExceptT ε (Except Trap)

namespace Checked

variable {ε α β : Type}

/-- Work with the given result that needs no access. -/
def of (x : Except ε α) : Checked ε α := ExceptT.mk (.ok x)

/-- Work that is a single access. -/
def access (x : Except Trap α) : Checked ε α := ExceptT.mk (x.map .ok)

theorem of_ok (a : α) : (of (.ok a) : Checked ε α) = pure a := rfl

theorem access_ok (a : α) : (access (.ok a) : Checked ε α) = pure a := rfl

/-- A step, and one that has no trap after the result of the first. -/
theorem bind_of {x : Except ε α} {f : α → Checked ε β} {g : α → Except ε β}
    (h : ∀ a, x = .ok a → f a = of (g a)) : of x >>= f = of (x >>= g) := by
  cases x with
  | error e => rfl
  | ok a => exact h a rfl

theorem of_map (x : Except ε α) (f : α → β) : (f <$> of x) = of (x.map f) := by
  cases x <;> rfl

end Checked

/-! ## Work on a state -/

/-- Work on states of type `σ` that may stop early, and that stops at a trap. -/
abbrev CheckedM (ε σ : Type) := ExceptT ε (StateT σ (Except Trap))

variable {ε σ α β : Type}

/-- A step without accesses. -/
def CheckedM.plain (x : ExceptT ε (StateM σ) α) : CheckedM ε σ α := fun s => .ok (x s)

/-- A step that is a single access. -/
def CheckedM.access (x : Except Trap α) : CheckedM ε σ α := fun s => x.map fun a => (.ok a, s)

theorem CheckedM.access_ok (a : α) : (access (.ok a) : CheckedM ε σ α) = pure a := rfl

/-- The first step carries out the second one, without a trap. -/
def Untrapped (x : CheckedM ε σ α) (y : ExceptT ε (StateM σ) α) : Prop := ∀ s, x s = .ok (y s)

namespace Untrapped

theorem plain (x : ExceptT ε (StateM σ) α) : Untrapped (.plain x) x := fun _ => rfl

theorem pure (a : α) : Untrapped (pure a : CheckedM ε σ α) (pure a) := fun _ => rfl

theorem throw (e : ε) : Untrapped (throw e : CheckedM ε σ α) (throw e) := fun _ => rfl

theorem bind {x : CheckedM ε σ α} {y : ExceptT ε (StateM σ) α} {f : α → CheckedM ε σ β}
    {g : α → ExceptT ε (StateM σ) β} (hx : Untrapped x y) (hf : ∀ a, Untrapped (f a) (g a)) :
    Untrapped (x >>= f) (y >>= g) := by
  intro s
  have hs := hx s
  simp only [Bind.bind, ExceptT.bind, ExceptT.mk, StateT.bind, hs]
  rcases y s with ⟨e | a, s'⟩
  · rfl
  · exact hf a s'

theorem guarded {x : CheckedM ε σ α} {y : ExceptT ε (StateM σ) α} {f : ε → CheckedM ε σ α}
    {g : ε → ExceptT ε (StateM σ) α} (hx : Untrapped x y) (hf : ∀ e, Untrapped (f e) (g e)) :
    Untrapped (tryCatch x f) (tryCatch y g) := by
  intro s
  have hs := hx s
  simp only [tryCatch, tryCatchThe, MonadExceptOf.tryCatch, ExceptT.tryCatch, ExceptT.mk,
    Bind.bind, StateT.bind, hs]
  rcases y s with ⟨e | a, s'⟩
  · exact hf e s'
  · rfl

end Untrapped

/-! ## Evaluation -/

variable {ω : Type}

/-- Work without effects, as a step of an evaluation. -/
def CheckedM.ofChecked (x : Checked Fault α) : CheckedM Stop (Outside ω) α := fun outside =>
  x.run.map fun r => (r.mapError .fault, outside)

theorem Untrapped.ofChecked {x : Checked Fault α} {y : Except Fault α} (h : x = .of y) :
    Untrapped (.ofChecked x) (EvalM.ofExcept y : EvalM ω α) := by
  subst h
  intro outside
  cases y <;> rfl

end Tilde
