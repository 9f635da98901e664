import Tilde.Fault
import Tilde.Text.Pieces

/-!
# Operators on values

Numbers have 64 bits; a result that does not fit is a fault. Division rounds down, so that a
remainder has the sign of the divisor. Each operation is carried out on unbounded integers and
narrowed at the end.
-/

namespace Tilde.Value

/-- An integer as a number of the language. -/
def narrow (i : Int) : Except Fault Int64 :=
  match int64? i with
  | some n => .ok n
  | .none => .error .overflow

/-- An operator in front of a value. -/
def unary (op : UnaryOp) (v : Value) : Except Fault Value :=
  match op with
  | .not => .ok (.bool !v.truthy)
  | op =>
    match v.asInt? with
    | .none => .error (.notNumber op v.type)
    | some i =>
      match op with
      | .neg => (narrow (-i.toInt)).map .int
      | _ => (narrow (-i.toInt - 1)).map .int

/-- An operator between two numbers. A remainder is refused with its quotient, so the remainder of
the least number by minus one is an overflow. -/
def arith (op : BinaryOp) (a b : Int) : Except Fault Int64 :=
  match op with
  | .add => narrow (a + b)
  | .sub => narrow (a - b)
  | .mul => narrow (a * b)
  | .floorDiv => if b = 0 then .error .divisionByZero else narrow (a.fdiv b)
  | .mod =>
    if b = 0 then .error .divisionByZero
    else do
      let _ ← narrow (a.fdiv b)
      narrow (a.fmod b)

/-- The greatest length that repeating or padding may reach, the 28th power of two. -/
def maxLength : Nat := 268435456

/-- How many copies of something `length` long a repetition makes. -/
def copies (length : Nat) (n : Int64) : Except Fault Nat :=
  let count := n.toInt.toNat
  if length = 0 then .ok 0
  else if length * count ≤ maxLength then .ok count
  else .error .tooLarge

/-- A string repeated. Its length counts in bytes. -/
def repeatString (s : String) (n : Int64) : Except Fault Value :=
  (copies s.utf8ByteSize n).map fun count => .str (Text.times s count)

/-- The items of a list repeated. -/
def repeatItems (items : List Value) (n : Int64) : Except Fault Value :=
  (copies items.length n).map fun count => .list (List.replicate count items).flatten

/-- An operator between two values. -/
def binary (op : BinaryOp) (l r : Value) : Except Fault Value :=
  match l.asInt?, r.asInt? with
  | some a, some b => (arith op a.toInt b.toInt).map .int
  | _, _ =>
    match op, l, r with
    | .add, .str a, .str b => .ok (.str (a ++ b))
    | .add, .list a, .list b => .ok (.list (a ++ b))
    | .add, .tuple a, .tuple b => .ok (.tuple (a ++ b))
    | .mul, .str s, .int n | .mul, .int n, .str s => repeatString s n
    | .mul, .list items, .int n | .mul, .int n, .list items => repeatItems items n
    | op, l, r => .error (.unsupported op l.type r.type)

/-- Whether a value holds an item: a string its substrings, a sequence what equals one of its
items. -/
def holds (container item : Value) : Except Fault Bool :=
  match container, item with
  | .str s, .str part => .ok (Text.contains part.toList s.toList)
  | .str _, item => .error (.notSubstring item.type)
  | .tuple items, item | .list items, item => .ok (items.any (·.equal item))
  | container, _ => .error (.notContainer container.type)

/-- The order of two values. Strings are ordered by their characters. -/
def order (l r : Value) : Except Fault Ordering :=
  match l, r with
  | .str a, .str b => .ok (compareOfLessAndEq a b)
  | l, r =>
    match l.asInt?, r.asInt? with
    | some a, some b => .ok (compare a.toInt b.toInt)
    | _, _ => .error (.notComparable l.type r.type)

/-- A comparison of two values. -/
def compared (op : Comparison) (l r : Value) : Except Fault Bool :=
  match op with
  | .eq => .ok (l.equal r)
  | .ne => .ok !(l.equal r)
  | .isIn => r.holds l
  | .notIn => (r.holds l).map (!·)
  | .lt => (l.order r).map (·.isLT)
  | .le => (l.order r).map (·.isLE)
  | .gt => (l.order r).map (·.isGT)
  | .ge => (l.order r).map (·.isGE)

/-- The place that an index means in a sequence: a negative one counts from the end. A sequence whose
length is no number of the language has no places. -/
def place? (length : Nat) (index : Int) : Option Nat :=
  let i := if index < 0 then index + length else index
  if 0 ≤ i ∧ i < length ∧ length ≤ Int64.maxValue.toInt then some i.toNat else .none

/-- The item at an index. -/
def itemAt (v index : Value) : Except Fault Value :=
  match index.asInt? with
  | .none => .error (.notIndex index.type)
  | some i =>
    let pick (items : List Value) : Except Fault Value :=
      match (place? items.length i.toInt).bind (items[·]?) with
      | some item => .ok item
      | .none => .error (.indexOutOfRange v.type)
    match v with
    | .str s => pick (s.toList.map fun c => .str (String.singleton c))
    | .tuple items | .list items => pick items
    | v => .error (.notSubscriptable v.type)

end Tilde.Value
