import Tilde.Proofs.Value.Number
import Tilde.Value.Arith

/-!
# Strings, tuples and lists are sequences

A loop goes through the items of a sequence, `len` counts them, an index picks one, `in` looks for
one, a sum has those of both sides and a product has them over and over. Each of these is an
operation of its own: a string is counted in characters where it is indexed and in bytes where it is
repeated, and a tuple or a list in items. What they come to is said here of one list of items, the
one that a loop goes through (`IsSequence`).

A sequence is as long as a number can say, since none that is longer has room in a machine. Of a
longer one it is only said that no index is valid.
-/

namespace Tilde.Value

/-!
## Which values are equal

There are two comparisons. One looks for the same value: the same type, and the same in every part.
The other takes a boolean as the number that it counts as, and leaves every other pair to the first
one. An operator and a membership compare by the second one; the items of two sequences, at any
depth, are compared by the first one.

So what holds of items is not what holds of the sequences that they make up. Two sequences of one
type are equal if and only if they have the same length and equal items at every place, none of
which is a boolean against its number (`Mixed`). These pairs are the only ones on which the
comparisons differ.
-/

section Equality

mutual

/-- Values that are alike in every part are the same value. -/
theorem same_iff : ∀ a b : Value, same a b = true ↔ a = b
  | .none, b => by cases b <;> simp [same]
  | .bool _, b => by cases b <;> simp [same]
  | .int _, b => by cases b <;> simp [same]
  | .str _, b => by cases b <;> simp [same]
  | .tuple as, b => by cases b <;> simp [same, sameAll_iff as]
  | .list as, b => by cases b <;> simp [same, sameAll_iff as]
  | .builtin _, b => by cases b <;> simp [same]
  | .method _ _, b => by cases b <;> simp [same]

theorem sameAll_iff : ∀ as bs : List Value, sameAll as bs = true ↔ as = bs
  | [], bs => by cases bs <;> simp [sameAll]
  | a :: as, bs => by cases bs <;> simp [sameAll, same_iff a, sameAll_iff as]

end

variable {a b x y : Value} {xs ys : List Value}

/-- **Values are equal if they count as the same number, or are the same value.** -/
theorem equal_iff : a.equal b = true ↔ (∃ i, a.asInt? = some i ∧ b.asInt? = some i) ∨ a = b := by
  unfold equal
  split
  · next i j hi hj =>
    rw [beq_iff_eq, hi, hj]
    constructor
    · rintro rfl
      exact .inl ⟨i, rfl, rfl⟩
    · rintro (⟨k, hk, hk'⟩ | rfl)
      · exact (Option.some.inj hk).trans (Option.some.inj hk').symm
      · exact Option.some.inj (hi.symm.trans hj)
  · next hnumbers =>
    rw [same_iff]
    refine ⟨.inr, ?_⟩
    rintro (⟨i, hi, hi'⟩ | rfl)
    · exact absurd hi' (hnumbers i i hi)
    · rfl

theorem equal_refl (a : Value) : a.equal a = true := equal_iff.mpr (.inr rfl)

theorem equal_comm (a b : Value) : a.equal b = b.equal a := by
  rw [Bool.eq_iff_iff, equal_iff, equal_iff]
  exact or_congr (exists_congr fun i => and_comm) eq_comm

/-- One of the values is a boolean, and the other one is the number that it counts as. -/
def Mixed (a b : Value) : Prop :=
  ∃ (c : Bool) (i : Int64), (bool c).asInt? = some i
    ∧ ((a = .bool c ∧ b = .int i) ∨ (a = .int i ∧ b = .bool c))

theorem Mixed.equal (h : Mixed a b) : a.equal b = true := by
  obtain ⟨c, i, hi, ⟨rfl, rfl⟩ | ⟨rfl, rfl⟩⟩ := h
  · exact equal_iff.mpr (.inl ⟨i, hi, rfl⟩)
  · exact equal_iff.mpr (.inl ⟨i, rfl, hi⟩)

theorem Mixed.type_ne (h : Mixed a b) : a.type ≠ b.type := by
  obtain ⟨c, i, -, ⟨rfl, rfl⟩ | ⟨rfl, rfl⟩⟩ := h <;> rintro ⟨⟩

/-- **The comparisons differ on a boolean and its number, and on nothing else.** -/
theorem eq_iff_equal : a = b ↔ a.equal b = true ∧ ¬Mixed a b := by
  constructor
  · rintro rfl
    exact ⟨equal_refl a, fun h => h.type_ne rfl⟩
  · rintro ⟨hequal, hmixed⟩
    obtain ⟨i, ha, hb⟩ | h := equal_iff.mp hequal
    · cases a with
      | int k =>
        cases b with
        | int l => rw [Option.some.inj ha, Option.some.inj hb]
        | bool c => cases ha; exact absurd ⟨c, i, hb, .inr ⟨rfl, rfl⟩⟩ hmixed
        | _ => cases hb
      | bool c =>
        cases b with
        | int l => cases hb; exact absurd ⟨c, i, ha, .inl ⟨rfl, rfl⟩⟩ hmixed
        | bool d =>
          -- a boolean is told from the number that it counts as
          cases c <;> cases d <;> first | rfl | (cases ha; cases hb)
        | _ => cases hb
      | _ => cases ha
    · exact h

/-! ### Equal sequences -/

theorem compared_eq : compared .eq a b = .ok true ↔ a.equal b = true := by
  rw [compared, Except.ok.injEq]

variable {mk : List Value → Value}

/-- A sequence counts as no number, so two of one type are equal if they have the same items. -/
theorem equal_sequences (hmk : mk = .list ∨ mk = .tuple) :
    (mk xs).equal (mk ys) = true ↔ xs = ys := by
  rw [equal_iff]
  constructor
  · rcases hmk with rfl | rfl
    · rintro (⟨i, hi, -⟩ | h)
      · cases hi
      · exact list.inj h
    · rintro (⟨i, hi, -⟩ | h)
      · cases hi
      · exact tuple.inj h
  · rintro rfl
    exact .inr rfl

theorem holds_sequence (hmk : mk = .list ∨ mk = .tuple) :
    (mk xs).holds x = .ok (xs.any (·.equal x)) := by
  rcases hmk with rfl | rfl <;> rfl

/--
**Sequences are equal if their items are, and no boolean stands against its number.**

Two lists, or two tuples, are equal if and only if they have the same length, and at every place
items that are equal and are not a boolean and the number that it counts as. Such a boolean and its
number are equal, and the one is found in a sequence that holds the other. So of two values and the
sequences of them alone, the sequences are equal if and only if the values are and this is not the
case, while a value is held by the sequence of another exactly if the two are equal. The items may
be sequences again, of which the same is true.
-/
theorem sequences_equal_exact (hmk : mk = .list ∨ mk = .tuple) :
    (∀ xs ys : List Value, ∃ b, compared .eq (mk xs) (mk ys) = .ok b
        ∧ (b = true ↔ xs.length = ys.length
          ∧ ∀ (i : Nat) (hx : i < xs.length) (hy : i < ys.length),
            compared .eq xs[i] ys[i] = .ok true ∧ ¬Mixed xs[i] ys[i]))
      ∧ (∀ x y : Value, compared .eq (mk [x]) (mk [y]) = .ok true
          ↔ compared .eq x y = .ok true ∧ ¬Mixed x y)
      ∧ (∀ x y : Value, compared .isIn x (mk [y]) = compared .eq x y)
      ∧ ∀ x y : Value, Mixed x y → compared .eq x y = .ok true := by
  refine ⟨fun xs ys => ⟨_, rfl, ?_⟩, fun x y => ?_, fun x y => ?_, fun x y h => ?_⟩
  · simp only [compared_eq, ← eq_iff_equal]
    rw [equal_sequences hmk]
    exact List.ext_getElem_iff
  · rw [compared_eq, compared_eq, ← eq_iff_equal, equal_sequences hmk, List.singleton_inj]
  · change (mk [y]).holds x = .ok (x.equal y)
    rw [holds_sequence hmk, List.any_cons, List.any_nil, Bool.or_false, equal_comm]
  · exact compared_eq.mpr h.equal

/-- The theorem at a tuple with a boolean, and one with its number. -/
theorem sequences_equal_exact_of_mixed :
    (Value.tuple = .list ∨ Value.tuple = .tuple)
      ∧ compared .eq (.tuple [.bool true]) (.tuple [.int 1]) ≠ .ok true
      ∧ compared .eq (.bool true) (.int 1) = .ok true
      ∧ compared .isIn (.bool true) (.tuple [.int 1]) = compared .eq (.bool true) (.int 1) := by
  obtain ⟨-, halone, hmember, hmixed⟩ :=
    sequences_equal_exact (.inr rfl : Value.tuple = .list ∨ Value.tuple = .tuple)
  have h : Mixed (.bool true) (.int 1) := ⟨true, 1, rfl, .inl ⟨rfl, rfl⟩⟩
  exact ⟨.inr rfl, fun heq => ((halone _ _).mp heq).2 h, hmixed _ _ h, hmember _ _⟩

/-- Items that are equal do not make the sequences equal. -/
theorem sequences_not_always_equal_by_items :
    ¬∀ xs ys : List Value, compared .eq (.list xs) (.list ys) = .ok true
      ↔ xs.length = ys.length ∧ ∀ (i : Nat) (hx : i < xs.length) (hy : i < ys.length),
        compared .eq xs[i] ys[i] = .ok true := by
  intro h
  have hequal := (h [.bool true] [.int 1]).mpr ⟨rfl, fun i hx _ => by
    obtain rfl : i = 0 := by simpa using hx
    rfl⟩
  cases hequal

end Equality

variable {ω : Type} {v w index : Value} {items items' : List Value} {i : Int64}

/-! ## Lengths and indexes -/

theorem lengthOf_items (hv : v.items? = some items) :
    Builtin.lengthOf v = .ok (.int (Builtin.count items.length)) := by
  cases v with
  | str s =>
    cases hv
    rw [Builtin.lengthOf, List.length_map, String.length_toList]
  | tuple _ | list _ => cases hv; rfl
  | _ => cases hv

theorem toInt_count {n : Nat} (h : Fits n) : (Builtin.count n).toInt = n := by
  obtain ⟨k, hk⟩ := fits_iff_exists.mp h
  rw [Builtin.count, int64?_eq_some.mpr hk]
  exact hk

/-- The place of an index, where the length is a number. -/
theorem place?_eq_some {n k : Nat} {i : Int} (h : Fits n) :
    place? n i = some k ↔ k < n ∧ ((k : Int) = i ∨ (k : Int) = i + n) := by
  -- a place below such a length never fails for being too large
  have hmax : (n : Int) ≤ Int64.maxValue.toInt := h.2
  unfold place?
  dsimp only
  rw [Option.ite_none_right_eq_some, Option.some.injEq]
  by_cases hneg : i < 0
  · rw [if_pos hneg]
    omega
  · rw [if_neg hneg]
    omega

theorem place?_eq_none {n : Nat} {i : Int} (h : Fits n) :
    place? n i = Option.none ↔ ¬(-n ≤ i ∧ i < n) := by
  have hmax : (n : Int) ≤ Int64.maxValue.toInt := h.2
  unfold place?
  dsimp only
  simp only [ite_eq_right_iff, reduceCtorEq, imp_false]
  by_cases hneg : i < 0
  · rw [if_pos hneg]
    omega
  · rw [if_neg hneg]
    omega

theorem place?_long {n : Nat} (h : ¬Fits n) (i : Int) : place? n i = Option.none := by
  have hmax : ¬(n : Int) ≤ Int64.maxValue.toInt := fun hle =>
    h ⟨Int.le_trans (by decide) (Int.natCast_nonneg n), hle⟩
  unfold place?
  dsimp only
  exact if_neg fun hplace => hmax hplace.2.2

/-- An index picks among the items. -/
theorem itemAt_items (hv : v.items? = some items) (hi : index.asInt? = some i) :
    v.itemAt index = ((place? items.length i.toInt).bind (items[·]?)).elim
      (.error (.indexOutOfRange v.type)) .ok := by
  cases v with
  | str _ | tuple _ | list _ =>
    cases hv
    unfold itemAt
    rw [hi]
    dsimp only
    split
    · next item h => rw [h, Option.elim_some]
    · next h => rw [h, Option.elim_none]
  | _ => cases hv

theorem itemAt_place (hv : v.items? = some items) (hi : index.asInt? = some i)
    (hfits : Fits items.length) {k : Nat} (hk : k < items.length)
    (hplace : (k : Int) = i.toInt ∨ (k : Int) = i.toInt + items.length) :
    v.itemAt index = .ok items[k] := by
  rw [itemAt_items hv hi, (place?_eq_some hfits).mpr ⟨hk, hplace⟩, Option.bind_some,
    List.getElem?_eq_getElem hk, Option.elim_some]

theorem itemAt_outside (hv : v.items? = some items) (hi : index.asInt? = some i)
    (hplace : place? items.length i.toInt = Option.none) :
    v.itemAt index = .error (.indexOutOfRange v.type) := by
  rw [itemAt_items hv hi, hplace]
  rfl

/-- An index is valid from minus the length up to the length, which is left out. -/
theorem itemAt_ok_iff (hv : v.items? = some items) (hi : index.asInt? = some i)
    (hfits : Fits items.length) :
    (∃ item, v.itemAt index = .ok item) ↔ -items.length ≤ i.toInt ∧ i.toInt < items.length := by
  cases hplace : place? items.length i.toInt with
  | none =>
    rw [itemAt_outside hv hi hplace]
    exact iff_of_false (by rintro ⟨_, ⟨⟩⟩) ((place?_eq_none hfits).mp hplace)
  | some k =>
    obtain ⟨hk, hplace⟩ := (place?_eq_some hfits).mp hplace
    exact iff_of_true ⟨_, itemAt_place hv hi hfits hk hplace⟩ (by omega)

/-- What an index picks is an item. -/
theorem exists_place {item : Value} (hv : v.items? = some items) (hi : index.asInt? = some i)
    (hfits : Fits items.length) (h : v.itemAt index = .ok item) :
    ∃ (k : Nat) (hk : k < items.length), items[k] = item := by
  cases hplace : place? items.length i.toInt with
  | none =>
    rw [itemAt_outside hv hi hplace] at h
    cases h
  | some k =>
    obtain ⟨hk, hplace⟩ := (place?_eq_some hfits).mp hplace
    rw [itemAt_place hv hi hfits hk hplace] at h
    exact ⟨k, hk, Except.ok.inj h⟩

/-- Every place of a sequence has an index. -/
theorem exists_index (hfits : Fits items.length) {k : Nat} (hk : k < items.length) :
    ∃ i : Int64, i.toInt = k := by
  rw [fits_iff] at hfits
  exact fits_iff_exists.mp (fits_iff.mpr (by omega))

/-! ## Sums and products -/

/-- A sum of two sequences of one type has the items of both. -/
theorem binary_add_items (hv : v.items? = some items) (hw : w.items? = some items')
    (htype : w.type = v.type) :
    ∃ u, binary .add v w = .ok u ∧ u.type = v.type ∧ u.items? = some (items ++ items') := by
  cases v with
  | str s =>
    cases w with
    | str t =>
      cases hv
      cases hw
      refine ⟨.str (s ++ t), rfl, rfl, ?_⟩
      rw [items?, String.toList_append, List.map_append]
    | _ => cases htype
  | tuple _ =>
    cases w with
    | tuple _ => cases hv; cases hw; exact ⟨_, rfl, rfl, rfl⟩
    | _ => cases htype
  | list _ =>
    cases w with
    | list _ => cases hv; cases hw; exact ⟨_, rfl, rfl, rfl⟩
    | _ => cases htype
  | _ => cases hv

/-- What a repetition counts: the bytes of a string, the items of another sequence. -/
def size : Value → Nat
  | str s => s.utf8ByteSize
  | tuple items | list items => items.length
  | _ => 0

theorem copies_eq (length : Nat) (n : Int64) :
    copies length n = if length * n.toInt.toNat ≤ maxLength then
      .ok (if length = 0 then 0 else n.toInt.toNat) else .error .tooLarge := by
  unfold copies
  by_cases h : length = 0
  · rw [h, Nat.zero_mul]
    rfl
  · dsimp only
    rw [if_neg h, if_neg h]

theorem toList_times (s : String) (n : Nat) :
    (Text.times s n).toList = (List.replicate n s.toList).flatten := by
  induction n with
  | zero => rfl
  | succ n ih =>
    have hsucc : Text.times s (n + 1) = Text.times s n ++ s := rfl
    rw [hsucc, String.toList_append, ih, List.replicate_succ', List.flatten_append,
      List.flatten_singleton]

/-- Copies of an empty sequence are as good as none. -/
theorem flatten_replicate_copies {α : Type} (xs : List α) {length : Nat} (n : Nat)
    (hlength : length = 0 → xs = []) :
    (List.replicate (if length = 0 then 0 else n) xs).flatten = (List.replicate n xs).flatten := by
  split_ifs with h
  · rw [hlength h]
    simp
  · rfl

/-- A product with a number has the items over and over, unless it is too large. -/
theorem binary_mul_items (hv : v.items? = some items) (htype : v.type ≠ .tuple) (n : Int64) :
    (v.size * n.toInt.toNat ≤ maxLength → ∃ u, binary .mul v (.int n) = .ok u ∧ u.type = v.type
        ∧ u.items? = some (List.replicate n.toInt.toNat items).flatten)
      ∧ (maxLength < v.size * n.toInt.toNat → binary .mul v (.int n) = .error .tooLarge)
      ∧ binary .mul (.int n) v = binary .mul v (.int n) := by
  cases v with
  | str s =>
    cases hv
    have hmul : binary .mul (.str s) (.int n)
        = (copies (str s).size n).map fun count => .str (Text.times s count) := rfl
    have hempty : (str s).size = 0 → s.toList = [] := by
      intro h
      rw [String.utf8ByteSize_eq_zero_iff.mp h, String.toList_empty]
    refine ⟨fun h => ?_, fun h => ?_, rfl⟩
    · -- the bytes decide whether there is room, and the characters are what is copied
      rw [hmul, copies_eq, if_pos h]
      refine ⟨_, rfl, rfl, ?_⟩
      rw [items?, toList_times, flatten_replicate_copies _ _ hempty, List.map_flatten,
        List.map_replicate]
    · rw [hmul, copies_eq, if_neg (Nat.not_le.mpr h)]
      rfl
  | list xs =>
    cases hv
    have hmul : binary .mul (.list items) (.int n)
        = (copies (list items).size n).map fun count =>
          .list (List.replicate count items).flatten := rfl
    have hempty : (list items).size = 0 → items = [] := List.length_eq_zero_iff.mp
    refine ⟨fun h => ?_, fun h => ?_, rfl⟩
    · rw [hmul, copies_eq, if_pos h]
      refine ⟨_, rfl, rfl, ?_⟩
      rw [items?, flatten_replicate_copies _ _ hempty]
    · rw [hmul, copies_eq, if_neg (Nat.not_le.mpr h)]
      rfl
  | tuple _ => exact absurd rfl htype
  | _ => cases hv

/-! ## Membership and characters -/

/-- A tuple or a list holds what equals one of its items. -/
theorem compared_isIn_iff (hv : v.items? = some items) (htype : v.type ≠ .str) (x : Value) :
    ∃ b, compared .isIn x v = .ok b ∧
      (b = true ↔ ∃ (k : Nat) (h : k < items.length), compared .eq x items[k] = .ok true) := by
  have hholds : compared .isIn x v = .ok (items.any (·.equal x)) := by
    cases v with
    | tuple _ | list _ => cases hv; rfl
    | str _ => exact absurd rfl htype
    | _ => cases hv
  refine ⟨_, hholds, ?_⟩
  rw [List.any_eq_true]
  constructor
  · rintro ⟨item, hitem, hequal⟩
    obtain ⟨k, hk, rfl⟩ := List.getElem_of_mem hitem
    exact ⟨k, hk, compared_eq.mpr (equal_comm .. ▸ hequal)⟩
  · rintro ⟨k, hk, hequal⟩
    exact ⟨items[k], List.getElem_mem hk, equal_comm .. ▸ compared_eq.mp hequal⟩

/-- The items of a string are its characters, one by one. -/
theorem characters (s : String) : ∃ cs : List Char,
    (str s).items? = some (cs.map fun c => .str (String.singleton c))
      ∧ String.join ((cs.map fun c => Value.str (String.singleton c)).map text) = s := by
  refine ⟨s.toList, rfl, ?_⟩
  rw [List.map_map, ← String.toList_inj, String.toList_join, List.flatMap_map]
  have hsingle : (fun c => ((text ∘ fun c => Value.str (String.singleton c)) c).toList)
      = fun c : Char => [c] := funext String.toList_singleton
  rw [hsingle, List.flatMap_singleton']

/-! ## Sequences -/

/-- What a loop, `len`, an index, `in`, a sum and a product make of a value are things said of the
same list of items. -/
structure IsSequence (host : Host ω) (v : Value) (items : List Value) : Prop where
  /-- A loop goes through the items. -/
  loop : v.items? = some items
  /-- The length is the number of the items. -/
  length : Fits items.length →
    ∃ n : Int64, n.toInt = items.length ∧ Builtin.len.call host ⟨[v], []⟩ = pure (.int n)
  /-- Which indexes are valid. -/
  valid : Fits items.length → ∀ (index : Value) (i : Int64), index.asInt? = some i →
    ((∃ item, v.itemAt index = .ok item) ↔ -items.length ≤ i.toInt ∧ i.toInt < items.length)
  /-- An index is a place, or a negative number that counts from the end. -/
  place : Fits items.length → ∀ (index : Value) (i : Int64), index.asInt? = some i →
    ∀ (k : Nat) (h : k < items.length), (k : Int) = i.toInt ∨ (k : Int) = i.toInt + items.length →
      v.itemAt index = .ok items[k]
  /-- Every other index is a fault. -/
  outside : ∀ (index : Value) (i : Int64), index.asInt? = some i →
    ¬(Fits items.length ∧ -items.length ≤ i.toInt ∧ i.toInt < items.length) →
      ∃ f, v.itemAt index = .error f ∧ f.kind = .indexError
  /-- A sum has the items of both sides. -/
  sum : ∀ (w : Value) (items' : List Value), w.items? = some items' → w.type = v.type →
    ∃ u, binary .add v w = .ok u ∧ u.type = v.type ∧ u.items? = some (items ++ items')
  /-- A product has the items over and over; a negative number counts as zero. -/
  product : v.type ≠ .tuple → ∀ n : Int64, v.size * n.toInt.toNat ≤ maxLength →
    ∃ u copies, binary .mul v (.int n) = .ok u ∧ u.type = v.type ∧ u.items? = some copies
      ∧ copies = (List.replicate n.toInt.toNat items).flatten
      ∧ (copies.length : Int) = items.length * max n.toInt 0
  /-- A product that is too large is a fault. -/
  large : v.type ≠ .tuple → ∀ n : Int64, maxLength < v.size * n.toInt.toNat →
    ∃ f, binary .mul v (.int n) = .error f ∧ f.kind = .valueError
  /-- The sides of a product may change places. -/
  commutes : v.type ≠ .tuple → ∀ n : Int64, binary .mul (.int n) v = binary .mul v (.int n)
  /-- A boolean, which does for an index, is no number of copies. -/
  uncounted : ∀ b : Bool, ∃ f, binary .mul v (.bool b) = .error f ∧ f.kind = .typeError
  /-- A tuple or a list holds what equals one of its items, which an index picks. -/
  member : v.type ≠ .str → Fits items.length → ∀ x : Value, ∃ b, compared .isIn x v = .ok b ∧
    (b = true ↔ ∃ (index : Int64) (item : Value), v.itemAt (.int index) = .ok item
      ∧ compared .eq x item = .ok true)
  /-- A string is its items one after the other, each of which is one character. -/
  characters : ∀ s, v = .str s →
    (∃ cs : List Char, items = cs.map fun c => .str (String.singleton c))
      ∧ String.join (items.map text) = s

/--
**Strings, tuples and lists are sequences.**

Whatever a loop goes through has as many items as `len` says, and each of them is at its index. The
valid indexes are those from minus the length up to the length, which is left out; of these the
negative ones count from the end. Every other one is an `IndexError`: a machine adds the length to a
negative index, which comes to the same, without a trap, at all indexes of 64 bits. A sum has the
items of one side and then those of the other, a product has the items over and over or is a
`ValueError`, and what a tuple or a list holds is what equals the item at some index. The items of a
string are its characters.
-/
theorem sequence_exact (host : Host ω) (hv : v.items? = some items) :
    IsSequence host v items ∧ ∀ index : Value, Checked.itemAt v index = .of (v.itemAt index) := by
  refine ⟨?_, Checked.itemAt_ok v⟩
  constructor
  case loop => exact hv
  case length =>
    intro hfits
    refine ⟨Builtin.count items.length, toInt_count hfits, ?_⟩
    have hcall : Builtin.len.call host ⟨[v], []⟩ = .ofExcept (Builtin.lengthOf v) := rfl
    rw [hcall, lengthOf_items hv]
    rfl
  case valid => exact fun hfits index i hi => itemAt_ok_iff hv hi hfits
  case place => exact fun hfits index i hi k hk hplace => itemAt_place hv hi hfits hk hplace
  case outside =>
    intro index i hi hout
    refine ⟨_, itemAt_outside hv hi ?_, rfl⟩
    by_cases hfits : Fits items.length
    · exact (place?_eq_none hfits).mpr fun hvalid => hout ⟨hfits, hvalid⟩
    · exact place?_long hfits _
  case sum => exact fun w items' hw htype => binary_add_items hv hw htype
  case product =>
    intro htype n hsize
    obtain ⟨u, hu, hutype, hitems⟩ := (binary_mul_items hv htype n).1 hsize
    refine ⟨u, _, hu, hutype, hitems, rfl, ?_⟩
    rw [List.length_flatten, List.map_replicate, List.sum_replicate_nat, Int.natCast_mul,
      Int.toNat_eq_max, Int.mul_comm]
  case large => exact fun htype n hsize => ⟨_, (binary_mul_items hv htype n).2.1 hsize, rfl⟩
  case commutes => exact fun htype n => (binary_mul_items hv htype n).2.2
  case uncounted =>
    intro b
    cases v with
    | str _ | tuple _ | list _ => exact ⟨_, rfl, rfl⟩
    | _ => cases hv
  case member =>
    intro htype hfits x
    obtain ⟨b, hb, hmember⟩ := compared_isIn_iff hv htype x
    refine ⟨b, hb, hmember.trans ⟨?_, ?_⟩⟩
    · rintro ⟨k, hk, hequal⟩
      obtain ⟨i, hi⟩ := exists_index hfits hk
      exact ⟨i, items[k], itemAt_place hv rfl hfits hk (.inl hi.symm), hequal⟩
    · rintro ⟨i, item, hitem, hequal⟩
      obtain ⟨k, hk, rfl⟩ := exists_place hv rfl hfits hitem
      exact ⟨k, hk, hequal⟩
  case characters =>
    rintro s rfl
    obtain ⟨cs, hcs, hjoin⟩ := characters s
    obtain rfl := Option.some.inj (hv.symm.trans hcs)
    exact ⟨⟨cs, rfl⟩, hjoin⟩

/-- The theorem at a string whose characters have one, two and three bytes. -/
theorem sequence_exact_of_wide :
    let v := Value.str "aé€"
    let items := [Value.str "a", .str "é", .str "€"]
    v.items? = some items
      ∧ (∃ n : Int64, n.toInt = 3 ∧ Builtin.len.call Host.silent ⟨[v], []⟩ = pure (.int n))
      ∧ v.itemAt (.bool true) = .ok (.str "é")
      ∧ v.itemAt (.int (-1)) = .ok (.str "€")
      ∧ (∃ f, v.itemAt (.int Int64.minValue) = .error f ∧ f.kind = .indexError)
      ∧ (∃ f, binary .mul v (.int 44739243) = .error f ∧ f.kind = .valueError) := by
  intro v items
  have hv : v.items? = some items := rfl
  obtain ⟨h, -⟩ := sequence_exact Host.silent hv
  have hfits : Fits items.length := fits_iff.mpr (by decide)
  refine ⟨hv, h.length hfits, h.place hfits (.bool true) 1 rfl 1 (by decide) (.inl rfl),
    h.place hfits (.int (-1)) (-1) rfl 2 (by decide) (.inr rfl),
    h.outside _ _ rfl fun hvalid => absurd hvalid.2.1 (by decide), h.large (by rintro ⟨⟩) _ ?_⟩
  decide +kernel

end Tilde.Value
