import Mathlib.Data.List.Induction
import Mathlib.Data.Nat.Digits.Defs
import Mathlib.Tactic.SplitIfs
import Tilde.Value.Format

/-!
# What a format spec asks for

A spec is made of an optional fill, an optional align character, and an optional width; a fill comes
with an align character only. The characters of a spec are such parts in at most one way (`Spells`),
although a fill may itself be a digit or an align character. So the order in which the reader tries
the forms does not matter, and a value is formatted as the parts say: there are as many fill
characters around its text as the text is short of the width.
-/

namespace Tilde.Value

/-- The character that asks for a side. -/
def Align.sign : Align → Char
  | .left => '<'
  | .right => '>'
  | .center => '^'

/-- The characters are the digits of a width, which is no greater than a text may be. -/
def IsWidth (digits : List Char) (width : Nat) : Prop :=
  (∀ c ∈ digits, '0' ≤ c ∧ c ≤ '9')
    ∧ width = Nat.ofDigits 10 (digits.reverse.map fun c => c.toNat - '0'.toNat)
    ∧ width ≤ 2 ^ 28

/-- The characters are those of a spec with the given fill, side and width. -/
inductive Spells : List Char → Option Char → Option Align → Nat → Prop where
  | width {digits : List Char} {width : Nat} (h : IsWidth digits width) :
    Spells digits .none .none width
  | aligned {digits : List Char} {width : Nat} (a : Align) (h : IsWidth digits width) :
    Spells (a.sign :: digits) .none (some a) width
  | filled {digits : List Char} {width : Nat} (fill : Char) (a : Align) (hfill : fill ≠ '\n')
    (h : IsWidth digits width) : Spells (fill :: a.sign :: digits) (some fill) (some a) width

/-! ## The characters of a spec -/

variable {c : Char} {cs digits : List Char} {s : Spec} {width : Nat}

theorem Align.ofChar?_eq_some {a : Align} : ofChar? c = some a ↔ c = a.sign := by
  constructor
  · intro h
    unfold ofChar? at h
    split at h <;> cases h <;> rfl
  · rintro rfl
    cases a <;> rfl

/-- A digit asks for no side. -/
theorem Align.ofChar?_digit (h : '0' ≤ c ∧ c ≤ '9') : ofChar? c = .none := by
  cases hc : ofChar? c with
  | none => rfl
  | some a =>
    rw [ofChar?_eq_some.mp hc] at h
    exact absurd h (by cases a <;> decide)

theorem isAsciiDigit_iff : Text.isAsciiDigit c = true ↔ '0' ≤ c ∧ c ≤ '9' := by
  rw [Text.isAsciiDigit, Bool.and_eq_true, decide_eq_true_eq, decide_eq_true_eq]

theorem isDecimalDigit_of_ascii (h : '0' ≤ c ∧ c ≤ '9') : Text.isDecimalDigit c = true := by
  have hascii : c.toNat < 128 := Nat.lt_of_le_of_lt h.2 (by decide)
  rw [Text.isDecimalDigit, if_pos hascii]
  exact isAsciiDigit_iff.mpr h

/-- Digits are read from the front to the number they denote. -/
theorem foldl_digits (digits : List Char) :
    digits.foldl (fun n c => 10 * n + (c.toNat - '0'.toNat)) 0
      = Nat.ofDigits 10 (digits.reverse.map fun c => c.toNat - '0'.toNat) := by
  induction digits using List.reverseRecOn with
  | nil => rfl
  | append_singleton digits c ih =>
    rw [List.foldl_append, ih, List.reverse_append, List.reverse_singleton, List.singleton_append,
      List.map_cons, Nat.ofDigits_cons, Nat.add_comm]
    rfl

theorem Spec.width?_eq_some : s.width? = some width ↔ IsWidth s.width width := by
  have hmax : maxLength = 2 ^ 28 := rfl
  unfold Spec.width? IsWidth
  dsimp only
  simp only [← isAsciiDigit_iff, ← foldl_digits, ← hmax, ← List.all_eq_true]
  split_ifs with hdigits hle
  · simp only [Option.some.injEq, hdigits, true_and]
    constructor
    · rintro rfl
      exact ⟨rfl, hle⟩
    · exact fun h => h.1.symm
  · simp only [false_iff]
    rintro ⟨-, rfl, h⟩
    exact hle h
  · simp only [false_iff]
    exact fun h => hdigits h.1

/-! ## Reading a spec -/

/-- A spec is a width, perhaps with an align character in front, and perhaps with a fill in front of
that. -/
theorem Spec.read?_cases (h : read? cs = some s) :
    (cs = s.width ∧ s = { width := s.width })
      ∨ (∃ a, cs = a.sign :: s.width ∧ s = { align := some a, width := s.width })
      ∨ ∃ a, s.fill ≠ '\n' ∧ cs = s.fill :: a.sign :: s.width
        ∧ s = { fill := s.fill, align := some a, width := s.width } := by
  unfold read? at h
  -- a fill is tried first, then an alignment, and a width alone last
  rcases Option.or_eq_some_iff.mp h with h | ⟨-, h⟩
  · unfold withFill? at h
    split at h
    · obtain ⟨a, ha, hs⟩ := Option.bind_eq_some_iff.mp h
      split at hs
      · next hfits =>
        cases hs
        simp only [Bool.and_eq_true, decide_eq_true_eq] at hfits
        exact .inr (.inr ⟨a, hfits.1, by rw [Align.ofChar?_eq_some.mp ha], rfl⟩)
      · cases hs
    · cases h
  · rcases Option.or_eq_some_iff.mp h with h | ⟨-, h⟩
    · unfold withAlign? at h
      split at h
      · obtain ⟨a, ha, hs⟩ := Option.bind_eq_some_iff.mp h
        split at hs
        · cases hs
          exact .inr (.inl ⟨a, by rw [Align.ofChar?_eq_some.mp ha], rfl⟩)
        · cases hs
      · cases h
    · unfold widthOnly? at h
      split at h
      · cases h
        exact .inl ⟨rfl, rfl⟩
      · cases h

section Digits

variable (h : ∀ c ∈ digits, '0' ≤ c ∧ c ≤ '9')
include h

theorem Spec.all_digits : digits.all Text.isDecimalDigit = true :=
  List.all_eq_true.mpr fun c hc => isDecimalDigit_of_ascii (h c hc)

/-- No fill is read in front of digits. -/
theorem Spec.withFill?_digits (c : Char) : withFill? (c :: digits) = .none := by
  cases digits with
  | nil => rfl
  | cons d digits => rw [withFill?, Align.ofChar?_digit (h d (List.mem_cons_self ..))]; rfl

theorem Spec.read?_width : read? digits = some { width := digits } := by
  have hwidth : widthOnly? digits = some { width := digits } := if_pos (all_digits h)
  cases digits with
  | nil => rfl
  | cons d digits =>
    obtain ⟨hd, hdigits⟩ := List.forall_mem_cons.mp h
    rw [read?, withFill?_digits hdigits, withAlign?, Align.ofChar?_digit hd, hwidth]
    rfl

theorem Spec.read?_aligned (a : Align) :
    read? (a.sign :: digits) = some { align := some a, width := digits } := by
  rw [read?, withFill?_digits h, withAlign?, Align.ofChar?_eq_some.mpr rfl, Option.none_or]
  simp only [Option.bind_eq_bind, Option.bind_some, all_digits h, if_true, Option.some_or]

theorem Spec.read?_filled {fill : Char} (hfill : fill ≠ '\n') (a : Align) :
    read? (fill :: a.sign :: digits) = some { fill, align := some a, width := digits } := by
  rw [read?, withFill?, Align.ofChar?_eq_some.mpr rfl]
  simp [all_digits h, hfill]

end Digits

/-- **What a spec spells is what is read of it.** -/
theorem Spells.read {fill : Option Char} {align : Option Align} (h : Spells cs fill align width) :
    ∃ s, Spec.read? cs = some s ∧ s.fill = fill.getD ' ' ∧ s.align = align
      ∧ s.width? = some width := by
  cases h with
  | width h => exact ⟨_, Spec.read?_width h.1, rfl, rfl, Spec.width?_eq_some.mpr h⟩
  | aligned a h => exact ⟨_, Spec.read?_aligned h.1 a, rfl, rfl, Spec.width?_eq_some.mpr h⟩
  | filled fill a hfill h =>
    exact ⟨_, Spec.read?_filled h.1 hfill a, rfl, rfl, Spec.width?_eq_some.mpr h⟩

theorem spells_of_read (h : Spec.read? cs = some s) (hwidth : s.width? = some width) :
    ∃ fill align, Spells cs fill align width := by
  have hdigits := Spec.width?_eq_some.mp hwidth
  rcases Spec.read?_cases h with ⟨hcs, -⟩ | ⟨a, hcs, -⟩ | ⟨a, hfill, hcs, -⟩
  · exact ⟨_, _, by rw [hcs]; exact .width hdigits⟩
  · exact ⟨_, _, by rw [hcs]; exact .aligned a hdigits⟩
  · exact ⟨_, _, by rw [hcs]; exact .filled _ a hfill hdigits⟩

section Parts

variable {fill fill' : Option Char} {align align' : Option Align} {width' : Nat}

/-- The first character is the fill exactly if the second one is an align character. -/
theorem Spells.fill_eq_some (h : Spells cs fill align width) :
    fill = some c ↔ ∃ (b : Align) (rest : List Char), cs = c :: b.sign :: rest := by
  have hsign : ∀ {digits rest : List Char} {b : Align}, (∀ c ∈ digits, '0' ≤ c ∧ c ≤ '9') →
      digits ≠ b.sign :: rest := by
    rintro _ rest b hdigits rfl
    have hside := Align.ofChar?_digit (hdigits _ (List.mem_cons_self ..))
    rw [Align.ofChar?_eq_some.mpr rfl] at hside
    cases hside
  cases h with
  | width h =>
    refine iff_of_false nofun ?_
    rintro ⟨b, rest, rfl⟩
    exact hsign (List.forall_mem_cons.mp h.1).2 rfl
  | aligned a h =>
    refine iff_of_false nofun ?_
    rintro ⟨b, rest, hcs⟩
    exact hsign h.1 (List.cons.inj hcs).2
  | @filled digits _ fill a _ _ =>
    constructor
    · rintro ⟨⟩
      exact ⟨a, digits, rfl⟩
    · rintro ⟨b, rest, hcs⟩
      rw [(List.cons.inj hcs).1]

/-- **A spec has its parts in one way only.** -/
theorem Spells.unique (h : Spells cs fill align width) (h' : Spells cs fill' align' width') :
    fill = fill' ∧ align = align' ∧ width = width' := by
  obtain ⟨s, hs, -, halign, hwidth⟩ := h.read
  obtain ⟨s', hs', -, halign', hwidth'⟩ := h'.read
  obtain rfl := Option.some.inj (hs.symm.trans hs')
  refine ⟨Option.ext fun c => ?_, halign.symm.trans halign', ?_⟩
  · rw [h.fill_eq_some, h'.fill_eq_some]
  · exact Option.some.inj (hwidth.symm.trans hwidth')

end Parts

/-! ## Formatting -/

theorem toList_pushn (s : String) (c : Char) (n : Nat) :
    (s.pushn c n).toList = s.toList ++ List.replicate n c := by
  induction n with
  | zero => exact (List.append_nil _).symm
  | succ n ih =>
    have hpush : s.pushn c (n + 1) = (s.pushn c n).push c := rfl
    rw [hpush, String.toList_push, ih, List.replicate_succ', List.append_assoc]

/-- A text with fill characters around it. -/
theorem padded_eq (text : String) (fill : Char) (before after : Nat) :
    (("".pushn fill before) ++ text).pushn fill after
      = String.ofList (List.replicate before fill ++ text.toList ++ List.replicate after fill) := by
  rw [← String.toList_inj]
  simp [toList_pushn]

/-- The texts of the sides: fill characters in front of a text on the right, behind one on the left,
and on both sides of one in the middle, where the odd one is behind. -/
theorem padding_exact (a : Align) (length width : Nat) :
    (padding a length width).1 + (padding a length width).2 = width - length
      ∧ match a with
        | .left => (padding a length width).1 = 0
        | .right => (padding a length width).2 = 0
        | .center => (padding a length width).1 ≤ (padding a length width).2
          ∧ (padding a length width).2 ≤ (padding a length width).1 + 1 := by
  cases a with
  | left => exact ⟨Nat.zero_add _, rfl⟩
  | right => exact ⟨Nat.add_zero _, rfl⟩
  | center =>
    simp only [padding]
    omega

theorem side_eq (v : Value) : v.side = if v.type = .str then .left else .right := by
  cases v <;> rfl

variable {v : Value} {spec : String}

/-- The empty spec asks for no fill characters. -/
theorem spells_nil : Spells [] .none .none 0 := .width ⟨nofun, rfl, Nat.zero_le _⟩

/-- A value is formatted by the parts that its spec spells. -/
theorem Spells.format {fill : Option Char} {align : Option Align}
    (h : Spells spec.toList fill align width) :
    v.format (some spec) =
      let (before, after) := padding (align.getD v.side) v.text.length width
      .ok (String.ofList (List.replicate before (fill.getD ' ') ++ v.text.toList
        ++ List.replicate after (fill.getD ' '))) := by
  dsimp only
  by_cases hempty : spec = ""
  · -- the empty spec is not read, but asks for no fill characters
    subst hempty
    obtain ⟨rfl, rfl, rfl⟩ := h.unique spells_nil
    have hnone : (padding v.side v.text.length 0).1 = 0
        ∧ (padding v.side v.text.length 0).2 = 0 := by
      have hsum := (padding_exact v.side v.text.length 0).1
      omega
    rw [Option.getD_none, hnone.1, hnone.2]
    simp [Value.format]
  · obtain ⟨s, hs, hfill, halign, hwidth⟩ := h.read
    rw [Value.format]
    dsimp only
    rw [if_neg (by simpa using hempty), hs]
    dsimp only
    rw [hwidth, hfill, halign, ← padded_eq]

/-- Whatever cannot be formatted is refused as a bad value. -/
theorem format_error {f : Fault} {spec : Option String} (h : v.format spec = .error f) :
    f.kind = .valueError := by
  unfold format at h
  split at h
  · cases h
  · split at h
    · cases h
    · split at h
      · cases h
        rfl
      · split at h
        · cases h
          rfl
        · cases h

/-- A spec that a value is formatted by spells its parts. -/
theorem spells_of_format {text : String} (h : v.format (some spec) = .ok text) :
    ∃ fill align width, Spells spec.toList fill align width := by
  unfold Value.format at h
  dsimp only at h
  split at h
  · next hempty =>
    obtain rfl : spec = "" := by simpa using hempty
    exact ⟨_, _, _, spells_nil⟩
  · split at h
    · cases h
    · next s hs =>
      split at h
      · cases h
      · next width hwidth =>
        obtain ⟨fill, align, hspells⟩ := spells_of_read hs hwidth
        exact ⟨fill, align, width, hspells⟩

/--
**Formatting pads exactly.**

A value is formatted if and only if there is no spec, or an empty one, or one that spells an
optional fill and side and an optional width, of digits of ASCII and up to 2^28. Any other spec is
refused as a bad value. Without a spec the result is the text of the value. With one, there are fill
characters in front of it and behind it, spaces if the spec has none: together as many as the text,
counted in characters, is short of the width; none in front of a text on the left and none behind
one on the right; and as many on both sides of one in the middle, or one more behind. Without an
align character strings are on the left and all other values on the right. The parts of a spec are
determined: its first character is a fill exactly if the second one is an align character.
-/
theorem format_exact (v : Value) (spec : Option String) :
    ((∃ text, v.format spec = .ok text) ↔ spec = .none ∨ spec = some "" ∨
        ∃ s fill align width, spec = some s ∧ Spells s.toList fill align width)
      ∧ (∀ f, v.format spec = .error f → f.kind = .valueError)
      ∧ (spec = .none ∨ spec = some "" → v.format spec = .ok v.text)
      ∧ ∀ s fill align width, spec = some s → Spells s.toList fill align width →
        (∃ before after : Nat,
          v.format spec = .ok (String.ofList (List.replicate before (fill.getD ' ')
            ++ v.text.toList ++ List.replicate after (fill.getD ' ')))
          ∧ before + after = width - v.text.length
          ∧ match align.getD (if v.type = .str then .left else .right) with
            | .left => before = 0
            | .right => after = 0
            | .center => before ≤ after ∧ after ≤ before + 1)
        ∧ (∀ c, fill = some c ↔ ∃ (b : Align) (rest : List Char), s.toList = c :: b.sign :: rest)
        ∧ ∀ fill' align' width', Spells s.toList fill' align' width' →
          fill' = fill ∧ align' = align ∧ width' = width := by
  refine ⟨⟨?_, ?_⟩, fun f => format_error, ?_, ?_⟩
  · rintro ⟨text, h⟩
    cases spec with
    | none => exact .inl rfl
    | some s =>
      obtain ⟨fill, align, width, hs⟩ := spells_of_format h
      exact .inr (.inr ⟨s, fill, align, width, rfl, hs⟩)
  · rintro (rfl | rfl | ⟨s, fill, align, width, rfl, hs⟩)
    · exact ⟨_, rfl⟩
    · exact ⟨_, rfl⟩
    · exact ⟨_, hs.format⟩
  · rintro (rfl | rfl) <;> rfl
  · rintro s fill align width rfl hs
    obtain ⟨hsum, hside⟩ := padding_exact (align.getD v.side) v.text.length width
    refine ⟨⟨_, _, hs.format, hsum, ?_⟩, fun c => hs.fill_eq_some, fun _ _ _ hs' => hs'.unique hs⟩
    rw [side_eq] at hside ⊢
    exact hside

/-- The theorem at a spec that starts with two align characters, the first of which is the fill. -/
theorem format_exact_of_signs :
    Spells "<^5".toList (some '<') (some .center) 5
      ∧ (Value.str "été").format (some "<^5") = .ok "<été<" := by
  have hwidth : IsWidth ['5'] 5 := by
    refine ⟨?_, rfl, by decide⟩
    simp only [← isAsciiDigit_iff, ← List.all_eq_true]
    rfl
  have hs : Spells "<^5".toList (some '<') (some .center) 5 :=
    .filled '<' .center (by decide) hwidth
  obtain ⟨-, -, -, hparts⟩ := format_exact (.str "été") (some "<^5")
  obtain ⟨⟨before, after, hformat, hsum, hside⟩, -, -⟩ := hparts _ _ _ _ rfl hs
  refine ⟨hs, ?_⟩
  have hlength : (Value.str "été").text.length = 3 := by decide
  rw [hlength] at hsum
  obtain ⟨rfl, rfl⟩ : before = 1 ∧ after = 1 := by
    have : before ≤ after ∧ after ≤ before + 1 := hside
    omega
  exact hformat.trans (by decide)

end Tilde.Value
