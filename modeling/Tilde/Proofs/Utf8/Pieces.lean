import Tilde.Text.Utf8

/-!
# Decoding bytes

What one character and its bytes have to do with each other, and what a decoder makes of bytes that
arrive in pieces.

## The bytes of a character

Which bytes make a character, told from the tests that the decoder makes on them, and which
character they make. The bytes that make a character are its encoding, and the encoding of a
character makes it (`makes_iff`). So what the decoder asks of bytes, one after the other, is whether
a character can still come of them (`begun_iff`).
-/

namespace Tilde.Utf8

variable {a b : UInt8} {x : Char} {bytes : List UInt8}

/-! ### The tests on bytes as bounds on numbers -/

theorem width_eq_one : width a = 1 ↔ a.toNat < 0x80 := by
  simp only [width, UInt8.lt_iff_toNat_lt]
  grind

theorem width_eq_two : width a = 2 ↔ 0xC2 ≤ a.toNat ∧ a.toNat < 0xE0 := by
  simp only [width, UInt8.lt_iff_toNat_lt]
  grind

theorem width_eq_three : width a = 3 ↔ 0xE0 ≤ a.toNat ∧ a.toNat < 0xF0 := by
  simp only [width, UInt8.lt_iff_toNat_lt]
  grind

theorem width_eq_four : width a = 4 ↔ 0xF0 ≤ a.toNat ∧ a.toNat < 0xF5 := by
  simp only [width, UInt8.lt_iff_toNat_lt]
  grind

theorem width_le_four (a : UInt8) : width a ≤ 4 := by
  unfold width
  grind

theorem isTail_iff : isTail b = true ↔ 0x80 ≤ b.toNat ∧ b.toNat ≤ 0xBF := by
  simp [isTail, UInt8.le_iff_toNat_le]

theorem isSecond_iff : isSecond a b = true ↔ (0x80 ≤ b.toNat ∧ b.toNat ≤ 0xBF)
    ∧ (a.toNat = 0xE0 → 0xA0 ≤ b.toNat) ∧ (a.toNat = 0xED → b.toNat ≤ 0x9F)
    ∧ (a.toNat = 0xF0 → 0x90 ≤ b.toNat) ∧ (a.toNat = 0xF4 → b.toNat ≤ 0x8F) := by
  have heq : ∀ n : UInt8, (a == n) = decide (a.toNat = n.toNat) := fun n => by
    rw [Bool.eq_iff_iff]
    simp [UInt8.toNat_inj]
  simp only [isSecond, isTail, heq, UInt8.le_iff_toNat_le]
  grind

/-! ### Characters and their bytes -/

/-- The bytes make the character. -/
inductive Makes : List UInt8 → Char → Prop where
  | one {a : UInt8} (ha : width a = 1) : Makes [a] (Char.ofNat a.toNat)
  | two {a b : UInt8} (ha : width a = 2) (hb : isSecond a b = true) : Makes [a, b] (char2 a b)
  | three {a b c : UInt8} (ha : width a = 3) (hb : isSecond a b = true) (hc : isTail c = true) :
    Makes [a, b, c] (char3 a b c)
  | four {a b c d : UInt8} (ha : width a = 4) (hb : isSecond a b = true) (hc : isTail c = true)
    (hd : isTail d = true) : Makes [a, b, c, d] (char4 a b c d)

theorem toNat_ofNat {n : Nat} (h : n < 0xD800 ∨ 0xDFFF < n ∧ n < 0x110000) :
    (Char.ofNat n).val.toNat = n := by
  rw [Char.ofNat, dif_pos h]
  rfl

/-- The bytes that make a character are its encoding. -/
theorem Makes.encoding {bytes : List UInt8} (h : Makes bytes x) :
    String.utf8EncodeChar x = bytes := by
  unfold String.utf8EncodeChar
  cases h with
  | @one a ha =>
    rw [width_eq_one] at ha
    have hx : (Char.ofNat a.toNat).val.toNat = a.toNat := toNat_ofNat (by omega)
    simp only [hx]
    rw [if_pos (by omega), UInt8.ofNat_toNat]
  | @two a b ha hb =>
    rw [width_eq_two] at ha
    obtain ⟨hb, -⟩ := isSecond_iff.mp hb
    have hx : (char2 a b).val.toNat = a.toNat % 32 * 64 + b.toNat % 64 := toNat_ofNat (by omega)
    simp only [hx]
    rw [if_neg (by omega), if_pos (by omega)]
    simp only [List.cons.injEq, ← UInt8.toNat_inj, UInt8.toNat_ofNat', and_true]
    omega
  | @three a b c ha hb hc =>
    rw [width_eq_three] at ha
    obtain ⟨hb, hlow, hsurrogate, -⟩ := isSecond_iff.mp hb
    rw [isTail_iff] at hc
    have hx : (char3 a b c).val.toNat = (a.toNat % 16 * 64 + b.toNat % 64) * 64 + c.toNat % 64 :=
      toNat_ofNat (by omega)
    simp only [hx]
    rw [if_neg (by omega), if_neg (by omega), if_pos (by omega)]
    simp only [List.cons.injEq, ← UInt8.toNat_inj, UInt8.toNat_ofNat', and_true]
    omega
  | @four a b c d ha hb hc hd =>
    rw [width_eq_four] at ha
    obtain ⟨hb, -, -, hlow, hhigh⟩ := isSecond_iff.mp hb
    rw [isTail_iff] at hc hd
    have hx : (char4 a b c d).val.toNat
        = ((a.toNat % 8 * 64 + b.toNat % 64) * 64 + c.toNat % 64) * 64 + d.toNat % 64 :=
      toNat_ofNat (by omega)
    simp only [hx]
    rw [if_neg (by omega), if_neg (by omega), if_neg (by omega)]
    simp only [List.cons.injEq, ← UInt8.toNat_inj, UInt8.toNat_ofNat', and_true]
    omega

theorem Makes.of_eq {y : Char} (h : Makes bytes y) (heq : y = x) : Makes bytes x := heq ▸ h

/-- The encoding of a character makes it. -/
theorem makes_encoding (x : Char) : Makes (String.utf8EncodeChar x) x := by
  have hvalid : x.val.toNat < 0xD800 ∨ 0xDFFF < x.val.toNat ∧ x.val.toNat < 0x110000 := x.valid
  have hback : ∀ {n : Nat}, n = x.val.toNat → Char.ofNat n = x := by
    rintro n rfl
    exact Char.ofNat_toNat x
  unfold String.utf8EncodeChar
  generalize x.val.toNat = v at hvalid hback
  dsimp only
  split
  · refine .of_eq (.one (width_eq_one.mpr ?_)) (hback ?_)
    all_goals
      simp only [UInt8.toNat_ofNat']
      omega
  split
  · refine .of_eq (.two (width_eq_two.mpr ?_) (isSecond_iff.mpr ?_)) (hback ?_)
    all_goals
      simp only [UInt8.toNat_ofNat']
      omega
  split
  · refine .of_eq (.three (width_eq_three.mpr ?_) (isSecond_iff.mpr ?_) (isTail_iff.mpr ?_))
      (hback ?_)
    all_goals
      simp only [UInt8.toNat_ofNat']
      omega
  · refine .of_eq (.four (width_eq_four.mpr ?_) (isSecond_iff.mpr ?_) (isTail_iff.mpr ?_)
      (isTail_iff.mpr ?_)) (hback ?_)
    all_goals
      simp only [UInt8.toNat_ofNat']
      omega

/-- **Bytes make a character if and only if they are its encoding.** -/
theorem makes_iff {bytes : List UInt8} : Makes bytes x ↔ String.utf8EncodeChar x = bytes :=
  ⟨Makes.encoding, fun h => h ▸ makes_encoding x⟩

/-! ### Texts and their bytes -/

theorem toList_loop (data : ByteArray) (i : Nat) (front : List UInt8) :
    ByteArray.toList.loop data i front = front.reverse ++ data.data.toList.drop i := by
  fun_induction ByteArray.toList.loop with
  | case1 i front hi ih =>
    have hget : data.get! i = data.data.toList[i] := by
      simp [ByteArray.get!]
      exact getElem!_pos data.data i hi
    rw [ih, List.reverse_cons, List.append_assoc, List.singleton_append, hget,
      List.getElem_cons_drop]
  | case2 i front hi =>
    have hdrop : data.data.toList.drop i = [] := List.drop_of_length_le (by simpa using hi)
    rw [hdrop, List.append_nil]

/-- The bytes of a text are those of its characters. -/
theorem encode_eq (s : String) : encode s = s.toList.flatMap String.utf8EncodeChar := by
  have hbytes : s.toUTF8 = (s.toList.flatMap String.utf8EncodeChar).toByteArray := by
    conv => lhs; rw [← String.ofList_toList (s := s)]
    exact String.toByteArray_ofList
  rw [encode, hbytes, ByteArray.toList, toList_loop]
  simp

/-! ### Characters that are not complete yet -/

/-- The bytes have begun a character that has more bytes, or there are none. -/
def Begun (bytes : List UInt8) : Prop :=
  ∃ x rest, rest ≠ [] ∧ String.utf8EncodeChar x = bytes ++ rest

/-- The tests that the bytes of a character which is not complete have passed. -/
inductive Passed : List UInt8 → Prop where
  | none : Passed []
  | one {a : UInt8} (ha : 2 ≤ width a) : Passed [a]
  | two {a b : UInt8} (ha : 3 ≤ width a) (hb : isSecond a b = true) : Passed [a, b]
  | three {a b c : UInt8} (ha : width a = 4) (hb : isSecond a b = true) (hc : isTail c = true) :
    Passed [a, b, c]

/-- Every first byte goes with some second byte. -/
theorem exists_isSecond (a : UInt8) : ∃ b, isSecond a b = true := by
  by_cases h : a = 0xE0 ∨ a = 0xF0
  · exact ⟨0xA0, by rcases h with rfl | rfl <;> decide⟩
  · refine ⟨0x80, isSecond_iff.mpr ⟨by decide, fun ha => ?_, fun _ => by decide, fun ha => ?_,
      fun _ => by decide⟩⟩
    · exact absurd (.inl (UInt8.toNat_inj.mp ha)) h
    · exact absurd (.inr (UInt8.toNat_inj.mp ha)) h

/-- The first bytes of a character have passed the tests. -/
theorem Makes.passed (h : Makes bytes x) {k : Nat} (hk : k < bytes.length) :
    Passed (bytes.take k) := by
  cases h with
  | one ha =>
    match k, hk with
    | 0, _ => exact .none
  | two ha hb =>
    match k, hk with
    | 0, _ => exact .none
    | 1, _ => exact .one (by omega)
  | three ha hb hc =>
    match k, hk with
    | 0, _ => exact .none
    | 1, _ => exact .one (by omega)
    | 2, _ => exact .two (by omega) hb
  | four ha hb hc hd =>
    match k, hk with
    | 0, _ => exact .none
    | 1, _ => exact .one (by omega)
    | 2, _ => exact .two (by omega) hb
    | 3, _ => exact .three ha hb hc

/-- **A character has been begun if and only if the bytes have passed the tests.** -/
theorem begun_iff : Begun bytes ↔ Passed bytes := by
  constructor
  · rintro ⟨x, rest, hrest, h⟩
    have hpos := List.length_pos_iff.mpr hrest
    have hpassed := (makes_iff.mpr h).passed (k := bytes.length) (by simpa using hpos)
    rwa [List.take_left] at hpassed
  · have htail : isTail 0x80 = true := by decide
    intro h
    cases h with
    | none => exact ⟨'a', [0x61], nofun, rfl⟩
    | @one a ha =>
      obtain ⟨b, hb⟩ := exists_isSecond a
      have hle := width_le_four a
      obtain ha | ha | ha : width a = 2 ∨ width a = 3 ∨ width a = 4 := by omega
      · exact ⟨_, [b], nofun, (Makes.two ha hb).encoding⟩
      · exact ⟨_, [b, 0x80], nofun, (Makes.three ha hb htail).encoding⟩
      · exact ⟨_, [b, 0x80, 0x80], nofun, (Makes.four ha hb htail htail).encoding⟩
    | @two a b ha hb =>
      have hle := width_le_four a
      obtain ha | ha : width a = 3 ∨ width a = 4 := by omega
      · exact ⟨_, [0x80], nofun, (Makes.three ha hb htail).encoding⟩
      · exact ⟨_, [0x80, 0x80], nofun, (Makes.four ha hb htail htail).encoding⟩
    | three ha hb hc => exact ⟨_, [0x80], nofun, (Makes.four ha hb hc htail).encoding⟩

end Tilde.Utf8

/-!
## Reading bytes that arrive in pieces

A decoder that starts with nothing held and reads pieces gives, with what it gives at the end, the
text of all their bytes: a byte pushed into it does what reading the whole does at that place
(`decode_step`), and so does any number of bytes. What it holds back is the longest end of the bytes
so far that has begun a character, and the text so far is the text of the bytes before it. Where a
piece ends therefore makes no difference to the text.
-/

namespace Tilde.Utf8

variable {x : UInt8} {held held' xs ys bytes : List UInt8} {c : Char} {text : List Char}
  {d : Decoder}

/-! ### Reading pieces -/

namespace Decoder

/-- Reads pieces: the text of each, and the decoder behind them. -/
def feedAll (d : Decoder) : List (List UInt8) → List (List Char) × Decoder
  | [] => ([], d)
  | piece :: pieces =>
    let (text, d) := d.feed piece
    let (texts, d) := d.feedAll pieces
    (text :: texts, d)

@[simp] theorem feed_nil : d.feed [] = ([], d) := rfl

theorem feed_cons : d.feed (x :: xs)
    = ((d.push x).1 ++ ((d.push x).2.feed xs).1, ((d.push x).2.feed xs).2) := rfl

theorem feed_append : d.feed (xs ++ ys)
    = ((d.feed xs).1 ++ ((d.feed xs).2.feed ys).1, ((d.feed xs).2.feed ys).2) := by
  induction xs generalizing d with
  | nil => simp
  | cons x xs ih => simp [feed_cons, ih]

/-- Where the pieces are cut makes no difference to their text. -/
theorem feedAll_flatten (pieces : List (List UInt8)) :
    d.feed pieces.flatten = ((d.feedAll pieces).1.flatten, (d.feedAll pieces).2) := by
  induction pieces generalizing d with
  | nil => rfl
  | cons piece pieces ih => simp [feedAll, feed_append, ih]

/-- The first pieces give the first texts. -/
theorem feedAll_take (pieces : List (List UInt8)) (k : Nat) :
    (d.feedAll (pieces.take k)).1 = (d.feedAll pieces).1.take k := by
  induction pieces generalizing d k with
  | nil => simp [feedAll]
  | cons piece pieces ih =>
    cases k with
    | zero => simp [feedAll]
    | succ k => simp [feedAll, ih]

end Decoder

/-! ### What a byte does behind held bytes -/

/-- Whether the byte may stand behind the bytes of a character that is not complete. -/
def mayFollow : List UInt8 → UInt8 → Bool
  | [a], x => isSecond a x
  | _, x => isTail x

/-- Behind the held bytes, the byte gives a text and leaves held bytes. -/
inductive Pushes : List UInt8 → UInt8 → List Char → List UInt8 → Prop where
  /-- The character is still not complete. -/
  | grows {held : List UInt8} {x : UInt8} (h : Begun (held ++ [x])) : Pushes held x [] (held ++ [x])
  /-- The byte is the last one of a character. -/
  | completes {held : List UInt8} {x : UInt8} {c : Char} (h : Makes (held ++ [x]) c) :
    Pushes held x [c] []
  /-- The byte begins no character. -/
  | stray {x : UInt8} (hx : width x = 0) : Pushes [] x [replacement] []
  /-- The byte breaks the character off, and is read as a first one. -/
  | breaks {held held' : List UInt8} {x : UInt8} {text : List Char} (hheld : held ≠ [])
    (hx : mayFollow held x = false) (h : Pushes [] x text held') :
    Pushes held x (replacement :: text) held'

theorem begin_pushes (x : UInt8) :
    Pushes [] x (Decoder.begin x).1 (Decoder.begin x).2.held := by
  unfold Decoder.begin
  split
  next hx => exact .stray hx
  next hx => exact .completes (.one hx)
  next h0 h1 =>
    have hwidth : 2 ≤ width x := by grind
    exact .grows (begun_iff.mpr (.one hwidth))

theorem restart_pushes (hheld : held ≠ []) (hx : mayFollow held x = false) :
    Pushes held x (Decoder.restart x).1 (Decoder.restart x).2.held :=
  .breaks hheld hx (begin_pushes x)

theorem push_pushes (h : Begun d.held) (x : UInt8) :
    Pushes d.held x (d.push x).1 (d.push x).2.held := by
  obtain ⟨held⟩ := d
  unfold Decoder.push
  cases begun_iff.mp h with
  | none => exact begin_pushes x
  | @one a ha =>
    dsimp only
    split
    next hx => exact restart_pushes nofun (by simpa [mayFollow] using hx)
    next hx =>
      replace hx : isSecond a x = true := by simpa using hx
      split
      next hwidth => exact .completes (.two (by simpa using hwidth) hx)
      next hwidth =>
        exact .grows (begun_iff.mpr (.two (by simp at hwidth; omega) hx))
  | @two a b ha hb =>
    dsimp only
    split
    next hx => exact restart_pushes nofun (by simpa [mayFollow] using hx)
    next hx =>
      replace hx : isTail x = true := by simpa using hx
      split
      next hwidth => exact .completes (.three (by simpa using hwidth) hb hx)
      next hwidth =>
        have hle := width_le_four a
        exact .grows (begun_iff.mpr (.three (by simp at hwidth; omega) hb hx))
  | @three a b c ha hb hc =>
    dsimp only
    split
    next hx => exact restart_pushes nofun (by simpa [mayFollow] using hx)
    next hx => exact .completes (.four ha hb hc (by simpa using hx))

theorem Pushes.begun (h : Pushes held x text held') : Begun held' := by
  induction h with
  | grows h => exact h
  | completes h => exact begun_iff.mpr .none
  | stray hx => exact begun_iff.mpr .none
  | breaks hheld hx h ih => exact ih

/-! ### The same byte in the whole -/

/-- A byte that begins no character gives one replacement. -/
theorem decode_stray (hx : width x = 0) : decode (x :: xs) = replacement :: decode xs := by
  rw [decode]
  simp [hx]

/-- The bytes of a character give it. -/
theorem Makes.decode (h : Makes bytes c) (xs : List UInt8) :
    decode (bytes ++ xs) = c :: decode xs := by
  cases h with
  | one ha =>
    rw [List.singleton_append, Utf8.decode]
    simp [ha]
  | two ha hb =>
    simp only [List.cons_append, List.nil_append]
    rw [Utf8.decode]
    simp [ha, hb]
  | three ha hb hc =>
    simp only [List.cons_append, List.nil_append]
    rw [Utf8.decode]
    simp [ha, hb, hc]
  | four ha hb hc hd =>
    simp only [List.cons_append, List.nil_append]
    rw [Utf8.decode]
    simp [ha, hb, hc, hd]

/-- Bytes that break a character off in front of them give one replacement for what has begun. -/
theorem decode_broken (h : Begun held) (hheld : held ≠ []) (hx : mayFollow held x = false) :
    decode (held ++ x :: xs) = replacement :: decode (x :: xs) := by
  cases begun_iff.mp h with
  | none => contradiction
  | @one a ha =>
    obtain ⟨n, hn⟩ := Nat.exists_eq_add_of_le' ha
    rw [List.singleton_append, decode]
    simp_all [mayFollow]
  | @two a b ha hb =>
    obtain ⟨n, hn⟩ := Nat.exists_eq_add_of_le' ha
    simp only [List.cons_append, List.nil_append]
    rw [decode]
    simp_all [mayFollow]
  | three ha hb hc =>
    simp only [List.cons_append, List.nil_append]
    rw [decode]
    simp_all [mayFollow]

/-- A character that is broken off by the end of the bytes gives one replacement. -/
theorem decode_cut (h : Begun held) (hheld : held ≠ []) : decode held = [replacement] := by
  cases begun_iff.mp h with
  | none => contradiction
  | @one a ha =>
    obtain ⟨n, hn⟩ := Nat.exists_eq_add_of_le' ha
    rw [decode]
    simp_all
  | @two a b ha hb =>
    obtain ⟨n, hn⟩ := Nat.exists_eq_add_of_le' ha
    rw [decode]
    simp_all
  | three ha hb hc =>
    rw [decode]
    simp_all

theorem decode_finish (h : Begun d.held) : decode d.held = d.finish := by
  by_cases hheld : d.held = []
  · simp [Decoder.finish, hheld, decode]
  · simp [Decoder.finish, hheld, decode_cut h]

theorem Pushes.decode (h : Pushes held x text held') (hheld : Begun held) (xs : List UInt8) :
    decode (held ++ x :: xs) = text ++ Utf8.decode (held' ++ xs) := by
  induction h with
  | grows h => simp
  | completes h => simpa using h.decode xs
  | stray hx => simpa using decode_stray hx
  | breaks hne hx h ih =>
    rw [decode_broken hheld hne hx, List.cons_append, ← ih (begun_iff.mpr .none), List.nil_append]

theorem decode_step (h : Begun d.held) (x : UInt8) (xs : List UInt8) :
    decode (d.held ++ x :: xs) = (d.push x).1 ++ decode ((d.push x).2.held ++ xs) :=
  (push_pushes h x).decode h xs

/-! ### Which bytes are held back -/

theorem Begun.of_append (h : Begun (xs ++ ys)) : Begun xs := by
  obtain ⟨c, rest, hrest, h⟩ := h
  exact ⟨c, ys ++ rest, by simp [hrest], by rw [h, List.append_assoc]⟩

/-- The bytes of a character are not those of one that goes on. -/
theorem Makes.not_begun (h : Makes bytes c) : ¬Begun bytes := by
  rw [begun_iff]
  cases h with
  | one ha => rintro ⟨⟩; omega
  | two ha => rintro ⟨⟩; omega
  | three ha => rintro ⟨⟩; omega
  | four => nofun

theorem Begun.mayFollow (h : Begun (held ++ [x])) (hheld : held ≠ []) :
    mayFollow held x = true := by
  cases begun_iff.mp h.of_append with
  | none => contradiction
  | one => cases begun_iff.mp h with | two _ hb => exact hb
  | two => cases begun_iff.mp h with | three _ _ hc => exact hc
  | three => cases begun_iff.mp h

theorem Makes.mayFollow (h : Makes (held ++ [x]) c) (hheld : held ≠ []) :
    Utf8.mayFollow held x = true := by
  have hbegun : Begun held := ⟨c, [x], nofun, h.encoding⟩
  cases begun_iff.mp hbegun with
  | none => contradiction
  | one => cases h with | two _ hb => exact hb
  | two => cases h with | three _ _ hc => exact hc
  | three => cases h with | four _ _ _ hd => exact hd

/-- No byte both begins a character of several bytes and goes on with one. -/
theorem Begun.not_mayFollow (h : Begun [x]) (held : List UInt8) :
    Utf8.mayFollow held x = false := by
  cases begun_iff.mp h with
  | one hx =>
    have hlead : 0xC2 ≤ x.toNat := by
      have hle := width_le_four x
      obtain hx | hx | hx : width x = 2 ∨ width x = 3 ∨ width x = 4 := by omega
      · exact (width_eq_two.mp hx).1
      · exact Nat.le_trans (by decide) (width_eq_three.mp hx).1
      · exact Nat.le_trans (by decide) (width_eq_four.mp hx).1
    rw [Bool.eq_false_iff]
    intro htail
    have hle : x.toNat ≤ 0xBF := by
      unfold Utf8.mayFollow at htail
      split at htail
      · exact (isSecond_iff.mp htail).1.2
      · exact (isTail_iff.mp htail).2
    omega

/-- A byte that goes on with the held bytes is held with them. -/
theorem Pushes.eq_append (h : Pushes held x text held') (hbegun : Begun (held ++ [x])) :
    held' = held ++ [x] := by
  cases h with
  | grows => rfl
  | completes h => exact absurd hbegun h.not_begun
  | stray hx => cases begun_iff.mp hbegun with | one hle => omega
  | breaks hne hx => simp [hbegun.mayFollow hne] at hx

/-- A byte that begins a character of several bytes is held. -/
theorem Pushes.eq_singleton (h : Pushes held x text held') (hbegun : Begun [x]) : held' = [x] := by
  by_cases hne : held = []
  · subst hne
    exact h.eq_append hbegun
  have hnot := hbegun.not_mayFollow held
  cases h with
  | grows h => simp [h.mayFollow hne] at hnot
  | completes h => simp [h.mayFollow hne] at hnot
  | stray hx => contradiction
  | breaks _ _ h => exact h.eq_append hbegun

/-- A byte settles all bytes, or all but itself, or none. -/
theorem Pushes.held_cases (h : Pushes held x text held') :
    held' = [] ∨ (text = Decoder.finish ⟨held⟩ ∧ held' = [x])
      ∨ (text = [] ∧ held' = held ++ [x]) := by
  induction h with
  | grows h => exact .inr (.inr ⟨rfl, rfl⟩)
  | completes h => exact .inl rfl
  | stray hx => exact .inl rfl
  | @breaks held held' x text hne hx h ih =>
    have hfinish : Decoder.finish ⟨held⟩ = [replacement] := by simp [Decoder.finish, hne]
    obtain ih | ih | ih := ih
    · exact .inl ih
    · exact .inr (.inl ⟨by rw [ih.1, hfinish]; rfl, ih.2⟩)
    · exact .inr (.inl ⟨by simp [ih.1, hfinish], ih.2⟩)

/-! ### Any number of bytes -/

/-- A decoder that started with nothing held has read the bytes and given the text. -/
structure Reads (bytes : List UInt8) (text : List Char) (d : Decoder) : Prop where
  begun : Begun d.held
  /-- Whatever bytes follow, they are read behind the held ones. -/
  onward : ∀ xs, decode (bytes ++ xs) = text ++ decode (d.held ++ xs)
  settled : ∃ settled, settled ++ d.held = bytes ∧ decode settled = text
  longest : ∀ tail, tail <:+ bytes → Begun tail → tail ≠ [] → tail = d.held

theorem Reads.nil : Reads [] [] {} where
  begun := begun_iff.mpr .none
  onward _ := rfl
  settled := ⟨[], rfl, by rw [decode]⟩
  longest tail htail _ hne := absurd (List.suffix_nil.mp htail) hne

theorem Reads.push (h : Reads bytes text d) (x : UInt8) :
    Reads (bytes ++ [x]) (text ++ (d.push x).1) (d.push x).2 := by
  have hpush := push_pushes h.begun x
  have honward : ∀ xs, decode (bytes ++ [x] ++ xs)
      = text ++ (d.push x).1 ++ decode ((d.push x).2.held ++ xs) := fun xs => by
    rw [List.append_assoc, List.singleton_append, h.onward, decode_step h.begun, List.append_assoc]
  refine ⟨hpush.begun, honward, ?_, ?_⟩
  · -- the byte settles all bytes, those in front of it, or no more than were settled
    obtain ⟨settled, hbytes, htext⟩ := h.settled
    obtain hheld | ⟨hgiven, hheld⟩ | ⟨hgiven, hheld⟩ := hpush.held_cases
    · refine ⟨bytes ++ [x], by simp [hheld], ?_⟩
      simpa [hheld, decode] using honward []
    · refine ⟨bytes, by simp [hheld], ?_⟩
      have hend := h.onward []
      rw [List.append_nil, List.append_nil, decode_finish h.begun] at hend
      rw [hend, hgiven]
    · refine ⟨settled, ?_, by rw [htext, hgiven, List.append_nil]⟩
      rw [hheld, ← List.append_assoc, hbytes]
  · -- an end that has begun a character is the byte alone, or goes on with what was held
    intro tail htail hbegun hne
    obtain rfl | ⟨front, rfl, hfront⟩ := List.suffix_concat_iff.mp htail
    · contradiction
    by_cases hempty : front = []
    · subst hempty
      exact (hpush.eq_singleton hbegun).symm
    · obtain rfl := h.longest front hfront hbegun.of_append hempty
      exact (hpush.eq_append hbegun).symm

theorem Reads.feed (h : Reads bytes text d) (xs : List UInt8) :
    Reads (bytes ++ xs) (text ++ (d.feed xs).1) (d.feed xs).2 := by
  induction xs generalizing bytes text d with
  | nil => simpa using h
  | cons x xs ih => simpa [Decoder.feed_cons] using ih (h.push x)

theorem reads_feed (bytes : List UInt8) :
    Reads bytes (Decoder.feed {} bytes).1 (Decoder.feed {} bytes).2 :=
  Reads.nil.feed bytes

/-! ### Whole texts -/

/-- The bytes of a character give it, and nothing is held behind them. -/
theorem Makes.feed (h : Makes bytes c) : Decoder.feed {} bytes = ([c], {}) := by
  cases h with
  | one ha => simp [Decoder.feed, Decoder.push, Decoder.begin, ha]
  | two ha hb => simp [Decoder.feed, Decoder.push, Decoder.begin, ha, hb]
  | three ha hb hc => simp [Decoder.feed, Decoder.push, Decoder.begin, ha, hb, hc]
  | four ha hb hc hd => simp [Decoder.feed, Decoder.push, Decoder.begin, ha, hb, hc, hd]

/-- **The bytes of a text give the text, and nothing is held behind them.** -/
theorem feed_encode (s : String) : Decoder.feed {} (encode s) = (s.toList, {}) := by
  rw [encode_eq]
  induction s.toList with
  | nil => rfl
  | cons c cs ih =>
    rw [List.flatMap_cons, Decoder.feed_append, (makes_encoding c).feed, ih]
    rfl

/-! ### Any pieces -/

/-- The bytes do not end within a character. -/
def Complete (bytes : List UInt8) : Prop := ∀ tail, tail <:+ bytes → Begun tail → tail = []

theorem complete_iff (h : Reads bytes text d) : Complete bytes ↔ d.held = [] := by
  obtain ⟨settled, hbytes, -⟩ := h.settled
  constructor
  · intro hcomplete
    exact hcomplete d.held ⟨settled, hbytes⟩ h.begun
  · intro hheld tail htail hbegun
    by_cases hne : tail = []
    · exact hne
    · rw [h.longest tail htail hbegun hne, hheld]

theorem Begun.length_le (h : Begun held) : held.length ≤ 3 := by
  cases begun_iff.mp h <;> simp

/-- What a decoder that has read the bytes has given, and what it holds back. -/
structure Holds (bytes : List UInt8) (text : List Char) (d : Decoder) : Prop where
  /-- The text so far is that of all bytes but the held ones. -/
  settled : ∃ settled, settled ++ d.held = bytes ∧ decode settled = text
  short : d.held.length ≤ 3
  begun : Begun d.held
  /-- Nothing is held when no character is cut. -/
  complete : Complete bytes ↔ d.held = []
  /-- The end of the bytes gives one replacement for a character that is cut. -/
  ended : d.finish = if d.held = [] then [] else [replacement]

theorem Reads.holds (h : Reads bytes text d) : Holds bytes text d where
  settled := h.settled
  short := h.begun.length_le
  begun := h.begun
  complete := complete_iff h
  ended := by simp [Decoder.finish]

theorem reads_feedAll (pieces : List (List UInt8)) :
    Reads pieces.flatten (Decoder.feedAll {} pieces).1.flatten (Decoder.feedAll {} pieces).2 := by
  have h := reads_feed pieces.flatten
  rwa [Decoder.feedAll_flatten] at h

/-- The texts of pieces and of their end are the text of all bytes. -/
theorem decode_eq_feedAll (pieces : List (List UInt8)) :
    decode pieces.flatten
      = (Decoder.feedAll {} pieces).1.flatten ++ (Decoder.feedAll {} pieces).2.finish := by
  have h := reads_feedAll pieces
  have hend := h.onward []
  rwa [List.append_nil, List.append_nil, decode_finish h.begun] at hend

/-- Between two pieces, all bytes can be cut so that the texts on either side are those of the bytes
there. -/
theorem feedAll_split {pieces : List (List UInt8)} {texts others : List (List Char)}
    (hcut : (Decoder.feedAll {} pieces).1 = texts ++ others) :
    ∃ front rest, front ++ rest = pieces.flatten ∧ decode front = texts.flatten
      ∧ decode rest = others.flatten ++ (Decoder.feedAll {} pieces).2.finish := by
  have hpieces := List.take_append_drop texts.length pieces
  have h := reads_feedAll (pieces.take texts.length)
  rw [Decoder.feedAll_take, hcut, List.take_left] at h
  generalize (Decoder.feedAll {} (pieces.take texts.length)).2 = d at h
  obtain ⟨front, hbytes, htext⟩ := h.settled
  refine ⟨front, d.held ++ (pieces.drop texts.length).flatten, ?_, htext, ?_⟩
  · rw [← List.append_assoc, hbytes, ← List.flatten_append, hpieces]
  -- What the held bytes and the later ones give is what the texts so far lack of the whole.
  · have honward := h.onward (pieces.drop texts.length).flatten
    have hwhole := decode_eq_feedAll pieces
    rw [hcut, List.flatten_append, List.append_assoc] at hwhole
    rw [← List.flatten_append, hpieces, hwhole] at honward
    exact (List.append_cancel_left honward).symm

/-- **Reading in pieces is reading the whole.** The texts of the pieces and of the end are the text
of all bytes; behind each piece, all bytes are settled but a held end of at most three, which has
begun a character and is empty if no character is cut; and the bytes of a text, however they are
cut, give the text. -/
theorem pieces_decode (pieces : List (List UInt8)) :
    (Decoder.feedAll {} pieces).1.flatten ++ (Decoder.feedAll {} pieces).2.finish
      = decode pieces.flatten
    ∧ (∀ k, Holds (pieces.take k).flatten ((Decoder.feedAll {} pieces).1.take k).flatten
      (Decoder.feedAll {} (pieces.take k)).2)
    ∧ ∀ s, pieces.flatten = encode s →
      (Decoder.feedAll {} pieces).1.flatten = s.toList
      ∧ (Decoder.feedAll {} pieces).2.finish = [] := by
  refine ⟨(decode_eq_feedAll pieces).symm, fun k => ?_, fun s hs => ?_⟩
  · have h := (reads_feedAll (pieces.take k)).holds
    rwa [Decoder.feedAll_take] at h
  · have h := Decoder.feedAll_flatten (d := {}) pieces
    rw [hs, feed_encode, Prod.mk.injEq] at h
    rw [← h.1, ← h.2]
    exact ⟨rfl, rfl⟩

/-- A character cut between two pieces, with an empty piece between them. -/
theorem pieces_decode_cut :
    [[0x6F, 0xC3], [], [0xA9]].flatten = encode "oé"
    ∧ (Decoder.feedAll {} [[0x6F, 0xC3], [], [0xA9]]).1.flatten = "oé".toList
    ∧ (Decoder.feedAll {} [[0x6F, 0xC3], [], [0xA9]]).2.finish = [] := by
  have hencode : [[0x6F, 0xC3], [], [0xA9]].flatten = encode "oé" := by
    rw [encode_eq]
    decide
  exact ⟨hencode, (pieces_decode [[0x6F, 0xC3], [], [0xA9]]).2.2 "oé" hencode⟩

end Tilde.Utf8
