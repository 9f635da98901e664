import Tilde.Eval.Method
import Tilde.Value.Arith

/-!
# Splitting and joining at a separator

A separator is looked for from left to right, and the search goes on behind what it has found. So
occurrences that overlap do not count twice, and of two ways to cut a text there is one that takes
the first occurrence every time. This is a relation between a text and its pieces (`Cut`), and all
that is said here of splitting, joining and replacing is said of it: the pieces that splitting finds
are a cut, joining undoes every cut, and replacing joins the pieces of every cut with the new text.
-/

namespace Tilde.Text

/-- A separator does not begin anywhere in the piece, the first part of the text. -/
def Clear (sep piece text : List Char) : Prop :=
  ∀ k < piece.length, ¬sep <+: text.drop k

/-- The pieces of a text that is cut wherever the separator is found, from left to right. -/
inductive Cut (sep : List Char) : List Char → List (List Char) → Prop
  /-- The separator does not occur any more. -/
  | last {piece : List Char} : Clear sep piece piece → Cut sep piece [piece]
  /-- The first occurrence stands behind the piece. -/
  | next {piece rest : List Char} {pieces : List (List Char)} :
      Clear sep piece (piece ++ (sep ++ rest)) → Cut sep rest pieces →
      Cut sep (piece ++ (sep ++ rest)) (piece :: pieces)

variable {sep piece text rest : List Char} {pieces : List (List Char)} {a c : Char}

theorem afterFront?_eq_some : afterFront? sep text = some rest ↔ text = sep ++ rest := by
  induction sep generalizing text with
  | nil => rw [afterFront?, Option.some.injEq, List.nil_append]
  | cons a sep ih =>
    cases text with
    | nil => simp [afterFront?]
    | cons c text =>
      rw [afterFront?, List.cons_append, List.cons.injEq]
      by_cases h : a = c
      · rw [if_pos h, ih, h, and_iff_right rfl]
      · rw [if_neg h]
        exact iff_of_false (by rintro ⟨⟩) fun hcons => h hcons.1.symm

theorem afterFront?_eq_none (h : afterFront? sep text = none) : ¬sep <+: text := by
  rintro ⟨rest, rfl⟩
  rw [afterFront?_eq_some.mpr rfl] at h
  cases h

/-! ## Pieces without the separator -/

theorem Clear.nil : Clear sep [] text := fun _ h => absurd h (Nat.not_lt_zero _)

/-- A character at which the separator does not begin is one more of the piece. -/
theorem Clear.snoc (h : Clear sep piece (piece ++ c :: rest)) (hfront : ¬sep <+: c :: rest) :
    Clear sep (piece ++ [c]) (piece ++ c :: rest) := by
  intro k hk
  rw [List.length_append, List.length_singleton] at hk
  by_cases hlast : k = piece.length
  · rwa [hlast, List.drop_left]
  · exact h k (by omega)

theorem Clear.tail (h : Clear sep (c :: piece) (c :: text)) : Clear sep piece text :=
  fun k hk => h (k + 1) (Nat.succ_lt_succ hk)

/-- Where the separator stands, it is behind the piece. -/
theorem Clear.length_le {front back : List Char} (h : Clear sep piece (front ++ (sep ++ back))) :
    piece.length ≤ front.length := by
  refine Nat.le_of_not_lt fun hlt => h front.length hlt ?_
  rw [List.drop_left]
  exact List.prefix_append _ _

/-- A piece in front of the first occurrence does not contain the separator. -/
theorem Clear.not_infix (hsep : sep ≠ []) (h : Clear sep piece (piece ++ text)) :
    ¬sep <:+: piece := by
  rintro ⟨front, back, rfl⟩
  rw [List.append_assoc, List.append_assoc, List.append_assoc] at h
  have hlength := h.length_le
  rw [← List.append_assoc, List.length_append, List.length_append] at hlength
  have hpos := List.length_pos_iff.mpr hsep
  omega

/-! ## Cuts -/

/-- **What splitting finds is a cut.** The characters of the piece that are read already have the
separator nowhere. -/
theorem splitFrom_cut (h : Clear (a :: sep) piece.reverse (piece.reverse ++ text)) :
    Cut (a :: sep) (piece.reverse ++ text) (splitFrom a sep piece text) := by
  fun_induction splitFrom a sep piece text with
  | case1 piece =>
    rw [List.append_nil] at h ⊢
    exact .last h
  | case2 piece c cs rest found ih =>
    rw [afterFront?_eq_some.mp found] at h ⊢
    exact .next h (ih .nil)
  | case3 piece c cs found ih =>
    rw [List.reverse_cons, List.append_assoc, List.singleton_append] at ih
    exact ih (h.snoc (afterFront?_eq_none found))

theorem split_cut (hsep : sep ≠ []) (text : List Char) : Cut sep text (split sep text) := by
  cases sep with
  | nil => exact absurd rfl hsep
  | cons a sep =>
    have hnone : Clear (a :: sep) [].reverse ([].reverse ++ text) := .nil
    exact splitFrom_cut hnone

namespace Cut

theorem ne_nil (h : Cut sep text pieces) : pieces ≠ [] := by
  cases h <;> rintro ⟨⟩

/-- A piece in front of others, with the new text between. -/
theorem join_cons (h : Cut sep text pieces) (new : List Char) :
    join new (piece :: pieces) = piece ++ (new ++ join new pieces) := by
  cases pieces with
  | nil => exact absurd rfl h.ne_nil
  | cons _ _ => rw [join, List.intercalate_cons_cons, ← List.append_assoc]; rfl

/-- Joining with the separator undoes a cut. -/
theorem join_eq (h : Cut sep text pieces) : join sep pieces = text := by
  induction h with
  | last _ => exact List.intercalate_singleton
  | next _ hrest ih => rw [hrest.join_cons, ih]

/-- The separator is in no piece. -/
theorem not_infix (hsep : sep ≠ []) (h : Cut sep text pieces) : ∀ p ∈ pieces, ¬sep <:+: p := by
  induction h with
  | last hclear =>
    rw [List.forall_mem_singleton]
    exact Clear.not_infix hsep (by rwa [List.append_nil])
  | next hclear _ ih => exact List.forall_mem_cons.mpr ⟨hclear.not_infix hsep, ih⟩

/-- There is one cut: each piece ends where the separator is found first. -/
theorem unique {pieces' : List (List Char)} (hsep : sep ≠ []) (h : Cut sep text pieces)
    (h' : Cut sep text pieces') : pieces = pieces' := by
  -- a text in which the separator stands is no last piece
  have hlast : ∀ {piece rest : List Char},
      ¬Clear sep (piece ++ (sep ++ rest)) (piece ++ (sep ++ rest)) := by
    intro piece rest hclear
    have hlength := hclear.length_le
    have hpos := List.length_pos_iff.mpr hsep
    rw [List.length_append, List.length_append] at hlength
    omega
  induction h generalizing pieces' with
  | @last piece hclear =>
    cases h' with
    | last _ => rfl
    | next _ _ => exact absurd hclear hlast
  | @next piece rest pieces hclear hrest ih =>
    generalize htext : piece ++ (sep ++ rest) = text at h'
    cases h' with
    | last hclear' => exact absurd (htext ▸ hclear') hlast
    | @next piece' rest' pieces' hclear' hrest' =>
      have hle := (htext ▸ hclear).length_le
      have hge := (htext.symm ▸ hclear').length_le
      obtain ⟨rfl, hrests⟩ := List.append_inj htext (Nat.le_antisymm hle hge)
      obtain rfl := List.append_cancel_left hrests
      rw [ih hrest']

end Cut

/-- Replacing goes past the characters in front of the first occurrence. -/
theorem replaceFrom_clear (new : List Char) (h : Clear (a :: sep) piece (piece ++ text)) :
    replaceFrom a sep new (piece ++ text) = piece ++ replaceFrom a sep new text := by
  induction piece with
  | nil => rfl
  | cons c piece ih =>
    have hfront : ¬a :: sep <+: c :: (piece ++ text) := h 0 (Nat.succ_pos _)
    rw [List.cons_append, replaceFrom]
    split
    · next rest found => exact absurd ⟨rest, (afterFront?_eq_some.mp found).symm⟩ hfront
    · rw [ih h.tail, List.cons_append]

/-- Replacing puts the new text between the pieces of a cut. -/
theorem Cut.replace_eq (h : Cut sep text pieces) (hsep : sep ≠ []) (new : List Char) :
    replace sep new text = join new pieces := by
  cases sep with
  | nil => exact absurd rfl hsep
  | cons a sep =>
    change replaceFrom a sep new text = _
    induction h with
    | @last piece hclear =>
      have hend : replaceFrom a sep new [] = [] := by rw [replaceFrom]
      have hbare : Clear (a :: sep) piece (piece ++ []) := by rwa [List.append_nil]
      have hpiece := replaceFrom_clear new hbare
      rw [hend, List.append_nil] at hpiece
      rw [hpiece]
      exact List.intercalate_singleton.symm
    | @next piece rest pieces hclear hrest ih =>
      have hfound : afterFront? (a :: sep) (a :: (sep ++ rest)) = some rest :=
        afterFront?_eq_some.mpr rfl
      rw [replaceFrom_clear new hclear, hrest.join_cons, ← ih, List.cons_append, replaceFrom]
      split
      · next rest' found =>
        rw [hfound] at found
        rw [Option.some.inj found]
      · next found =>
        rw [hfound] at found
        cases found

theorem contains_iff : contains sep text = true ↔ sep <:+: text := by
  induction text with
  | nil => rw [contains, List.isEmpty_iff, List.infix_nil]
  | cons c text ih =>
    rw [contains, Bool.or_eq_true, List.isPrefixOf_iff_prefix, ih, List.infix_cons_iff]

end Tilde.Text

/-! ## Methods -/

namespace Tilde.Method

/-- Strings may be joined. -/
theorem pieces_strings (i : Nat) (ps : List String) : pieces i (ps.map .str) = .ok ps := by
  induction ps generalizing i with
  | nil => rfl
  | cons p ps ih =>
    rw [List.map_cons, pieces, ih]
    rfl

theorem call_split {sep : String} (hsep : sep ≠ "") (s : String) :
    split.call s ⟨[.str sep], []⟩ = .ok (.ofPieces (Text.split sep.toList s.toList)) := by
  have hempty : ¬sep.isEmpty = true := mt String.isEmpty_iff.mp hsep
  have hcall : split.call s ⟨[.str sep], []⟩ = if sep.isEmpty then .error .emptySeparator
    else .ok (.ofPieces (Text.split sep.toList s.toList)) := rfl
  rw [hcall, if_neg hempty]

theorem call_join (sep : String) (ps : List String) :
    join.call sep ⟨[.list (ps.map .str)], []⟩ = .ok (.str (sep.intercalate ps)) := by
  have hcall : join.call sep ⟨[.list (ps.map .str)], []⟩
      = (pieces 0 (ps.map .str)).map fun ps => .str (sep.intercalate ps) := rfl
  rw [hcall, pieces_strings]
  rfl

theorem call_replace (s old new : String) : replace.call s ⟨[.str old, .str new], []⟩
    = .ok (.str (String.ofList (Text.replace old.toList new.toList s.toList))) := rfl

/-- The characters of joined strings are those of the strings, joined. -/
theorem toList_intercalate_ofList (new : String) (ps : List (List Char)) :
    (new.intercalate (ps.map String.ofList)).toList = Text.join new.toList ps := by
  rw [String.toList_intercalate, List.map_map]
  have hid : String.toList ∘ String.ofList = id := funext fun _ => String.toList_ofList
  rw [hid, List.map_id]
  rfl

/--
**Splitting, joining and replacing take the same occurrences.**

Splitting at a separator that is not empty gives the one cut of the text that takes the first
occurrence from left to right every time. No piece contains the separator, joining the pieces with
it gives the text back, and joining them with another text is what replacing the separator by that
text gives. An empty separator is a `ValueError`.
-/
theorem split_agrees (s sep : String) :
    (sep = "" → ∃ f, split.call s ⟨[.str sep], []⟩ = .error f ∧ f.kind = .valueError)
      ∧ (sep ≠ "" → ∃ ps : List String,
        split.call s ⟨[.str sep], []⟩ = .ok (.list (ps.map .str))
          ∧ (∀ cut, Text.Cut sep.toList s.toList cut ↔ cut = ps.map String.toList)
          ∧ join.call sep ⟨[.list (ps.map .str)], []⟩ = .ok (.str s)
          ∧ (∀ p ∈ ps, Value.compared .isIn (.str sep) (.str p) = .ok false)
          ∧ ∀ new : String, ∃ t, replace.call s ⟨[.str sep, .str new], []⟩ = .ok (.str t)
            ∧ join.call new ⟨[.list (ps.map .str)], []⟩ = .ok (.str t)) := by
  refine ⟨?_, fun hsep => ?_⟩
  · rintro rfl
    exact ⟨.emptySeparator, rfl, rfl⟩
  · have hne : sep.toList ≠ [] := mt String.toList_eq_nil_iff.mp hsep
    -- a text has one cut by a separator, and everything else follows from it
    have hcut := Text.split_cut hne s.toList
    have hpieces : ((Text.split sep.toList s.toList).map String.ofList).map String.toList
        = Text.split sep.toList s.toList := by
      simp only [List.map_map, Function.comp_def, String.toList_ofList, List.map_id']
    refine ⟨(Text.split sep.toList s.toList).map String.ofList, ?_, fun cut => ?_, ?_, ?_,
      fun new => ⟨_, call_replace .., ?_⟩⟩
    · rw [call_split hsep, Value.ofPieces, List.map_map]
      rfl
    · rw [hpieces]
      exact ⟨fun h => h.unique hne hcut, fun h => h ▸ hcut⟩
    · have hjoin := String.toList_inj.mp ((toList_intercalate_ofList sep _).trans hcut.join_eq)
      rw [call_join, hjoin]
    · intro p hp
      obtain ⟨cs, hcs, rfl⟩ := List.mem_map.mp hp
      have hnot := mt Text.contains_iff.mp (hcut.not_infix hne cs hcs)
      change Except.ok (Text.contains sep.toList (String.ofList cs).toList) = _
      rw [String.toList_ofList, Bool.eq_false_iff.mpr hnot]
    · rw [call_join, ← String.ofList_toList (s := new.intercalate _), toList_intercalate_ofList,
        hcut.replace_eq hne]

/-- The theorem at a separator that overlaps itself. -/
theorem split_agrees_of_overlap : "aa" ≠ "" ∧ ∃ ps : List String,
    split.call "aaaba" ⟨[.str "aa"], []⟩ = .ok (.list (ps.map .str)) ∧ ps = ["", "aba"]
      ∧ join.call "aa" ⟨[.list (ps.map .str)], []⟩ = .ok (.str "aaaba") := by
  have hsep : "aa" ≠ "" := by decide
  obtain ⟨ps, hsplit, hcut, hjoin, -, -⟩ := (split_agrees "aaaba" "aa").2 hsep
  have hlast : Text.Clear "aa".toList "aba".toList "aba".toList := by
    unfold Text.Clear
    decide
  have hpieces : Text.Cut "aa".toList "aaaba".toList [[], "aba".toList] := .next .nil (.last hlast)
  have hps : ["", "aba"].map String.toList = ps.map String.toList := (hcut _).mp hpieces
  have hinj : ∀ a b : String, a.toList = b.toList → a = b := fun _ _ => String.toList_inj.mp
  exact ⟨hsep, ps, hsplit, ((List.map_inj_right hinj).mp hps).symm, hjoin⟩

end Tilde.Method
