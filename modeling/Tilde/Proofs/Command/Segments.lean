import Mathlib.Logic.ExistsUnique
import Tilde.Shell.Quote

/-!
# The segments of a command text

As far as quotes go, a text is a row of segments: single characters that are no quotes, and quoted
segments, each of which runs up to the next quote of its own kind and holds the other kind like any
character. The last quoted segment may lack its end.

The segments are what a scan gathers that takes one character after the other (`Segmentation.push`),
and since the scan of any segmentation's text gives the segmentation again, there is no other way to
cut the text up. The scanner of quotes keeps of all this only the kind of segment it is in
(`span_push`). It looks at a character from both sides, before reading it and after, which makes
both quotes of a segment belong to it.
-/

namespace Tilde.Shell

/-- A character that begins a quoted segment and ends it. -/
inductive QuoteMark where
  | single
  | double
  deriving DecidableEq, Repr

namespace QuoteMark

/-- The mark as it is written. -/
def char : QuoteMark → Char
  | single => '\''
  | double => '"'

/-- The span that a mark opens. -/
def span : QuoteMark → Span
  | single => .single
  | double => .double

/-- The mark that a character is, if it is one. -/
def of? (c : Char) : Option QuoteMark :=
  if c = '\'' then some .single else if c = '"' then some .double else none

end QuoteMark

/-- A segment that begins with a quote and has not come to its end. -/
structure OpenSegment where
  mark : QuoteMark
  body : List Char
  unclosed : mark.char ∉ body

/-- A piece of a command text: a character that is no quote, or a quote with all that follows up to
the next quote of its kind. -/
inductive Segment where
  | plain (c : Char) (h : QuoteMark.of? c = none)
  | quoted (s : OpenSegment)

/-- A text cut into segments, the last one possibly without its end. -/
structure Segmentation where
  segments : List Segment
  rest : Option OpenSegment

namespace OpenSegment

/-- The characters of a segment so far, with the quote that begins it. -/
def text (s : OpenSegment) : List Char := s.mark.char :: s.body

/-- One character more. -/
def push (s : OpenSegment) (c : Char) (h : c ≠ s.mark.char) : OpenSegment where
  mark := s.mark
  body := s.body ++ [c]
  unclosed := by simpa [s.unclosed] using h.symm

end OpenSegment

/-- The characters of a segment, its quotes included. -/
def Segment.text : Segment → List Char
  | plain c _ => [c]
  | quoted s => s.text ++ [s.mark.char]

namespace Segmentation

/-- The text that is cut up. -/
def text (s : Segmentation) : List Char :=
  s.segments.flatMap Segment.text ++ s.rest.elim [] OpenSegment.text

/-- The span that a text appended to the segments would be in. -/
def span (s : Segmentation) : Span := s.rest.elim .plain fun r => r.mark.span

/-- One character more. -/
def push (s : Segmentation) (c : Char) : Segmentation :=
  match s.rest with
  | none =>
    match h : QuoteMark.of? c with
    | none => ⟨s.segments ++ [.plain c h], none⟩
    | some q => ⟨s.segments, some ⟨q, [], List.not_mem_nil⟩⟩
  | some r =>
    if h : c = r.mark.char then ⟨s.segments ++ [.quoted r], none⟩
    else ⟨s.segments, some (r.push c h)⟩

/-- The segments of a text. -/
def of (cs : List Char) : Segmentation := cs.foldl push ⟨[], none⟩

end Segmentation

namespace QuoteMark

theorem of?_char (q : QuoteMark) : of? q.char = some q := by
  cases q <;> rfl

theorem of?_eq_some {c : Char} {q : QuoteMark} (h : of? c = some q) : c = q.char := by
  unfold of? at h
  split at h
  · cases h
    assumption
  · split at h
    · cases h
      assumption
    · cases h

theorem span_eq_single (q : QuoteMark) : (q.span == .single) = (q == .single) := by
  cases q <;> rfl

theorem ne_char_of_none {c : Char} (h : of? c = none) (q : QuoteMark) : c ≠ q.char := by
  rintro rfl
  rw [of?_char] at h
  cases h

end QuoteMark

namespace Span

theorem next_plain {c : Char} (h : QuoteMark.of? c = none) : plain.next c = plain := by
  have hsingle : c ≠ '\'' := QuoteMark.ne_char_of_none h .single
  have hdouble : c ≠ '"' := QuoteMark.ne_char_of_none h .double
  unfold next
  split <;> simp_all

theorem next_opening (q : QuoteMark) : plain.next q.char = q.span := by
  cases q <;> rfl

theorem next_closing (q : QuoteMark) : q.span.next q.char = plain := by
  cases q <;> rfl

theorem next_within {q : QuoteMark} {c : Char} (h : c ≠ q.char) : q.span.next c = q.span := by
  cases q with
  | single | double =>
    unfold next
    split <;> simp_all [QuoteMark.span, QuoteMark.char]

end Span

/-! ## Cutting a text up -/

namespace Segmentation

variable {segments : List Segment} {r : OpenSegment} {c : Char}

theorem push_plain (h : QuoteMark.of? c = none) :
    push ⟨segments, none⟩ c = ⟨segments ++ [.plain c h], none⟩ := by
  unfold push
  split
  · split
    · rfl
    · next q hq => rw [h] at hq; cases hq
  · next hrest => cases hrest

theorem push_opening (q : QuoteMark) :
    push ⟨segments, none⟩ q.char = ⟨segments, some ⟨q, [], List.not_mem_nil⟩⟩ := by
  cases q <;> rfl

theorem push_closing :
    push ⟨segments, some r⟩ r.mark.char = ⟨segments ++ [.quoted r], none⟩ := by
  simp only [push, dif_pos]

theorem push_within (h : c ≠ r.mark.char) :
    push ⟨segments, some r⟩ c = ⟨segments, some (r.push c h)⟩ := by
  simp only [push, dif_neg h]

/-- What one character more does to a cut-up text: it is a segment of its own, begins a quoted one,
ends one or goes on within it. -/
theorem push_cases {P : Segmentation → Char → Segmentation → Prop}
    (plain : ∀ segments c h, P ⟨segments, none⟩ c ⟨segments ++ [.plain c h], none⟩)
    (opening : ∀ segments q,
      P ⟨segments, none⟩ q.char ⟨segments, some ⟨q, [], List.not_mem_nil⟩⟩)
    (closing : ∀ segments r, P ⟨segments, some r⟩ r.mark.char ⟨segments ++ [.quoted r], none⟩)
    (within : ∀ segments r c h, P ⟨segments, some r⟩ c ⟨segments, some (r.push c h)⟩)
    (s : Segmentation) (c : Char) : P s c (s.push c) := by
  obtain ⟨segments, rest⟩ := s
  cases rest with
  | none =>
    cases h : QuoteMark.of? c with
    | none =>
      rw [push_plain h]
      exact plain segments c h
    | some q =>
      obtain rfl := QuoteMark.of?_eq_some h
      rw [push_opening]
      exact opening segments q
  | some r =>
    by_cases h : c = r.mark.char
    · subst h
      rw [push_closing]
      exact closing segments r
    · rw [push_within h]
      exact within segments r c h

theorem text_push (s : Segmentation) (c : Char) : (s.push c).text = s.text ++ [c] := by
  refine push_cases (P := fun s c t => t.text = s.text ++ [c]) ?_ ?_ ?_ ?_ s c
  · intro segments c h
    simp [text, Segment.text]
  · intro segments q
    simp [text, OpenSegment.text]
  · intro segments r
    simp [text, Segment.text]
  · intro segments r c h
    simp [text, OpenSegment.text, OpenSegment.push]

/-- The scanner of quotes goes along with the segments. -/
theorem span_push (s : Segmentation) (c : Char) : (s.push c).span = s.span.next c :=
  push_cases (P := fun s c t => t.span = s.span.next c)
    (fun _ _ h => (Span.next_plain h).symm) (fun _ q => (Span.next_opening q).symm)
    (fun _ r => (Span.next_closing r.mark).symm) (fun _ _ _ h => (Span.next_within h).symm) s c

/-- Every text can be cut up. -/
theorem text_of (cs : List Char) : (of cs).text = cs := by
  have hfold (s : Segmentation) : (cs.foldl push s).text = s.text ++ cs := by
    induction cs generalizing s with
    | nil => exact (List.append_nil _).symm
    | cons c cs ih => rw [List.foldl_cons, ih, text_push, List.append_assoc, List.singleton_append]
  exact hfold ⟨[], none⟩

theorem span_of (cs : List Char) : (of cs).span = Span.run .plain cs :=
  (List.foldl_hom span fun s c => (span_push s c).symm).symm

/-! ### There is no other way -/

/-- All of a body goes to its segment. -/
theorem foldl_body {t : OpenSegment} {cs : List Char} (hmark : r.mark = t.mark)
    (hbody : r.body ++ cs = t.body) : cs.foldl push ⟨segments, some r⟩ = ⟨segments, some t⟩ := by
  induction cs generalizing r with
  | nil =>
    obtain ⟨mark, body, h⟩ := r
    obtain rfl : mark = t.mark := hmark
    obtain rfl : body = t.body := (List.append_nil _).symm.trans hbody
    rfl
  | cons c cs ih =>
    have hc : c ≠ r.mark.char := by
      rintro rfl
      refine t.unclosed ?_
      rw [← hbody, hmark]
      exact List.mem_append_right _ (List.mem_cons_self ..)
    rw [List.foldl_cons, push_within hc]
    exact ih hmark ((List.append_assoc ..).trans hbody)

theorem foldl_open (segments : List Segment) (t : OpenSegment) :
    t.text.foldl push ⟨segments, none⟩ = ⟨segments, some t⟩ := by
  rw [OpenSegment.text, List.foldl_cons, push_opening]
  exact foldl_body rfl (List.nil_append _)

theorem foldl_segments (done segments : List Segment) :
    (segments.flatMap Segment.text).foldl push ⟨done, none⟩ = ⟨done ++ segments, none⟩ := by
  induction segments generalizing done with
  | nil => rw [List.flatMap_nil, List.foldl_nil, List.append_nil]
  | cons g gs ih =>
    have hg : g.text.foldl push ⟨done, none⟩ = ⟨done ++ [g], none⟩ := by
      cases g with
      | plain c h => exact push_plain h
      | quoted t =>
        rw [Segment.text, List.foldl_append, foldl_open]
        exact push_closing
    rw [List.flatMap_cons, List.foldl_append, hg, ih, List.append_assoc, List.singleton_append]

/-- A segmentation is the one of its text. -/
theorem of_text (s : Segmentation) : of s.text = s := by
  obtain ⟨segments, rest⟩ := s
  rw [of, text, List.foldl_append, foldl_segments, List.nil_append]
  cases rest with
  | none => rfl
  | some t => exact foldl_open segments t

/-- Every text is cut up in exactly one way. -/
theorem existsUnique_text (cs : List Char) : ∃! s : Segmentation, s.text = cs := by
  refine ⟨of cs, text_of cs, fun s hs => ?_⟩
  rw [← of_text s, hs]

/-! ## Which characters are in single quotes -/

/-- The character number `i` belongs to a quoted segment of the mark, its quotes included. -/
def LiesIn (s : Segmentation) (q : QuoteMark) (i : Nat) : Prop :=
  (∃ before r after, s.segments = before ++ .quoted r :: after ∧ r.mark = q
      ∧ (before.flatMap Segment.text).length ≤ i
      ∧ i < (before.flatMap Segment.text).length + (Segment.quoted r).text.length)
    ∨ ∃ r, s.rest = some r ∧ r.mark = q ∧ (s.segments.flatMap Segment.text).length ≤ i

/-- The last segment is one of the mark that has not come to its end. -/
def EndsIn (s : Segmentation) (q : QuoteMark) : Prop := ∃ r, s.rest = some r ∧ r.mark = q

theorem span_eq_single_iff {s : Segmentation} : (s.span == .single) = true ↔ s.EndsIn .single := by
  obtain ⟨segments, rest⟩ := s
  cases rest with
  | none =>
    constructor
    · exact fun h => absurd h Bool.false_ne_true
    · rintro ⟨r, hrest, -⟩
      cases hrest
  | some r =>
    have hspan : span ⟨segments, some r⟩ = r.mark.span := rfl
    rw [hspan, r.mark.span_eq_single, beq_iff_eq]
    constructor
    · exact fun hmark => ⟨r, rfl, hmark⟩
    · rintro ⟨_, hrest, hmark⟩
      cases hrest
      exact hmark

variable {g : Segment} {rest : Option OpenSegment} {q : QuoteMark} {i : Nat}

/-- A character belongs to the first segment, or comes behind it. -/
theorem liesIn_cons :
    LiesIn ⟨g :: segments, rest⟩ q i ↔
      (∃ r, g = .quoted r ∧ r.mark = q ∧ i < g.text.length)
        ∨ (g.text.length ≤ i ∧ LiesIn ⟨segments, rest⟩ q (i - g.text.length)) := by
  constructor
  · rintro (⟨before, r, after, hsegments, hmark, hle, hlt⟩ | ⟨r, hrest, hmark, hle⟩)
    · cases before with
      | nil =>
        obtain ⟨rfl, rfl⟩ := List.cons.inj hsegments
        exact .inl ⟨r, rfl, hmark, by simpa using hlt⟩
      | cons b bs =>
        obtain ⟨rfl, rfl⟩ := List.cons.inj hsegments
        rw [List.flatMap_cons, List.length_append] at hle hlt
        exact .inr ⟨by omega, .inl ⟨bs, r, after, rfl, hmark, by omega, by omega⟩⟩
    · rw [List.flatMap_cons, List.length_append] at hle
      exact .inr ⟨by omega, .inr ⟨r, hrest, hmark, Nat.le_sub_of_add_le' hle⟩⟩
  · rintro (⟨r, rfl, hmark, hlt⟩ | ⟨hle, ⟨before, r, after, hsegments, hmark, hle', hlt⟩ |
      ⟨r, hrest, hmark, hle'⟩⟩)
    · exact .inl ⟨[], r, segments, rfl, hmark, Nat.zero_le _, by simpa using hlt⟩
    · refine .inl ⟨g :: before, r, after, congrArg (g :: ·) hsegments, hmark, ?_, ?_⟩
      all_goals
        rw [List.flatMap_cons, List.length_append]
        omega
    · refine .inr ⟨r, hrest, hmark, ?_⟩
      have hbehind : (segments.flatMap Segment.text).length ≤ i - g.text.length := hle'
      rw [List.flatMap_cons, List.length_append]
      omega

end Segmentation

/-! ### The scanner on a segment -/

open Segmentation

/-- Up to the end of a body the scanner is within its segment. -/
theorem singleQuotedFrom_body {q : QuoteMark} {body : List Char} (h : q.char ∉ body)
    (rest : List Char) (i : Nat) :
    singleQuotedFrom q.span (body ++ rest) i =
      if i < body.length then q == .single
      else singleQuotedFrom q.span rest (i - body.length) := by
  induction body generalizing i with
  | nil => rfl
  | cons c cs ih =>
    obtain ⟨hc, hcs⟩ := List.ne_and_not_mem_of_not_mem_cons h
    have hnext := Span.next_within hc.symm
    cases i with
    | zero => simp [singleQuotedFrom, hnext, q.span_eq_single]
    | succ i =>
      rw [List.cons_append, singleQuotedFrom, hnext, ih hcs]
      simp

theorem singleQuotedFrom_open (r : OpenSegment) (i : Nat) :
    singleQuotedFrom .plain r.text i = (r.mark == .single) := by
  have hnext := Span.next_opening r.mark
  cases i with
  | zero =>
    rw [OpenSegment.text, singleQuotedFrom, hnext, r.mark.span_eq_single]
    rfl
  | succ i =>
    have hbody := singleQuotedFrom_body r.unclosed [] i
    rw [List.append_nil, singleQuotedFrom, r.mark.span_eq_single, ite_self] at hbody
    rw [OpenSegment.text, singleQuotedFrom, hnext, hbody]

theorem singleQuotedFrom_quoted (r : OpenSegment) (rest : List Char) (i : Nat) :
    singleQuotedFrom .plain ((Segment.quoted r).text ++ rest) i =
      if i < (Segment.quoted r).text.length then r.mark == .single
      else singleQuotedFrom .plain rest (i - (Segment.quoted r).text.length) := by
  have hnext := Span.next_opening r.mark
  have hlength : (Segment.quoted r).text.length = r.body.length + 2 := by
    simp [Segment.text, OpenSegment.text]
  have htext : (Segment.quoted r).text ++ rest =
      r.mark.char :: (r.body ++ r.mark.char :: rest) := by
    simp [Segment.text, OpenSegment.text]
  rw [hlength, htext]
  cases i with
  | zero =>
    rw [singleQuotedFrom, hnext, r.mark.span_eq_single, if_pos (by omega)]
    rfl
  | succ i =>
    rw [singleQuotedFrom, hnext, singleQuotedFrom_body r.unclosed]
    -- within the segment, at the quote that ends it, or behind it
    rcases Nat.lt_trichotomy i r.body.length with h | h | h
    · rw [if_pos h, if_pos (by omega)]
    · -- the quote that ends the segment
      rw [if_neg (by omega), if_pos (by omega), h, Nat.sub_self, singleQuotedFrom,
        r.mark.span_eq_single, Span.next_closing]
      exact Bool.or_false _
    · obtain ⟨k, rfl⟩ : ∃ k, i = r.body.length + k + 1 := ⟨i - r.body.length - 1, by omega⟩
      have hbehind : r.body.length + k + 1 - r.body.length = k + 1 := by omega
      have hpast : r.body.length + k + 1 + 1 - (r.body.length + 2) = k := by omega
      rw [if_neg (by omega), if_neg (by omega), hbehind, hpast, singleQuotedFrom,
        Span.next_closing]

/-- Past the end the scanner tells where it has come to. -/
theorem singleQuotedFrom_past {s : Span} {cs : List Char} {i : Nat} (h : cs.length ≤ i) :
    singleQuotedFrom s cs i = (s.run cs == .single) := by
  induction cs generalizing s i with
  | nil => rfl
  | cons c cs ih =>
    cases i with
    | zero => cases h
    | succ i => exact ih (Nat.le_of_succ_le_succ h)

/-- What the scanner says of a character it knows as soon as it has read it. -/
theorem singleQuotedFrom_take (s : Span) (cs : List Char) (i : Nat) :
    singleQuotedFrom s (cs.take (i + 1)) i = singleQuotedFrom s cs i := by
  induction cs generalizing s i with
  | nil => rfl
  | cons c cs ih =>
    cases i with
    | zero => rfl
    | succ i => exact ih (s.next c) i

/-- The scanner tells of every character of a text whether it lies in a single-quoted segment. -/
theorem singleQuotedFrom_text {segments : List Segment} {rest : Option OpenSegment} {i : Nat}
    (h : i < (Segmentation.text ⟨segments, rest⟩).length) :
    singleQuotedFrom .plain (Segmentation.text ⟨segments, rest⟩) i = true ↔
      LiesIn ⟨segments, rest⟩ .single i := by
  -- the scan is outside quotes again behind each segment, so the induction goes on with the rest
  induction segments generalizing i with
  | nil =>
    cases rest with
    | none => cases h
    | some r =>
      have hopen : singleQuotedFrom .plain (Segmentation.text ⟨[], some r⟩) i =
          (r.mark == .single) := singleQuotedFrom_open r i
      rw [hopen, beq_iff_eq]
      constructor
      · exact fun hmark => .inr ⟨r, rfl, hmark, Nat.zero_le _⟩
      · rintro (⟨before, _, _, hsegments, -⟩ | ⟨_, hrest, hmark, -⟩)
        · cases before <;> cases hsegments
        · cases hrest
          exact hmark
  | cons g gs ih =>
    have htext : Segmentation.text ⟨g :: gs, rest⟩ = g.text ++ Segmentation.text ⟨gs, rest⟩ := by
      simp [Segmentation.text]
    rw [htext, List.length_append] at h
    rw [liesIn_cons, htext]
    cases g with
    | plain c hc =>
      cases i with
      | zero =>
        have hnext := Span.next_plain hc
        simp [Segment.text, singleQuotedFrom, hnext]
      | succ i =>
        have hi : i < (Segmentation.text ⟨gs, rest⟩).length := by
          simp only [Segment.text, List.length_singleton] at h
          omega
        simp [Segment.text, singleQuotedFrom, Span.next_plain hc, ih hi]
    | quoted r =>
      rw [singleQuotedFrom_quoted]
      -- an index within the segment is told by its mark, and one behind it by the segments that
      -- follow
      by_cases hlt : i < (Segment.quoted r).text.length
      · rw [if_pos hlt, beq_iff_eq]
        constructor
        · exact fun hmark => .inl ⟨r, rfl, hmark, hlt⟩
        · rintro (⟨_, heq, hmark, -⟩ | ⟨hle, -⟩)
          · cases heq
            exact hmark
          · omega
      · have hi : i - (Segment.quoted r).text.length < (Segmentation.text ⟨gs, rest⟩).length := by
          omega
        rw [if_neg hlt, ih hi]
        constructor
        · exact fun hlies => .inr ⟨Nat.le_of_not_lt hlt, hlies⟩
        · rintro (⟨_, _, _, hlt'⟩ | ⟨-, hlies⟩)
          · exact absurd hlt' hlt
          · exact hlies

/--
**The scanner of quotes follows the segments of a text.**

Every text is cut up in exactly one way into characters that are no quotes, quoted segments that run
up to the next quote of their own kind, and possibly a last segment that has not come to its end. A
character is in single quotes if it lies in a single-quoted segment, quotes included; past the end
of the text, whether the last segment is a single-quoted one without its end decides. The answer for
an index takes no more of the text than the characters up to there.
-/
theorem isSingleQuoted_follows_segments (text : String) :
    (∃! s : Segmentation, s.text = text.toList)
    ∧ (∀ s : Segmentation, s.text = text.toList →
        (∀ i, i < text.toList.length → (isSingleQuoted text i = true ↔ s.LiesIn .single i))
        ∧ ∀ i, text.toList.length ≤ i → (isSingleQuoted text i = true ↔ s.EndsIn .single))
    ∧ ∀ (other : String) (i : Nat),
        other.toList.take (i + 1) = text.toList.take (i + 1) →
          isSingleQuoted other i = isSingleQuoted text i := by
  refine ⟨existsUnique_text text.toList, fun s hs => ⟨fun i hi => ?_, fun i hi => ?_⟩,
    fun other i h => ?_⟩
  · rw [← hs] at hi
    rw [isSingleQuoted, ← hs]
    exact singleQuotedFrom_text hi
  · rw [isSingleQuoted, singleQuotedFrom_past hi, ← span_of, ← hs, of_text]
    exact span_eq_single_iff
  · rw [isSingleQuoted, isSingleQuoted, ← singleQuotedFrom_take, h, singleQuotedFrom_take]

/-- The theorem at a text with a double quote within single ones, and a single quote within an
unfinished double one. -/
theorem isSingleQuoted_follows_segments_of_mixed :
    let s : Segmentation :=
      ⟨[.plain 'a' rfl, .quoted ⟨.single, ['"'], by decide⟩], some ⟨.double, ['\''], by decide⟩⟩
    s.text = "a'\"'\"'".toList
      ∧ (isSingleQuoted "a'\"'\"'" 3 = true ↔ s.LiesIn .single 3)
      ∧ (isSingleQuoted "a'\"'\"'" 6 = true ↔ s.EndsIn .single)
      ∧ isSingleQuoted "a'b" 1 = isSingleQuoted "a'\"'\"'" 1 := by
  intro s
  have hs : s.text = "a'\"'\"'".toList := by decide
  obtain ⟨-, hfollows, hprefix⟩ := isSingleQuoted_follows_segments "a'\"'\"'"
  obtain ⟨hwithin, hpast⟩ := hfollows s hs
  exact ⟨hs, hwithin 3 (by decide), hpast 6 (by decide), hprefix "a'b" 1 (by decide)⟩

end Tilde.Shell
