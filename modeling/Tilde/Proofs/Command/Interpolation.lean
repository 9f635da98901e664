import Tilde.Proofs.Command.Quote
import Tilde.Proofs.Command.Segments
import Tilde.Proofs.Expansion.Meaning

/-!
# Commands with fields

The text that is built of a command with fields, as a shell reads it, and the warning that is given
before it is built.

## Interpolation keeps the structure of a command

An interpolated command is a template: literal text with fields in it. Where each field stands
outside quotes, not after a backslash and not in a comment, the text that is built has the words and
operators of the template, with each field replaced by the characters of its value. No value adds,
splits or ends a word, brings in an operator, or changes the part that any other character plays.

The reader that goes through the template and the one that goes through the built text run side by
side. What the second has read is what the first has read with the fields filled in (`Reader.fill`):
a literal character keeps this by `fill_step`, and a field by `run_quoteChars`.
-/

namespace Tilde

open Shell

variable {ω : Type} {host : Host ω} {ns : Namespace}

/-! ### Templates and their texts -/

/-- The parts as the reader meets them, the fields numbered from `i` on. -/
def templateGlyphs (i : Nat) : List Part → List Glyph
  | [] => []
  | .literal s :: ps => glyphs s.toList ++ templateGlyphs i ps
  | .field _ _ :: ps => .field i :: templateGlyphs (i + 1) ps

/-- Reading the parts, the reader meets every field outside quotes, not after a backslash and not
in a comment. -/
def FieldsPlain (r : Reader) (i : Nat) : List Part → Prop
  | [] => True
  | .literal s :: ps => FieldsPlain (r.run (glyphs s.toList)) i ps
  | .field _ _ :: ps => r.stance = .plain ∧ FieldsPlain (r.step (.field i)) (i + 1) ps

instance decidableFieldsPlain (r : Reader) (i : Nat) :
    (parts : List Part) → Decidable (FieldsPlain r i parts)
  | [] => inferInstanceAs (Decidable True)
  | .literal s :: ps => decidableFieldsPlain (r.run (glyphs s.toList)) i ps
  | .field _ _ :: ps =>
    have := decidableFieldsPlain (r.step (.field i)) (i + 1) ps
    inferInstanceAs (Decidable (_ ∧ _))

/-- The text of a command, from the values of its fields. -/
def commandText (values : Nat → String) (i : Nat) : List Part → List Char
  | [] => []
  | .literal s :: ps => s.toList ++ commandText values i ps
  | .field _ _ :: ps => quoteChars (values i).toList ++ commandText values (i + 1) ps

/-- The fields of a command evaluated from left to right, each formatted by its own spec. -/
def fieldTexts (host : Host ω) (ns : Namespace) : List Part → EvalM ω (List String)
  | [] => return []
  | .literal _ :: ps => fieldTexts host ns ps
  | .field e spec :: ps => do
    let v ← (e.expand none).eval host ns
    let text ← .ofExcept (v.format spec)
    return text :: (← fieldTexts host ns ps)

/-- What the reader has read when it comes to the end. -/
def itemsOf (gs : List Glyph) : List Item := (Reader.read gs).endWord.items

/-- A command text is read as a template is: the words and operators are those of the template, each
field replaced by exactly the characters of its text, and the reader ends up in the same stance.
Among the characters of a field, each one that starts an expansion stands in single quotes. -/
structure ReadsAs (command : String) (parts : List Part) (texts : List String)
    (values : Nat → List (Char × Guard)) : Prop where
  guarded : ∀ i text, texts[i]? = some text → Guarded text.toList (values i)
  items : itemsOf (glyphs command.toList) =
    (itemsOf (templateGlyphs 0 parts)).map (Item.fill values)
  stance : (Reader.read (glyphs command.toList)).stance =
    (Reader.read (templateGlyphs 0 parts)).stance

/-! ### Reading both texts -/

/-- Reading a template and filling it in is reading the text. -/
theorem fill_run_template {values : Nat → String} {gs : Nat → List (Char × Guard)}
    (hgs : ∀ i (r : Reader), r.stance = .plain →
      r.run (glyphs (quoteChars (values i).toList)) = r.add (partsOf (gs i))) :
    ∀ (parts : List Part) (i : Nat) (r : Reader), FieldsPlain r i parts →
      (r.run (templateGlyphs i parts)).fill gs =
        (r.fill gs).run (glyphs (commandText values i parts))
  | [], _, _, _ => rfl
  | .literal s :: ps, i, r, h => by
    rw [templateGlyphs, commandText, Reader.run_append, glyphs_append, Reader.run_append,
      ← Reader.fill_run]
    exact fill_run_template hgs ps i _ h
  | .field e spec :: ps, i, r, h => by
    obtain ⟨hplain, hps⟩ := h
    have hfield : (r.step (.field i)).fill gs =
        (r.fill gs).run (glyphs (quoteChars (values i).toList)) := by
      rw [Reader.step_field hplain, Reader.fill_add, hgs i (r.fill gs) hplain]
      simp [fillPart]
    rw [templateGlyphs, commandText, Reader.run_cons, glyphs_append, Reader.run_append,
      ← hfield]
    exact fill_run_template hgs ps (i + 1) _ hps

/-! ### Building the text -/

/-- An expanded command builds the text of its template from the values of its fields. -/
theorem evalParts_commandText (hns : ns.HasHelpers) (values : Nat → String) :
    ∀ (parts : List Part) (i : Nat) {o o' : Outside ω} {texts : List String},
      (∀ e spec, Part.field e spec ∈ parts → spec ≠ some rawSpec) →
      fieldTexts host ns parts o = (.ok texts, o') →
      (∀ text ∈ texts, '\x00' ∉ text.toList) →
      (∀ k text, texts[k]? = some text → values (i + k) = text) →
      evalParts host ns (commandParts parts) o =
        (.ok (String.ofList (commandText values i parts)), o')
  | [], i, o, o', texts, _, h, _, _ => by
    cases h
    rfl
  | .literal s :: ps, i, o, o', texts, hraw, h, hnul, hvalues => by
    have ih := evalParts_commandText hns values ps i
      (fun e spec hmem => hraw e spec (List.mem_cons_of_mem _ hmem)) h hnul hvalues
    rw [commandParts, evalParts, Effects.bind_ok ih, commandText, String.ofList_append,
      String.ofList_toList]
    rfl
  | .field e spec :: ps, i, o, o', texts, hraw, h, hnul, hvalues => by
    -- a field is evaluated and formatted, and its text is the first of those that are left
    rw [fieldTexts] at h
    obtain ⟨v, mid, hv, h1⟩ := Effects.bind_ok_iff.mp h
    obtain ⟨text, mid', htext, h2⟩ := Effects.bind_ok_iff.mp h1
    obtain ⟨rest, mid'', hrest, h3⟩ := Effects.bind_ok_iff.mp h2
    obtain ⟨hformat, rfl⟩ := EvalM.ofExcept_apply_ok.mp htext
    cases h3
    have hspec : spec ≠ some rawSpec := hraw e spec (List.mem_cons_self ..)
    have ih := evalParts_commandText hns values ps (i + 1)
      (fun e spec hmem => hraw e spec (List.mem_cons_of_mem _ hmem)) hrest
      (fun t ht => hnul t (List.mem_cons_of_mem _ ht))
      (fun k t hk => by
        rw [Nat.add_assoc, Nat.add_comm 1 k]
        exact hvalues (k + 1) t hk)
    -- its text holds no NUL, so quoting does not refuse it
    have hquoted : commandField v spec = .ok (String.ofList (quoteChars text.toList)) := by
      rw [commandField, if_neg hspec, hformat]
      simp only [bind, Except.bind, quote_of_noNul (hnul text (List.mem_cons_self ..))]
      rfl
    have hi : values i = text := hvalues 0 text rfl
    rw [commandParts, evalParts_field hns, Effects.bind_ok hv, hquoted, EvalM.ofExcept_ok,
      pure_bind, Effects.bind_ok ih, commandText, hi, String.ofList_append]
    rfl

/--
**Interpolation cannot change the structure of a command.**

Let the fields of an expanded command evaluate and format to texts without NUL, none of them with
the spec `raw`, and let the reader of the template meet each field outside quotes, not after a
backslash and not in a comment. Then the helper is given a text that is read as the template is.
-/
theorem interpolation_keeps_structure (host : Host ω) (hns : ns.HasHelpers) (d : Delivery)
    {parts : List Part} (hraw : ∀ e spec, Part.field e spec ∈ parts → spec ≠ some rawSpec)
    (hplain : FieldsPlain {} 0 parts) {o o' : Outside ω} {texts : List String}
    (htexts : fieldTexts host ns parts o = (.ok texts, o'))
    (hnul : ∀ text ∈ texts, '\x00' ∉ text.toList) :
    ∃ (command : String) (values : Nat → List (Char × Guard)),
      ((Expr.unary .invert (.template parts)).expand (some d)).eval host ns o =
          Builtin.runGiven host d ⟨[.str command], []⟩ o'
        ∧ ReadsAs command parts texts values := by
  have hquoted : ∀ i, ∃ gs, Guarded (texts.getD i "").toList gs ∧ ∀ r : Reader,
      r.stance = .plain →
        r.run (glyphs (quoteChars (texts.getD i "").toList)) = r.add (partsOf gs) :=
    fun i => run_quoteChars (texts.getD i "").toList
  -- the guards of each field depend on its text alone, so one choice serves for every reader
  obtain ⟨gs, hgs⟩ := Classical.axiomOfChoice hquoted
  have hread := fill_run_template (fun i => (hgs i).2) parts 0 {} hplain
  refine ⟨String.ofList (commandText (texts.getD · "") 0 parts), gs, ?_, ?_, ?_, ?_⟩
  · have hvalues : ∀ k text, texts[k]? = some text → texts.getD (0 + k) "" = text := by
      intro k text hk
      rw [Nat.zero_add, List.getD_eq_getElem?_getD, hk, Option.getD_some]
    have hbuilt := evalParts_commandText hns (texts.getD · "") parts 0 hraw htexts hnul hvalues
    rw [Expr.expand, eval_runner hns, Effects.bind_ok hbuilt]
    rfl
  · intro i text hi
    have := (hgs i).1
    rwa [List.getD_eq_getElem?_getD, hi, Option.getD_some] at this
  · rw [String.toList_ofList, itemsOf, itemsOf, Reader.read, Reader.read]
    have hend := congrArg (fun r : Reader => r.endWord.items) hread
    simp only [← Reader.fill_endWord] at hend
    exact hend.symm
  · rw [String.toList_ofList]
    exact (congrArg Reader.stance hread).symm

/-- The theorem at a command with an awkward value in its field. -/
theorem interpolation_of_awkward_value :
    let parts := [.literal "echo ", .field (.name "x") none, .literal "; ls #"]
    ∃ (command : String) (values : Nat → List (Char × Guard)),
      ((Expr.unary .invert (.template parts)).expand (some .single)).eval Host.silent
            (Namespace.fresh.set "x" (.str "a '$(b);")) ⟨(), []⟩ =
          Builtin.runGiven Host.silent .single ⟨[.str command], []⟩ ⟨(), []⟩
        ∧ ReadsAs command parts ["a '$(b);"] values :=
  interpolation_keeps_structure Host.silent
    (Namespace.hasHelpers_fresh.set (IsWord.not_helper (by decide))) .single
    (by simp [rawSpec]) (by decide) rfl (by decide)

end Tilde

/-!
## The warning about quoted fields

Before a command runs, the log warns of a field that stands in single quotes, where the quotes of
the value would reach the command as they are. The warning comes from a scan of the template: it
knows no backslash, and takes every field for a letter. What counts is what a shell reads when the
command runs, in a text that holds the quoted values.

Where no literal part holds a backslash or a number sign, the two agree up to the first field in
quotes. The scan and the reader go through the literal parts side by side. A field outside quotes
leaves both of them outside quotes: the scan since it sees a letter, the reader since a quoted value
closes every quote that it opens.
-/

namespace Tilde

open Shell

variable {ω : Type} {host : Host ω} {ns : Namespace}

/-! ### The scan of a template -/

/-- What the scan goes through: the text of a template with a letter for each field. -/
def scanned : List Part → List Char
  | [] => []
  | .literal s :: ps => s.toList ++ scanned ps
  | .field _ _ :: ps => 'x' :: scanned ps

/-- The warnings of a template come from one part after the other. -/
theorem fieldNotes_append (line : Nat) (seen : Span) (ps qs : List Part) :
    fieldNotes line seen (ps ++ qs) =
      fieldNotes line seen ps ++ fieldNotes line (seen.run (scanned ps)) qs := by
  induction ps generalizing seen with
  | nil => rfl
  | cons p ps ih =>
    cases p with
    | literal s =>
      rw [List.cons_append, fieldNotes, fieldNotes, scanned, ih]
      simp only [Span.run, List.foldl_append]
    | field e spec =>
      rw [List.cons_append, fieldNotes, fieldNotes, scanned, ih]
      split <;> rfl

/-! ### The reader of the built text -/

/-- Whether a reader that stands there is in quotes. -/
def Shell.Stance.isQuoted : Stance → Bool
  | .single | .double | .doubleEscape => true
  | .plain | .escape | .comment => false

/-- Going through the built text, the reader meets every field outside quotes. -/
def FieldsUnquoted (values : Nat → String) (r : Reader) (i : Nat) : List Part → Prop
  | [] => True
  | .literal s :: ps => FieldsUnquoted values (r.run (glyphs s.toList)) i ps
  | .field _ _ :: ps =>
    r.stance.isQuoted = false
      ∧ FieldsUnquoted values (r.run (glyphs (quoteChars (values i).toList))) (i + 1) ps

/-- The literal parts hold no backslash and no number sign. -/
def LiteralsSimple (parts : List Part) : Prop :=
  ∀ s, Part.literal s ∈ parts → '\\' ∉ s.toList ∧ '#' ∉ s.toList

/-- Where the reader stands while the scan is in a span. -/
def Shell.Span.stance : Span → Stance
  | .plain => .plain
  | .single => .single
  | .double => .double

/-- A character that is no backslash and no number sign means the same to the scan and to the
reader. -/
theorem stance_step {r : Reader} {seen : Span} {c : Char} (h : r.stance = seen.stance)
    (hbackslash : c ≠ '\\') (hnumber : c ≠ '#') :
    (r.step (.char c)).stance = (seen.next c).stance := by
  rw [Reader.step, h]
  cases seen with
  | plain =>
    by_cases hsingle : c = '\''
    · subst hsingle
      rfl
    by_cases hdouble : c = '"'
    · subst hdouble
      rfl
    -- without a quote both stay outside quotes, whether the character ends a word or not
    have hmark : QuoteMark.of? c = none := by
      rw [QuoteMark.of?, if_neg hsingle, if_neg hdouble]
    have hend : r.endWord.stance = .plain := by
      rw [Reader.endWord]
      split <;> exact h
    rw [Span.next_plain hmark]
    simp only [Span.stance, Reader.stepPlain, Glyph.seen, hbackslash, hsingle, hdouble, hnumber,
      if_false, decide_false, Bool.false_and, Bool.false_eq_true]
    split
    · exact hend
    · split
      · exact hend
      · exact h
  | single =>
    by_cases hc : c = '\''
    · subst hc
      rfl
    · have hnext : Span.single.next c = .single := Span.next_within (q := .single) hc
      simp [Span.stance, Glyph.seen, hc, hnext, h]
  | double =>
    by_cases hc : c = '"'
    · subst hc
      rfl
    · have hnext : Span.double.next c = .double := Span.next_within (q := .double) hc
      simp [Span.stance, Glyph.seen, hc, hbackslash, hnext, h]

theorem stance_run {cs : List Char} {r : Reader} {seen : Span} (h : r.stance = seen.stance)
    (hbackslash : '\\' ∉ cs) (hnumber : '#' ∉ cs) :
    (r.run (glyphs cs)).stance = (seen.run cs).stance := by
  induction cs generalizing r seen with
  | nil => exact h
  | cons c cs ih =>
    obtain ⟨hb, hbs⟩ := List.ne_and_not_mem_of_not_mem_cons hbackslash
    obtain ⟨hn, hns⟩ := List.ne_and_not_mem_of_not_mem_cons hnumber
    exact ih (stance_step h hb.symm hn.symm) hbs hns

/-- A reader outside quotes is outside quotes after a quoted value. -/
theorem stance_quoteChars {r : Reader} (h : r.stance = .plain) (value : List Char) :
    (r.run (glyphs (quoteChars value))).stance = .plain := by
  obtain ⟨gs, -, hrun⟩ := quoteChars_sheltered value
  rw [hrun r h]
  exact h

/-- **The reader of the built text stands where the scan of the template does,** as long as every
field on the way is outside quotes. -/
theorem stance_commandText {values : Nat → String} :
    ∀ (parts : List Part) (i : Nat) (r : Reader) (seen : Span), r.stance = seen.stance →
      LiteralsSimple parts → FieldsUnquoted values r i parts →
      (r.run (glyphs (commandText values i parts))).stance = (seen.run (scanned parts)).stance
  | [], _, _, _, h, _, _ => h
  | .literal s :: ps, i, r, seen, h, hsimple, hfields => by
    obtain ⟨hbackslash, hnumber⟩ := hsimple s (List.mem_cons_self ..)
    have hrest := stance_commandText ps i _ _ (stance_run h hbackslash hnumber)
      (fun t ht => hsimple t (List.mem_cons_of_mem _ ht)) hfields
    rw [commandText, glyphs_append, Reader.run_append, hrest, scanned, Span.run, Span.run,
      Span.run, List.foldl_append]
  | .field e spec :: ps, i, r, seen, h, hsimple, hfields => by
    obtain ⟨hunquoted, hfields⟩ := hfields
    -- without backslashes and comments, outside quotes is plain
    have hseen : seen = .plain := by
      cases seen with
      | plain => rfl
      | single | double =>
        rw [h] at hunquoted
        cases hunquoted
    subst hseen
    have hrest := stance_commandText ps (i + 1) _ .plain (stance_quoteChars h (values i).toList)
      (fun t ht => hsimple t (List.mem_cons_of_mem _ ht)) hfields
    rw [commandText, glyphs_append, Reader.run_append, hrest, scanned]
    rfl

/-! ### The warning and the text -/

theorem commandText_append (values : Nat → String) (ps qs : List Part) (i : Nat) :
    ∃ j, commandText values i (ps ++ qs) = commandText values i ps ++ commandText values j qs := by
  induction ps generalizing i with
  | nil => exact ⟨i, rfl⟩
  | cons p ps ih =>
    cases p with
    | literal s =>
      obtain ⟨j, hj⟩ := ih i
      exact ⟨j, by rw [List.cons_append, commandText, commandText, hj, List.append_assoc]⟩
    | field e spec =>
      obtain ⟨j, hj⟩ := ih (i + 1)
      exact ⟨j, by rw [List.cons_append, commandText, commandText, hj, List.append_assoc]⟩

/--
**The log warns of exactly the fields that a shell meets in single quotes.**

Let a command be expanded that has no raw field, and let its fields evaluate and format to texts
without NUL. Look at one of the fields: in front of it, let no literal part hold a backslash or a
number sign, and let each field stand outside quotes in the text that is built. Then the helper is
given a text of which some front part is what is built up to the field, and among the records of the
command there is a warning for the field if and only if a shell that has read the front part is in
single quotes. The other records are those of the parts in front, those of the parts behind and the
record of the expansion.
-/
theorem warns_iff_single_quoted (host : Host ω) (hns : ns.HasHelpers) (d : Delivery) (line : Nat)
    {before after : List Part} {e : Expr} {spec : Option String}
    (hraw : ∀ e' spec', Part.field e' spec' ∈ before ++ .field e spec :: after →
      spec' ≠ some rawSpec)
    (hsimple : LiteralsSimple before) {o o' : Outside ω} {texts : List String}
    (htexts : fieldTexts host ns (before ++ .field e spec :: after) o = (.ok texts, o'))
    (hnul : ∀ text ∈ texts, '\x00' ∉ text.toList)
    (hfields : FieldsUnquoted (texts.getD · "") {} 0 before) :
    ∃ front back : String,
      ((Expr.unary .invert (.template (before ++ .field e spec :: after))).expand (some d)).eval
          host ns o = Builtin.runGiven host d ⟨[.str (front ++ back)], []⟩ o'
        ∧ front.toList = commandText (texts.getD · "") 0 before
        ∧ (Expr.unary .invert (.template (before ++ .field e spec :: after))).siteNotes line d =
            fieldNotes line .plain before ++
              (if (Reader.read (glyphs front.toList)).stance = .single then [.quotedTwice line]
                else []) ++
              fieldNotes line (Span.run .plain (scanned (before ++ [.field e spec]))) after ++
              [.runsAs line d] := by
  have hvalues : ∀ k text, texts[k]? = some text → texts.getD (0 + k) "" = text := by
    intro k text hk
    rw [Nat.zero_add, List.getD_eq_getElem?_getD, hk, Option.getD_some]
  have hbuilt := evalParts_commandText hns (texts.getD · "") _ 0 hraw htexts hnul hvalues
  -- the command is cut in two where the field begins
  obtain ⟨j, hj⟩ := commandText_append (texts.getD · "") before (.field e spec :: after) 0
  refine ⟨String.ofList (commandText (texts.getD · "") 0 before),
    String.ofList (commandText (texts.getD · "") j (.field e spec :: after)), ?_, ?_, ?_⟩
  · rw [Expr.expand, eval_runner hns, Effects.bind_ok hbuilt, hj, String.ofList_append]
    rfl
  · exact String.toList_ofList
  · -- there the scan of the literals has come to where the shell is in the whole command
    have hstance := stance_commandText before 0 {} .plain rfl hsimple hfields
    have hown : fieldNotes line (Span.run .plain (scanned before)) [.field e spec] =
        if (Reader.read (glyphs (commandText (texts.getD · "") 0 before))).stance = .single then
          [.quotedTwice line] else [] := by
      have hspec : spec ≠ some rawSpec := hraw e spec (by simp)
      rw [Reader.read, hstance]
      cases Span.run .plain (scanned before) <;> simp [fieldNotes, hspec, Span.stance]
    have hsplit : before ++ .field e spec :: after = (before ++ [.field e spec]) ++ after := by
      rw [List.append_assoc, List.singleton_append]
    rw [Expr.siteNotes, String.toList_ofList, ← hown, hsplit, fieldNotes_append,
      fieldNotes_append line .plain before]

/-- The theorem at a field behind an opened single quote, with a value in front that is written in
both kinds of quotes. -/
theorem warns_iff_single_quoted_of_opened :
    let before := [.literal "echo ", .field (.name "x") none, .literal " 'a"]
    let command := Expr.unary .invert (.template (before ++ .field (.name "x") none :: []))
    ∃ front back : String,
      (command.expand (some .stream)).eval Host.silent
          (Namespace.fresh.set "x" (.str "it's \"$b\"")) ⟨(), []⟩ =
          Builtin.runGiven Host.silent .stream ⟨[.str (front ++ back)], []⟩ ⟨(), []⟩
        ∧ front.toList = commandText (["it's \"$b\"", "it's \"$b\""].getD · "") 0 before
        ∧ command.siteNotes 7 .stream =
            fieldNotes 7 .plain before ++
              (if (Reader.read (glyphs front.toList)).stance = .single then [.quotedTwice 7]
                else []) ++
              fieldNotes 7 (Span.run .plain (scanned (before ++ [.field (.name "x") none]))) [] ++
              [.runsAs 7 .stream] :=
  warns_iff_single_quoted Host.silent
    (Namespace.hasHelpers_fresh.set (IsWord.not_helper (by decide))) .stream 7
    (by simp [rawSpec]) (by simp [LiteralsSimple]) rfl (by decide) ⟨by decide, trivial⟩

end Tilde
