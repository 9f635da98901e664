import Mathlib.Data.Bool.AllAny
import Mathlib.Data.List.Chain
import Mathlib.Tactic.SplitIfs
import Mathlib.Tactic.Tauto
import Tilde.Template

/-!
# Rendering the body of an interpolated string

A body is rendered piece by piece: the braces of a literal are doubled, and a field stands in braces
with a colon in front of its spec. Splitting gives the pieces back, where literals are not empty and
no two of them meet, and where a field can be told from what is around it: its text is not blank and
does not start with a brace, its quotes and brackets are balanced, as are those of its spec, and no
colon of the text stands outside of them.

Balanced texts are given by a grammar, and the argument follows it. Within a field the reader keeps
every character of a balanced text and comes out of it as deep in brackets as it went in
(`read_balanced`). Between fields a doubled brace is read at once, so it does not matter which braces
stand behind it (`read_doubled`).
-/

namespace Tilde.Template

/-! ## Balanced texts -/

/-- The characters that open a bracket. -/
def openers : List Char := ['(', '[', '\x7b']

/-- The characters that close a bracket. -/
def closers : List Char := [')', ']', '\x7d']

/-- The characters that quotes are made of. -/
def quotes : List Char := ['\'', '"']

/-- A text whose quotes and brackets are balanced. Within quotes nothing counts but the quote that
closes them, and a bracket may be closed by a bracket of any kind. The flag says whether a colon may
stand outside of quotes and brackets. -/
inductive Balanced : Bool → List Char → Prop where
  | nil {colons : Bool} : Balanced colons []
  | char {colons : Bool} {c : Char} {cs : List Char} (plain : c ∉ openers ++ closers ++ quotes)
    (colon : c = ':' → colons = true) (rest : Balanced colons cs) : Balanced colons (c :: cs)
  | quoted {colons : Bool} {q : Char} {body cs : List Char} (quote : q ∈ quotes) (closed : q ∉ body)
    (rest : Balanced colons cs) : Balanced colons (q :: body ++ q :: cs)
  | nested {colons : Bool} {o c : Char} {body cs : List Char} (opener : o ∈ openers)
    (closer : c ∈ closers) (inner : Balanced true body) (rest : Balanced colons cs) :
    Balanced colons (o :: body ++ c :: cs)

/-- A text without quotes and brackets. -/
theorem Balanced.of_plain {colons : Bool} {cs : List Char}
    (h : ∀ c ∈ cs, c ∉ openers ++ closers ++ quotes ∧ (c = ':' → colons = true)) :
    Balanced colons cs := by
  induction cs with
  | nil => exact .nil
  | cons c cs ih =>
    obtain ⟨hc, hcs⟩ := List.forall_mem_cons.mp h
    exact .char hc.1 hc.2 (ih hcs)

/-! ## Rendering -/

/-- A character of a literal, doubled if it is a brace. -/
def doubled (c : Char) : List Char :=
  if c = '\x7b' ∨ c = '\x7d' then [c, c] else [c]

/-- The characters that a piece is rendered as. -/
def Piece.render : Piece → List Char
  | .literal text => text.toList.flatMap doubled
  | .field source none => '\x7b' :: source.toList ++ ['\x7d']
  | .field source (some spec) => '\x7b' :: source.toList ++ ':' :: spec.toList ++ ['\x7d']

/-- The body that pieces are rendered as. -/
def render (pieces : List Piece) : List Char := pieces.flatMap Piece.render

/-- Whether a piece can be told from what is around it. -/
def Piece.Separable : Piece → Prop
  | .literal text => text ≠ ""
  | .field source spec =>
    (∃ c ∈ source.toList, Text.isBlank c = false) ∧ source.toList.head? ≠ some '\x7b'
      ∧ Balanced false source.toList ∧ ∀ text ∈ spec, Balanced true text.toList

/-- Whether a piece is a literal. -/
def Piece.isLiteral : Piece → Bool
  | .literal _ => true
  | .field .. => false

/-- Pieces that a body is split into: each can be told from what is around it, and no two literals
meet. -/
structure Separate (pieces : List Piece) : Prop where
  separable : ∀ p ∈ pieces, p.Separable
  alternating : pieces.IsChain fun p q => ¬(p.isLiteral = true ∧ q.isLiteral = true)

/-! ## Within a field -/

namespace Field

variable (f : Field) (c : Char) (n : Nat) (cs : List Char)

/-- Keeps the characters of a text. -/
def keepAll (f : Field) (cs : List Char) : Field := cs.foldl keep f

@[simp] theorem keepAll_nil : f.keepAll [] = f := rfl

@[simp] theorem keepAll_cons : f.keepAll (c :: cs) = (f.keep c).keepAll cs := rfl

@[simp] theorem keepAll_append (ds : List Char) :
    f.keepAll (cs ++ ds) = (f.keepAll cs).keepAll ds := List.foldl_append

@[simp] theorem keep_depth : (f.keep c).depth = f.depth := by
  unfold keep
  split <;> rfl

@[simp] theorem keep_quote : (f.keep c).quote = f.quote := by
  unfold keep
  split <;> rfl

@[simp] theorem keep_isSome : (f.keep c).spec.isSome = f.spec.isSome := by
  unfold keep
  split <;> simp_all

/-- What is kept does not depend on the open brackets. -/
theorem keep_atDepth : { f with depth := n }.keep c = { f.keep c with depth := n } := by
  cases hspec : f.spec <;> simp [keep, hspec]

/-- Nor does it depend on an open quote. -/
theorem keep_inQuote (q : Option Char) :
    { f with quote := q }.keep c = { f.keep c with quote := q } := by
  cases hspec : f.spec <;> simp [keep, hspec]

@[simp] theorem keepAll_depth : (f.keepAll cs).depth = f.depth := by
  induction cs generalizing f with
  | nil => rfl
  | cons c cs ih => rw [keepAll_cons, ih, keep_depth]

@[simp] theorem keepAll_quote : (f.keepAll cs).quote = f.quote := by
  induction cs generalizing f with
  | nil => rfl
  | cons c cs ih => rw [keepAll_cons, ih, keep_quote]

@[simp] theorem keepAll_isSome : (f.keepAll cs).spec.isSome = f.spec.isSome := by
  induction cs generalizing f with
  | nil => rfl
  | cons c cs ih => rw [keepAll_cons, ih, keep_isSome]

theorem keepAll_atDepth : { f with depth := n }.keepAll cs = { f.keepAll cs with depth := n } := by
  induction cs generalizing f with
  | nil => rfl
  | cons c cs ih => rw [keepAll_cons, keepAll_cons, keep_atDepth, ih]

theorem keepAll_inQuote (q : Option Char) :
    { f with quote := q }.keepAll cs = { f.keepAll cs with quote := q } := by
  induction cs generalizing f with
  | nil => rfl
  | cons c cs ih => rw [keepAll_cons, keepAll_cons, keep_inQuote, ih]

/-- In front of the colon, characters are kept as the text of the field. -/
theorem keepAll_source (h : f.spec = none) :
    f.keepAll cs = { f with source := cs.reverse ++ f.source } := by
  induction cs generalizing f with
  | nil => rfl
  | cons c cs ih =>
    have hkeep : f.keep c = { f with source := c :: f.source } := by simp only [keep, h]
    rw [keepAll_cons, hkeep, ih { f with source := c :: f.source } h]
    simp

/-- Behind the colon, characters are kept as the spec. -/
theorem keepAll_spec {spec : List Char} (h : f.spec = some spec) :
    f.keepAll cs = { f with spec := some (cs.reverse ++ spec) } := by
  induction cs generalizing f spec with
  | nil => rw [keepAll_nil, List.reverse_nil, List.nil_append, ← h]
  | cons c cs ih =>
    have hkeep : f.keep c = { f with spec := some (c :: spec) } := by simp only [keep, h]
    rw [keepAll_cons, hkeep, ih { f with spec := some (c :: spec) } rfl]
    simp

end Field

variable {pieces : List Piece} {f : Field} {c : Char} {cs rest : List Char}

-- the reader is opened wherever it is known what it reads
attribute [local simp] read Field.closes

/-- A character that does not close the field. -/
theorem read_feed (h : f.closes c = false) :
    read pieces (.field f) (c :: rest) = read pieces (.field (f.feed c)) rest := by
  rw [read, h]
  rfl

/-- Within quotes every other character is kept. -/
theorem read_quoted {q : Char} (hf : f.quote = some q) (h : q ∉ cs) :
    read pieces (.field f) (cs ++ rest) = read pieces (.field (f.keepAll cs)) rest := by
  induction cs generalizing f with
  | nil => rfl
  | cons c cs ih =>
    obtain ⟨hc, hcs⟩ := not_or.mp (mt List.mem_cons.mpr h)
    have hfeed : f.feed c = f.keep c := by
      simp only [Field.feed, hf, if_neg (Ne.symm hc)]
      rw [← hf]
    rw [List.cons_append, read_feed (by simp [hf]), hfeed,
      ih (by rw [Field.keep_quote, hf]) hcs, Field.keepAll_cons]

/-- What the reader asks about a character outside of quotes and brackets. -/
theorem of_not_mem_marks (h : c ∉ openers ++ closers ++ quotes) :
    ¬(c = '\'' ∨ c = '"') ∧ ¬(c = '(' ∨ c = '[' ∨ c = '\x7b') ∧ ¬(c = ')' ∨ c = ']' ∨ c = '\x7d') := by
  simp only [openers, closers, quotes, List.mem_append, List.mem_cons, List.not_mem_nil,
    or_false] at h
  tauto

/-- **A balanced text is kept**, and the field is as deep in brackets behind it as in front. -/
theorem read_balanced {colons : Bool} (h : Balanced colons cs) (hf : f.quote = none)
    (hcolons : colons = true → f.depth ≠ 0 ∨ f.spec.isSome = true) :
    read pieces (.field f) (cs ++ rest) = read pieces (.field (f.keepAll cs)) rest := by
  induction h generalizing f rest with
  | nil => rfl
  | @char colons c cs hplain hcolon _ ih =>
    obtain ⟨hquote, hopener, hcloser⟩ := of_not_mem_marks hplain
    have hcloses : f.closes c = false := by
      have : c ≠ '\x7d' := fun h => hcloser (.inr (.inr h))
      simp [this]
    have hfeed : f.feed c = f.keep c := by
      have hstays : ¬((c = ':' && f.depth == 0 && f.spec.isNone) = true) := by
        rw [Bool.and_eq_true, Bool.and_eq_true, decide_eq_true_eq, beq_iff_eq, Option.isNone_iff_eq_none]
        rintro ⟨⟨hc, hdepth⟩, hspec⟩
        rcases hcolons (hcolon hc) with h | h
        · exact h hdepth
        · rw [hspec] at h
          cases h
      simp only [Field.feed, hf]
      rw [if_neg hstays, if_neg (by simpa using hquote), if_neg (by simpa [or_assoc] using hopener),
        if_neg (by simpa [or_assoc] using hcloser)]
    rw [List.cons_append, read_feed hcloses, hfeed, ih (by rw [Field.keep_quote, hf])
      (by rwa [Field.keep_depth, Field.keep_isSome]), Field.keepAll_cons]
  | @quoted colons q body cs hq hbody _ ih =>
    have hopen : f.feed q = { f with quote := some q }.keep q := by
      obtain rfl | rfl : q = '\'' ∨ q = '"' := by simpa [quotes] using hq
      all_goals simp [Field.feed, hf]
    have hcloses : f.closes q = false := by
      obtain rfl | rfl : q = '\'' ∨ q = '"' := by simpa [quotes] using hq
      all_goals simp
    -- the quote behind the body closes the one in front of it
    have hclose : ∀ g : Field, { g with quote := some q }.feed q = { g with quote := none }.keep q := by
      intro g
      simp [Field.feed]
    have hback : { f with quote := none } = f := by rw [← hf]
    rw [List.append_assoc, List.cons_append, read_feed hcloses, hopen, Field.keep_inQuote,
      read_quoted rfl hbody, Field.keepAll_inQuote, List.cons_append,
      read_feed (by simp), hclose, ← Field.keepAll_inQuote, ← Field.keep_inQuote, hback]
    rw [ih (by simp [hf]) (by simpa using hcolons)]
    simp
  | @nested colons o c body cs ho hc _ _ ihbody ih =>
    have hopen : f.feed o = { f.keep o with depth := f.depth + 1 } := by
      rw [← Field.keep_atDepth]
      obtain rfl | rfl | rfl : o = '(' ∨ o = '[' ∨ o = '\x7b' := by simpa [openers] using ho
      all_goals simp [Field.feed, hf]
    have hcloses : f.closes o = false := by
      obtain rfl | rfl | rfl : o = '(' ∨ o = '[' ∨ o = '\x7b' := by simpa [openers] using ho
      all_goals simp
    -- the bracket behind the body closes the one in front of it
    have hclose : ∀ g : Field, g.quote = none →
        { g with depth := f.depth + 1 }.feed c = { g with depth := f.depth }.keep c := by
      intro g hg
      obtain rfl | rfl | rfl : c = ')' ∨ c = ']' ∨ c = '\x7d' := by simpa [closers] using hc
      all_goals simp [Field.feed, hg]
    rw [List.append_assoc, List.cons_append, read_feed hcloses, hopen,
      ihbody (by simp [hf]) (fun _ => .inl (Nat.succ_ne_zero _)), Field.keepAll_atDepth,
      List.cons_append, read_feed (by simp), hclose _ (by simp [hf])]
    have hback : ({ (f.keep o).keepAll body with depth := f.depth } : Field)
        = (f.keep o).keepAll body := by
      rw [← Field.keepAll_atDepth, ← Field.keep_atDepth]
    rw [hback, ih (by simp [hf]) (by simpa using hcolons)]
    simp

/-! ## Pieces -/

/-- The text of a field is read up to where it is balanced. The brace in front of it is not doubled,
since the text does not start with one. -/
theorem read_source {text source : List Char} (hne : source ≠ []) (hhead : source.head? ≠ some '\x7b')
    (h : Balanced false source) :
    read pieces (.literal text) ('\x7b' :: source ++ rest)
      = read (flush text pieces) (.field { source := source.reverse }) rest := by
  obtain ⟨c, cs, rfl⟩ := List.exists_cons_of_ne_nil hne
  rw [List.head?_cons, ne_eq, Option.some.injEq] at hhead
  have hkept : ({} : Field).keepAll (c :: cs) = { source := (c :: cs).reverse } := by
    rw [Field.keepAll_source _ _ rfl, List.append_nil]
  have hopen : read pieces (.literal text) ('\x7b' :: (c :: cs) ++ rest)
      = read (flush text pieces) (.field {}) (c :: cs ++ rest) := by
    rw [List.cons_append, List.cons_append, read.eq_3]
    rintro _ ⟨⟩
    exact hhead rfl
  rw [hopen, read_balanced h rfl nofun, hkept]

/-- The colon behind the text of a field starts its spec. -/
theorem read_colon {source : List Char} :
    read pieces (.field { source }) (':' :: rest)
      = read pieces (.field { source, spec := some [] }) rest := by
  rw [read_feed (by simp)]
  simp [Field.feed]

/-- A brace outside of quotes and brackets closes a field whose text is not blank. -/
theorem read_close {source : List Char} (spec : Option (List Char))
    (h : ∃ c ∈ source, Text.isBlank c = false) :
    read pieces (.field { source := source.reverse, spec := spec.map List.reverse }) ('\x7d' :: rest)
      = read (.field (String.ofList source) (spec.map String.ofList) :: pieces) (.literal []) rest := by
  have hall : source.reverse.all Text.isBlank = false := by
    obtain ⟨c, hc, hblank⟩ := h
    rw [List.all_eq_false]
    exact ⟨c, List.mem_reverse.mpr hc, by simp [hblank]⟩
  cases spec <;> simp [Field.close, hall]

/-- **A field is read back**, whatever stands behind it. -/
theorem read_renderField {source : String} {spec : Option String} {text : List Char}
    (h : (Piece.field source spec).Separable) :
    read pieces (.literal text) ((Piece.field source spec).render ++ rest)
      = read (.field source spec :: flush text pieces) (.literal []) rest := by
  obtain ⟨hblank, hhead, hsource, hspec⟩ := h
  have hne : source.toList ≠ [] := by
    obtain ⟨c, hc, -⟩ := hblank
    exact List.ne_nil_of_mem hc
  cases spec with
  | none =>
    rw [Piece.render, List.append_assoc, read_source hne hhead hsource]
    exact (read_close none hblank).trans (by simp)
  | some spec =>
    rw [Piece.render, List.append_assoc, List.append_assoc, read_source hne hhead hsource,
      List.cons_append, read_colon, read_balanced (hspec spec rfl) rfl fun _ => .inr rfl,
      Field.keepAll_spec _ _ rfl, List.append_nil]
    exact (read_close (some spec.toList) hblank).trans (by simp)

/-- A character of a literal is read back, whatever stands behind it. -/
theorem read_doubled {text : List Char} :
    read pieces (.literal text) (doubled c ++ rest) = read pieces (.literal (c :: text)) rest := by
  unfold doubled
  split_ifs with hc
  · rcases hc with rfl | rfl <;> rfl
  · obtain ⟨hopen, hclose⟩ := not_or.mp hc
    rw [List.singleton_append, read.eq_5 _ _ _ _ (fun _ h _ => hopen h) (fun _ h _ => hclose h)
      hopen hclose]

/-- A literal is read back, whatever stands behind it. -/
theorem read_renderLiteral {text cs : List Char} :
    read pieces (.literal text) (cs.flatMap doubled ++ rest)
      = read pieces (.literal (cs.reverse ++ text)) rest := by
  induction cs generalizing text with
  | nil => rfl
  | cons c cs ih =>
    rw [List.flatMap_cons, List.append_assoc, read_doubled, ih]
    simp

theorem Separate.tail {p : Piece} {ps : List Piece} (h : Separate (p :: ps)) : Separate ps :=
  ⟨fun q hq => h.separable q (List.mem_cons_of_mem p hq), h.alternating.tail⟩

/-- Behind a literal that is not finished, pieces that do not start with another one. -/
theorem read_render {ps : List Piece} {text : List Char} (h : Separate ps)
    (hfirst : text ≠ [] → ∀ p ∈ ps.head?, p.isLiteral = false) :
    read pieces (.literal text) (render ps) = .ok ((flush text pieces).reverse ++ ps) := by
  induction ps generalizing pieces text with
  | nil => simp [render]
  | cons p ps ih =>
    rw [render, List.flatMap_cons]
    cases p with
    | literal s =>
      have htext : text = [] := by
        by_contra hne
        cases hfirst hne _ rfl
      subst htext
      have hs : s ≠ "" := h.separable _ (List.mem_cons_self ..)
      have hlist : s.toList ≠ [] := fun hs' => hs (String.toList_eq_nil_iff.mp hs')
      rw [Piece.render, read_renderLiteral, List.append_nil, ← render, ih h.tail]
      · simp [flush, hlist]
      · intro _ q hq
        obtain ⟨ps, rfl⟩ := List.head?_eq_some_iff.mp hq
        have hchain := (List.isChain_cons_cons.mp h.alternating).1
        simpa [Piece.isLiteral] using hchain
    | field source spec =>
      rw [read_renderField (h.separable _ (List.mem_cons_self ..)), ← render, ih h.tail nofun]
      simp [flush]

/--
**Splitting undoes rendering.**

Of every list of pieces in which literals are not empty and do not meet, and fields have texts and
specs with balanced quotes and brackets, the body that it is rendered as is split into that list.
-/
theorem split_render {pieces : List Piece} (h : Separate pieces) :
    split (render pieces) = .ok pieces :=
  (read_render h fun hne => absurd rfl hne).trans (by simp [flush])

/-- The theorem at a body in which doubled braces meet the braces of fields, and a colon and a brace
stand within quotes, brackets and a spec. -/
theorem split_render_of_braces :
    Separate [.literal "a\x7b", .field "d['\x7d:'](n)" (some ":>\x7bw\x7d"), .field "n" none, .literal "\x7d"]
      ∧ split (render [.literal "a\x7b", .field "d['\x7d:'](n)" (some ":>\x7bw\x7d"), .field "n" none,
          .literal "\x7d"])
        = .ok [.literal "a\x7b", .field "d['\x7d:'](n)" (some ":>\x7bw\x7d"), .field "n" none,
          .literal "\x7d"] := by
  have hletter : Balanced false ['n'] := .of_plain (List.all_iff_forall_prop.mp (by decide))
  have hindex : Balanced true ['\'', '\x7d', ':', '\''] :=
    @Balanced.quoted true '\'' ['\x7d', ':'] [] (by decide) (by decide) .nil
  have hcall : Balanced false ['(', 'n', ')'] :=
    @Balanced.nested false '(' ')' ['n'] [] (by decide) (by decide)
      (.of_plain (List.all_iff_forall_prop.mp (by decide))) .nil
  have hsource : Balanced false ['d', '[', '\'', '\x7d', ':', '\'', ']', '(', 'n', ')'] :=
    .char (by decide) nofun
      (@Balanced.nested false '[' ']' ['\'', '\x7d', ':', '\''] _ (by decide) (by decide) hindex hcall)
  have hspec : Balanced true [':', '>', '\x7b', 'w', '\x7d'] :=
    .char (by decide) (fun _ => rfl) (.char (by decide) nofun
      (@Balanced.nested true '\x7b' '\x7d' ['w'] [] (by decide) (by decide)
        (.of_plain (List.all_iff_forall_prop.mp (by decide))) .nil))
  have hseparate : Separate [.literal "a\x7b", .field "d['\x7d:'](n)" (some ":>\x7bw\x7d"), .field "n" none,
      .literal "\x7d"] := by
    refine ⟨?_, by simp [Piece.isLiteral]⟩
    simp only [List.forall_mem_cons, List.not_mem_nil, false_implies, implies_true, and_true]
    refine ⟨by simp [Piece.Separable], ⟨⟨'d', ?_⟩, by simp, by simpa using hsource, ?_⟩,
      ⟨⟨'n', ?_⟩, by simp, by simpa using hletter, nofun⟩, by simp [Piece.Separable]⟩
    · decide
    · rintro _ ⟨⟩
      simpa using hspec
    · decide
  exact ⟨hseparate, split_render hseparate⟩

end Tilde.Template
