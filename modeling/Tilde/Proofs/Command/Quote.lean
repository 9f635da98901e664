import Tilde.Shell.Quote

/-!
# What a shell reads

How a shell reads any command text, and what it reads where a value has been quoted.

## Reading a command text

How a shell takes a command text apart into words and operators. The reader goes through the text
once. Outside quotes a backslash takes the next character as it is, blanks and newlines end a word,
the operator characters stand for themselves, and a number sign where a word could start hides the
rest of the line. In single quotes nothing is special; in double quotes a backslash matters in front
of a few characters only.

The reader is made for texts with gaps: a field of a template passes for one ordinary letter. What
it read of a template can then be filled in (`fill`) with what stands in the fields, and compared
with what it reads in the finished text. Reading commutes with filling at every character, since the
reader looks at the characters alone.
-/

namespace Tilde.Shell

/-- A character of a command text, or a field that a value will stand for. -/
inductive Glyph where
  | char (c : Char)
  | field (index : Nat)
  deriving DecidableEq, Repr

/-- The character that the reader sees: a field passes for a letter. -/
def Glyph.seen : Glyph → Char
  | char c => c
  | field _ => 'x'

/-- Characters as glyphs. -/
def glyphs (cs : List Char) : List Glyph := cs.map .char

@[simp] theorem glyphs_nil : glyphs [] = [] := rfl

@[simp] theorem glyphs_cons (c : Char) (cs : List Char) :
    glyphs (c :: cs) = .char c :: glyphs cs := rfl

@[simp] theorem glyphs_append (cs ds : List Char) : glyphs (cs ++ ds) = glyphs cs ++ glyphs ds :=
  List.map_append

/-- What keeps the shell from giving a character of a word a meaning of its own. -/
inductive Guard where
  | bare
  | escaped
  | single
  | double
  deriving DecidableEq, Repr

/-- What a command consists of. -/
inductive Item where
  | word (parts : List (Glyph × Guard))
  | operator (c : Char)
  deriving DecidableEq, Repr

/-- Where the reader of a command stands. -/
inductive Stance where
  | plain
  /-- After a backslash outside quotes. -/
  | escape
  | comment
  | single
  | double
  /-- After a backslash in double quotes. -/
  | doubleEscape
  deriving DecidableEq, Repr

/-- The reader of a command: where it stands, the word being read, if one is, and what it has read
before. -/
structure Reader where
  stance : Stance := .plain
  word : Option (List (Glyph × Guard)) := none
  items : List Item := []
  deriving DecidableEq, Repr

/-- Whether the character ends a word and is none. -/
def separates (c : Char) : Bool := [' ', '\t', '\n'].contains c

/-- Whether the character is an operator. -/
def isOperator (c : Char) : Bool := [';', '&', '|', '<', '>', '(', ')'].contains c

/-- Whether a backslash in double quotes takes the character as it is. -/
def isEscapable (c : Char) : Bool := ['$', '\x60', '"', '\\', '\n'].contains c

namespace Reader

/-- Adds to the word being read, or begins one. -/
def add (r : Reader) (parts : List (Glyph × Guard)) : Reader :=
  { r with word := some (r.word.getD [] ++ parts) }

/-- Ends the word being read, if one is. -/
def endWord (r : Reader) : Reader :=
  match r.word with
  | none => r
  | some parts => { r with word := none, items := r.items ++ [.word parts] }

/-- Adds an operator to what has been read. -/
def operator (r : Reader) (c : Char) : Reader := { r with items := r.items ++ [.operator c] }

/-- Goes on from another stance. -/
def stand (r : Reader) (stance : Stance) : Reader := { r with stance }

/-- Reads a glyph outside quotes. -/
def stepPlain (r : Reader) (g : Glyph) : Reader :=
  if g.seen = '\\' then r.stand .escape
  else if g.seen = '\'' then (r.add []).stand .single
  else if g.seen = '"' then (r.add []).stand .double
  else if separates g.seen then r.endWord
  else if isOperator g.seen then r.endWord.operator g.seen
  else if g.seen = '#' && r.word.isNone then r.stand .comment
  else r.add [(g, .bare)]

/-- Reads a glyph. -/
def step (r : Reader) (g : Glyph) : Reader :=
  match r.stance with
  | .plain => r.stepPlain g
  | .escape => (r.add [(g, .escaped)]).stand .plain
  | .comment => if g.seen = '\n' then r.stand .plain else r
  | .single => if g.seen = '\'' then r.stand .plain else r.add [(g, .single)]
  | .double =>
    if g.seen = '"' then r.stand .plain
    else if g.seen = '\\' then r.stand .doubleEscape
    else r.add [(g, .double)]
  | .doubleEscape =>
    if isEscapable g.seen then (r.add [(g, .escaped)]).stand .double
    else (r.add [(.char '\\', .double), (g, .double)]).stand .double

/-- Reads on. -/
def run (r : Reader) (gs : List Glyph) : Reader := gs.foldl step r

/-- Reads a text from its start. -/
def read (gs : List Glyph) : Reader := run {} gs

theorem run_append (r : Reader) (gs hs : List Glyph) :
    r.run (gs ++ hs) = (r.run gs).run hs := List.foldl_append

@[simp] theorem run_nil (r : Reader) : r.run [] = r := rfl

theorem run_cons (r : Reader) (g : Glyph) (gs : List Glyph) :
    r.run (g :: gs) = (r.step g).run gs := rfl

@[simp] theorem stance_add (r : Reader) (parts : List (Glyph × Guard)) :
    (r.add parts).stance = r.stance := rfl

@[simp] theorem stance_stand (r : Reader) (s : Stance) : (r.stand s).stance = s := rfl

@[simp] theorem stand_stand (r : Reader) (s t : Stance) : (r.stand s).stand t = r.stand t := rfl

theorem stand_self {r : Reader} {s : Stance} (h : r.stance = s) : r.stand s = r := by
  subst h
  rfl

theorem add_stand (r : Reader) (s : Stance) (parts : List (Glyph × Guard)) :
    (r.stand s).add parts = (r.add parts).stand s := rfl

theorem add_add (r : Reader) (parts more : List (Glyph × Guard)) :
    (r.add parts).add more = r.add (parts ++ more) := by
  simp [add, List.append_assoc]

/-- Adding nothing to a word changes nothing. -/
theorem add_nil {r : Reader} (h : r.word.isSome) : r.add [] = r := by
  obtain ⟨w, hw⟩ := Option.isSome_iff_exists.mp h
  cases r
  simp_all [add]

/-- A field outside quotes is a letter of the word being read. -/
theorem step_field {r : Reader} (h : r.stance = .plain) (i : Nat) :
    r.step (.field i) = r.add [(.field i, .bare)] := by
  rw [step, h]
  rfl

end Reader

/-! ### Filling fields in -/

/-- Characters and their guards as parts of a word. -/
def partsOf (cs : List (Char × Guard)) : List (Glyph × Guard) := cs.map fun p => (.char p.1, p.2)

theorem partsOf_append (cs ds : List (Char × Guard)) :
    partsOf (cs ++ ds) = partsOf cs ++ partsOf ds := List.map_append

/-- The parts that stand for a part once each field has a value. -/
def fillPart (values : Nat → List (Char × Guard)) : Glyph × Guard → List (Glyph × Guard)
  | (.char c, guard) => [(.char c, guard)]
  | (.field i, _) => partsOf (values i)

/-- A word or an operator with its fields filled in. -/
def Item.fill (values : Nat → List (Char × Guard)) : Item → Item
  | .word parts => .word (parts.flatMap (fillPart values))
  | .operator c => .operator c

namespace Reader

variable (values : Nat → List (Char × Guard))

/-- What was read with the fields filled in. -/
def fill (r : Reader) : Reader where
  stance := r.stance
  word := r.word.map (·.flatMap (fillPart values))
  items := r.items.map (Item.fill values)

@[simp] theorem fill_stance (r : Reader) : (r.fill values).stance = r.stance := rfl

theorem fill_add (r : Reader) (parts : List (Glyph × Guard)) :
    (r.add parts).fill values = (r.fill values).add (parts.flatMap (fillPart values)) := by
  cases hw : r.word <;> simp [fill, add, hw]

theorem fill_endWord (r : Reader) : r.endWord.fill values = (r.fill values).endWord := by
  cases hw : r.word <;> simp [fill, endWord, hw, Item.fill]

@[simp] theorem fill_stand (r : Reader) (s : Stance) :
    (r.stand s).fill values = (r.fill values).stand s := rfl

theorem fill_operator (r : Reader) (c : Char) :
    (r.operator c).fill values = (r.fill values).operator c := by
  simp [fill, operator, Item.fill]

@[simp] theorem isNone_word_fill (r : Reader) :
    (r.fill values).word.isNone = r.word.isNone := by
  cases hw : r.word <;> simp [fill, hw]

/-- Reading a character and filling in may change places. -/
theorem fill_step (r : Reader) (c : Char) :
    (r.step (.char c)).fill values = (r.fill values).step (.char c) := by
  unfold step stepPlain
  rw [fill_stance, isNone_word_fill]
  cases r.stance with
  | plain =>
    dsimp only
    repeat' split
    all_goals simp [fill_add, fill_endWord, fill_operator, fillPart]
  | escape => simp [fill_add, fillPart]
  | comment =>
    dsimp only
    split <;> rfl
  | single | double | doubleEscape =>
    dsimp only
    repeat' split
    all_goals simp [fill_add, fillPart]

/-- Reading a text and filling in may change places. -/
theorem fill_run (r : Reader) (cs : List Char) :
    (r.run (glyphs cs)).fill values = (r.fill values).run (glyphs cs) := by
  induction cs generalizing r with
  | nil => rfl
  | cons c cs ih =>
    rw [glyphs_cons, run_cons, run_cons, ← fill_step]
    exact ih (r.step (.char c))

end Reader

end Tilde.Shell

/-!
## Reading a quoted value

A quoted value is read as a run of characters of one word: exactly the characters of the value, and
none of them gives up its guard to what stands around. The quotes that a chunk opens it also closes,
so the reader is outside quotes again after each chunk, and the chunks join to one word. A character
stands without quotes only if it means itself to every shell, and one that a shell would expand only
ever stands in single quotes (`Sheltered`).

So a quoted value stands for one word, which is the value, wherever a word may stand. The characters
that a shell reads in a way of its own stand in quotes there, and those that are live in double
quotes stand in single ones. Since the reader gets the value back, no two values are quoted alike.
-/

namespace Tilde.Shell

/-- Whether a shell expands what the character introduces, unless it stands in single quotes or
after a backslash. -/
def expands (c : Char) : Bool := c == '$' || c == '\x60'

/-- Whether some shell gives the character a meaning in double quotes. -/
def isLive (c : Char) : Bool := ['\x60', '$', '!', '^'].contains c

/-- What the style of a chunk has to say about its characters. -/
structure Styles.Allow (s : Styles) (chunk : List Char) : Prop where
  some_style : s.isEmpty = false
  bare : s.bare = true → ∀ c ∈ chunk, isBare c = true
  single : s.single = true → ∀ c ∈ chunk, c ≠ '\''
  double : s.double = true → ∀ c ∈ chunk, isLive c = false

variable {s : Styles} {chunk : List Char} {c : Char}

theorem not_isLive_of_double (h : (stylesOf c).double = true) : isLive c = false := by
  simpa [stylesOf, isLive] using h

theorem single_ne_quote (h : (stylesOf c).single = true) : c ≠ '\'' := by
  rintro rfl
  exact absurd h (by decide)

theorem allow_first (c : Char) : (firstStyles c).Allow [c] := by
  by_cases hc : c = '^'
  · subst hc
    refine ⟨by decide, ?_, ?_, ?_⟩ <;> simp only [List.forall_mem_singleton] <;> decide
  · rw [firstStyles, if_neg hc]
    refine ⟨?_, ?_, ?_, ?_⟩
    · by_cases hq : c = '\''
      · subst hq; decide
      · by_cases hb : c = '\\'
        · subst hb; decide
        · simp [Styles.isEmpty, stylesOf, hc, hq, hb]
    · exact fun h c' hc' => by rwa [List.mem_singleton.mp hc']
    · exact fun h c' hc' => by rw [List.mem_singleton.mp hc']; exact single_ne_quote h
    · exact fun h c' hc' => by rw [List.mem_singleton.mp hc']; exact not_isLive_of_double h

/-- A chunk grows by a character that leaves it a style. -/
theorem Styles.Allow.cons (h : s.Allow chunk) (hc : (s.meet (stylesOf c)).isEmpty = false) :
    (s.meet (stylesOf c)).Allow (c :: chunk) := by
  refine ⟨hc, fun hb => ?_, fun hs => ?_, fun hd => ?_⟩
  · obtain ⟨h1, h2⟩ : s.bare = true ∧ isBare c = true := by simpa [meet, stylesOf] using hb
    exact List.forall_mem_cons.mpr ⟨h2, h.bare h1⟩
  · obtain ⟨h1, h2⟩ : s.single = true ∧ (stylesOf c).single = true := by simpa [meet] using hs
    exact List.forall_mem_cons.mpr ⟨single_ne_quote h2, h.single h1⟩
  · obtain ⟨h1, h2⟩ : s.double = true ∧ (stylesOf c).double = true := by simpa [meet] using hd
    exact List.forall_mem_cons.mpr ⟨not_isLive_of_double h2, h.double h1⟩

theorem Styles.Allow.reverse (h : s.Allow chunk) : s.Allow chunk.reverse :=
  ⟨h.some_style, fun hb c hc => h.bare hb c (List.mem_reverse.mp hc),
    fun hs c hc => h.single hs c (List.mem_reverse.mp hc),
    fun hd c hc => h.double hd c (List.mem_reverse.mp hc)⟩

/-! ### One chunk -/

/-- The guard that a character gets in double quotes. -/
def doubleGuard (c : Char) : Guard := if c = '"' ∨ c = '\\' then .escaped else .double

/-- The guard that a style gives a character. -/
def Styles.guard (s : Styles) (c : Char) : Guard :=
  if s.bare then .bare else if s.single then .single else doubleGuard c

/-- The characters of a chunk with the guards its style gives them. -/
def guarded (s : Styles) (chunk : List Char) : List (Char × Guard) :=
  chunk.map fun c => (c, s.guard c)

/-- A bare character is none that the reader treats in a way of its own. -/
theorem stepPlain_bare {r : Reader} (h : isBare c = true) :
    r.stepPlain (.char c) = r.add [(.char c, .bare)] := by
  have hne : ∀ d, isBare d = false → c ≠ d := by
    rintro d hd rfl
    rw [h] at hd
    cases hd
  have hsep : separates c = false := by
    simp [separates, hne ' ' (by decide), hne '\t' (by decide), hne '\n' (by decide)]
  have hop : isOperator c = false := by
    simp [isOperator, hne ';' (by decide), hne '&' (by decide), hne '|' (by decide),
      hne '<' (by decide), hne '>' (by decide), hne '(' (by decide), hne ')' (by decide)]
  simp [Reader.stepPlain, Glyph.seen, hsep, hop, hne '\\' (by decide), hne '\'' (by decide),
    hne '"' (by decide), hne '#' (by decide)]

/-- Where each character is read as itself, all of them are. -/
theorem run_each {r : Reader} {stance : Stance} {f : Char → List Char} {g : Char → Guard}
    (hr : r.stance = stance) (hw : r.word.isSome) {cs : List Char}
    (h : ∀ c ∈ cs, ∀ r : Reader, r.stance = stance →
      r.run (glyphs (f c)) = r.add [(.char c, g c)]) :
    r.run (glyphs (cs.flatMap f)) = r.add (partsOf (cs.map fun c => (c, g c))) := by
  induction cs generalizing r with
  | nil => exact (Reader.add_nil hw).symm
  | cons c cs ih =>
    rw [List.flatMap_cons, glyphs_append, Reader.run_append, h c (List.mem_cons_self ..) r hr,
      ih (r := r.add _) hr rfl fun d hd => h d (List.mem_cons_of_mem c hd), Reader.add_add]
    rfl

theorem run_bare {r : Reader} (hr : r.stance = .plain) (hw : r.word.isSome) {cs : List Char}
    (h : ∀ c ∈ cs, isBare c = true) :
    r.run (glyphs cs) = r.add (partsOf (cs.map fun c => (c, .bare))) := by
  have hrun := run_each (f := fun c => [c]) (g := fun _ => .bare) hr hw fun c hc r hr => by
    rw [glyphs_cons, Reader.run_cons, Reader.step, hr]
    exact stepPlain_bare (h c hc)
  rwa [List.flatMap_singleton'] at hrun

theorem run_single {r : Reader} (hr : r.stance = .single) (hw : r.word.isSome) {cs : List Char}
    (h : ∀ c ∈ cs, c ≠ '\'') :
    r.run (glyphs cs) = r.add (partsOf (cs.map fun c => (c, .single))) := by
  have hrun := run_each (f := fun c => [c]) (g := fun _ => .single) hr hw fun c hc r hr => by
    rw [glyphs_cons, Reader.run_cons, Reader.step, hr]
    exact if_neg (h c hc)
  rwa [List.flatMap_singleton'] at hrun

/-- A character in double quotes, after a backslash where it needs one. -/
def escapeDouble (c : Char) : List Char := if c = '"' || c = '\\' then ['\\', c] else [c]

theorem run_double {r : Reader} (hr : r.stance = .double) (hw : r.word.isSome)
    (cs : List Char) :
    r.run (glyphs (cs.flatMap escapeDouble)) =
      r.add (partsOf (cs.map fun c => (c, doubleGuard c))) := by
  refine run_each hr hw fun c _ r hr => ?_
  by_cases hc : c = '"' ∨ c = '\\'
  · have hesc : isEscapable c = true := by rcases hc with rfl | rfl <;> decide
    simp [escapeDouble, hc, Reader.run, Reader.step, hr, Glyph.seen, hesc,
      doubleGuard, Reader.add_stand, Reader.stand_self]
  · obtain ⟨h1, h2⟩ := not_or.mp hc
    simp [escapeDouble, h1, h2, Reader.run, Reader.step, hr, Glyph.seen, doubleGuard]

/-- A chunk is read as its characters, and leaves the reader outside quotes. -/
theorem run_writeChunk {r : Reader} (hr : r.stance = .plain) (hs : s.Allow chunk)
    (hne : chunk ≠ []) :
    r.run (glyphs (writeChunk s chunk)) = r.add (partsOf (guarded s chunk)) := by
  obtain ⟨c, cs, rfl⟩ := List.exists_cons_of_ne_nil hne
  unfold writeChunk guarded Styles.guard
  by_cases hb : s.bare = true
  · -- the first character begins the word, if none is being read
    have hstep : r.step (.char c) = r.add [(.char c, .bare)] := by
      rw [Reader.step, hr]
      exact stepPlain_bare (hs.bare hb c (List.mem_cons_self ..))
    simp only [hb, if_true]
    rw [glyphs_cons, Reader.run_cons, hstep,
      run_bare (r := r.add _) hr rfl fun d hd => hs.bare hb d (List.mem_cons_of_mem c hd),
      Reader.add_add]
    rfl
  · -- in quotes, the closing one leads back to where the reader was
    have hclose : ∀ (stance : Stance) (parts : List (Glyph × Guard)),
        (((r.add []).stand stance).add parts).stand .plain = r.add parts := fun stance parts => by
      rw [Reader.add_stand, Reader.add_add, Reader.stand_stand, List.nil_append]
      exact Reader.stand_self hr
    by_cases hq : s.single = true
    · have hopen : r.step (.char '\'') = (r.add []).stand .single := by
        rw [Reader.step, hr]
        rfl
      simp only [hb, hq, if_true, Bool.false_eq_true, if_false]
      rw [List.cons_append, glyphs_cons, Reader.run_cons, hopen, glyphs_append,
        Reader.run_append, run_single rfl rfl (hs.single hq)]
      exact hclose .single _
    · have hopen : r.step (.char '"') = (r.add []).stand .double := by
        rw [Reader.step, hr]
        rfl
      simp only [hb, hq, Bool.false_eq_true, if_false]
      rw [List.cons_append, glyphs_cons, Reader.run_cons, hopen, glyphs_append,
        Reader.run_append]
      have hrun := run_double (r := (r.add []).stand .double) rfl rfl (c :: cs)
      unfold escapeDouble at hrun
      rw [hrun]
      exact hclose .double _

theorem not_isBare_of_isLive (h : isLive c = true) : isBare c = false := by
  simp only [isLive, List.contains_eq_mem, decide_eq_true_eq, List.mem_cons, List.not_mem_nil,
    or_false] at h
  rcases h with rfl | rfl | rfl | rfl <;> decide

/-- In a chunk a live character stands in single quotes. -/
theorem guard_of_isLive (hs : s.Allow chunk) (hc : c ∈ chunk) (hlive : isLive c = true) :
    s.guard c = .single := by
  unfold Styles.guard
  by_cases hb : s.bare = true
  · have hbare := hs.bare hb c hc
    rw [not_isBare_of_isLive hlive] at hbare
    cases hbare
  · by_cases hq : s.single = true
    · simp [hb, hq]
    · have hd : s.double = true := by simpa [Styles.isEmpty, hb, hq] using hs.some_style
      rw [hs.double hd c hc] at hlive
      cases hlive

theorem isBare_of_guard (hs : s.Allow chunk) (hc : c ∈ chunk) (hbare : s.guard c = .bare) :
    isBare c = true := by
  unfold Styles.guard doubleGuard at hbare
  by_cases hb : s.bare = true
  · exact hs.bare hb c hc
  · grind

/-- A backslash guards only what would end the double quotes, and itself. -/
theorem eq_of_guard_escaped (h : s.guard c = .escaped) : c = '"' ∨ c = '\\' := by
  unfold Styles.guard doubleGuard at h
  grind

/-! ### The whole value -/

/-- A way to guard the characters of a value that leaves none of them to be expanded. -/
structure Guarded (value : List Char) (cs : List (Char × Guard)) : Prop where
  chars : cs.map Prod.fst = value
  expansion : ∀ p ∈ cs, expands p.1 = true → p.2 = .single

/-- A way to guard the characters of a value that leaves none of them a meaning of its own: what
stands without quotes means itself, and what is live in double quotes stands in single ones. -/
structure Sheltered (value : List Char) (cs : List (Char × Guard)) : Prop where
  chars : cs.map Prod.fst = value
  bare : ∀ p ∈ cs, p.2 = .bare → isBare p.1 = true
  escaped : ∀ p ∈ cs, p.2 = .escaped → p.1 = '"' ∨ p.1 = '\\'
  live : ∀ p ∈ cs, isLive p.1 = true → p.2 = .single

theorem Sheltered.guarded {value : List Char} {cs : List (Char × Guard)}
    (h : Sheltered value cs) : Guarded value cs where
  chars := h.chars
  expansion p hp hx := h.live p hp (by
    simp only [expands, Bool.or_eq_true, beq_iff_eq] at hx
    rcases hx with hx | hx <;> rw [hx] <;> decide)

theorem sheltered_guarded (hs : s.Allow chunk) : Sheltered chunk (guarded s chunk) := by
  have hmem : ∀ p ∈ guarded s chunk, p.1 ∈ chunk ∧ p.2 = s.guard p.1 := fun p hp => by
    obtain ⟨c, hc, rfl⟩ := List.mem_map.mp hp
    exact ⟨hc, rfl⟩
  refine ⟨by simp [guarded, Function.comp_def], fun p hp h => ?_, fun p hp h => ?_,
    fun p hp h => ?_⟩
  all_goals obtain ⟨hc, hguard⟩ := hmem p hp
  · exact isBare_of_guard hs hc (hguard.symm.trans h)
  · exact eq_of_guard_escaped (hguard.symm.trans h)
  · exact hguard.trans (guard_of_isLive hs hc h)

theorem Sheltered.append {v w : List Char} {cs ds : List (Char × Guard)} (hv : Sheltered v cs)
    (hw : Sheltered w ds) : Sheltered (v ++ w) (cs ++ ds) where
  chars := by rw [List.map_append, hv.chars, hw.chars]
  bare p hp := (List.mem_append.mp hp).elim (hv.bare p) (hw.bare p)
  escaped p hp := (List.mem_append.mp hp).elim (hv.escaped p) (hw.escaped p)
  live p hp := (List.mem_append.mp hp).elim (hv.live p) (hw.live p)

theorem run_writeChunks (cs : List Char) (hs : s.Allow chunk) (hne : chunk ≠ []) :
    ∃ gs, Sheltered (chunk.reverse ++ cs) gs ∧ ∀ r : Reader, r.stance = .plain →
      r.run (glyphs (writeChunks s chunk cs)) = r.add (partsOf gs) := by
  induction cs generalizing s chunk with
  | nil =>
    refine ⟨guarded s chunk.reverse, ?_, fun r hr => ?_⟩
    · rw [List.append_nil]
      exact sheltered_guarded hs.reverse
    · exact run_writeChunk hr hs.reverse (by simpa using hne)
  | cons c cs ih =>
    rw [writeChunks]
    cases hm : (s.meet (stylesOf c)).isEmpty with
    | false =>
      -- the chunk goes on
      obtain ⟨gs, hgs, hrun⟩ := ih (hs.cons hm) (List.cons_ne_nil c chunk)
      refine ⟨gs, ?_, fun r hr => ?_⟩
      · simpa using hgs
      · simpa [hm] using hrun r hr
    | true =>
      -- the chunk ends, and the character begins the next one
      obtain ⟨gs, hgs, hrun⟩ := ih (allow_first c) (List.cons_ne_nil c [])
      refine ⟨guarded s chunk.reverse ++ gs, ?_, fun r hr => ?_⟩
      · exact (sheltered_guarded hs.reverse).append (by simpa using hgs)
      · simp only [if_true]
        rw [glyphs_append, Reader.run_append,
          run_writeChunk hr hs.reverse (by simpa using hne), hrun _ (by simpa using hr),
          Reader.add_add, partsOf_append]

/-- **A quoted value is read as its own characters, all of them in one word and sheltered.** -/
theorem quoteChars_sheltered (value : List Char) :
    ∃ gs, Sheltered value gs ∧ ∀ r : Reader, r.stance = .plain →
      r.run (glyphs (quoteChars value)) = r.add (partsOf gs) := by
  cases value with
  | nil =>
    refine ⟨[], ⟨rfl, nofun, nofun, nofun⟩, fun r hr => ?_⟩
    cases r
    simp_all [quoteChars, Reader.run, Reader.step, Reader.stepPlain, Glyph.seen, Reader.stand,
      Reader.add, partsOf]
  | cons c cs =>
    obtain ⟨gs, hgs, hrun⟩ := run_writeChunks cs (allow_first c) (List.cons_ne_nil c [])
    exact ⟨gs, by simpa using hgs, hrun⟩

theorem run_quoteChars (value : List Char) :
    ∃ gs, Guarded value gs ∧ ∀ r : Reader, r.stance = .plain →
      r.run (glyphs (quoteChars value)) = r.add (partsOf gs) := by
  obtain ⟨gs, hgs, hrun⟩ := quoteChars_sheltered value
  exact ⟨gs, hgs.guarded, hrun⟩

theorem quote_of_noNul {value : String} (h : '\x00' ∉ value.toList) :
    quote value = .ok (String.ofList (quoteChars value.toList)) := by
  rw [quote, if_neg (by simpa using h)]

theorem quote_of_nul {value : String} (h : '\x00' ∈ value.toList) :
    quote value = .error ⟨value⟩ := by
  rw [quote, if_pos (by simpa using h)]

end Tilde.Shell

/-! ### Quoting is undone by a shell -/

namespace Tilde.Shell

variable {value text : String} {cs : List (Char × Guard)} {c : Char}

/-- Whether the character is one that a pattern of file names gives a meaning. -/
def isGlob (c : Char) : Bool := ['*', '?', '['].contains c

/-- Whether a shell may read the character in a way of its own outside quotes. -/
def isSpecial (c : Char) : Bool :=
  separates c || isOperator c || isGlob c || isLive c || ['~', '#', '='].contains c

theorem not_isBare_of_isSpecial (h : isSpecial c = true) : isBare c = false := by
  simp only [isSpecial, separates, isOperator, isGlob, Bool.or_eq_true, List.contains_eq_mem,
    decide_eq_true_eq, List.mem_cons, List.not_mem_nil, or_false] at h
  obtain (((h | h) | h) | h) | h := h
  · rcases h with rfl | rfl | rfl <;> decide
  · rcases h with rfl | rfl | rfl | rfl | rfl | rfl | rfl <;> decide
  · rcases h with rfl | rfl | rfl <;> decide
  · exact not_isBare_of_isLive h
  · rcases h with rfl | rfl | rfl <;> decide

/-- A special character of a sheltered value stands in quotes. -/
theorem Sheltered.quoted {chars : List Char} (h : Sheltered chars cs) :
    ∀ p ∈ cs, isSpecial p.1 = true → p.2 = .single ∨ p.2 = .double := by
  intro p hp hspecial
  cases hguard : p.2 with
  | bare =>
    have hbare := h.bare p hp hguard
    rw [not_isBare_of_isSpecial hspecial] at hbare
    cases hbare
  | escaped =>
    rcases h.escaped p hp hguard with hc | hc
    all_goals
      rw [hc] at hspecial
      exact absurd hspecial (by decide)
  | single => exact .inl rfl
  | double => exact .inr rfl

/-- The text is one word, whose characters are those of the value with the guards `cs` tells. -/
structure IsWordOf (value text : String) (cs : List (Char × Guard)) : Prop where
  chars : cs.map Prod.fst = value.toList
  /-- By itself it is read as the one word and nothing else. -/
  alone : (Reader.read (glyphs text.toList)).endWord.items = [.word (partsOf cs)]
  /-- Outside quotes it adds the characters to the word that is read there, or begins one, and
  whatever follows is read outside quotes again. -/
  within : ∀ r : Reader, r.stance = .plain → ∀ rest,
    r.run (glyphs (text.toList ++ rest)) = (r.add (partsOf cs)).run (glyphs rest)
      ∧ (r.run (glyphs text.toList)).stance = .plain
  quoted : ∀ p ∈ cs, isSpecial p.1 = true → p.2 = .single ∨ p.2 = .double
  live : ∀ p ∈ cs, isLive p.1 = true → p.2 = .single

theorem exists_isWordOf (value : String) :
    ∃ cs, IsWordOf value (String.ofList (quoteChars value.toList)) cs := by
  obtain ⟨cs, hcs, hrun⟩ := quoteChars_sheltered value.toList
  refine ⟨cs, hcs.chars, ?_, fun r hr rest => ⟨?_, ?_⟩, hcs.quoted, hcs.live⟩
  all_goals rw [String.toList_ofList]
  · rw [Reader.read, hrun {} rfl]
    rfl
  · rw [glyphs_append, Reader.run_append, hrun r hr]
  · rw [hrun r hr]
    exact hr

/-- The word of a text tells its value. -/
theorem IsWordOf.value_eq {other : String} {ds : List (Char × Guard)} (h : IsWordOf value text cs)
    (hother : IsWordOf other text ds) : value = other := by
  have hparts : partsOf cs = partsOf ds := by
    have hwords := h.alone.symm.trans hother.alone
    simpa using hwords
  have hpairs : cs = ds := by
    refine (List.map_inj_right fun p q h => ?_).mp hparts
    simpa [Prod.ext_iff] using h
  rw [← String.toList_inj, ← h.chars, ← hother.chars, hpairs]

theorem quote_isWordOf (h : quote value = .ok text) : ∃ cs, IsWordOf value text cs := by
  by_cases hnul : '\x00' ∈ value.toList
  · rw [quote_of_nul hnul] at h
    cases h
  · rw [quote_of_noNul hnul] at h
    cases h
    exact exists_isWordOf value

/-- **Quoting is undone by a shell.** A value without NUL is quoted as a text that is read as one
word, which is the value; values that are quoted alike are the same; and a value with a NUL in it is
not quoted, but named by the error. -/
theorem quote_is_word :
    (∀ value : String, '\x00' ∉ value.toList →
      ∃ text cs, quote value = .ok text ∧ IsWordOf value text cs)
    ∧ (∀ value other text, quote value = .ok text → quote other = .ok text → value = other)
    ∧ ∀ value : String, '\x00' ∈ value.toList → quote value = .error ⟨value⟩ := by
  refine ⟨fun value h => ?_, fun value other text h hother => ?_, fun value => quote_of_nul⟩
  · obtain ⟨cs, hcs⟩ := exists_isWordOf value
    exact ⟨_, cs, quote_of_noNul h, hcs⟩
  · obtain ⟨cs, hcs⟩ := quote_isWordOf h
    obtain ⟨ds, hds⟩ := quote_isWordOf hother
    exact hcs.value_eq hds

/-- A value whose characters exclude one another's quotes. -/
theorem quote_is_word_of_mixed : quote "it's $é" = .ok "\"it's \"'$é'"
    ∧ ∃ cs, IsWordOf "it's $é" "\"it's \"'$é'" cs := by
  have hquote : quote "it's $é" = .ok "\"it's \"'$é'" := by rfl
  obtain ⟨text, cs, htext, hcs⟩ := quote_is_word.1 "it's $é" (by decide)
  cases hquote.symm.trans htext
  exact ⟨hquote, cs, hcs⟩

end Tilde.Shell
