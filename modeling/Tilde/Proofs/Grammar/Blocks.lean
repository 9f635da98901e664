import Mathlib.Data.List.Chain
import Tilde.Proofs.Grammar.Derivation
import Tilde.Proofs.Grammar.Sound
import Tilde.Proofs.Lexer.Step

/-!
# Empty blocks

An indented block should hold a statement. The parser does not see to that: it reads statements until
an indentation is closed, and accepts a block that is closed where it is opened. So a program is in the
grammar with full blocks if and only if no token that closes an indentation stands directly behind one
that opens it.

The lexer mostly sees to it. It opens an indentation at the first character of a deeper line, where a
token begins, with one exception: a backslash, which carries the line on to the next one and leaves no
token. If nothing follows there, the indentation is closed with nothing in it.
-/

namespace Tilde

/-- No indentation is closed where it is opened. -/
def Filled (ls : List Lexeme) : Prop := ls.IsChain fun l m => l = .indent → m ≠ .dedent

instance : DecidablePred Filled := fun ls =>
  inferInstanceAs (Decidable (ls.IsChain fun l m => l = .indent → m ≠ .dedent))

open Tilde.Parser

namespace Grammar

variable {field : FieldParser} {full : List Stmt → Prop} {ph : Phrase} {c : Clause}
  {ls ms : List Lexeme}

/-! ## Full blocks leave no indentation empty -/

/-- A run of statements is spelled by some lexeme, unless it is empty. -/
theorem Produces.ne_nil (h : Produces field full c ls) (hc : match c with
    | .simple _ | .stmt _ | .block _ => True
    | .run body => body ≠ []
    | .orelse _ | .handlers _ => False) : ls ≠ [] := by
  induction h with
  | evaluate he _ => exact he.ne_nil trivial
  | _ => simp_all

/-- Lexemes that leave no indentation empty, whatever stands before and behind them. -/
structure Sealed (ls : List Lexeme) : Prop where
  filled : Filled ls
  head : ∀ l ∈ ls.head?, l ≠ .dedent
  last : ∀ l ∈ ls.getLast?, l ≠ .indent

namespace Sealed

theorem nil : Sealed [] := ⟨.nil, nofun, nofun⟩

theorem append (h : Sealed ls) (h' : Sealed ms) : Sealed (ls ++ ms) where
  filled := List.isChain_append.mpr ⟨h.filled, h'.filled, fun l hl _ _ hindent =>
    absurd hindent (h.last l hl)⟩
  head := by
    cases ls with
    | nil => exact h'.head
    | cons l ls => exact h.head
  last := by
    cases ms with
    | nil =>
      rw [List.append_nil]
      exact h.last
    | cons m ms =>
      rw [List.getLast?_append_of_ne_nil _ (by simp)]
      exact h'.last

theorem cons {l : Lexeme} (hindent : l ≠ .indent) (hdedent : l ≠ .dedent) (h : Sealed ls) :
    Sealed (l :: ls) := by
  show Sealed ([l] ++ ls)
  refine .append ⟨.singleton l, ?_, ?_⟩ h
  · simpa using hdedent
  · simpa using hindent

theorem word (w : String) (h : Sealed ls) : Sealed (.word w :: ls) := h.cons nofun nofun

theorem symbol (s : Symbol) (h : Sealed ls) : Sealed (.symbol s :: ls) := h.cons nofun nofun

theorem of_inline (h : ∀ l ∈ ls, l.isLayout = false) : Sealed ls := by
  induction ls with
  | nil => exact .nil
  | cons l ls ih =>
    obtain ⟨hl, hls⟩ := List.forall_mem_cons.mp h
    refine .cons ?_ ?_ (ih hls)
    · rintro rfl
      cases hl
    · rintro rfl
      cases hl

/-- An indentation with something in it. -/
theorem indented (h : Sealed ls) (hne : ls ≠ []) :
    Sealed (.symbol .colon :: .newline :: .indent :: ls ++ [.dedent]) := by
  refine .symbol _ (.cons nofun nofun ⟨?_, nofun, ?_⟩)
  · refine List.isChain_cons.mpr ⟨fun l hl _ => h.head l ?_, List.isChain_append.mpr ?_⟩
    · rwa [← List.head?_append_of_ne_nil _ hne]
    · refine ⟨h.filled, .singleton _, fun l hl m _ hindent => absurd hindent (h.last l hl)⟩
  · intro l hl
    obtain rfl := Option.some.inj (hl.symm.trans List.getLast?_concat)
    nofun

end Sealed

theorem Derives.sealed (h : Derives field ph ls) : Sealed ls := by
  refine .of_inline fun l hl => ?_
  have hinline := h.inline l hl
  cases l <;> first | rfl | cases hinline

theorem IsLineEnd.sealed (h : IsLineEnd ls) : Sealed ls := by
  rcases h with rfl | rfl
  · exact .nil
  · exact .cons nofun nofun .nil

theorem sealed_head (kind name : Option String) :
    Sealed (kindLexemes kind ++ bindingLexemes name) := by
  refine .of_inline ?_
  cases kind <;> cases name <;> simp [kindLexemes, bindingLexemes, Lexeme.isLayout]

/-- **Full blocks leave no indentation empty.** -/
theorem Produces.sealed (h : Produces field (· ≠ []) c ls) : Sealed ls := by
  -- a full block has a statement behind its indentation, and nothing else indents
  induction h with
  | @bare l s line h =>
    cases l with
    | word w => exact .word w .nil
    | _ => cases h
  | assert htest => exact .word _ htest.sealed
  | assertMessage htest hmessage => exact (htest.sealed.word _).append (hmessage.sealed.symbol _)
  | assign he _ hvalue _ => exact he.sealed.append (hvalue.sealed.symbol _)
  | evaluate he _ => exact he.sealed
  | line _ heol ih => exact ih.append heol.sealed
  | branch htest _ _ ihbody ihelse | elif htest _ _ ihbody ihelse =>
    exact .word _ (htest.sealed.append (ihbody.append ihelse))
  | whileLoop htest _ ih => exact .word _ (htest.sealed.append ih)
  | forEach he _ hitems _ ih =>
    exact .word _ (he.sealed.append (.word _ (hitems.sealed.append ih)))
  | attempt _ _ _ ihbody ihhandlers => exact .word _ (ihbody.append ihhandlers)
  | noElse | noHandler | noStmt => exact .nil
  | otherwise _ ih => exact .word _ ih
  | handler _ _ ihhandlers ihblock =>
    exact ihhandlers.append (.word _ ((sealed_head _ _).append ihblock))
  | inline _ heol ih => exact (ih.symbol _).append heol.sealed
  | indented hrun hne ih => exact ih.indented (hrun.ne_nil hne)
  | blank _ ih => exact ih.append (.cons nofun nofun .nil)
  | more _ _ ihbody ihs => exact ihbody.append ihs

/-! ## Where no indentation is empty, blocks are full -/

/-- Lexemes of the layout that the lexer does not write behind an indentation that is opened. -/
def Opens (l m : Lexeme) : Prop := l = .indent → m ≠ .dedent ∧ m ≠ .newline

theorem run_nil (h : Produces field full (.run []) ls) : ∀ l ∈ ls, l = .newline := by
  generalize hc : Clause.run [] = c at h
  induction h with
  | noStmt => simp
  | blank _ ih =>
    cases hc
    simpa [or_imp, forall_and] using ih rfl
  | _ => simp at hc

/-- **Where no indentation is empty, blocks are full.** -/
theorem Produces.fill (h : Produces field (fun _ => True) c ls) (hls : ls.IsChain Opens) :
    Produces field (· ≠ []) c ls := by
  induction h with
  | bare h => exact .bare h
  | assert htest => exact .assert htest
  | assertMessage htest hmessage => exact .assertMessage htest hmessage
  | assign he htarget hvalue hstar => exact .assign he htarget hvalue hstar
  | evaluate he hstar => exact .evaluate he hstar
  | line _ heol ih => exact .line (ih hls.left_of_append) heol
  | branch htest _ _ ihbody ihelse =>
    have hrest := hls.of_cons.right_of_append
    exact .branch htest (ihbody hrest.left_of_append) (ihelse hrest.right_of_append)
  | elif htest _ _ ihbody ihelse =>
    have hrest := hls.of_cons.right_of_append
    exact .elif htest (ihbody hrest.left_of_append) (ihelse hrest.right_of_append)
  | whileLoop htest _ ih => exact .whileLoop htest (ih hls.of_cons.right_of_append)
  | forEach he htarget hitems _ ih =>
    have hrest := hls.of_cons.right_of_append.of_cons
    exact .forEach he htarget hitems (ih hrest.right_of_append)
  | attempt _ _ hne ihbody ihhandlers =>
    have hrest := hls.of_cons
    exact .attempt (ihbody hrest.left_of_append) (ihhandlers hrest.right_of_append) hne
  | noElse => exact .noElse
  | otherwise _ ih => exact .otherwise (ih hls.of_cons)
  | noHandler => exact .noHandler
  | handler _ _ ihhandlers ihblock =>
    exact .handler (ihhandlers hls.left_of_append)
      (ihblock hls.right_of_append.of_cons.right_of_append)
  | inline _ heol ih => exact .inline (ih hls.left_of_append.of_cons) heol
  | @indented body ls hrun _ ih =>
    have hrest : (.indent :: ls ++ [.dedent] : List Lexeme).IsChain Opens := hls.of_cons.of_cons
    refine .indented (ih hrest.left_of_append.of_cons) ?_
    rintro rfl
    -- only line ends stand between the two tokens, and none can stand first
    have hblank := run_nil hrun
    cases ls with
    | nil => exact (List.isChain_cons_cons.mp hrest).1 rfl |>.1 rfl
    | cons l ls =>
      exact (List.isChain_cons_cons.mp hrest).1 rfl |>.2 (hblank l (List.mem_cons_self ..))
  | noStmt => exact .noStmt
  | blank _ ih => exact .blank (ih hls.left_of_append)
  | more _ _ ihbody ihs => exact .more (ihbody hls.left_of_append) (ihs hls.right_of_append)

end Grammar

/-! ## Where an indentation is empty -/

namespace Lexer

/-- Behind the token `u`, the token `t` closes no indentation that `u` opens. -/
def Apart (t u : Token) : Prop := u.lexeme = .indent → t.lexeme ≠ .dedent

/-- Tokens, the last of them first, among which no indentation is empty, and the last of which opens
none. -/
structure Quiet (tokens : List Token) : Prop where
  apart : tokens.IsChain Apart
  head : ∀ t ∈ tokens.head?, t.lexeme ≠ .indent

theorem Quiet.cons {t : Token} {tokens : List Token} (h : tokens.IsChain Apart)
    (hindent : t.lexeme ≠ .indent) (hdedent : t.lexeme ≠ .dedent) : Quiet (t :: tokens) where
  apart := List.isChain_cons.mpr ⟨fun _ _ _ => hdedent, h⟩
  head := by
    rintro _ ⟨⟩
    exact hindent

/-- A token that closes an indentation stands behind any but one that opens it. -/
theorem Quiet.dedent {tokens : List Token} (h : Quiet tokens) (pos : Pos) :
    Quiet (⟨.dedent, pos⟩ :: tokens) where
  apart := List.isChain_cons.mpr ⟨fun u hu hindent => absurd hindent (h.head u hu), h.apart⟩
  head := by
    rintro _ ⟨⟩
    nofun

/-- Whether a token has begun. -/
def Mode.isPending : Mode → Bool
  | .word .. | .number .. | .operator .. | .literal _ => true
  | _ => false

/-- A token that has begun is read on, and it is a token of a line. -/
theorem Mode.Turns.isPending {pos : Pos} {c : Char} {m m' : Mode} (h : m.Turns pos c m') :
    m'.isPending = m.isPending := by
  cases h <;> rfl

namespace State

variable {s t : State} {c : Char} {tokens : List Token}

/-- No indentation among the tokens is empty, and if the last of them opens one, the next token has
begun. -/
structure Busy (s : State) : Prop where
  apart : s.tokens.IsChain Apart
  pending : s.mode.isPending = false → Quiet s.tokens

theorem Busy.of_quiet (h : Quiet s.tokens) : s.Busy := ⟨h.apart, fun _ => h⟩

/-- In the margin of a line that is deeper than the line before, the lexer comes to a backslash. -/
def Hangs (s : State) (c : Char) : Prop :=
  c = '\\' ∧ ∃ width, s.mode = .margin width ∧ s.indents.headD 0 < width

theorem pushNewline_quiet (h : Quiet s.tokens) (pos : Pos) : Quiet (s.pushNewline pos).tokens := by
  unfold pushNewline
  split
  · exact h
  · split
    · exact h
    · exact .cons h.apart nofun nofun

/-- Characters that begin no token. -/
def beginsNone (c : Char) : Bool :=
  c == ' ' || c == '\t' || c == '\r' || c == '\x0c' || c == '#' || c == '\\' || c == '\n'

/-- Between two tokens a token begins, unless the character is no part of one. -/
theorem Begins.busy (ht : s.Begins c t) (h : s.tokens.IsChain Apart)
    (hquiet : beginsNone c = true → Quiet s.tokens) : t.Busy := by
  cases ht with
  | blank hc => exact .of_quiet (hquiet (by rcases hc with rfl | rfl | rfl | rfl <;> rfl))
  | comment hc | backslash hc | lineInBrackets hc =>
    subst hc
    exact .of_quiet (hquiet rfl)
  | line hc =>
    subst hc
    exact .of_quiet (pushNewline_quiet (hquiet rfl) s.pos)
  | literal | word | number | half => exact ⟨h, nofun⟩
  | symbol => exact .of_quiet (.cons h nofun nofun)

/-- The token that the next character does not continue opens no indentation. -/
theorem Ends.quiet (ht : s.Ends t) (hs : s.Busy) (hliteral : ∀ l, s.mode ≠ .literal l) :
    Quiet t.tokens := by
  cases ht with
  | word | number | symbol => exact .cons hs.apart nofun nofun
  | none hword hnumber hoperator =>
    refine hs.pending ?_
    cases hm : s.mode <;> simp_all [Mode.isPending]

theorem closeIndents_quiet (width : Nat) (pos : Pos) (indents : List Nat) (h : Quiet tokens) :
    Quiet (closeIndents width pos indents tokens).2 := by
  induction indents generalizing tokens with
  | nil => exact h
  | cons w ws ih =>
    rw [closeIndents]
    split_ifs
    · exact ih (h.dedent pos)
    · exact h

/-- **A step leaves no indentation empty**, except at a backslash in the margin of a deeper line. -/
theorem step_busy (hs : s.Busy) (ht : s.step c = .ok t) : t.Busy ∨ s.Hangs c := by
  cases step_goes ht with
  | turns hturns =>
    exact .inl ⟨hs.apart, fun hpending => hs.pending (hturns.isPending.symm.trans hpending)⟩
  | begins hmode hbegins =>
    have hquiet : Quiet s.tokens := by
      rcases hmode with hmode | ⟨hmode, -⟩ <;> exact hs.pending (by rw [hmode]; rfl)
    exact .inl (hbegins.busy hquiet.apart fun _ => hquiet)
  | @first width _ _ hmode hcode hindents hbegins =>
    have hquiet : Quiet s.tokens := hs.pending (by rw [hmode]; rfl)
    cases hindents with
    | opens hdeeper =>
      -- the first character of code begins a token, if it is no backslash
      by_cases hback : c = '\\'
      · exact .inr ⟨hback, width, hmode, hdeeper⟩
      · refine .inl (hbegins.busy ?_ fun hnone => ?_)
        · exact List.isChain_cons.mpr ⟨fun _ _ _ => nofun, hquiet.apart⟩
        · simp_all [beginsNone]
    | closes _ hclose =>
      have hclosed := closeIndents_quiet width s.pos s.indents hquiet
      rw [hclose] at hclosed
      exact .inl (hbegins.busy hclosed.apart fun _ => hclosed)
  | ends hliteral hends hbegins =>
    have hquiet := hends.quiet hs hliteral
    exact .inl (hbegins.busy hquiet.apart fun _ => hquiet)
  | pair | string | template => exact .inl (.of_quiet (.cons hs.apart nofun nofun))

/-- The lexer comes to a backslash in the margin of a deeper line. -/
def HangsIn (s : State) (cs : List Char) : Prop :=
  ∃ before c after u, cs = before ++ c :: after ∧ before.foldlM feed s = .ok u ∧ u.Hangs c

theorem run_busy {cs : List Char} (hs : s.Busy) (ht : cs.foldlM feed s = .ok t) :
    t.Busy ∨ s.HangsIn cs := by
  induction cs generalizing s with
  | nil =>
    cases ht
    exact .inl hs
  | cons c cs ih =>
    obtain ⟨_, hu, ht⟩ := foldlM_cons_ok.mp ht
    obtain ⟨v, hv, rfl⟩ := feed_ok_iff.mp hu
    have hstep : State.Busy { v with pos := s.pos.next c } ∨ s.Hangs c :=
      (step_busy hs hv).imp_left fun h => ⟨h.apart, h.pending⟩
    rcases hstep with hbusy | hhangs
    · refine (ih hbusy ht).imp_right ?_
      rintro ⟨before, d, after, w, rfl, hw, hhangs⟩
      exact ⟨c :: before, d, after, w, rfl, foldlM_cons_ok.mpr ⟨_, hu, hw⟩, hhangs⟩
    · exact .inr ⟨[], c, cs, s, rfl, rfl, hhangs⟩

/-- The tokens that are added at the end of a text leave no indentation empty. -/
theorem ending_filled (h : Quiet tokens) (pos : Pos) (n : Nat) :
    Filled (lexemes (tokens.reverse ++ ending pos n)) := by
  induction n generalizing tokens with
  | zero =>
    have hchain := (Quiet.cons (t := ⟨.eof, pos⟩) h.apart nofun nofun).apart
    rw [ending, List.replicate_zero, List.nil_append, ← List.reverse_cons]
    exact (List.isChain_map Token.lexeme).mpr (List.isChain_reverse.mpr hchain)
  | succ n ih =>
    rw [ending, List.replicate_succ, List.cons_append, List.append_cons, ← List.reverse_cons]
    exact ih (h.dedent pos)

theorem finish_filled {ts : List Token} (hs : s.Busy) (ht : s.finish = .ok ts) :
    Filled (lexemes ts) := by
  obtain ⟨hmode, s', hend, -, rfl⟩ := finish_eq_ok.mp ht
  refine ending_filled (pushNewline_quiet ((endToken_ends hend).quiet hs ?_) _) _ _
  rintro l hl
  rw [hl] at hmode
  cases hmode

end State
end Lexer

/-- The lexer comes to a backslash in the margin of a line that is deeper than the line before. -/
def HangsInMargin (source : String) : Prop := Lexer.State.HangsIn {} source.toList

/-- **An indentation is left empty** only where a deeper line begins with a backslash. -/
theorem tokenize_filled {source : String} {ts : List Token} (h : tokenize source = .ok ts) :
    Filled (lexemes ts) ∨ HangsInMargin source := by
  obtain ⟨s, hs, hts⟩ := tokenize_ok_iff.mp h
  have hstart : Lexer.State.Busy {} := .of_quiet ⟨.nil, nofun⟩
  exact (Lexer.State.run_busy hstart hs).imp_left fun hbusy => Lexer.State.finish_filled hbusy hts

/-! ## Programs with full blocks -/

/-- The blocks of a statement. An alternative is left out: without statements it is not told from
none. -/
def Stmt.bodies : Stmt → List (List Stmt)
  | .branch _ _ body _ | .whileLoop _ _ body | .forEach _ _ _ body => [body]
  | .attempt _ body handlers => body :: handlers.map Handler.block
  | _ => []

/-- Each block of each statement holds a statement. -/
def Program.HasFullBodies (p : Program) : Prop :=
  p.root.All fun m => ∀ s, m = .stmt s → ∀ body ∈ s.bodies, body ≠ []

/-- The source text spells the program by the grammar with full blocks, alternatives included. -/
def Program.IsSpelledFull (p : Program) (source : String) : Prop :=
  ∃ ts ls, tokenize source = .ok ts ∧ lexemes ts = ls ++ [.eof]
    ∧ Grammar.Produces (Parser.fieldExpr source.length) (· ≠ []) (.run p.body) ls

namespace Grammar

theorem Admits.ne_nil {body : List Stmt} (h : Admits (· ≠ []) body) : body ≠ [] := by
  rcases h with h | ⟨s, rfl⟩
  · exact h
  · exact List.cons_ne_nil s []

theorem Held.bodies_ne_nil {s : Stmt} (h : Held (· ≠ []) (.stmt s)) :
    ∀ body ∈ s.bodies, body ≠ [] := by
  cases s with
  | branch _ _ _ _ | whileLoop _ _ _ | forEach _ _ _ _ =>
    exact List.forall_mem_singleton.mpr (Admits.ne_nil h)
  | attempt _ _ _ =>
    refine List.forall_mem_cons.mpr ⟨h.1.ne_nil, List.forall_mem_map.mpr fun k hk => ?_⟩
    exact (h.2.2 k hk).ne_nil
  | _ => exact nofun

end Grammar

theorem Program.IsSpelledFull.hasFullBodies {p : Program} {source : String}
    (h : p.IsSpelledFull source) : p.HasFullBodies := by
  obtain ⟨ts, ls, -, -, hproduces⟩ := h
  refine Node.all_iff.mpr ⟨nofun, fun m hm => ?_⟩
  obtain ⟨s, hs, rfl⟩ := List.mem_map.mp hm
  refine (hproduces.held s hs).mono fun m hm s heq => ?_
  subst heq
  exact Grammar.Held.bodies_ne_nil hm

/-- The lexer writes no line end behind a token of the layout. -/
theorem WellLaid.opens {source : List Char} {ts : List Token} (h : WellLaid source ts)
    (hfilled : Filled (lexemes ts)) : (lexemes ts).IsChain Grammar.Opens := by
  refine List.isChain_iff_forall_rel_of_append_cons_cons.mpr fun l m before after hlexemes hl => ?_
  refine ⟨List.isChain_iff_forall_rel_of_append_cons_cons.mp hfilled hlexemes hl, ?_⟩
  rintro rfl
  obtain ⟨front, rest, rfl, rfl, hrest⟩ := List.map_eq_append_iff.mp hlexemes
  obtain ⟨t, us, rfl, rfl, hus⟩ := List.map_eq_cons_iff.mp hrest
  obtain ⟨u, ws, rfl, hu, rfl⟩ := List.map_eq_cons_iff.mp hus
  obtain ⟨t', ht', hlayout⟩ := h.newline (front ++ [t]) u ws (by simp) hu
  obtain rfl := Option.some.inj (ht'.symm.trans List.getLast?_concat)
  rw [hl] at hlayout
  cases hlayout

/--
**Where blocks are full.** A text that is parsed is in the grammar with full blocks if and only if
none of its indentations is closed where it is opened, and then each block of its program holds a
statement. So it is if no deeper line begins with a backslash.
-/
theorem blocks_filled {source : String} {mode : Mode} {program : Program}
    (h : parse source mode = .ok program) :
    ∃ ts, tokenize source = .ok ts
      ∧ (program.IsSpelledFull source ↔ Filled (lexemes ts))
      ∧ (Filled (lexemes ts) → program.HasFullBodies)
      ∧ (¬HangsInMargin source → Filled (lexemes ts)) := by
  obtain ⟨ts, ls, hts, hls, hproduces⟩ := parse_produces h
  have hfull : program.IsSpelledFull source ↔ Filled (lexemes ts) := by
    constructor
    · rintro ⟨us, ms, hus, hms, hproduces⟩
      obtain rfl := Except.ok.inj (hts.symm.trans hus)
      have heof : Grammar.Sealed [Lexeme.eof] := .of_inline (by simp [Lexeme.isLayout])
      rw [hms]
      exact (hproduces.sealed.append heof).filled
    · intro hfilled
      have hopens := (Lexer.State.run_wellLaid hts).opens hfilled
      rw [hls] at hopens
      exact ⟨ts, ls, hts, hls, hproduces.fill hopens.left_of_append⟩
  refine ⟨ts, hts, hfull, fun hfilled => (hfull.mpr hfilled).hasFullBodies, ?_⟩
  exact (tokenize_filled hts).resolve_right

/-- Blocks in a block: a deeper line within brackets does not count, and one that is empty up to a
comment does not either. -/
theorem blocks_filled_of_nested :
    ∃ p, parse "if x:\n    #\n  while (y,\n      z): pass\nelse:\n  w" .file = .ok p
      ∧ p.IsSpelledFull "if x:\n    #\n  while (y,\n      z): pass\nelse:\n  w"
      ∧ p.HasFullBodies := by
  have hlexemes : (tokenize "if x:\n    #\n  while (y,\n      z): pass\nelse:\n  w").map
      (fun ts => decide (Filled (lexemes ts))) = .ok true := by
    decide +kernel
  have hok : (parse "if x:\n    #\n  while (y,\n      z): pass\nelse:\n  w" .file).isOk := by
    decide +kernel
  cases hp : parse "if x:\n    #\n  while (y,\n      z): pass\nelse:\n  w" .file with
  | error e => rw [hp] at hok; cases hok
  | ok p =>
    obtain ⟨ts, hts, hfull, hbodies, -⟩ := blocks_filled hp
    rw [hts] at hlexemes
    have hfilled : Filled (lexemes ts) := of_decide_eq_true (Except.ok.inj hlexemes)
    exact ⟨p, rfl, hfull.mpr hfilled, hbodies hfilled⟩

/-- A block may be empty: its only line is a backslash, which carries it on to an empty line. -/
theorem blocks_not_always_filled :
    ¬∀ source mode program, parse source mode = .ok program → program.HasFullBodies := by
  intro hall
  have hbodies : (parse "if x:\n    \\\n\ny" .file).map
      (fun p => p.body.map fun s => s.bodies.map List.length) = .ok [[0], []] := by
    decide +kernel
  cases hp : parse "if x:\n    \\\n\ny" .file with
  | error e => rw [hp] at hbodies; cases hbodies
  | ok p =>
    rw [hp] at hbodies
    have hlengths : (p.body.map fun s => s.bodies.map List.length) = [[0], []] :=
      Except.ok.inj hbodies
    have hempty : [0] ∈ p.body.map fun s => s.bodies.map List.length := by simp [hlengths]
    obtain ⟨s, hs, hlengths⟩ := List.mem_map.mp hempty
    have hzero : 0 ∈ s.bodies.map List.length := by simp [hlengths]
    obtain ⟨body, hbody, hnil⟩ := List.mem_map.mp hzero
    have hall := (Node.all_iff.mp (hall _ _ p hp)).2 (.stmt s) (List.mem_map_of_mem hs)
    exact (Node.all_iff.mp hall).1 s rfl body hbody (List.eq_nil_of_length_eq_zero hnil)

end Tilde
