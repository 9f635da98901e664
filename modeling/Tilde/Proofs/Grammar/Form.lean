import Tilde.Proofs.Grammar.Derivation
import Tilde.Proofs.Parser.Run

/-!
# Targets as they are written

What is assigned to is read as an expression, and what a loop binds is read by a parser of its own.
Both read names, starred names, brackets and commas, but they do not make the same target of them:
parentheses around a single target are no sequence to an assignment, and to a loop they are one; a
comma behind a single target makes a sequence of it in an assignment, and in a loop it does not.

A `Form` is what is written, and `Form.assigned` and `Form.looped` are the two targets. A run of
lexemes is written by one form at most (`Form.spelling_append_inj`), so where both readings of it are
targets, they are the two targets of one form.
-/

namespace Tilde

/-- The target of targets with commas between in front of a loop. A lone one is no sequence, except
that a starred one is. -/
def Target.joined : List Target → Target
  | [t] => if t.isStar then .sequence [t] else t
  | ts => .sequence ts

open Tilde.Parser

namespace Grammar

mutual

/-- A target as it is written. -/
inductive Form where
  | name (n : String) (hn : isKeyword n = false)
  /-- A starred name, in a number of parentheses behind its star. -/
  | star (pairs : Nat) (n : String) (hn : isKeyword n = false)
  | bracket (b : Bracket) (fs : Forms)

/-- Targets as they are written with commas between them, and maybe one behind the last. -/
inductive Forms where
  | done
  | last (f : Form)
  | comma (f : Form) (fs : Forms)

end

/-- A name in a number of parentheses. -/
def enclosed (n : String) : Nat → List Lexeme
  | 0 => [.word n]
  | pairs + 1 => .symbol .openParen :: enclosed n pairs ++ [.symbol .closeParen]

mutual

/-- The lexemes of a form. -/
def Form.spelling : Form → List Lexeme
  | .name n _ => [.word n]
  | .star pairs n _ => .symbol .star :: enclosed n pairs
  | .bracket b fs => .symbol b.opened :: fs.spelling ++ [.symbol b.closed]

/-- The lexemes of forms with commas. -/
def Forms.spelling : Forms → List Lexeme
  | .done => []
  | .last f => f.spelling
  | .comma f fs => f.spelling ++ .symbol .comma :: fs.spelling

end

/-! ## The two readings -/

mutual

/-- The target of a form in an assignment. -/
def Form.assigned : Form → Target
  | .name n _ => .name n
  | .star _ n _ => .star n
  | .bracket .round fs => fs.assigned
  | .bracket .square fs => .sequence fs.assignedEach

/-- The target of forms with commas in an assignment: a sequence, unless there is no comma. -/
def Forms.assigned : Forms → Target
  | .done => .sequence []
  | .last f => f.assigned
  | .comma f fs => .sequence (f.assigned :: fs.assignedEach)

/-- The targets of forms with commas in an assignment, one for each. -/
def Forms.assignedEach : Forms → List Target
  | .done => []
  | .last f => [f.assigned]
  | .comma f fs => f.assigned :: fs.assignedEach

end

mutual

/-- The target of a form in a loop. -/
def Form.looped : Form → Target
  | .name n _ => .name n
  | .star _ n _ => .star n
  | .bracket _ fs => .sequence fs.loopedEach

/-- The targets of forms with commas in a loop, one for each. -/
def Forms.loopedEach : Forms → List Target
  | .done => []
  | .last f => [f.looped]
  | .comma f fs => f.looped :: fs.loopedEach

end

/-- The target of forms with commas in a loop. -/
def Forms.looped (fs : Forms) : Target := .joined fs.loopedEach

/-! ### Where they are the same -/

mutual

/-- Whether no parentheses in a form stand around a single target. -/
def Form.isPlain : Form → Bool
  | .name .. | .star .. => true
  | .bracket .round (.last _) => false
  | .bracket _ fs => fs.arePlain

/-- Whether no parentheses in forms stand around a single target. -/
def Forms.arePlain : Forms → Bool
  | .done => true
  | .last f => f.isPlain
  | .comma f fs => f.isPlain && fs.arePlain

end

mutual

theorem Form.looped_eq : ∀ f : Form, f.isPlain = true → f.looped = f.assigned
  | .name _ _, _ | .star _ _ _, _ | .bracket .round .done, _ => rfl
  | .bracket .square fs, h => by
    rw [Form.looped, Form.assigned, fs.loopedEach_eq h]
  | .bracket .round (.comma f fs), h => by
    rw [Form.looped, Form.assigned, Forms.assigned, (Forms.comma f fs).loopedEach_eq h,
      Forms.assignedEach]

theorem Forms.loopedEach_eq : ∀ fs : Forms, fs.arePlain = true → fs.loopedEach = fs.assignedEach
  | .done, _ => rfl
  | .last f, h => by rw [Forms.loopedEach, Forms.assignedEach, f.looped_eq h]
  | .comma f fs, h => by
    obtain ⟨hf, hfs⟩ := Bool.and_eq_true_iff.mp h
    rw [Forms.loopedEach, Forms.assignedEach, f.looped_eq hf, fs.loopedEach_eq hfs]

end

/-- **Plain forms are read alike**, unless a comma stands behind a lone target without a star. -/
theorem Forms.looped_eq_joined {fs : Forms} (h : fs.arePlain = true)
    (hlone : ∀ f, fs = .comma f .done → f.assigned.isStar = true) :
    fs.looped = .joined [fs.assigned] := by
  rw [Forms.looped, fs.loopedEach_eq h]
  cases fs with
  | done => rfl
  | last f => rfl
  | comma f fs =>
    have hsequence (ts : List Target) : Target.joined [.sequence ts] = .sequence ts := rfl
    rw [Forms.assigned, Forms.assignedEach, hsequence]
    cases hrest : fs.assignedEach with
    | nil =>
      obtain rfl : fs = .done := by cases fs <;> first | rfl | cases hrest
      rw [Target.joined, if_pos (hlone f rfl)]
    | cons t ts => rfl

/-! ## What is written can be told from its lexemes -/

/-- Lexemes of targets. -/
def marksTarget : Lexeme → Bool
  | .word w => !isKeyword w
  | .symbol .star | .symbol .comma | .symbol .openParen | .symbol .closeParen
  | .symbol .openBracket | .symbol .closeBracket => true
  | _ => false

theorem enclosed_marks {n : String} (hn : isKeyword n = false) (pairs : Nat) :
    ∀ l ∈ enclosed n pairs, marksTarget l = true := by
  induction pairs with
  | zero => simp [enclosed, marksTarget, hn]
  | succ pairs ih =>
    intro l hl
    rw [enclosed, List.mem_append, List.mem_cons, List.mem_singleton] at hl
    rcases hl with (rfl | hl) | rfl
    · rfl
    · exact ih l hl
    · rfl

mutual

theorem Form.marks : ∀ f : Form, ∀ l ∈ f.spelling, marksTarget l = true
  | .name n hn => by simp [Form.spelling, marksTarget, hn]
  | .star pairs n hn => List.forall_mem_cons.mpr ⟨rfl, enclosed_marks hn pairs⟩
  | .bracket b fs => by
    rw [Form.spelling, List.forall_mem_append, List.forall_mem_cons, List.forall_mem_singleton]
    exact ⟨⟨by cases b <;> rfl, fs.marks⟩, by cases b <;> rfl⟩

theorem Forms.marks : ∀ fs : Forms, ∀ l ∈ fs.spelling, marksTarget l = true
  | .done => nofun
  | .last f => f.marks
  | .comma f fs => by
    rw [Forms.spelling, List.forall_mem_append, List.forall_mem_cons]
    exact ⟨f.marks, rfl, fs.marks⟩

end

theorem enclosed_append_inj {n m : String} {pairs pairs' : Nat} {ls ms : List Lexeme}
    (h : enclosed n pairs ++ ls = enclosed m pairs' ++ ms) :
    n = m ∧ pairs = pairs' ∧ ls = ms := by
  induction pairs generalizing pairs' ls ms with
  | zero =>
    cases pairs' with
    | zero => simpa [enclosed] using h
    | succ pairs' => simp [enclosed] at h
  | succ pairs ih =>
    cases pairs' with
    | zero => simp [enclosed] at h
    | succ pairs' =>
      simp only [enclosed, List.cons_append, List.append_assoc, List.cons.injEq, true_and] at h
      obtain ⟨rfl, rfl, hrest⟩ := ih h
      exact ⟨rfl, rfl, (List.cons.inj hrest).2⟩

/-- A form starts with a lexeme that neither ends nor continues forms in brackets. -/
theorem Form.spelling_cons : ∀ f : Form, ∃ l ls, f.spelling = l :: ls ∧ l ≠ .symbol .comma
    ∧ ∀ b : Bracket, l ≠ .symbol b.closed
  | .name n _ => ⟨_, _, rfl, nofun, nofun⟩
  | .star pairs n _ => ⟨_, _, rfl, nofun, fun b => by cases b <;> nofun⟩
  | .bracket b fs => by
    refine ⟨_, _, rfl, ?_, fun b' => ?_⟩
    · cases b <;> nofun
    · cases b <;> cases b' <;> nofun

mutual

/-- **A form is told from its lexemes**, whatever stands behind them. -/
theorem Form.spelling_append_inj : ∀ (f g : Form) {ls ms : List Lexeme},
    f.spelling ++ ls = g.spelling ++ ms → f = g ∧ ls = ms
  | .name _ _, .name _ _, _, _, h => by
    obtain ⟨hword, hrest⟩ := List.cons.inj h
    cases hword
    exact ⟨rfl, hrest⟩
  | .star _ _ _, .star _ _ _, _, _, h => by
    obtain ⟨rfl, rfl, hrest⟩ := enclosed_append_inj (List.cons.inj h).2
    exact ⟨rfl, hrest⟩
  | .bracket b fs, .bracket b' gs, _, _, h => by
    simp only [Form.spelling, List.cons_append, List.append_assoc, List.cons.injEq,
      List.nil_append] at h
    obtain rfl : b = b' := by cases b <;> cases b' <;> simp_all [Bracket.opened]
    obtain ⟨rfl, hrest⟩ := Forms.spelling_append_inj fs gs b h.2
    exact ⟨rfl, hrest⟩
  | .name _ _, .star _ _ _, _, _, h | .name _ _, .bracket _ _, _, _, h
  | .star _ _ _, .name _ _, _, _, h | .bracket _ _, .name _ _, _, _, h =>
    Lexeme.noConfusion (List.cons.inj h).1
  | .star _ _ _, .bracket b _, _, _, h | .bracket b _, .star _ _ _, _, _, h => by
    cases b <;> exact absurd (List.cons.inj h).1 nofun

/-- Forms in brackets are told from their lexemes. -/
theorem Forms.spelling_append_inj : ∀ (fs gs : Forms) (b : Bracket) {ls ms : List Lexeme},
    fs.spelling ++ .symbol b.closed :: ls = gs.spelling ++ .symbol b.closed :: ms → fs = gs ∧ ls = ms
  | .done, .done, _, _, _, h => ⟨rfl, (List.cons.inj h).2⟩
  | .last f, .last g, _, _, _, h => by
    obtain ⟨rfl, hrest⟩ := Form.spelling_append_inj f g h
    exact ⟨rfl, (List.cons.inj hrest).2⟩
  | .comma f fs, .comma g gs, b, _, _, h => by
    rw [Forms.spelling, Forms.spelling, List.append_assoc, List.append_assoc] at h
    obtain ⟨rfl, hrest⟩ := Form.spelling_append_inj f g h
    obtain ⟨rfl, hrest'⟩ := Forms.spelling_append_inj fs gs b (List.cons.inj hrest).2
    exact ⟨rfl, hrest'⟩
  -- behind the first item one has a comma and the other the bracket
  | .last f, .comma g gs, b, _, _, h => by
    rw [Forms.spelling, Forms.spelling, List.append_assoc] at h
    have hrest := (Form.spelling_append_inj f g h).2
    cases b <;> exact absurd (List.cons.inj hrest).1 nofun
  | .comma f fs, .last g, b, _, _, h => by
    rw [Forms.spelling, Forms.spelling, List.append_assoc] at h
    have hrest := (Form.spelling_append_inj f g h).2
    cases b <;> exact absurd (List.cons.inj hrest).1 nofun
  | .done, .last f, b, _, _, h | .done, .comma f _, b, _, _, h => by
    obtain ⟨l, ls, hf, -, hl⟩ := f.spelling_cons
    simp only [Forms.spelling, hf, List.nil_append, List.cons_append, List.cons.injEq] at h
    exact absurd h.1.symm (hl b)
  | .last f, .done, b, _, _, h | .comma f _, .done, b, _, _, h => by
    obtain ⟨l, ls, hf, -, hl⟩ := f.spelling_cons
    simp only [Forms.spelling, hf, List.nil_append, List.cons_append, List.cons.injEq] at h
    exact absurd h.1 (hl b)

end

theorem Forms.spelling_inj {fs gs : Forms} (h : fs.spelling = gs.spelling) : fs = gs := by
  have hclosed : fs.spelling ++ [.symbol Bracket.round.closed]
      = gs.spelling ++ [.symbol Bracket.round.closed] := by rw [h]
  exact (Forms.spelling_append_inj fs gs .round hclosed).1

/-! ## Derivations of targets -/

/-- The target of a form among the items of an expression, or of what a loop binds. -/
def Form.target : Kind → Form → Target
  | .value => Form.assigned
  | .loop => Form.looped

/-- Forms with a comma behind each, in front of others. -/
def Forms.behind (fs : List Form) (rest : Forms) : Forms := fs.foldr .comma rest

section Behind

variable (fs : List Form) (rest : Forms)

theorem Forms.spelling_behind :
    (Forms.behind fs rest).spelling = (Forms.behind fs .done).spelling ++ rest.spelling := by
  induction fs with
  | nil => rfl
  | cons f fs ih =>
    simp only [Forms.behind, List.foldr_cons, Forms.spelling, List.append_assoc,
      List.cons_append] at ih ⊢
    rw [ih]

theorem Forms.behind_concat (f : Form) :
    Forms.behind (fs ++ [f]) rest = Forms.behind fs (.comma f rest) := List.foldr_append

theorem Forms.assignedEach_behind :
    (Forms.behind fs rest).assignedEach = fs.map Form.assigned ++ rest.assignedEach := by
  induction fs with
  | nil => rfl
  | cons f fs ih => simp_all [Forms.behind, Forms.assignedEach]

theorem Forms.loopedEach_behind :
    (Forms.behind fs rest).loopedEach = fs.map Form.looped ++ rest.loopedEach := by
  induction fs with
  | nil => rfl
  | cons f fs ih => simp_all [Forms.behind, Forms.loopedEach]

theorem Forms.assigned_behind (hfs : fs ≠ []) :
    (Forms.behind fs rest).assigned = .sequence (fs.map Form.assigned ++ rest.assignedEach) := by
  cases fs with
  | nil => exact absurd rfl hfs
  | cons f fs =>
    rw [List.map_cons, List.cons_append, ← Forms.assignedEach_behind]
    rfl

end Behind

/-- Expressions that denote targets, one each. -/
abbrev Denote (es : List Expr) (ts : List Target) : Prop :=
  List.Forall₂ (fun e t => toTarget e = .ok t) es ts

theorem denote_concat {es : List Expr} {e : Expr} {ts : List Target} (h : Denote (es ++ [e]) ts) :
    ∃ us t, ts = us ++ [t] ∧ Denote es us ∧ toTarget e = .ok t := by
  induction es generalizing ts with
  | nil =>
    cases h with
    | cons ht hnil =>
      cases hnil
      exact ⟨[], _, rfl, .nil, ht⟩
  | cons e' es ih =>
    cases h with
    | cons ht h =>
      obtain ⟨us, t, rfl, hus, hlast⟩ := ih h
      exact ⟨_ :: us, t, rfl, .cons ht hus, hlast⟩

/-- A form for what the lexemes spell, if that denotes a target. -/
def Phrase.IsWritten : Phrase → List Lexeme → Prop
  | .expr e, ls => ∀ t, toTarget e = .ok t → ∃ f : Form, f.spelling = ls ∧ f.assigned = t
  | .item kind e, ls => ∀ t, toTarget e = .ok t → ∃ f : Form, f.spelling = ls ∧ f.target kind = t
  | .commas kind es, ls => ∀ ts, Denote es ts →
    ∃ fs, (Forms.behind fs .done).spelling = ls ∧ fs.map (Form.target kind) = ts
  | .row kind es, ls => ∀ ts, Denote es ts →
    ∃ fs f, (Forms.behind fs (.last f)).spelling = ls
      ∧ fs.map (Form.target kind) ++ [f.target kind] = ts
  | .exprs e, ls => ∀ t, toTarget e = .ok t → ∃ fs : Forms, fs.spelling = ls ∧ fs.assigned = t
  | .binds e, ls => ∀ t, toTarget e = .ok t → ∃ fs : Forms, fs.spelling = ls ∧ fs.looped = t
  | _, _ => True

/-- What an assignment takes for a name is a name, maybe in parentheses. -/
theorem Form.spelling_of_name {n : String} : ∀ f : Form, f.assigned = .name n →
    isKeyword n = false ∧ ∃ pairs, f.spelling = enclosed n pairs
  | .name _ hn, h => by
    cases h
    exact ⟨hn, 0, rfl⟩
  | .star _ _ _, h | .bracket .square _, h | .bracket .round .done, h
  | .bracket .round (.comma _ _), h => by cases h
  | .bracket .round (.last f), h => by
    obtain ⟨hn, pairs, hf⟩ := f.spelling_of_name h
    exact ⟨hn, pairs + 1, by rw [Form.spelling, Forms.spelling, hf]; rfl⟩

/-- What a loop binds denotes the targets of its items together. -/
theorem toTarget_bound {es : List Expr} {t : Target} (h : toTarget (bound es) = .ok t) :
    ∃ ts, Denote es ts ∧ t = .joined ts := by
  unfold bound at h
  split at h
  next e =>
    split at h
    next hstar =>
      obtain ⟨ts, rfl, -, hts⟩ := toTarget_sequence h
      refine ⟨ts, hts, ?_⟩
      cases hts with
      | cons ht hnil =>
        cases hnil
        rw [Target.joined, isStar_toTarget ht, if_pos hstar]
    next hstar =>
      refine ⟨[t], .cons h .nil, ?_⟩
      rw [Target.joined, isStar_toTarget h, if_neg hstar]
  -- several targets, or none, are a sequence whichever they are
  next hsingle =>
    obtain ⟨ts, rfl, -, hts⟩ := toTarget_sequence h
    refine ⟨ts, hts, ?_⟩
    unfold Target.joined
    split
    next t =>
      cases hts with
      | cons ht hnil =>
        cases hnil
        exact absurd rfl (hsingle _)
    next => rfl

/-- **What denotes a target is written by a form.** -/
theorem Derives.isWritten {field : FieldParser} {ph : Phrase} {ls : List Lexeme}
    (h : Derives field ph ls) : ph.IsWritten ls := by
  -- the forms of the parts are put together as the phrase puts their spellings together
  induction h with
  | leaf h =>
    intro t ht
    unfold leaf? at h
    split at h
    case h_4 =>
      split_ifs at h with hn
      cases h
      cases ht
      exact ⟨.name _ (by simpa using hn), rfl, rfl⟩
    all_goals cases h <;> cases ht
  | unit =>
    intro t ht
    cases ht
    exact ⟨.bracket .round .done, rfl, rfl⟩
  | paren _ ih =>
    intro t ht
    obtain ⟨fs, rfl, rfl⟩ := ih t ht
    exact ⟨.bracket .round fs, rfl, rfl⟩
  | listCommas _ ih =>
    intro t ht
    obtain ⟨ts, rfl, -, hts⟩ := toTarget_sequence ht
    obtain ⟨fs, rfl, rfl⟩ := ih ts hts
    refine ⟨.bracket .square (.behind fs .done), rfl, ?_⟩
    rw [Form.assigned, Forms.assignedEach_behind]
    simp [Forms.assignedEach, Form.target]
  | listRow _ ih =>
    intro t ht
    obtain ⟨ts, rfl, -, hts⟩ := toTarget_sequence ht
    obtain ⟨fs, f, rfl, rfl⟩ := ih ts hts
    refine ⟨.bracket .square (.behind fs (.last f)), rfl, ?_⟩
    rw [Form.assigned, Forms.assignedEach_behind]
    rfl
  | plain _ ih => exact ih
  | @starred e _ _ ih =>
    intro t ht
    cases e with
    | name n =>
      cases ht
      obtain ⟨f, rfl, hf⟩ := ih _ rfl
      obtain ⟨hn, pairs, hspelling⟩ := f.spelling_of_name hf
      exact ⟨.star pairs n hn, by rw [Form.spelling, hspelling], rfl⟩
    | _ => cases ht
  | loopName hn =>
    intro t ht
    cases ht
    exact ⟨.name _ hn, rfl, rfl⟩
  | loopStar hn =>
    intro t ht
    cases ht
    exact ⟨.star 0 _ hn, rfl, rfl⟩
  | loopCommas b _ ih =>
    intro t ht
    obtain ⟨ts, rfl, -, hts⟩ := toTarget_sequence ht
    obtain ⟨fs, rfl, rfl⟩ := ih ts hts
    refine ⟨.bracket b (.behind fs .done), rfl, ?_⟩
    rw [Form.target, Form.looped, Forms.loopedEach_behind]
    simp [Forms.loopedEach]
  | loopRow b _ ih =>
    intro t ht
    obtain ⟨ts, rfl, -, hts⟩ := toTarget_sequence ht
    obtain ⟨fs, f, rfl, rfl⟩ := ih ts hts
    refine ⟨.bracket b (.behind fs (.last f)), rfl, ?_⟩
    rw [Form.target, Form.looped, Forms.loopedEach_behind]
    rfl
  | noItem =>
    intro ts hts
    cases hts
    exact ⟨[], rfl, rfl⟩
  | comma _ ih =>
    intro ts hts
    obtain ⟨fs, f, rfl, rfl⟩ := ih ts hts
    refine ⟨fs ++ [f], ?_, by simp⟩
    rw [Forms.behind_concat, Forms.spelling_behind, Forms.spelling_behind fs (.last f)]
    simp [Forms.spelling]
  | last _ _ ih ihlast =>
    intro ts hts
    obtain ⟨us, t, rfl, hus, ht⟩ := denote_concat hts
    obtain ⟨fs, rfl, rfl⟩ := ih us hus
    obtain ⟨f, rfl, rfl⟩ := ihlast t ht
    exact ⟨fs, f, Forms.spelling_behind fs (.last f), rfl⟩
  | single _ ih =>
    intro t ht
    obtain ⟨f, rfl, rfl⟩ := ih t ht
    exact ⟨.last f, rfl, rfl⟩
  | tupleCommas hes _ ih =>
    intro t ht
    obtain ⟨ts, rfl, -, hts⟩ := toTarget_sequence ht
    obtain ⟨fs, rfl, rfl⟩ := ih ts hts
    refine ⟨.behind fs .done, rfl, ?_⟩
    have hfs : fs ≠ [] := by
      rintro rfl
      cases hts
      exact hes rfl
    rw [Forms.assigned_behind _ _ hfs]
    simp [Forms.assignedEach, Form.target]
  | tupleRow hes _ ih =>
    intro t ht
    obtain ⟨ts, rfl, -, hts⟩ := toTarget_sequence ht
    obtain ⟨fs, f, rfl, rfl⟩ := ih ts hts
    refine ⟨.behind fs (.last f), rfl, ?_⟩
    have hfs : fs ≠ [] := by
      rintro rfl
      exact hes (by simpa using hts.length_eq)
    rw [Forms.assigned_behind _ _ hfs]
    rfl
  | bindsCommas _ _ ih =>
    intro t ht
    obtain ⟨ts, hts, rfl⟩ := toTarget_bound ht
    obtain ⟨fs, rfl, rfl⟩ := ih ts hts
    refine ⟨.behind fs .done, rfl, ?_⟩
    rw [Forms.looped, Forms.loopedEach_behind]
    simp [Forms.loopedEach, Form.target]
  | bindsRow _ ih =>
    intro t ht
    obtain ⟨ts, hts, rfl⟩ := toTarget_bound ht
    obtain ⟨fs, f, rfl, rfl⟩ := ih ts hts
    refine ⟨.behind fs (.last f), rfl, ?_⟩
    rw [Forms.looped, Forms.loopedEach_behind]
    rfl
  | positional _ _ | keyword _ _ | noArguments | moreArguments _ _ _ _ => trivial
  | _ => exact fun t ht => by cases ht

end Grammar
end Tilde
