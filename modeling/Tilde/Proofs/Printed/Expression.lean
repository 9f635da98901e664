import Mathlib.Data.List.Forall2
import Tilde.Proofs.Printed.Level

/-!
# Reading printed expressions back

Every expression that can be printed is read back from its lexemes, in any place and with any extra
parentheses. There is one lemma for each way to make an expression; it takes what the lemmas for its
parts give. Parentheses make an expression of any rank stand alone.

What is assigned to is read as an expression first and then turned into a target; what a loop binds
is read by a parser of its own, to which the word `in` is no operator. Both give the expression that
denotes the target.
-/

namespace Tilde
namespace Parser

variable {k n bound line : Nat} {e l r : Expr} {op : Lexeme} {ls ks : List Lexeme}
  {lss : List (List Lexeme)} {es : List Expr} {ts : List Token} {field : FieldParser}
  {name : String}

/-! ## Operators -/

/-- A rank whose operators group to the left. -/
inductive LeftRank : Nat → Prop where
  | or : LeftRank 0
  | and : LeftRank 1
  | sum : LeftRank 4
  | product : LeftRank 5

theorem LeftRank.le (hk : LeftRank k) : k + 1 ≤ 8 := by cases hk <;> decide

theorem LeftRank.runs {inner : Inner} {us : List Token} (hk : LeftRank k) :
    Runs field inner k n us e ts ↔ (Stops (k + 1) ts → Chains (ranked field inner (k + 1))
      (leftRound (leftOp? k) (ranked field inner (k + 1))) n us e ts) := by
  cases hk <;> exact Iff.rfl

theorem Spells.left {f : Expr → Expr → Expr} (hk : LeftRank k) (hop : leftOp? k op = some f)
    (hrank : op.goesOnAt = some k) (hassign : op ≠ .symbol .assign) (hl : Spells k l ls)
    (hr : Spells (k + 1) r ks) : Spells k (f l r) (ls ++ op :: ks) := by
  refine ⟨hl.opens.append (by simpa using hassign), fun field bound n line ts hbound hn => ?_⟩
  rw [List.length_append, List.length_cons] at hbound hn
  refine hk.runs.mpr fun hstop => ?_
  have hleft := hk.runs.mp
    (hl.runs field bound n line (placed line (op :: ks) ++ ts) (by omega) (by omega))
    (stops_of_some hrank (Nat.lt_succ_self k))
  rw [placed_append]
  refine hleft.step (by simpa using by omega) (by simp) ?_
  exact leftRound_some hop (hr.reads hk.le (by omega) (by omega) hstop)

theorem Spells.binary (op : BinaryOp) (hl : Spells op.rank l ls) (hr : Spells (op.rank + 1) r ks) :
    Spells op.rank (.binary op l r) (ls ++ op.lexeme :: ks) := by
  cases op with
  | add | sub => exact .left .sum rfl rfl nofun hl hr
  | mul | floorDiv | mod => exact .left .product rfl rfl nofun hl hr

theorem Spells.logical (op : Connective) (hl : Spells op.rank l ls)
    (hr : Spells (op.rank + 1) r ks) :
    Spells op.rank (.logical op l r) (ls ++ op.lexeme :: ks) := by
  cases op with
  | or => exact .left .or rfl rfl nofun hl hr
  | and => exact .left .and rfl rfl nofun hl hr

theorem Spells.unary (op : UnaryOp) (h : Spells op.rank e ls) :
    Spells op.rank (.unary op e) (op.lexeme :: ls) := by
  refine ⟨.cons (by cases op <;> rfl) h.opens, fun field bound n line ts hbound hn => ?_⟩
  rw [List.length_cons] at hbound hn
  have hrun := h.runs field bound n line ts (by omega) (by omega)
  cases op <;> exact fun hstop => (hrun hstop).step rfl

/-- The parser of comparisons finds the comparison that has been printed. -/
theorem comparison?_lexemes (op : Comparison) (us : List Token) :
    comparison? (frontToken (placed line op.lexemes ++ us)).lexeme
        (frontToken ((placed line op.lexemes ++ us).drop 1)).lexeme
      = some (op, op.lexemes.length) := by
  cases op <;> rfl

theorem Spells.compare (op : Comparison) (hl : Spells 4 l ls) (hr : Spells 4 r ks) :
    Spells 3 (.compare op l r) (ls ++ op.lexemes ++ ks) := by
  refine ⟨?_, fun field bound n line ts hbound hn hstop => ?_⟩
  · rw [List.append_assoc]
    exact (hl.opens.mono (by decide)).append (by cases op <;> simp [Comparison.lexemes])
  · rw [List.length_append, List.length_append] at hbound hn
    have hop : Stops 4 (placed line (op.lexemes ++ ks) ++ ts) :=
      stops_of_some (r := 3) (by cases op <;> rfl) (by decide)
    rw [List.append_assoc, placed_append]
    refine .bind (hl.reads (by decide) (by omega) (by omega) hop) (.peek (.peekSecond ?_))
    simp only [placed_append, List.append_assoc, comparison?_lexemes]
    exact .drop placed_length
      (.map (hr.reads (by decide) (by omega) (by omega) (hstop.mono (by decide))))

/-! ## What stands alone -/

theorem Spells.atom {l : Lexeme} {e : Expr} (hstart : l.startsOperand = true)
    (h : ∀ field inner n line ts, Stops 8 ts → Reads (atom field inner) n [⟨l, ⟨line, 0⟩⟩] e ts) :
    Spells 8 e [l] :=
  ⟨⟨l, [], rfl, by simp [Lexeme.startsAt, hstart], nofun⟩,
    fun field bound n line ts _ _ hstop => h field _ n line ts hstop⟩

theorem atom_name {inner : Inner} {t : Token} (hname : isKeyword name = false)
    (ht : t.lexeme = .word name) : Reads (atom field inner) n [t] (.name name) ts := by
  refine .peekToken ?_
  simp only [List.cons_append, frontToken_cons, ht]
  split
  case h_4 heq =>
    cases heq
    exact .ifFalse (by simp [hname]) (.advance .pure)
  case h_10 hword _ _ _ _ _ => exact (hword name rfl).elim
  all_goals
    next heq =>
      cases heq
      try cases hname

theorem Spells.word (hname : isKeyword name = false) : Spells 8 (.name name) [.word name] := by
  refine .atom ?_ fun field inner n line ts _ => atom_name hname rfl
  rw [startsOperand_word, hname]
  rfl

theorem Spells.bool (value : Bool) :
    Spells 8 (.bool value) [.word (if value then "True" else "False")] := by
  cases value <;> exact .atom rfl fun _ _ _ _ _ _ => .peekToken (.advance .pure)

theorem Spells.none : Spells 8 .none [.word "None"] :=
  .atom rfl fun _ _ _ _ _ _ => .peekToken (.advance .pure)

theorem Spells.int (value : Int64) : Spells 8 (.int value) [.int value] :=
  .atom rfl fun _ _ _ _ _ _ => .peekToken (.advance .pure)

/-- No string literal follows that would be joined to it. -/
theorem Spells.str (text : String) : Spells 8 (.str text) [.str text] := by
  refine .atom rfl fun field inner n line ts hstop => .peekToken (.advance ?_)
  refine .map (.loop (.last (.peek ?_)))
  rw [List.nil_append]
  split
  · next more heq => exact absurd (hstop 8 (by rw [heq]; rfl)) (by decide)
  · exact .pure

/-! ## Items and parentheses -/

theorem Spells.full (h : Spells 0 e ls) (hbound : ls.length < bound) (hn : ls.length ≤ n)
    (hstop : Stops 0 ts) : Reads (exprAt field bound .full) n (placed line ls) e ts := by
  obtain ⟨bound, rfl⟩ := Nat.exists_eq_add_one_of_ne_zero (n := bound) (by omega)
  exact h.reads (by decide) (by omega) hn hstop

/-- The lexemes can stand for the expression among the items of a list, where it may have a star. -/
structure Item (e : Expr) (ls : List Lexeme) : Prop where
  starts : ∃ l ls', ls = l :: ls' ∧ l.startsItem = true
  reads : ∀ field bound n line ts, ls.length < bound → ls.length ≤ n → Stops 0 ts →
    Reads (starOrExpr (exprAt field bound)) n (placed line ls) e ts

theorem startsItem_of_startsAt {l : Lexeme} (h : l.startsAt k = true) : l.startsItem = true := by
  unfold Lexeme.startsAt at h
  unfold Lexeme.startsItem
  simp only [Bool.or_eq_true, Bool.and_eq_true] at h ⊢
  rcases h with (h | ⟨-, h | h⟩) | ⟨-, h⟩
  · exact .inl (.inl (.inl (.inl h)))
  · exact .inl (.inl (.inl (.inr h)))
  · exact .inl (.inl (.inr h))
  · exact .inl (.inr h)

theorem Spells.item (h : Spells 0 e ls) : Item e ls := by
  refine ⟨?_, fun field bound n line ts hbound hn hstop => ?_⟩
  · obtain ⟨l, ls', hls, hstart, -⟩ := h.opens
    exact ⟨l, ls', hls, startsItem_of_startsAt hstart⟩
  · exact .miss (h.opens.front_ne rfl) (h.full hbound hn hstop)

/-- A name with a star in front. -/
theorem Item.star (hname : isKeyword name = false) :
    Item (.star (.name name)) [.symbol .star, .word name] := by
  refine ⟨⟨_, _, rfl, rfl⟩, fun field bound n line ts hbound hn hstop => ?_⟩
  rw [List.length_cons] at hbound hn
  obtain ⟨bound, rfl⟩ := Nat.exists_eq_add_one_of_ne_zero (n := bound) (by omega)
  exact .hit rfl (.map (((Spells.word hname).loosen (by decide)).reads (by decide) (by omega)
    (by omega) (hstop.mono (by decide))))

theorem Item.front (h : Item e ls) :
    (frontToken (placed line ls ++ ts)).lexeme.startsItem = true := by
  obtain ⟨l, ls', rfl, hstart⟩ := h.starts
  exact hstart

/-- Where an item starts, no list ends. -/
theorem Item.front_ne {l : Lexeme} (h : Item e ls) (hl : l.startsItem = false) :
    (frontToken (placed line ls ++ ts)).lexeme ≠ l := by
  intro heq
  rw [← heq, h.front] at hl
  cases hl

theorem endsList_of_startsItem {l : Lexeme} (h : l.startsItem = true) : endsList l = false := by
  unfold endsList
  split
  case h_7 => rfl
  all_goals cases h

/-- A list of expressions that is a single one. -/
theorem Item.alone (h : Item e ls) (hbound : ls.length < bound) (hn : ls.length ≤ n)
    (hstop : Stops 0 ts) (hcomma : (frontToken ts).lexeme ≠ .symbol .comma) :
    Reads (exprList (exprAt field bound)) n (placed line ls) e ts := by
  exact .bind_nil (h.reads field bound n line ts hbound hn hstop)
    (.peek (.ifTrue hcomma .pure))

theorem Spells.paren (h : Spells 0 e ls) :
    Spells 8 e (.symbol .openParen :: ls ++ [.symbol .closeParen]) := by
  refine ⟨.append (.cons rfl h.opens) nofun, fun field bound n line ts hbound hn _ => ?_⟩
  simp only [List.length_cons, List.length_append, List.length_nil] at hbound hn
  rw [List.cons_append, placed_cons, placed_append]
  refine .peekToken (.advance (.miss ?_ ?_))
  · rw [List.append_assoc]
    exact h.item.front_ne rfl
  · refine .ifFalse nofun (.bind ?_ (.expect rfl .pure))
    exact h.item.alone (by omega) (by omega) (stops_of_none rfl) nofun

/-- Parentheses around an expression change nothing. -/
theorem Spells.enclosed (h : Spells 0 e ls) (pairs : Nat) :
    Spells 8 e (enclosed (pairs + 1) ls) := by
  induction pairs with
  | zero => exact h.paren
  | succ pairs ih =>
    rw [enclosed_succ]
    exact (ih.of_le (Nat.zero_le _) (Nat.le_refl _)).paren

/-- **An expression fits any place**, in the parentheses it needs there and any extra ones. -/
theorem Spells.fit {rank place : Nat} (x : Extra) (h : Spells rank e ls) (hrank : rank ≤ 8)
    (hplace : place ≤ 8) : Spells place e (x.fit place rank ls) := by
  unfold Extra.fit
  by_cases hpairs : x [] + (if rank < place then 1 else 0) = 0
  · have hle : ¬rank < place := fun hlt => by simp [hlt] at hpairs
    rw [hpairs, enclosed_zero]
    exact h.of_le (by omega) hrank
  · obtain ⟨pairs, hpairs⟩ := Nat.exists_eq_add_one_of_ne_zero hpairs
    rw [hpairs]
    exact ((h.of_le (Nat.zero_le _) hrank).enclosed pairs).of_le hplace (Nat.le_refl _)

/-! ## Items with a comma behind each -/

theorem commaEach_cons : commaEach (ls :: lss) = ls ++ .symbol .comma :: commaEach lss := by
  simp [commaEach]

theorem count_le_commaEach (lss : List (List Lexeme)) : lss.length ≤ (commaEach lss).length := by
  induction lss with
  | nil => exact Nat.le_refl _
  | cons ls lss ih =>
    rw [commaEach_cons, List.length_cons, List.length_append, List.length_cons]
    omega

/-- A round of the parser of a list of expressions, behind an item. -/
def tupleRound (inner : Inner) (items : List Expr) : Parser (List Expr ⊕ Expr) := do
  if ← acceptSymbol .comma then
    if endsList (← peek) then return .inr (.tuple items.reverse)
    else return .inl ((← starOrExpr inner) :: items)
  else return .inr (.tuple items.reverse)

/-- The items of a tuple behind those that have been read. -/
theorem tuple_rest (h : List.Forall₂ Item es lss) (items : List Expr) (b : Nat)
    (hbound : (commaEach lss).length < bound) (hn : (commaEach lss).length ≤ n)
    (hb : lss.length < b) (hend : endsList (frontToken ts).lexeme = true) :
    Reads (repeatUpTo (tupleRound (exprAt field bound)) b items) n
      (placed line (.symbol .comma :: commaEach lss)) (.tuple (items.reverse ++ es)) ts := by
  induction h generalizing items b with
  | nil =>
    obtain ⟨b, rfl⟩ := Nat.exists_eq_add_one_of_ne_zero (n := b) (by omega)
    rw [List.append_nil]
    exact .last (.hit rfl (.ifTrue rfl (.peek (.ifTrue hend .pure))))
  | @cons e ls es lss h _ ih =>
    obtain ⟨b, rfl⟩ := Nat.exists_eq_add_one_of_ne_zero (n := b) (by omega)
    rw [commaEach_cons, List.length_append, List.length_cons] at hbound hn
    rw [List.length_cons] at hb
    rw [commaEach_cons, ← List.cons_append, placed_append, List.append_cons, ← List.reverse_cons]
    refine .again (.hit rfl (.ifTrue rfl (.peek (.ifFalse ?_ (.map ?_)))))
      (ih (e :: items) b (by omega) (by omega) (by omega))
    · change ¬endsList (frontToken (placed line ls ++ _)).lexeme = true
      rw [endsList_of_startsItem h.front]
      exact nofun
    · exact h.reads field bound n line _ (by omega) (by omega) (stops_of_none rfl)

theorem Spells.tuple (h : List.Forall₂ Item es lss) :
    Spells 8 (.tuple es) (.symbol .openParen :: commaEach lss ++ [.symbol .closeParen]) := by
  refine ⟨?_, fun field bound n line ts hbound hn _ => ?_⟩
  · cases h with
    | nil => exact ⟨_, _, rfl, rfl, nofun⟩
    | cons h _ =>
      obtain ⟨l, ls', rfl, hstart⟩ := h.starts
      refine ⟨_, _, rfl, rfl, fun heq => ?_⟩
      cases heq
      cases hstart
  · simp only [List.length_cons, List.length_append, List.length_nil] at hbound hn
    rw [List.cons_append, placed_cons]
    refine .peekToken (.advance ?_)
    cases h with
    | nil => exact .hit rfl (.ifTrue rfl .pure)
    -- an item that a comma follows makes a tuple of what is in parentheses
    | @cons e ls es lss h hrest =>
      have hcount := count_le_commaEach lss
      rw [commaEach_cons, List.length_append, List.length_cons] at hbound hn
      rw [commaEach_cons, List.append_assoc, placed_append]
      refine .miss ?_ (.ifFalse nofun ?_)
      · rw [List.append_assoc]
        exact h.front_ne rfl
      · rw [placed_append, ← List.append_assoc]
        refine .bind (.bind (h.reads field bound n line _ (by omega) (by omega) (stops_of_none rfl))
          (.peek (.ifFalse nofun ?_))) (.expect rfl .pure)
        exact .loop (tuple_rest hrest [e] (n + 1) (by omega) (by omega) (by omega) rfl)

/-! ## Items with commas between -/

theorem length_le_commaBetween (h : ls ∈ lss) : ls.length ≤ (commaBetween lss).length := by
  unfold commaBetween
  induction lss with
  | nil => cases h
  | cons ks lss ih =>
    cases lss with
    | nil =>
      exact Nat.le_of_eq (by rw [List.mem_singleton.mp h, List.intercalate_singleton])
    | cons ks' lss =>
      rw [List.intercalate_cons_cons, List.length_append, List.length_append]
      rcases List.mem_cons.mp h with rfl | h
      · omega
      · have := ih h
        omega

theorem count_le_commaBetween (lss : List (List Lexeme)) :
    lss.length ≤ (commaBetween lss).length + 1 := by
  unfold commaBetween
  induction lss with
  | nil => exact Nat.zero_le _
  | cons ls lss ih =>
    cases lss with
    | nil => simp
    | cons ks lss =>
      rw [List.intercalate_cons_cons, List.length_append, List.length_append, List.length_cons,
        List.length_singleton]
      omega

section Rounds

variable {σ τ : Type} {round : σ → Parser (σ ⊕ τ)} {finish : σ → τ} {s s' : σ} {close : Lexeme}

/-- A round reads an item and the comma behind it, or the last item. -/
structure Takes (round : σ → Parser (σ ⊕ τ)) (finish : σ → τ) (close : Lexeme) (n line : Nat)
    (s : σ) (ls : List Lexeme) (s' : σ) : Prop where
  comma : ∀ ts, Reads (round s) n (placed line (ls ++ [.symbol .comma])) (.inl s') ts
  last : ∀ ts, (frontToken ts).lexeme = close →
    Reads (round s) n (placed line ls) (.inr (finish s')) ts

/-- Rounds read one item after the other. -/
inductive TakesAll (round : σ → Parser (σ ⊕ τ)) (finish : σ → τ) (close : Lexeme) (n line : Nat) :
    σ → List (List Lexeme) → σ → Prop where
  | nil (s : σ) : TakesAll round finish close n line s [] s
  | cons {s s' s'' : σ} {ls : List Lexeme} {lss : List (List Lexeme)}
    (h : Takes round finish close n line s ls s')
    (hrest : TakesAll round finish close n line s' lss s'') :
    TakesAll round finish close n line s (ls :: lss) s''

theorem TakesAll.reads (h : TakesAll round finish close n line s lss s')
    (hdone : ∀ s, Reads (round s) n [] (.inr (finish s)) ts)
    (hclose : (frontToken ts).lexeme = close) (b : Nat) (hb : lss.length < b) :
    Reads (repeatUpTo round b s) n (placed line (commaBetween lss)) (finish s') ts := by
  unfold commaBetween
  induction h generalizing b with
  | nil s =>
    obtain ⟨b, rfl⟩ := Nat.exists_eq_add_one_of_ne_zero (n := b) (by omega)
    exact .last (hdone s)
  | @cons s s' s'' ls lss h hrest ih =>
    obtain ⟨b, rfl⟩ := Nat.exists_eq_add_one_of_ne_zero (n := b) (by omega)
    rw [List.length_cons] at hb
    cases hrest with
    | nil =>
      rw [List.intercalate_singleton]
      exact .last (h.last ts hclose)
    | cons h' hrest' =>
      rw [List.intercalate_cons_cons, placed_append]
      exact .again (h.comma _) (ih b (by omega))

/-- Rounds that put the items in front of those read before. -/
theorem TakesAll.of_forall {γ : Type} {R : γ → List Lexeme → Prop} {xs : List γ} (f : List γ → σ)
    (h : List.Forall₂ R xs lss)
    (htakes : ∀ x ls, ls ∈ lss → R x ls → ∀ read,
      Takes round finish close n line (f read) ls (f (x :: read))) (read : List γ) :
    TakesAll round finish close n line (f read) lss (f (xs.reverse ++ read)) := by
  induction h generalizing read with
  | nil => exact .nil _
  | @cons x ls xs lss h _ ih =>
    rw [List.reverse_cons, List.append_assoc]
    exact .cons (htakes x ls (List.mem_cons_self ..) h read)
      (ih (fun x ls hls => htakes x ls (List.mem_cons_of_mem _ hls)) (x :: read))

theorem TakesAll.append {s'' : σ} {kss : List (List Lexeme)}
    (h : TakesAll round finish close n line s lss s')
    (hrest : TakesAll round finish close n line s' kss s'') :
    TakesAll round finish close n line s (lss ++ kss) s'' := by
  induction h with
  | nil => exact hrest
  | cons h _ ih => exact .cons h (ih hrest)

end Rounds

/-! ### Lists -/

/-- A round of the parser of the items of a list. -/
def listRound (inner : Inner) (items : List Expr) : Parser (List Expr ⊕ List Expr) := do
  if (← peek) = .symbol .closeBracket then return .inr items.reverse
  else
    let items := (← starOrExpr inner) :: items
    if ← acceptSymbol .comma then return .inl items else return .inr items.reverse

theorem Item.takes (h : Item e ls) (hbound : ls.length < bound) (hn : ls.length ≤ n)
    (items : List Expr) :
    Takes (listRound (exprAt field bound)) List.reverse (.symbol .closeBracket) n line items ls
      (e :: items) := by
  refine ⟨fun ts => .peek (.ifFalse ?_ ?_), fun ts hts => .peek (.ifFalse (h.front_ne rfl) ?_)⟩
  · rw [placed_append, List.append_assoc]
    exact h.front_ne rfl
  · rw [placed_append]
    exact .bind (h.reads field bound n line _ hbound hn (stops_of_none rfl))
      (.hit rfl (.ifTrue rfl .pure))
  · have hstop : Stops 0 ts := stops_of_none (by rw [hts]; rfl)
    refine .bind_nil (h.reads field bound n line ts hbound hn hstop)
      (.miss ?_ (.ifFalse nofun .pure))
    rw [List.nil_append, hts]
    exact nofun

theorem listItems_reads (h : List.Forall₂ Item es lss) (hbound : (commaBetween lss).length < bound)
    (hn : (commaBetween lss).length < n) (hts : (frontToken ts).lexeme = .symbol .closeBracket) :
    Reads (listItems (exprAt field bound)) n (placed line (commaBetween lss)) es ts := by
  have hcount := count_le_commaBetween lss
  have hall : TakesAll (listRound (exprAt field bound)) List.reverse (.symbol .closeBracket) n line
      [] lss es.reverse := by
    rw [← List.append_nil es.reverse]
    refine .of_forall id h (fun e ls hls h items => ?_) []
    have hlen := length_le_commaBetween hls
    exact h.takes (by omega) (by omega) items
  have hrun := hall.reads (fun items => .peek (.ifTrue hts .pure)) hts (n + 1) (by omega)
  rw [List.reverse_reverse] at hrun
  exact .loop hrun

theorem Spells.list (h : List.Forall₂ Item es lss) :
    Spells 8 (.list es) (.symbol .openBracket :: commaBetween lss ++ [.symbol .closeBracket]) := by
  refine ⟨⟨_, _, rfl, rfl, ?_⟩, fun field bound n line ts hbound hn _ => ?_⟩
  · unfold commaBetween
    cases h with
    | nil => exact nofun
    | cons h hrest =>
      obtain ⟨l, ls', rfl, hstart⟩ := h.starts
      have hassign : l ≠ .symbol .assign := by
        rintro rfl
        cases hstart
      cases hrest with
      | nil => simpa using hassign
      | cons _ _ => simpa [List.intercalate_cons_cons] using hassign
  · simp only [List.length_cons, List.length_append, List.length_nil] at hbound hn
    rw [List.cons_append, placed_cons, placed_append]
    refine .peekToken (.advance (.bind ?_ (.expect rfl .pure)))
    exact listItems_reads h (by omega) (by omega) rfl

/-! ### Arguments -/

/-- A round of the parser of arguments. -/
def argumentsRound (inner : Inner) : List Expr × List Keyword →
    Parser ((List Expr × List Keyword) ⊕ (List Expr × List Keyword)) := fun (args, keywords) => do
  let done : Parser ((List Expr × List Keyword) ⊕ (List Expr × List Keyword)) :=
    return .inr (args.reverse, keywords.reverse)
  if (← peek) = .symbol .closeParen then done
  else
    let next ←
      if ← atKeyword then do
        let key ← Parser.name
        advance
        pure (args, .mk key (← inner .full) :: keywords)
      else if !keywords.isEmpty then failHere .positionalAfterKeyword
      else pure ((← inner .full) :: args, keywords)
    if ← acceptSymbol .comma then return .inl next
    else return .inr (next.1.reverse, next.2.reverse)

/-- The arguments, when the last one has been read. -/
def argumentsRead (read : List Expr × List Keyword) : List Expr × List Keyword :=
  (read.1.reverse, read.2.reverse)

/-- An expression is not taken for an argument by name. -/
theorem atKeyword_false (h : Opens k ls) (hts : (frontToken ts).lexeme ≠ .symbol .assign) :
    atKeyword n (placed line ls ++ ts) = .ok (false, placed line ls ++ ts) := by
  obtain ⟨l, ls', rfl, -, hsecond⟩ := h
  have hdrop : (frontToken (placed line ls' ++ ts)).lexeme ≠ .symbol .assign := by
    cases ls' with
    | nil => exact hts
    | cons l' ls' => exact fun heq => hsecond (congrArg some heq)
  rw [atKeyword, bind_ok peek_apply]
  cases l with
  | word text =>
    refine (bind_ok peekSecond_apply).trans ?_
    simp [hdrop]
  | _ => rfl

/-- The value of an argument, and what becomes of the argument. -/
def argumentValue (inner : Inner) (add : Expr → List Expr × List Keyword) :
    Parser ((List Expr × List Keyword) ⊕ (List Expr × List Keyword)) := do
  let next ← pure (add (← inner .full))
  if ← acceptSymbol .comma then return .inl next else return .inr (argumentsRead next)

theorem Spells.comma (h : Spells 0 e ls) (hbound : ls.length < bound) (hn : ls.length ≤ n)
    (add : Expr → List Expr × List Keyword) :
    Reads (argumentValue (exprAt field bound) add) n (placed line (ls ++ [.symbol .comma]))
      (.inl (add e)) ts := by
  rw [placed_append]
  exact .bind (h.full hbound hn (stops_of_none rfl)) (.bind .pure (.hit rfl (.ifTrue rfl .pure)))

theorem Spells.last (h : Spells 0 e ls) (hbound : ls.length < bound) (hn : ls.length ≤ n)
    (add : Expr → List Expr × List Keyword) (hts : (frontToken ts).lexeme = .symbol .closeParen) :
    Reads (argumentValue (exprAt field bound) add) n (placed line ls)
      (.inr (argumentsRead (add e))) ts := by
  have hstop : Stops 0 ts := stops_of_none (by rw [hts]; rfl)
  refine .bind_nil (h.full hbound hn hstop) (.bind .pure (.miss ?_ (.ifFalse nofun .pure)))
  rw [List.nil_append, hts]
  exact nofun

theorem Spells.takes (h : Spells 0 e ls) (hbound : ls.length < bound) (hn : ls.length ≤ n)
    (args : List Expr) :
    Takes (argumentsRound (exprAt field bound)) argumentsRead (.symbol .closeParen) n line
      (args, []) ls (e :: args, []) := by
  refine ⟨fun ts => .peek (.ifFalse ?_ (.look (a := false) ?_ (.ifFalse nofun (.ifFalse nofun
    (h.comma hbound hn fun e => (e :: args, [])))))),
    fun ts hts => .peek (.ifFalse (h.opens.front_ne rfl) (.look (a := false) ?_
      (.ifFalse nofun (.ifFalse nofun (h.last hbound hn (fun e => (e :: args, [])) hts)))))⟩
  · rw [placed_append, List.append_assoc]
    exact h.opens.front_ne rfl
  · rw [placed_append, List.append_assoc]
    exact atKeyword_false h.opens nofun
  · exact atKeyword_false h.opens (by rw [hts]; exact nofun)

/-- The lexemes can stand for an argument by name. -/
inductive SpellsKeyword : Keyword → List Lexeme → Prop where
  | mk {name : String} {value : Expr} {ls : List Lexeme} (hname : isKeyword name = false)
    (h : Spells 0 value ls) :
    SpellsKeyword (.mk name value) (.word name :: .symbol .assign :: ls)

theorem SpellsKeyword.takes {key : Keyword} (h : SpellsKeyword key ls) (hbound : ls.length < bound)
    (hn : ls.length ≤ n) (args : List Expr) (keywords : List Keyword) :
    Takes (argumentsRound (exprAt field bound)) argumentsRead (.symbol .closeParen) n line
      (args, keywords) ls (args, key :: keywords) := by
  obtain @⟨name, value, ls, hname, h⟩ := h
  rw [List.length_cons, List.length_cons] at hbound hn
  -- two tokens ahead the parser sees that the argument has a name
  have hahead : ∀ us, atKeyword n (placed line [.word name, .symbol .assign] ++ us)
      = .ok (true, placed line [.word name, .symbol .assign] ++ us) := fun us => by
    rw [atKeyword, bind_ok peek_apply]
    refine (bind_ok peekSecond_apply).trans ?_
    simp [hname]
  refine ⟨fun ts => .peek (.ifFalse (by rintro ⟨⟩) (.look (hahead _) (.ifTrue rfl (.name hname rfl
    (.advance (h.comma (by omega) (by omega) _)))))),
    fun ts hts => .peek (.ifFalse (by rintro ⟨⟩) (.look (hahead _) (.ifTrue rfl (.name hname rfl
      (.advance (h.last (by omega) (by omega) _ hts))))))⟩

theorem arguments_reads {args : List Expr} {keywords : List Keyword} {kss : List (List Lexeme)}
    (hargs : List.Forall₂ (Spells 0) args lss) (hkeywords : List.Forall₂ SpellsKeyword keywords kss)
    (hbound : (commaBetween (lss ++ kss)).length < bound)
    (hn : (commaBetween (lss ++ kss)).length < n)
    (hts : (frontToken ts).lexeme = .symbol .closeParen) :
    Reads (arguments (exprAt field bound)) n (placed line (commaBetween (lss ++ kss)))
      (args, keywords) ts := by
  have hcount := count_le_commaBetween (lss ++ kss)
  -- those without a name are read first, and those with a name behind them
  have hall : TakesAll (argumentsRound (exprAt field bound)) argumentsRead (.symbol .closeParen) n
      line ([], []) (lss ++ kss) (args.reverse, keywords.reverse) := by
    rw [← List.append_nil args.reverse, ← List.append_nil keywords.reverse]
    refine (TakesAll.of_forall (fun args => (args, [])) hargs (fun e ls hls h args => ?_) []).append
      (.of_forall (fun keywords => (args.reverse ++ [], keywords)) hkeywords
        (fun key ls hls h keywords => ?_) [])
    · have hlen := length_le_commaBetween (List.mem_append_left kss hls)
      exact h.takes (by omega) (by omega) args
    · have hlen := length_le_commaBetween (List.mem_append_right lss hls)
      exact h.takes (by omega) (by omega) _ keywords
  have hrun := hall.reads (fun read => .peek (.ifTrue hts .pure)) hts (n + 1) (by omega)
  rw [argumentsRead, List.reverse_reverse, List.reverse_reverse] at hrun
  exact .loop hrun

/-! ## What follows an operand -/

theorem Spells.call {args : List Expr} {keywords : List Keyword} {kss : List (List Lexeme)}
    (h : Spells 7 e ls) (hargs : List.Forall₂ (Spells 0) args lss)
    (hkeywords : List.Forall₂ SpellsKeyword keywords kss) :
    Spells 7 (.call e args keywords)
      (ls ++ .symbol .openParen :: commaBetween (lss ++ kss) ++ [.symbol .closeParen]) := by
  rw [List.append_assoc]
  refine ⟨h.opens.append nofun, fun field bound n line ts hbound hn _ => ?_⟩
  simp only [List.length_append, List.length_cons, List.length_nil] at hbound hn
  rw [placed_append]
  refine (h.runs field bound n line _ (by omega) (by omega) (stops_of_some rfl (by decide))).step
    (by simpa using by omega) (by simp) ?_
  rw [List.cons_append, placed_cons, placed_append]
  refine .peek (.advance (.bind (a := (args, keywords)) ?_ (.expect rfl .pure)))
  exact arguments_reads hargs hkeywords (by omega) (by omega) rfl

theorem Spells.attribute (h : Spells 7 e ls) (name : String) :
    Spells 7 (.attribute e name) (ls ++ [.symbol .dot, .word name]) := by
  refine ⟨h.opens.append nofun, fun field bound n line ts hbound hn _ => ?_⟩
  simp only [List.length_append, List.length_cons, List.length_nil] at hbound hn
  rw [placed_append]
  refine (h.runs field bound n line _ (by omega) (by omega) (stops_of_some rfl (by decide))).step
    (by simpa using by omega) (by simp) ?_
  exact .peek (.advance (.peek (.advance .pure)))

theorem Spells.subscript (h : Spells 7 e ls) (hindex : Spells 0 r ks) :
    Spells 7 (.subscript e r) (ls ++ .symbol .openBracket :: ks ++ [.symbol .closeBracket]) := by
  rw [List.append_assoc]
  refine ⟨h.opens.append nofun, fun field bound n line ts hbound hn _ => ?_⟩
  simp only [List.length_append, List.length_cons, List.length_nil] at hbound hn
  rw [placed_append]
  refine (h.runs field bound n line _ (by omega) (by omega) (stops_of_some rfl (by decide))).step
    (by simpa using by omega) (by simp) ?_
  rw [List.cons_append, placed_cons, placed_append]
  refine .peek (.advance (.bind ?_ (.expect rfl .pure)))
  exact hindex.full (by omega) (by omega) (stops_of_none rfl)

/-! ## Every expression -/

theorem isKeyword_of_isName (h : isName name = true) : isKeyword name = false := by
  unfold isName at h
  rw [Bool.and_eq_true, Bool.not_eq_true'] at h
  exact h.2

mutual

/-- **What is printed for an expression can stand for it**, in any place and with any extra
parentheses. -/
theorem lexemes_spells (x : Extra) {place : Nat} (hplace : place ≤ 8) :
    ∀ e : Expr, e.printable = true → Spells place e (e.lexemes x place)
  | .name name, h => (Spells.word (isKeyword_of_isName h)).fit x (Nat.le_refl 8) hplace
  | .int value, _ => (Spells.int value).fit x (Nat.le_refl 8) hplace
  | .bool value, _ => (Spells.bool value).fit x (Nat.le_refl 8) hplace
  | .none, _ => Spells.none.fit x (Nat.le_refl 8) hplace
  | .str text, _ => (Spells.str text).fit x (Nat.le_refl 8) hplace
  | .tuple items, h =>
    (Spells.tuple ((itemLexemes_spell x items h).imp fun _ _ h => h.item)).fit x (Nat.le_refl 8)
      hplace
  | .list items, h =>
    (Spells.list ((itemLexemes_spell x items h).imp fun _ _ h => h.item)).fit x (Nat.le_refl 8)
      hplace
  | .unary op operand, h =>
    have hrank : op.rank ≤ 8 := by cases op <;> decide
    (Spells.unary op (lexemes_spells (x.child 0) hrank operand h)).fit x hrank hplace
  | .binary op left right, h => by
    have hrank : op.rank < 8 := by cases op <;> decide
    obtain ⟨hleft, hright⟩ := Bool.and_eq_true_iff.mp h
    exact ((lexemes_spells (x.child 0) (Nat.le_of_lt hrank) left hleft).binary op
      (lexemes_spells (x.child 1) hrank right hright)).fit x (Nat.le_of_lt hrank) hplace
  | .compare op left right, h => by
    obtain ⟨hleft, hright⟩ := Bool.and_eq_true_iff.mp h
    exact ((lexemes_spells (x.child 0) (by decide) left hleft).compare op
      (lexemes_spells (x.child 1) (by decide) right hright)).fit x (by decide) hplace
  | .logical op left right, h => by
    have hrank : op.rank < 8 := by cases op <;> decide
    obtain ⟨hleft, hright⟩ := Bool.and_eq_true_iff.mp h
    exact ((lexemes_spells (x.child 0) (Nat.le_of_lt hrank) left hleft).logical op
      (lexemes_spells (x.child 1) hrank right hright)).fit x (Nat.le_of_lt hrank) hplace
  | .call func args keywords, h => by
    obtain ⟨hfunc, hargs, hkeywords⟩ := Expr.printable_call.mp h
    exact ((lexemes_spells (x.child 0) (by decide) func hfunc).call
      (itemLexemes_spell (x.child 1) args hargs)
      (keywordLexemes_spell (x.child 2) keywords hkeywords)).fit x (by decide) hplace
  | .attribute operand name, h => by
    obtain ⟨hoperand, -⟩ := Bool.and_eq_true_iff.mp h
    exact ((lexemes_spells (x.child 0) (by decide) operand hoperand).attribute name).fit x
      (by decide) hplace
  | .subscript operand index, h => by
    obtain ⟨hoperand, hindex⟩ := Bool.and_eq_true_iff.mp h
    exact ((lexemes_spells (x.child 0) (by decide) operand hoperand).subscript
      (lexemes_spells (x.child 1) (by decide) index hindex)).fit x (by decide) hplace

theorem itemLexemes_spell (x : Extra) :
    ∀ es : List Expr, allPrintable es = true → List.Forall₂ (Spells 0) es (itemLexemes x es)
  | [], _ => .nil
  | e :: es, h => by
    obtain ⟨he, hes⟩ := Bool.and_eq_true_iff.mp h
    exact .cons (lexemes_spells (x.child 0) (by decide) e he) (itemLexemes_spell (x.child 1) es hes)

theorem keywordLexemes_spell (x : Extra) :
    ∀ ks : List Keyword, keywordsPrintable ks = true →
      List.Forall₂ SpellsKeyword ks (keywordLexemes x ks)
  | [], _ => .nil
  | .mk name value :: ks, h => by
    obtain ⟨hname, hvalue, hks⟩ := keywordsPrintable_cons.mp h
    exact .cons
      (.mk (isKeyword_of_isName hname) (lexemes_spells (x.child 0) (by decide) value hvalue))
      (keywordLexemes_spell (x.child 1) ks hks)

end

end Parser

/-! ## Targets as expressions -/

mutual

/-- The expression that denotes the target. -/
def Target.expr : Target → Expr
  | .name name => .name name
  | .star name => .star (.name name)
  | .sequence items => .tuple (targetExprs items)

/-- The expressions that denote the targets. -/
def targetExprs : List Target → List Expr
  | [] => []
  | t :: ts => t.expr :: targetExprs ts

end

namespace Parser

variable {n bound line : Nat} {ts : List Token}

theorem isStar_expr (t : Target) : isStar t.expr = t.isStar := by
  cases t <;> rfl

theorem countP_targetExprs (items : List Target) :
    (targetExprs items).countP isStar = items.countP Target.isStar := by
  induction items with
  | nil => rfl
  | cons t items ih => rw [targetExprs, List.countP_cons, List.countP_cons, ih, isStar_expr]

mutual

theorem toTarget_expr : ∀ t : Target, t.printable = true → toTarget t.expr = .ok t
  | .name _, _ => rfl
  | .star _, _ => rfl
  | .sequence items, h => by
    obtain ⟨hcount, hitems⟩ := Bool.and_eq_true_iff.mp h
    rw [decide_eq_true_eq] at hcount
    rw [Target.expr, toTarget, countP_targetExprs, if_neg (by omega), toTargets_exprs items hitems]
    rfl

theorem toTargets_exprs :
    ∀ items : List Target, targetsPrintable items = true → toTargets (targetExprs items) = .ok items
  | [], _ => rfl
  | t :: items, h => by
    obtain ⟨ht, hitems⟩ := Bool.and_eq_true_iff.mp h
    rw [targetExprs, toTargets, toTarget_expr t ht, toTargets_exprs items hitems]
    rfl

end

mutual

theorem target_item : ∀ t : Target, t.printable = true → Item t.expr t.lexemes
  | .name _, h => ((Spells.word (isKeyword_of_isName h)).of_le (Nat.zero_le _) (Nat.le_refl _)).item
  | .star _, h => Item.star (isKeyword_of_isName h)
  | .sequence items, h => by
    obtain ⟨-, hitems⟩ := Bool.and_eq_true_iff.mp h
    exact ((Spells.tuple (targets_items items hitems)).of_le (Nat.zero_le _) (Nat.le_refl _)).item

theorem targets_items : ∀ items : List Target, targetsPrintable items = true →
    List.Forall₂ Item (targetExprs items) (targetLexemes items)
  | [], _ => .nil
  | t :: items, h => by
    obtain ⟨ht, hitems⟩ := Bool.and_eq_true_iff.mp h
    exact .cons (target_item t ht) (targets_items items hitems)

end

/-! ## What a loop binds -/

/-- A round of the parser of the targets in brackets. -/
def bracketedRound (close : Symbol) (item : Parser Expr) (items : List Expr) :
    Parser (List Expr ⊕ List Expr) := do
  if (← peek) = .symbol close then return .inr items.reverse
  else
    let items := (← item) :: items
    if ← acceptSymbol .comma then return .inl items else return .inr items.reverse

mutual

theorem targetAtom_reads (bound : Nat) : ∀ t : Target, t.printable = true →
    t.lexemes.length ≤ bound → ∀ ts, t.lexemes.length ≤ n →
      Reads (targetAtom bound) n (placed line t.lexemes) t.expr ts
  | .name name, h, hbound, ts, _ => by
    obtain ⟨bound, rfl⟩ :=
      Nat.exists_eq_add_one_of_ne_zero (n := bound) (by rintro rfl; cases hbound)
    exact .peek (.name (isKeyword_of_isName h) rfl .pure)
  | .star name, h, hbound, ts, _ => by
    obtain ⟨bound, rfl⟩ :=
      Nat.exists_eq_add_one_of_ne_zero (n := bound) (by rintro rfl; cases hbound)
    exact .peek (.advance (.name (isKeyword_of_isName h) rfl .pure))
  | .sequence items, h, hbound, ts, hn => by
    obtain ⟨-, hitems⟩ := Bool.and_eq_true_iff.mp h
    rw [Target.lexemes] at hbound hn ⊢
    simp only [List.length_cons, List.length_append, List.length_nil] at hbound hn
    obtain ⟨bound, rfl⟩ := Nat.exists_eq_add_one_of_ne_zero (n := bound) (by omega)
    have hcount := count_le_commaEach (targetLexemes items)
    rw [List.cons_append, placed_cons, placed_append]
    refine .peek (.advance (.bind (.loop ?_) (.expect rfl .pure)))
    exact targetItems_read bound items hitems (by omega) [] (n + 1) (by omega) (by omega) _ rfl

theorem targetItems_read (bound : Nat) : ∀ items : List Target, targetsPrintable items = true →
    (commaEach (targetLexemes items)).length ≤ bound → ∀ read b,
      (commaEach (targetLexemes items)).length ≤ n → (targetLexemes items).length < b → ∀ ts,
      (frontToken ts).lexeme = .symbol .closeParen →
      Reads (repeatUpTo (bracketedRound .closeParen (targetAtom bound)) b read) n
        (placed line (commaEach (targetLexemes items))) (read.reverse ++ targetExprs items) ts
  | [], _, _, read, b, _, hb, ts, hts => by
    obtain ⟨b, rfl⟩ := Nat.exists_eq_add_one_of_ne_zero (n := b) (by rintro rfl; cases hb)
    rw [targetExprs, List.append_nil]
    exact .last (.peek (.ifTrue hts .pure))
  | t :: items, h, hbound, read, b, hn, hb, ts, hts => by
    obtain ⟨ht, hitems⟩ := Bool.and_eq_true_iff.mp h
    rw [targetLexemes, commaEach_cons, List.length_append, List.length_cons] at hbound hn
    rw [targetLexemes, List.length_cons] at hb
    obtain ⟨b, rfl⟩ := Nat.exists_eq_add_one_of_ne_zero (n := b) (by omega)
    rw [targetLexemes, commaEach_cons, placed_append, placed_cons, targetExprs,
      List.append_cons read.reverse, ← List.reverse_cons, List.append_cons (placed line t.lexemes)]
    refine .again (.peek (.ifFalse ?_ (.bind (targetAtom_reads bound t ht (by omega) _ (by omega))
      (.hit rfl (.ifTrue rfl .pure)))))
      (targetItems_read bound items hitems (by omega) _ b (by omega) (by omega) ts hts)
    rw [List.append_assoc]
    exact (target_item t ht).front_ne rfl

end

/-- What a loop binds, in front of the word `in`. -/
theorem loopTarget_reads {t : Target} (ht : t.printable = true) (hstar : t.isStar = false)
    (hn : t.lexemes.length ≤ n) (hts : (frontToken ts).lexeme = .word "in") :
    Reads loopTarget n (placed line t.lexemes) t.expr ts := by
  refine .read (.bind_nil (targetAtom_reads n t ht hn ts hn) (.bind_nil (a := [t.expr]) (.loop
    (.last (.miss ?_ (.ifFalse nofun .pure)))) ?_))
  · rw [List.nil_append, hts]
    exact nofun
  · have hstar' : ¬isStar t.expr = true := by rw [isStar_expr, hstar]; exact nofun
    simp only [if_neg hstar']
    exact .pure

end Parser
end Tilde
