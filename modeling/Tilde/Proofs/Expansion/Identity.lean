import Tilde.Expand

/-!
# A program without shell literals to expand

The number of expanded literals is read off the log records. Where it is zero the expansion is the
program itself: the records of an expression mention every literal that stands in a place that
delivers output, and an expansion replaces nothing else.
-/

namespace Tilde

open Shell (Delivery)

/-- No record tells of an expanded literal. -/
def NoRuns (records : List LogRecord) : Prop := ∀ r ∈ records, r.isRunsAs = false

theorem noRuns_append {rs ss : List LogRecord} : NoRuns (rs ++ ss) ↔ NoRuns rs ∧ NoRuns ss := by
  simp only [NoRuns, List.mem_append, or_imp, forall_and]

theorem noRuns_flatMap {α : Type} {f : α → List LogRecord} {xs : List α} :
    NoRuns (xs.flatMap f) ↔ ∀ x ∈ xs, NoRuns (f x) := by
  simp only [NoRuns, List.mem_flatMap]
  constructor
  · exact fun h x hx r hr => h r ⟨x, hx, hr⟩
  · rintro h r ⟨x, hx, hr⟩
    exact h x hx r hr

/-- What the records say of an expression in a place: none tells of a literal that is expanded. -/
def Expr.Unexpanded (line : Nat) (site : Option Delivery) (e : Expr) : Prop :=
  NoRuns (e.notes line) ∧ ∀ d ∈ site, NoRuns (e.siteNotes line d)

mutual

theorem expand_eq_self (line : Nat) (site : Option Delivery) :
    ∀ e : Expr, e.Unexpanded line site → e.expand site = e
  | .unary op e, h => by
    have ih := expand_eq_self line none e ⟨h.1, by simp⟩
    cases op with
    | invert =>
      cases e with
      | str text =>
        cases site with
        | none => rfl
        | some d => exact absurd (h.2 d rfl _ (List.mem_singleton_self _)) (by simp [LogRecord.isRunsAs])
      | template parts =>
        cases site with
        | none => exact congrArg (Expr.unary .invert) ih
        | some d =>
          have hruns := (noRuns_append.mp (h.2 d rfl)).2 _ (List.mem_singleton_self _)
          exact absurd hruns (by simp [LogRecord.isRunsAs])
      | _ => exact congrArg (Expr.unary .invert) ih
    | neg => exact congrArg (Expr.unary .neg) ih
    | not => exact congrArg (Expr.unary .not) ih
  | .name _, _ | .int _, _ | .bool _, _ | .none, _ | .str _, _ => rfl
  | .template parts, h => by rw [Expr.expand, expandParts_eq_self line parts h.1]
  | .tuple items, h | .list items, h => by
    rw [Expr.expand, expandAll_eq_self line none items h.1 (by simp)]
  | .star e, h => by rw [Expr.expand, expand_eq_self line none e ⟨h.1, by simp⟩]
  | .binary op l r, h | .compare op l r, h | .logical op l r, h => by
    obtain ⟨hl, hr⟩ := noRuns_append.mp h.1
    rw [Expr.expand, expand_eq_self line none l ⟨hl, by simp⟩,
      expand_eq_self line none r ⟨hr, by simp⟩]
  | .subscript e i, h => by
    obtain ⟨he, hi⟩ := noRuns_append.mp h.1
    rw [Expr.expand, expand_eq_self line none e ⟨he, by simp⟩,
      expand_eq_self line none i ⟨hi, by simp⟩]
  | .attribute e n, h => by
    -- the base of an attribute delivers its output, so its own note counts here
    obtain ⟨hsite, he⟩ := noRuns_append.mp h.1
    rw [Expr.expand, expand_eq_self line (some .single) e ⟨he, by simpa using hsite⟩]
  | .call f args keywords, h => by
    have hnotes := h.1
    rw [Expr.notes] at hnotes
    simp only [noRuns_append, noRuns_flatMap] at hnotes
    obtain ⟨⟨⟨⟨hargs, hkeys⟩, hf⟩, hargNotes⟩, hkeyNotes⟩ := hnotes
    rw [Expr.expand, expand_eq_self line none f ⟨hf, by simp⟩,
      expandAll_eq_self line (some .single) args hargNotes (by simpa using hargs),
      expandKeywords_eq_self line keywords hkeyNotes hkeys]

theorem expandAll_eq_self (line : Nat) (site : Option Delivery) :
    ∀ es : List Expr, NoRuns (allNotes line es) →
      (∀ e ∈ es, ∀ d ∈ site, NoRuns (e.siteNotes line d)) → expandAll site es = es
  | [], _, _ => rfl
  | e :: es, h, hsite => by
    obtain ⟨he, hes⟩ := noRuns_append.mp h
    rw [expandAll, expand_eq_self line site e ⟨he, hsite e (List.mem_cons_self ..)⟩,
      expandAll_eq_self line site es hes fun e' he' => hsite e' (List.mem_cons_of_mem e he')]

theorem expandKeywords_eq_self (line : Nat) :
    ∀ ks : List Keyword, NoRuns (keywordNotes line ks) →
      (∀ k ∈ ks, NoRuns (k.value.siteNotes line .single)) → expandKeywords ks = ks
  | [], _, _ => rfl
  | .mk n e :: ks, h, hsite => by
    obtain ⟨he, hks⟩ := noRuns_append.mp h
    have hvalue : NoRuns (e.siteNotes line .single) := hsite _ (List.mem_cons_self ..)
    rw [expandKeywords, expand_eq_self line (some .single) e ⟨he, by simpa using hvalue⟩,
      expandKeywords_eq_self line ks hks fun k hk => hsite k (List.mem_cons_of_mem _ hk)]

theorem expandParts_eq_self (line : Nat) :
    ∀ ps : List Part, NoRuns (partNotes line ps) → expandParts ps = ps
  | [], _ => rfl
  | .literal s :: ps, h => by rw [expandParts, expandParts_eq_self line ps h]
  | .field e spec :: ps, h => by
    obtain ⟨he, hps⟩ := noRuns_append.mp h
    rw [expandParts, expand_eq_self line none e ⟨he, by simp⟩,
      expandParts_eq_self line ps hps]

end

mutual

theorem Stmt.expand_eq_self : ∀ s : Stmt, NoRuns s.notes → s.expand = s
  | .evaluate line e, h => by
    -- the note of a literal in this place comes in front of those of its parts
    obtain ⟨hsite, he⟩ := noRuns_append.mp h
    rw [Stmt.expand, Tilde.expand_eq_self line _ e ⟨he, by simpa using hsite⟩]
  | .assign line target e, h => by
    obtain ⟨hsite, he⟩ := noRuns_append.mp h
    rw [Stmt.expand, Tilde.expand_eq_self line _ e ⟨he, by simpa using hsite⟩]
  | .assert line test none, h => by
    rw [Stmt.expand, Tilde.expand_eq_self line none test ⟨h, by simp⟩, Option.map_none]
  | .assert line test (some message), h => by
    obtain ⟨htest, hmessage⟩ := noRuns_append.mp h
    rw [Stmt.expand, Tilde.expand_eq_self line none test ⟨htest, by simp⟩, Option.map_some,
      Tilde.expand_eq_self line none message ⟨hmessage, by simp⟩]
  | .pass _, _ | .breakLoop _, _ | .continueLoop _, _ => rfl
  | .branch line test body orelse, h => by
    obtain ⟨h, horelse⟩ := noRuns_append.mp h
    obtain ⟨htest, hbody⟩ := noRuns_append.mp h
    rw [Stmt.expand, Tilde.expand_eq_self line none test ⟨htest, by simp⟩,
      expandBody_eq_self body hbody, expandBody_eq_self orelse horelse]
  | .whileLoop line test body, h => by
    obtain ⟨htest, hbody⟩ := noRuns_append.mp h
    rw [Stmt.expand, Tilde.expand_eq_self line none test ⟨htest, by simp⟩,
      expandBody_eq_self body hbody]
  | .forEach line target items body, h => by
    obtain ⟨hitems, hbody⟩ := noRuns_append.mp h
    rw [Stmt.expand, Tilde.expand_eq_self line none items ⟨hitems, by simp⟩,
      expandBody_eq_self body hbody]
  | .attempt line body handlers, h => by
    obtain ⟨hbody, hhandlers⟩ := noRuns_append.mp h
    rw [Stmt.expand, expandBody_eq_self body hbody, expandHandlers_eq_self handlers hhandlers]

theorem expandBody_eq_self : ∀ ss : List Stmt, NoRuns (bodyNotes ss) → expandBody ss = ss
  | [], _ => rfl
  | s :: ss, h => by
    obtain ⟨hs, hss⟩ := noRuns_append.mp h
    rw [expandBody, s.expand_eq_self hs, expandBody_eq_self ss hss]

theorem expandHandlers_eq_self :
    ∀ hs : List Handler, NoRuns (handlerNotes hs) → expandHandlers hs = hs
  | [], _ => rfl
  | .mk kind name body :: hs, h => by
    obtain ⟨hbody, hhs⟩ := noRuns_append.mp h
    rw [expandHandlers, expandBody_eq_self body hbody, expandHandlers_eq_self hs hhs]

end

/-- **An expansion that replaces no literal changes nothing.** -/
theorem Program.expand_eq_self {p : Program} (h : p.literalCount = 0) : p.expand = p := by
  have hruns : NoRuns (bodyNotes p.body) := fun r hr => by
    have := List.countP_eq_zero.mp h r hr
    simpa using this
  rw [Program.expand, expandBody_eq_self p.body hruns]

end Tilde
