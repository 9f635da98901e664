import Tilde.Expand
import Tilde.Proofs.Exec.Agree
import Tilde.Proofs.Helpers.Clean

/-!
# Programs that cannot get at the helpers

A program is confined if a helper's name stands in it, if at all, as the function of a call, and no
assignment, loop or handler binds such a name. Parsed programs are confined, since no name in them is
a helper's; so are expanded ones, since an expansion puts helpers where they are called.

A namespace is sealed if each helper's name is bound to its helper and no other name to a value with
a helper in it. In a sealed namespace a confined expression gives a clean value, and so a confined
statement leaves a sealed namespace sealed.
-/

namespace Tilde

variable {ω : Type}

/-! ## Confined programs -/

/-- Whether the expression is a name. -/
def Expr.isName : Expr → Bool
  | .name _ => true
  | _ => false

mutual

/-- No helper's name stands in the expression, except, where `commands` may be run, as the function
of a call. -/
def Expr.Confined (commands : Prop) : Expr → Prop
  | .name n => ¬IsHelperName n
  | .int _ | .bool _ | .none | .str _ => True
  | .template parts => confinedParts commands parts
  | .tuple items | .list items => confinedAll commands items
  | .star e | .unary _ e | .attribute e _ => e.Confined commands
  | .binary _ l r | .compare _ l r | .logical _ l r | .subscript l r =>
    l.Confined commands ∧ r.Confined commands
  | .call f args keywords =>
    (commands ∧ f.isName = true ∨ f.Confined commands) ∧ confinedAll commands args
      ∧ confinedKeywords commands keywords

/-- The expressions of a list are confined. -/
def confinedAll (commands : Prop) : List Expr → Prop
  | [] => True
  | e :: es => e.Confined commands ∧ confinedAll commands es

/-- The values of arguments given by name are confined. -/
def confinedKeywords (commands : Prop) : List Keyword → Prop
  | [] => True
  | .mk _ e :: ks => e.Confined commands ∧ confinedKeywords commands ks

/-- The fields of an interpolated string are confined. -/
def confinedParts (commands : Prop) : List Part → Prop
  | [] => True
  | .literal _ :: ps => confinedParts commands ps
  | .field e _ :: ps => e.Confined commands ∧ confinedParts commands ps

end

/-- What may be bound: every name but the helpers'. -/
abbrev Bindable (name : String) : Prop := ¬IsHelperName name

mutual

/-- The expressions of the statement are confined, and it binds no helper's name. -/
def Stmt.Confined (commands : Prop) : Stmt → Prop
  | .evaluate _ e => e.Confined commands
  | .assign _ target e => target.Spells Bindable ∧ e.Confined commands
  | .assert _ test message => test.Confined commands ∧ ∀ e ∈ message, e.Confined commands
  | .pass _ | .breakLoop _ | .continueLoop _ => True
  | .branch _ test body orelse =>
    test.Confined commands ∧ confinedBody commands body ∧ confinedBody commands orelse
  | .whileLoop _ test body => test.Confined commands ∧ confinedBody commands body
  | .forEach _ target items body =>
    target.Spells Bindable ∧ items.Confined commands ∧ confinedBody commands body
  | .attempt _ body handlers => confinedBody commands body ∧ confinedHandlers commands handlers

/-- The statements of a block are confined. -/
def confinedBody (commands : Prop) : List Stmt → Prop
  | [] => True
  | s :: ss => s.Confined commands ∧ confinedBody commands ss

/-- The handlers are confined. -/
def confinedHandlers (commands : Prop) : List Handler → Prop
  | [] => True
  | .mk _ name body :: hs =>
    (∀ n ∈ name, Bindable n) ∧ confinedBody commands body ∧ confinedHandlers commands hs

end

/-! ### Parsed and expanded programs -/

section Expressions

variable {commands : Prop}

mutual

/-- An expression whose names are words is confined, whether commands may be run or not. -/
theorem confined_of_spells : ∀ e : Expr, e.Spells IsWord → e.Confined commands
  | .name _, h => h.not_helper
  | .int _, _ | .bool _, _ | .none, _ | .str _, _ => trivial
  | .template parts, h => confinedParts_of_spells parts h
  | .tuple items, h | .list items, h => confinedAll_of_spells items h
  | .star e, h | .unary _ e, h => confined_of_spells e h
  | .attribute e _, h => confined_of_spells e h.1
  | .binary _ l r, h | .compare _ l r, h | .logical _ l r, h | .subscript l r, h =>
    ⟨confined_of_spells l h.1, confined_of_spells r h.2⟩
  | .call f args keywords, h =>
    ⟨.inr (confined_of_spells f h.1), confinedAll_of_spells args h.2.1,
      confinedKeywords_of_spells keywords h.2.2⟩

theorem confinedAll_of_spells : ∀ es : List Expr, spellsAll IsWord es → confinedAll commands es
  | [], _ => trivial
  | e :: es, h => ⟨confined_of_spells e h.1, confinedAll_of_spells es h.2⟩

theorem confinedKeywords_of_spells :
    ∀ ks : List Keyword, spellsKeywords IsWord ks → confinedKeywords commands ks
  | [], _ => trivial
  | .mk _ e :: ks, h => ⟨confined_of_spells e h.2.1, confinedKeywords_of_spells ks h.2.2⟩

theorem confinedParts_of_spells :
    ∀ ps : List Part, spellsParts IsWord ps → confinedParts commands ps
  | [], _ => trivial
  | .literal _ :: ps, h => confinedParts_of_spells ps h
  | .field e _ :: ps, h => ⟨confined_of_spells e h.1, confinedParts_of_spells ps h.2⟩

end

/-- A call of a helper is confined where commands may be run. -/
theorem confined_callOf (hcommands : commands) {name : String} {e : Expr}
    (h : e.Confined commands) : (Expr.callOf name [e]).Confined commands :=
  ⟨.inl ⟨hcommands, rfl⟩, ⟨h, trivial⟩, trivial⟩

mutual

/-- Expanding an expression whose names are words makes it no less confined. -/
theorem confined_expand (hcommands : commands) (site : Option Shell.Delivery) :
    ∀ e : Expr, e.Spells IsWord → (e.expand site).Confined commands
  | .unary op e, h => by
    have ih := confined_expand hcommands none e h
    cases op with
    | invert =>
      cases e with
      | str text =>
        cases site with
        | none => exact ih
        | some d => exact confined_callOf hcommands ih
      | template parts =>
        cases site with
        | none => exact ih
        | some d => exact confined_callOf hcommands (confinedParts_command hcommands parts h)
      | _ => exact ih
    | neg | not => exact ih
  -- a name of the program is a word, and no helper's name is one
  | .name _, h => h.not_helper
  | .int _, _ | .bool _, _ | .none, _ | .str _, _ => trivial
  | .template parts, h => confinedParts_expand hcommands parts h
  | .tuple items, h | .list items, h => confinedAll_expand hcommands none items h
  | .star e, h => confined_expand hcommands none e h
  | .attribute e _, h => confined_expand hcommands (some .single) e h.1
  | .binary _ l r, h | .compare _ l r, h | .logical _ l r, h | .subscript l r, h =>
    ⟨confined_expand hcommands none l h.1, confined_expand hcommands none r h.2⟩
  | .call f args keywords, h =>
    ⟨.inr (confined_expand hcommands none f h.1),
      confinedAll_expand hcommands (some .single) args h.2.1,
      confinedKeywords_expand hcommands keywords h.2.2⟩

theorem confinedAll_expand (hcommands : commands) (site : Option Shell.Delivery) :
    ∀ es : List Expr, spellsAll IsWord es → confinedAll commands (expandAll site es)
  | [], _ => trivial
  | e :: es, h =>
    ⟨confined_expand hcommands site e h.1, confinedAll_expand hcommands site es h.2⟩

theorem confinedKeywords_expand (hcommands : commands) :
    ∀ ks : List Keyword, spellsKeywords IsWord ks → confinedKeywords commands (expandKeywords ks)
  | [], _ => trivial
  | .mk _ e :: ks, h =>
    ⟨confined_expand hcommands (some .single) e h.2.1,
      confinedKeywords_expand hcommands ks h.2.2⟩

theorem confinedParts_expand (hcommands : commands) :
    ∀ ps : List Part, spellsParts IsWord ps → confinedParts commands (expandParts ps)
  | [], _ => trivial
  | .literal _ :: ps, h => confinedParts_expand hcommands ps h
  | .field e _ :: ps, h =>
    ⟨confined_expand hcommands none e h.1, confinedParts_expand hcommands ps h.2⟩

theorem confinedParts_command (hcommands : commands) :
    ∀ ps : List Part, spellsParts IsWord ps → confinedParts commands (commandParts ps)
  | [], _ => trivial
  | .literal _ :: ps, h => confinedParts_command hcommands ps h
  | .field e spec :: ps, h => by
    have he := confined_expand hcommands none e h.1
    have hps := confinedParts_command hcommands ps h.2
    rw [commandParts]
    by_cases hspec : spec = some rawSpec
    · rw [if_pos hspec]
      exact ⟨he, hps⟩
    · rw [if_neg hspec]
      exact ⟨confined_callOf hcommands ⟨he, trivial⟩, hps⟩

end

end Expressions

section Statements

variable {commands : Prop}

mutual

theorem bindable_of_spells : ∀ t : Target, t.Spells IsWord → t.Spells Bindable
  | .name _, h | .star _, h => h.not_helper
  | .sequence items, h => bindableAll_of_spells items h

theorem bindableAll_of_spells :
    ∀ ts : List Target, spellsTargets IsWord ts → spellsTargets Bindable ts
  | [], _ => trivial
  | t :: ts, h => ⟨bindable_of_spells t h.1, bindableAll_of_spells ts h.2⟩

end

mutual

/-- A statement whose names are words is confined, whether commands may be run or not. -/
theorem Stmt.confined_of_spells : ∀ s : Stmt, s.Spells IsWord → s.Confined commands
  | .evaluate _ e, h => Tilde.confined_of_spells e h
  | .assign _ target e, h => ⟨bindable_of_spells target h.1, Tilde.confined_of_spells e h.2⟩
  | .assert _ test _, h =>
    ⟨Tilde.confined_of_spells test h.1, fun e he => Tilde.confined_of_spells e (h.2 e he)⟩
  | .pass _, _ | .breakLoop _, _ | .continueLoop _, _ => trivial
  | .branch _ test body orelse, h =>
    ⟨Tilde.confined_of_spells test h.1, confinedBody_of_spells body h.2.1,
      confinedBody_of_spells orelse h.2.2⟩
  | .whileLoop _ test body, h =>
    ⟨Tilde.confined_of_spells test h.1, confinedBody_of_spells body h.2⟩
  | .forEach _ target items body, h =>
    ⟨bindable_of_spells target h.1, Tilde.confined_of_spells items h.2.1,
      confinedBody_of_spells body h.2.2⟩
  | .attempt _ body handlers, h =>
    ⟨confinedBody_of_spells body h.1, confinedHandlers_of_spells handlers h.2⟩

theorem confinedBody_of_spells :
    ∀ ss : List Stmt, spellsBody IsWord ss → confinedBody commands ss
  | [], _ => trivial
  | s :: ss, h => ⟨s.confined_of_spells h.1, confinedBody_of_spells ss h.2⟩

theorem confinedHandlers_of_spells :
    ∀ hs : List Handler, spellsHandlers IsWord hs → confinedHandlers commands hs
  | [], _ => trivial
  | .mk _ _ body :: hs, h =>
    ⟨fun n hn => (h.2.1 n hn).not_helper, confinedBody_of_spells body h.2.2.1,
      confinedHandlers_of_spells hs h.2.2.2⟩

end

mutual

theorem Stmt.confined_expand (hcommands : commands) :
    ∀ s : Stmt, s.Spells IsWord → s.expand.Confined commands
  | .evaluate _ e, h => Tilde.confined_expand hcommands _ e h
  | .assign _ target e, h =>
    ⟨bindable_of_spells target h.1, Tilde.confined_expand hcommands _ e h.2⟩
  | .assert _ test _, h => by
    refine ⟨Tilde.confined_expand hcommands none test h.1, fun e he => ?_⟩
    obtain ⟨e, hmem, rfl⟩ := Option.map_eq_some_iff.mp he
    exact Tilde.confined_expand hcommands none e (h.2 e hmem)
  | .pass _, _ | .breakLoop _, _ | .continueLoop _, _ => trivial
  | .branch _ test body orelse, h =>
    ⟨Tilde.confined_expand hcommands none test h.1, confinedBody_expand hcommands body h.2.1,
      confinedBody_expand hcommands orelse h.2.2⟩
  | .whileLoop _ test body, h =>
    ⟨Tilde.confined_expand hcommands none test h.1, confinedBody_expand hcommands body h.2⟩
  | .forEach _ target items body, h =>
    ⟨bindable_of_spells target h.1, Tilde.confined_expand hcommands none items h.2.1,
      confinedBody_expand hcommands body h.2.2⟩
  | .attempt _ body handlers, h =>
    ⟨confinedBody_expand hcommands body h.1, confinedHandlers_expand hcommands handlers h.2⟩

/-- **An expanded program calls the helpers and does nothing else with them.** -/
theorem confinedBody_expand (hcommands : commands) :
    ∀ ss : List Stmt, spellsBody IsWord ss → confinedBody commands (expandBody ss)
  | [], _ => trivial
  | s :: ss, h => ⟨s.confined_expand hcommands h.1, confinedBody_expand hcommands ss h.2⟩

theorem confinedHandlers_expand (hcommands : commands) :
    ∀ hs : List Handler, spellsHandlers IsWord hs →
      confinedHandlers commands (expandHandlers hs)
  | [], _ => trivial
  | .mk _ _ body :: hs, h =>
    ⟨fun n hn => (h.2.1 n hn).not_helper, confinedBody_expand hcommands body h.2.2.1,
      confinedHandlers_expand hcommands hs h.2.2.2⟩

end

end Statements

/-! ## Sealed namespaces -/

/-- Each helper's name is bound to its helper, and no other name to a value that holds a helper. -/
structure Namespace.Sealed (ns : Namespace) : Prop where
  helpers : ns.HasHelpers
  others : ∀ name v, ¬IsHelperName name → ns.get? name = some v → v.Clean

namespace Namespace.Sealed

variable {ns : Namespace}

/-- Setting a variable other than a helper to a clean value keeps the seal. -/
theorem set {n : String} {v : Value} (h : ns.Sealed) (hn : Bindable n) (hv : v.Clean) :
    (ns.set n v).Sealed := by
  refine ⟨h.helpers.set hn, fun name w hname hw => ?_⟩
  rw [get?_set] at hw
  split at hw
  · cases hw
    exact hv
  · exact h.others name w hname hw

/-- What a name that is no helper's stands for is clean. -/
theorem find (h : ns.Sealed) {n : String} (hn : ¬IsHelperName n) :
    Yields Value.Clean (ns.find n) := by
  unfold Namespace.find
  cases hget : ns.get? n with
  | none => exact .error
  | some v => exact .ok (h.others n v hn hget)

end Namespace.Sealed

theorem settable_sealed : Settable Namespace.Sealed Bindable Value.Clean where
  set h hn hv := h.set hn hv
  items hv h := clean_of_items hv h
  list h := clean_list h
  str _ := trivial

theorem lookup_mem {α β : Type} [BEq α] [LawfulBEq α] {a : α} {b : β} {xs : List (α × β)}
    (h : xs.lookup a = some b) : (a, b) ∈ xs := by
  induction xs with
  | nil => cases h
  | cons x xs ih =>
    obtain ⟨a', b'⟩ := x
    rw [List.lookup_cons] at h
    split at h
    · next heq =>
      cases h
      rw [eq_of_beq heq]
      exact List.mem_cons_self ..
    · exact List.mem_cons_of_mem _ (ih h)

theorem sealed_fresh : Namespace.fresh.Sealed := by
  refine ⟨Namespace.hasHelpers_fresh, fun name v hname hv => ?_⟩
  have hmem := lookup_mem hv
  rcases List.mem_append.mp hmem with hfun | hmain
  · obtain ⟨f, _, hf⟩ := List.mem_map.mp hfun
    cases hf
    -- a function bound to a name that is no helper's is none
    cases hhelper : f.isHelper with
    | false => exact hhelper
    | true => exact absurd ⟨f, hhelper, rfl⟩ hname
  · rw [List.mem_singleton] at hmain
    cases hmain
    trivial

theorem sealed_withArgs (args : List String) : (Namespace.withArgs args).Sealed :=
  sealed_fresh.set (IsWord.not_helper (by decide)) (clean_strings id args)

/-! ## Evaluating a confined expression -/

section Evaluation

variable {ns : Namespace} {host : Host ω} {J : ω → Prop} {commands : Prop}

/-- A call of a clean value gives a clean value; a helper may be called where commands may be run. -/
theorem holds_callWith (hhost : host.Keeps J commands) {v : Value}
    (hv : commands ∨ v.Clean) (args : Args) : (v.callWith host args).Holds J Value.Clean := by
  cases v with
  | builtin f =>
    refine holds_builtin hhost f args fun hf => ?_
    rcases hv with h | h
    · exact h
    · rw [show f.isHelper = false from h] at hf
      cases hf
  | method s m => exact .ofExcept (clean_method m s args)
  | _ => exact .stop

mutual

/-- **In a sealed namespace a confined expression gives a clean value.** Where no commands may be run,
none is started. -/
theorem holds_eval (hns : ns.Sealed) (hhost : host.Keeps J commands) :
    ∀ e : Expr, e.Confined commands → (e.eval host ns).Holds J Value.Clean
  | .name n, h => .ofExcept (hns.find h)
  | .int _, _ | .bool _, _ | .none, _ | .str _, _ => .pure trivial
  | .template parts, h => .bind (holds_evalParts hns hhost parts h) fun _ _ => .pure trivial
  | .tuple items, h | .list items, h =>
    .bind (holds_evalAll hns hhost items h) fun _ hvs => .pure hvs
  | .star _, _ => .stop
  | .unary op e, h =>
    .bind (holds_eval hns hhost e h) fun v _ => .ofExcept (clean_unary op v)
  | .binary op l r, h =>
    .bind (holds_eval hns hhost l h.1) fun _ ha =>
      .bind (holds_eval hns hhost r h.2) fun _ hb => .ofExcept (clean_binary op ha hb)
  | .compare op l r, h =>
    .bind (holds_eval hns hhost l h.1) fun _ _ =>
      .bind (holds_eval hns hhost r h.2) fun _ _ =>
        .bind (.ofExcept (Q := fun _ => True) fun _ _ => trivial) fun _ _ => .pure trivial
  | .logical op l r, h => by
    refine .bind (holds_eval hns hhost l h.1) fun a ha => ?_
    have hr := holds_eval hns hhost r h.2
    cases op with
    | and | or =>
      dsimp only
      split
      · exact .pure ha
      · exact hr
  | .call f args keywords, h => by
    -- a helper may stand only as the function of a call, and only where commands may be run
    have hf : (f.eval host ns).Holds J fun v => commands ∨ v.Clean := by
      rcases h.1 with ⟨hcommands, hname⟩ | hconfined
      · cases f with
        | name n => exact .ofExcept fun _ _ => .inl hcommands
        | _ => cases hname
      · intro o ho
        obtain ⟨hJ, hval⟩ := holds_eval hns hhost f hconfined o ho
        exact ⟨hJ, fun v hv => .inr (hval v hv)⟩
    exact .bind hf fun _ hv => .bind (holds_evalAll hns hhost args h.2.1) fun _ _ =>
      .bind (holds_evalKeywords hns hhost keywords h.2.2) fun _ _ => holds_callWith hhost hv _
  | .attribute e n, h =>
    .bind (holds_eval hns hhost e h) fun v _ => .ofExcept (clean_attribute v n)
  | .subscript e i, h =>
    .bind (holds_eval hns hhost e h.1) fun _ hv =>
      .bind (holds_eval hns hhost i h.2) fun index _ => .ofExcept (clean_itemAt index hv)

theorem holds_evalAll (hns : ns.Sealed) (hhost : host.Keeps J commands) :
    ∀ es : List Expr, confinedAll commands es → (evalAll host ns es).Holds J cleanAll
  | [], _ => .pure trivial
  | e :: es, h =>
    .bind (holds_eval hns hhost e h.1) fun _ hv =>
      .bind (holds_evalAll hns hhost es h.2) fun _ hvs => .pure ⟨hv, hvs⟩

theorem holds_evalKeywords (hns : ns.Sealed) (hhost : host.Keeps J commands) :
    ∀ ks : List Keyword, confinedKeywords commands ks →
      (evalKeywords host ns ks).Holds J fun _ => True
  | [], _ => .pure trivial
  | .mk _ e :: ks, h =>
    .bind (holds_eval hns hhost e h.1) fun _ _ =>
      .bind (holds_evalKeywords hns hhost ks h.2) fun _ _ => .pure trivial

theorem holds_evalParts (hns : ns.Sealed) (hhost : host.Keeps J commands) :
    ∀ ps : List Part, confinedParts commands ps →
      (evalParts host ns ps).Holds J fun _ => True
  | [], _ => .pure trivial
  | .literal _ :: ps, h =>
    .bind (holds_evalParts hns hhost ps h) fun _ _ => .pure trivial
  | .field e _ :: ps, h =>
    .bind (holds_eval hns hhost e h.1) fun _ _ =>
      .bind (.ofExcept (Q := fun _ => True) fun _ _ => trivial) fun _ _ =>
        .bind (holds_evalParts hns hhost ps h.2) fun _ _ => .pure trivial

end

end Evaluation

end Tilde
