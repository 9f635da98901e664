import Tilde.Expand
import Tilde.Proofs.Parser.Names

/-!
# An expansion can be undone

The names of the helpers start with a dollar sign, and no word of a text does. So a call of a runner
in an expanded program is a shell literal that was replaced, and a call of the quoter is a field
that was quoted: nobody wrote them. Turning each call back, from the inside out, gives the program
that was expanded.

In a command every field tells where it comes from. What the quoter was called on is the field as it
was, with its spec; any other field was spliced in as it is, so its spec was `raw`. Outside commands
fields keep their specs, and are not touched.
-/

namespace Tilde

open Shell (Delivery)

/-- Whether the name is one that no word of a text can be: it starts with a dollar sign. -/
def NoDollar (name : String) : Prop := name.toList.head? ≠ some '$'

instance (name : String) : Decidable (NoDollar name) := inferInstanceAs (Decidable (_ ≠ _))

/-- Whether the name is that of a helper that runs a command. -/
def isRunner (name : String) : Bool := [Delivery.stream, .single, .triple].any (·.runner = name)

/-- The field of a command from which a part of the expanded command comes: what the quoter is
called on, or a field that is spliced in as it is. -/
def Part.unquoted : Part → Part
  | .literal s => .literal s
  | .field (.call (.name n) [.template [.field e spec]] []) none =>
    if n = Shell.quoter then .field e spec
    else .field (.call (.name n) [.template [.field e spec]] []) (some rawSpec)
  | .field e _ => .field e (some rawSpec)

/-- The shell literal that a call of a runner comes from. -/
def Expr.uncalled : Expr → Expr
  | .call (.name n) [.str text] [] =>
    if isRunner n then .unary .invert (.str text) else .call (.name n) [.str text] []
  | .call (.name n) [.template parts] [] =>
    if isRunner n then .unary .invert (.template (parts.map Part.unquoted))
    else .call (.name n) [.template parts] []
  | e => e

mutual

/-- Turns the calls of runners in an expression back into shell literals, from the inside out. -/
def Expr.restore : Expr → Expr
  | .name n => .name n
  | .int v => .int v
  | .bool b => .bool b
  | .none => .none
  | .str s => .str s
  | .template parts => .template (restoreParts parts)
  | .tuple items => .tuple (restoreAll items)
  | .list items => .list (restoreAll items)
  | .star e => .star e.restore
  | .unary op e => .unary op e.restore
  | .binary op l r => .binary op l.restore r.restore
  | .compare op l r => .compare op l.restore r.restore
  | .logical op l r => .logical op l.restore r.restore
  | .call f args keywords =>
    (Expr.call f.restore (restoreAll args) (restoreKeywords keywords)).uncalled
  | .attribute e n => .attribute e.restore n
  | .subscript e i => .subscript e.restore i.restore

/-- Restores each expression of a list. -/
def restoreAll : List Expr → List Expr
  | [] => []
  | e :: es => e.restore :: restoreAll es

/-- Restores the values of arguments given by name. -/
def restoreKeywords : List Keyword → List Keyword
  | [] => []
  | .mk n e :: ks => .mk n e.restore :: restoreKeywords ks

/-- Restores inside the fields of an interpolated string. -/
def restoreParts : List Part → List Part
  | [] => []
  | .literal s :: ps => .literal s :: restoreParts ps
  | .field e spec :: ps => .field e.restore spec :: restoreParts ps

end

mutual

/-- Restores the shell literals of a statement. -/
def Stmt.restore : Stmt → Stmt
  | .evaluate line e => .evaluate line e.restore
  | .assign line target e => .assign line target e.restore
  | .assert line test message => .assert line test.restore (message.map Expr.restore)
  | .pass line => .pass line
  | .breakLoop line => .breakLoop line
  | .continueLoop line => .continueLoop line
  | .branch line test body orelse =>
    .branch line test.restore (restoreBody body) (restoreBody orelse)
  | .whileLoop line test body => .whileLoop line test.restore (restoreBody body)
  | .forEach line target items body => .forEach line target items.restore (restoreBody body)
  | .attempt line body handlers => .attempt line (restoreBody body) (restoreHandlers handlers)

/-- Restores the statements of a block. -/
def restoreBody : List Stmt → List Stmt
  | [] => []
  | s :: ss => s.restore :: restoreBody ss

/-- Restores the blocks of handlers. -/
def restoreHandlers : List Handler → List Handler
  | [] => []
  | .mk kind name body :: hs => .mk kind name (restoreBody body) :: restoreHandlers hs

end

/-- Restores the shell literals of a program. -/
def Program.restore (p : Program) : Program := { p with body := restoreBody p.body }

/-! ## One literal -/

theorem isRunner_runner (d : Delivery) : isRunner d.runner = true := by
  cases d <;> decide

theorem NoDollar.not_runner {name : String} (h : NoDollar name) : isRunner name = false := by
  rw [isRunner, List.any_eq_false]
  intro d _ heq
  obtain rfl := of_decide_eq_true heq
  exact h (by cases d <;> rfl)

theorem NoDollar.ne_quoter {name : String} (h : NoDollar name) : name ≠ Shell.quoter := by
  rintro rfl
  exact h rfl

/-- A call of anything but a runner stays. -/
theorem uncalled_of_not_runner {f : Expr} (args : List Expr) (keywords : List Keyword)
    (h : ∀ n, f = .name n → isRunner n = false) :
    (Expr.call f args keywords).uncalled = .call f args keywords := by
  unfold Expr.uncalled
  split
  · next heq =>
    obtain ⟨hf, rfl, rfl⟩ := Expr.call.inj heq
    rw [h _ hf, hf]
    rfl
  · next heq =>
    obtain ⟨hf, rfl, rfl⟩ := Expr.call.inj heq
    rw [h _ hf, hf]
    rfl
  · rfl

/-- A field that spells no helper was spliced in as it is. -/
theorem unquoted_of_spells {e : Expr} (h : e.Spells NoDollar) :
    (Part.field e none).unquoted = .field e (some rawSpec) := by
  unfold Part.unquoted
  split
  · next heq => cases heq
  · next heq =>
    obtain ⟨rfl, -⟩ := Part.field.inj heq
    rw [if_neg (NoDollar.ne_quoter h.1)]
  · next heq =>
    obtain ⟨rfl, -⟩ := Part.field.inj heq
    rfl

/-- What the quoter is called on is the field. -/
theorem unquoted_quoter (e : Expr) (spec : Option String) :
    (Part.field (.callOf Shell.quoter [.template [.field e spec]]) none).unquoted =
      .field e spec := rfl

/-! ## Every form -/

mutual

/-- **Restoring an expanded expression gives the expression.** -/
theorem restore_expand (site : Option Delivery) :
    ∀ e : Expr, e.Spells NoDollar → (e.expand site).restore = e
  | .name _, _ | .int _, _ | .bool _, _ | .none, _ | .str _, _ => rfl
  | .unary op e, h => by
    have ih := restore_expand none e h
    cases op with
    | neg | not => exact congrArg (Expr.unary _) ih
    | invert =>
      cases e with
      | str text =>
        cases site with
        | none => rfl
        | some d => cases d <;> rfl
      | template parts =>
        cases site with
        | none => exact congrArg (Expr.unary _) ih
        | some d =>
          have hparts := restoreParts_command parts h
          rw [Expr.expand, Expr.callOf, Expr.restore, restoreAll, restoreAll, Expr.restore,
            Expr.restore, restoreKeywords, Expr.uncalled, if_pos (isRunner_runner d), hparts]
      | _ => exact congrArg (Expr.unary _) ih
  | .template parts, h => by
    rw [Expr.expand, Expr.restore, restoreParts_expand parts h]
  | .tuple items, h | .list items, h => by
    rw [Expr.expand, Expr.restore, restoreAll_expand none items h]
  | .star e, h => by
    rw [Expr.expand, Expr.restore, restore_expand none e h]
  | .binary op l r, h | .compare op l r, h | .logical op l r, h | .subscript l r, h => by
    rw [Expr.expand, Expr.restore, restore_expand none l h.1, restore_expand none r h.2]
  | .attribute e n, h => by
    rw [Expr.expand, Expr.restore, restore_expand (some .single) e h.1]
  | .call f args keywords, h => by
    obtain ⟨hf, hargs, hkeywords⟩ := h
    rw [Expr.expand, Expr.restore, restore_expand none f hf,
      restoreAll_expand (some .single) args hargs, restoreKeywords_expand keywords hkeywords]
    -- a call that was there before is none of a runner
    refine uncalled_of_not_runner args keywords fun n hn => ?_
    subst hn
    exact NoDollar.not_runner hf

theorem restoreAll_expand (site : Option Delivery) :
    ∀ es : List Expr, spellsAll NoDollar es → restoreAll (expandAll site es) = es
  | [], _ => rfl
  | e :: es, h => by
    rw [expandAll, restoreAll, restore_expand site e h.1, restoreAll_expand site es h.2]

theorem restoreKeywords_expand :
    ∀ ks : List Keyword, spellsKeywords NoDollar ks → restoreKeywords (expandKeywords ks) = ks
  | [], _ => rfl
  | .mk n e :: ks, h => by
    rw [expandKeywords, restoreKeywords, restore_expand (some .single) e h.2.1,
      restoreKeywords_expand ks h.2.2]

theorem restoreParts_expand :
    ∀ ps : List Part, spellsParts NoDollar ps → restoreParts (expandParts ps) = ps
  | [], _ => rfl
  | .literal s :: ps, h => by
    rw [expandParts, restoreParts, restoreParts_expand ps h]
  | .field e spec :: ps, h => by
    rw [expandParts, restoreParts, restore_expand none e h.1, restoreParts_expand ps h.2]

theorem restoreParts_command :
    ∀ ps : List Part, spellsParts NoDollar ps →
      (restoreParts (commandParts ps)).map Part.unquoted = ps
  | [], _ => rfl
  | .literal s :: ps, h => by
    rw [commandParts, restoreParts, List.map_cons, restoreParts_command ps h]
    rfl
  | .field e spec :: ps, h => by
    have he := restore_expand none e h.1
    have hps := restoreParts_command ps h.2
    rw [commandParts]
    by_cases hraw : spec = some rawSpec
    · rw [hraw, if_pos rfl, restoreParts, he, List.map_cons, hps, unquoted_of_spells h.1]
    · have hcall : (Expr.callOf Shell.quoter [.template [.field (e.expand none) spec]]).restore =
          .callOf Shell.quoter [.template [.field e spec]] := by
        rw [Expr.callOf, Expr.restore, restoreAll, restoreAll, Expr.restore, Expr.restore,
          restoreKeywords, restoreParts, restoreParts, he]
        rfl
      rw [if_neg hraw, restoreParts, hcall, List.map_cons, hps, unquoted_quoter]

end

mutual

theorem Stmt.restore_expand : ∀ s : Stmt, s.Spells NoDollar → s.expand.restore = s
  | .evaluate line e, h => by
    rw [Stmt.expand, Stmt.restore, Tilde.restore_expand _ e h]
  | .assign line target e, h => by
    rw [Stmt.expand, Stmt.restore, Tilde.restore_expand _ e h.2]
  | .assert line test none, h => by
    rw [Stmt.expand, Stmt.restore, Tilde.restore_expand none test h.1]
    rfl
  | .assert line test (some message), h => by
    rw [Stmt.expand, Stmt.restore, Tilde.restore_expand none test h.1, Option.map_some,
      Option.map_some, Tilde.restore_expand none message (h.2 message rfl)]
  | .pass _, _ | .breakLoop _, _ | .continueLoop _, _ => rfl
  | .branch line test body orelse, h => by
    rw [Stmt.expand, Stmt.restore, Tilde.restore_expand none test h.1,
      restoreBody_expand body h.2.1, restoreBody_expand orelse h.2.2]
  | .whileLoop line test body, h => by
    rw [Stmt.expand, Stmt.restore, Tilde.restore_expand none test h.1, restoreBody_expand body h.2]
  | .forEach line target items body, h => by
    rw [Stmt.expand, Stmt.restore, Tilde.restore_expand none items h.2.1,
      restoreBody_expand body h.2.2]
  | .attempt line body handlers, h => by
    rw [Stmt.expand, Stmt.restore, restoreBody_expand body h.1, restoreHandlers_expand handlers h.2]

theorem restoreBody_expand :
    ∀ ss : List Stmt, spellsBody NoDollar ss → restoreBody (expandBody ss) = ss
  | [], _ => rfl
  | s :: ss, h => by
    rw [expandBody, restoreBody, s.restore_expand h.1, restoreBody_expand ss h.2]

theorem restoreHandlers_expand :
    ∀ hs : List Handler, spellsHandlers NoDollar hs → restoreHandlers (expandHandlers hs) = hs
  | [], _ => rfl
  | .mk kind name body :: hs, h => by
    rw [expandHandlers, restoreHandlers, restoreBody_expand body h.2.2.1,
      restoreHandlers_expand hs h.2.2.2]

end

/-! ## Programs -/

/-- No name of a parsed program starts with a dollar sign. -/
theorem parse_noDollar {source : String} {mode : Mode} {p : Program}
    (h : parse source mode = .ok p) : spellsBody NoDollar p.body := by
  refine parse_names (fun source ts hts t ht w hw => ?_) h
  have hword := tokenize_sound hts t ht
  rw [hw] at hword
  intro hhead
  exact IsWord.no_dollar hword (List.mem_of_head? hhead)

namespace Program

theorem restore_expand {p : Program} (h : spellsBody NoDollar p.body) : p.expand.restore = p := by
  rw [expand, restore, restoreBody_expand p.body h]

/--
**Expansion loses nothing.**

From an expanded program whose names were words the program itself comes back: each call of a runner
becomes the shell literal again, each field that the quoter was called on gets its spec back, each
other field of a command the spec `raw`, and all else is as it was. The names of a parsed program
are words, so no two parsed programs are expanded alike.
-/
theorem expand_loses_nothing :
    (∀ p : Program, spellsBody NoDollar p.body → p.expand.restore = p)
    ∧ (∀ source mode p, parse source mode = .ok p → spellsBody NoDollar p.body)
    ∧ ∀ source mode p other otherMode q, parse source mode = .ok p →
        parse other otherMode = .ok q → p.expand = q.expand → p = q := by
  refine ⟨fun p => restore_expand, fun source mode p => parse_noDollar, ?_⟩
  intro source mode p other otherMode q hp hq heq
  rw [← restore_expand (parse_noDollar hp), heq, restore_expand (parse_noDollar hq)]

/-- The theorem at a command with a raw field and a quoted one that holds a literal. -/
theorem expand_loses_nothing_of_fields :
    let source := "x = ~f'\x7ba:raw\x7d\x7b~\"b\":>3\x7d'"
    ∃ p, parse source .file = .ok p ∧ spellsBody NoDollar p.body ∧ p.expand.restore = p
      ∧ ∀ q, parse source .file = .ok q → p.expand = q.expand ∧ p = q := by
  intro source
  have hok : (parse source .file).isOk = true := by
    dsimp only [source]
    decide +kernel
  obtain ⟨hrestore, hnames, hinjective⟩ := expand_loses_nothing
  cases hp : parse source .file with
  | error e =>
    rw [hp] at hok
    cases hok
  | ok p =>
    have hspells := hnames _ _ p hp
    refine ⟨p, rfl, hspells, hrestore p hspells, fun q hq => ?_⟩
    have hexpand : p.expand = q.expand := by
      cases hq
      rfl
    exact ⟨hexpand, hinjective _ _ p _ _ q hp (hp.trans hq) hexpand⟩

end Program

end Tilde
