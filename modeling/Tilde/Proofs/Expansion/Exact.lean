import Mathlib.Data.List.Perm.Basic
import Tilde.Proofs.Expansion.Identity
import Tilde.Proofs.Expansion.Nodes

/-!
# What an expansion replaces

The records of an expansion and the nodes that they belong to, and the tree that it leaves.

## Who wrote which record

The log of an expansion is written in the order of the pass: a call has the literals among its
arguments replaced before anything inside them. Order aside, each record belongs to a node of the
tree, the literal that is replaced there, which adds a warning for each of its fields that stands in
single quotes and then the record of its own replacement.
-/

namespace Tilde

open Shell (Delivery)

namespace Node

/-- What the log says of a shell literal that is to be replaced: its line and its delivery. -/
def record? : Node → Option LogRecord
  | expr line site e => (expr line site e).delivery?.map (.runsAs line)
  | _ => none

theorem isSome_record? (n : Node) : n.record?.isSome = n.delivery?.isSome := by
  cases n with
  | program _ | stmt _ => rfl
  | expr line site e => rw [record?, Option.isSome_map]

/-- The records of a tree. -/
def notes : Node → List LogRecord
  | program body => bodyNotes body
  | stmt s => s.notes
  | expr line (some d) e => e.siteNotes line d ++ e.notes line
  | expr line none e => e.notes line

/-- The records of a node itself: those of a literal that is replaced. -/
def ownNotes : Node → List LogRecord
  | expr line (some d) e => e.siteNotes line d
  | _ => []

end Node

theorem allNotes_eq (line : Nat) (es : List Expr) :
    allNotes line es = es.flatMap (Expr.notes line) := by
  induction es with
  | nil => rfl
  | cons e es ih => rw [allNotes, ih, List.flatMap_cons]

theorem keywordNotes_eq (line : Nat) (ks : List Keyword) :
    keywordNotes line ks = (ks.map Keyword.value).flatMap (Expr.notes line) := by
  induction ks with
  | nil => rfl
  | cons k ks ih =>
    cases k
    rw [keywordNotes, ih, List.map_cons, List.flatMap_cons, Keyword.value]

theorem partNotes_eq (line : Nat) (ps : List Part) :
    partNotes line ps = (fieldsOf ps).flatMap fun f => f.1.notes line := by
  induction ps with
  | nil => rfl
  | cons p ps ih =>
    cases p with
    | literal s => exact ih
    | field e spec => rw [partNotes, ih, fieldsOf, List.flatMap_cons]

theorem bodyNotes_eq (ss : List Stmt) : bodyNotes ss = ss.flatMap Stmt.notes := by
  induction ss with
  | nil => rfl
  | cons s ss ih => rw [bodyNotes, ih, List.flatMap_cons]

theorem handlerNotes_eq (hs : List Handler) :
    handlerNotes hs = (hs.flatMap Handler.block).flatMap Stmt.notes := by
  induction hs with
  | nil => rfl
  | cons h hs ih =>
    cases h
    rw [handlerNotes, ih, bodyNotes_eq, List.flatMap_cons, List.flatMap_append, Handler.block]

namespace Node

/-- The records of an expression are those of its parts. In a call those of the literals directly
below come first. -/
theorem notes_exprParts (line : Nat) (e : Expr) :
    (e.notes line).Perm ((exprParts line e).flatMap notes) := by
  have hfields (ps : List Part) : partNotes line ps =
      ((fieldsOf ps).map fun f => expr line none f.1).flatMap notes := by
    rw [partNotes_eq, List.flatMap_map]
    rfl
  cases e with
  | name _ | int _ | bool _ | none | str _ => exact .nil
  | unary op e =>
    have hone : (e.notes line).Perm ([expr line none e].flatMap notes) := by
      rw [List.flatMap_singleton, notes]
    cases op with
    | neg | not => exact hone
    | invert =>
      cases e with
      | str _ => exact .nil
      | template ps => exact .of_eq (hfields ps)
      | _ => exact hone
  | template ps => exact .of_eq (hfields ps)
  | tuple items | list items =>
    rw [Expr.notes, exprParts, allNotes_eq, List.flatMap_map]
    rfl
  | call f args keywords =>
    -- the arguments are gone through twice: for the literals among them, and then for what is inside
    have hsplit := (args ++ keywords.map Keyword.value).flatMap_append_perm
      (Expr.siteNotes line .single) (Expr.notes line)
    have hnotes : (Expr.call f args keywords).notes line =
        (args ++ keywords.map Keyword.value).flatMap (Expr.siteNotes line .single) ++
          f.notes line ++ (args ++ keywords.map Keyword.value).flatMap (Expr.notes line) := by
      simp only [Expr.notes, allNotes_eq, keywordNotes_eq, List.flatMap_append, List.flatMap_map,
        List.append_assoc]
    rw [hnotes, exprParts, List.flatMap_cons, List.flatMap_map]
    refine (List.perm_append_comm.append_right _).trans ?_
    rw [List.append_assoc]
    exact hsplit.append_left _
  | star _ | binary _ _ _ | compare _ _ _ | logical _ _ _ | «attribute» _ _ | subscript _ _ =>
    simp [Expr.notes, exprParts, notes]

theorem notes_stmtParts (s : Stmt) : s.notes = (stmtParts s).flatMap notes := by
  have hbody (ss : List Stmt) : bodyNotes ss = (ss.map stmt).flatMap notes := by
    rw [bodyNotes_eq, List.flatMap_map]
    rfl
  cases s with
  | evaluate line e | assign line target e => exact (List.append_nil _).symm
  | assert line test message => cases message <;> simp [Stmt.notes, stmtParts, notes]
  | pass _ | breakLoop _ | continueLoop _ => rfl
  | branch line test body orelse =>
    rw [Stmt.notes, stmtParts, hbody, hbody, List.flatMap_cons, List.map_append,
      List.flatMap_append, notes, List.append_assoc]
  | whileLoop line test body | forEach line target test body =>
    rw [Stmt.notes, stmtParts, hbody, List.flatMap_cons, notes]
  | attempt line body handlers =>
    rw [Stmt.notes, stmtParts, handlerNotes_eq, ← bodyNotes_eq, hbody, hbody, List.map_append,
      List.flatMap_append]

/-- The records of a tree are those of its root and those of the trees below. -/
theorem notes_parts (n : Node) : n.notes.Perm (n.ownNotes ++ n.parts.flatMap notes) := by
  cases n with
  | program body =>
    rw [notes, bodyNotes_eq, parts, List.flatMap_map]
    exact .refl _
  | stmt s => exact .of_eq (notes_stmtParts s)
  | expr line site e =>
    cases site with
    | none => exact notes_exprParts line e
    | some d => exact (notes_exprParts line e).append_left _

/-- **The records of a tree are those of its nodes.** -/
theorem notes_perm (n : Node) : n.notes.Perm (n.nodes.flatMap fun x => x.2.ownNotes) := by
  induction n using induct with
  | step n ih =>
    rw [nodes_eq, List.flatMap_cons, flatMap_nodesIn]
    exact n.notes_parts.trans ((List.Perm.flatMap_left _ ih).append_left _)

/-! #### The records of one literal -/

theorem quotedTwice_of_mem_fieldNotes {line : Nat} {seen : Shell.Span} {ps : List Part}
    {r : LogRecord} (h : r ∈ fieldNotes line seen ps) : r = .quotedTwice line := by
  induction ps generalizing seen with
  | nil => cases h
  | cons p ps ih =>
    cases p with
    | literal s => exact ih h
    | field e spec =>
      rw [fieldNotes] at h
      split at h
      · rcases List.mem_cons.mp h with h | h
        · exact h
        · exact ih h
      · exact ih h

theorem siteNotes_of_literal (line : Nat) (d : Delivery) {e : Expr} (h : e.isLiteral = true) :
    ∃ warnings, (∀ r ∈ warnings, r = LogRecord.quotedTwice line)
      ∧ e.siteNotes line d = warnings ++ [.runsAs line d] := by
  obtain ⟨s, rfl⟩ | ⟨ps, rfl⟩ := Expr.eq_of_isLiteral h
  · exact ⟨[], nofun, rfl⟩
  · exact ⟨_, fun r hr => quotedTwice_of_mem_fieldNotes hr, rfl⟩

theorem siteNotes_of_not_literal (line : Nat) (d : Delivery) {e : Expr}
    (h : e.isLiteral = false) : e.siteNotes line d = [] := by
  cases e with
  | unary op e =>
    cases op with
    | neg | not => rfl
    | invert =>
      cases e with
      | str _ | template _ => cases h
      | _ => rfl
  | _ => rfl

theorem ownNotes_of_kept {n : Node} (h : n.delivery? = none) : n.ownNotes = [] := by
  cases n with
  | program _ | stmt _ => rfl
  | expr line site e =>
    cases site with
    | none => rfl
    | some d =>
      refine siteNotes_of_not_literal line d ?_
      cases hliteral : e.isLiteral with
      | false => rfl
      | true => simp [delivery?, hliteral] at h

/-- Of the records of a literal one tells of its expansion, and the others are warnings. -/
theorem filter_ownNotes {q : LogRecord → Bool} (hruns : ∀ line d, q (.runsAs line d) = true)
    (hquoted : ∀ line, q (.quotedTwice line) = false) (n : Node) :
    n.ownNotes.filter q = n.record?.toList := by
  cases hd : n.delivery? with
  | none =>
    have hrecord : n.record? = none := by
      rw [← Option.isNone_iff_eq_none, ← Option.not_isSome, isSome_record?, hd]
      rfl
    rw [ownNotes_of_kept hd, hrecord]
    rfl
  | some d =>
    obtain ⟨line, e, rfl, hliteral⟩ := delivery?_eq_some hd
    obtain ⟨warnings, hwarn, hnotes⟩ := siteNotes_of_literal line d hliteral
    have hnone : warnings.filter q = [] := by
      refine List.filter_eq_nil_iff.mpr fun r hr => ?_
      rw [hwarn r hr, hquoted]
      exact Bool.false_ne_true
    rw [ownNotes, hnotes, List.filter_append, hnone, List.filter_cons_of_pos (hruns line d),
      record?, hd]
    rfl

/-- The records that tell of expansions: one for each literal that is replaced. -/
theorem filter_notes_perm {q : LogRecord → Bool} (hruns : ∀ line d, q (.runsAs line d) = true)
    (hquoted : ∀ line, q (.quotedTwice line) = false) (n : Node) :
    (n.notes.filter q).Perm (n.nodes.filterMap fun x => x.2.record?) := by
  have hperm := n.notes_perm.filter q
  rw [List.filter_flatMap] at hperm
  rw [List.filterMap_eq_flatMap_toList]
  refine hperm.trans (.of_eq (List.flatMap_congr fun x _ => ?_))
  exact filter_ownNotes hruns hquoted x.2

end Node

end Tilde

/-!
## Expansion is exact

An expansion replaces the shell literals whose places deliver output, at every depth, and nothing
else. A node that is not replaced keeps its parts, each of them expanded. A literal that is replaced
gives way to a call, whose parts are new; below it stand the fields of the literal, expanded, the
quoted ones within a call of the quoter. Neither call has a literal among its arguments, and no part
comes to stand in a place that delivers output if it did not stand in one before. So the literals of
an expanded tree are those that were not to be replaced, each at the address where the expansion
takes it (`Node.moved`), and a second expansion finds nothing to do.

For the same reason it makes no difference whether a pass expands the fields of a literal and then
builds the call, or builds the call and then goes on into it (`expand_replaced`, `notes_replaced`).
-/

namespace Tilde

open Shell (Delivery)

/-! ### The lists of an expanded program -/

theorem expandAll_eq_map (site : Option Delivery) (es : List Expr) :
    expandAll site es = es.map (Expr.expand site) := by
  induction es with
  | nil => rfl
  | cons e es ih => rw [expandAll, ih, List.map_cons]

theorem values_expandKeywords (ks : List Keyword) :
    (expandKeywords ks).map Keyword.value =
      (ks.map Keyword.value).map (Expr.expand (some .single)) := by
  induction ks with
  | nil => rfl
  | cons k ks ih =>
    cases k with
    | mk n e => simp only [expandKeywords, List.map_cons, ih, Keyword.value]

theorem fieldsOf_expandParts (ps : List Part) :
    fieldsOf (expandParts ps) = (fieldsOf ps).map fun f => (f.1.expand none, f.2) := by
  induction ps with
  | nil => rfl
  | cons p ps ih =>
    cases p with
    | literal s => exact ih
    | field e spec => rw [expandParts, fieldsOf, fieldsOf, ih, List.map_cons]

/-- What an expanded command has in the place of a field. -/
def fieldCall (f : Expr × Option String) : Expr :=
  if f.2 = some rawSpec then f.1.expand none
  else .callOf Shell.quoter [.template [.field (f.1.expand none) f.2]]

theorem fieldsOf_commandParts (ps : List Part) :
    fieldsOf (commandParts ps) = (fieldsOf ps).map fun f => (fieldCall f, none) := by
  induction ps with
  | nil => rfl
  | cons p ps ih =>
    cases p with
    | literal s => exact ih
    | field e spec =>
      rw [commandParts, fieldsOf, List.map_cons, ← ih, fieldCall]
      by_cases hraw : spec = some rawSpec
      · simp only [if_pos hraw, fieldsOf]
      · simp only [if_neg hraw, fieldsOf]

theorem expandBody_eq_map (ss : List Stmt) : expandBody ss = ss.map Stmt.expand := by
  induction ss with
  | nil => rfl
  | cons s ss ih => rw [expandBody, ih, List.map_cons]

theorem blocks_expandHandlers (hs : List Handler) :
    (expandHandlers hs).flatMap Handler.block = (hs.flatMap Handler.block).map Stmt.expand := by
  induction hs with
  | nil => rfl
  | cons h hs ih =>
    cases h with
    | mk kind name body =>
      simp only [expandHandlers, List.flatMap_cons, List.map_append, ih, Handler.block,
        expandBody_eq_map]

/-- In a place that delivers no output a tilde stays. -/
theorem expand_unary (op : UnaryOp) (e : Expr) :
    (Expr.unary op e).expand none = .unary op (e.expand none) := by
  cases op with
  | neg | not => rfl
  | invert => cases e <;> rfl

/-- Only a shell literal asks how its place delivers output. -/
theorem expand_of_not_literal {e : Expr} (h : e.isLiteral = false) (site : Option Delivery) :
    e.expand site = e.expand none := by
  cases e with
  | unary op e =>
    cases op with
    | neg | not => rfl
    | invert =>
      cases e with
      | str _ | template _ => cases h
      | _ => rfl
  | _ => rfl

theorem isLiteral_expand (e : Expr) : (e.expand none).isLiteral = e.isLiteral := by
  cases e with
  | unary op e =>
    rw [expand_unary]
    cases op with
    | neg | not => rfl
    | invert =>
      cases e with
      | unary op e => rw [expand_unary]; rfl
      | _ => rfl
  | _ => rfl

/-! #### A literal at a time -/

/-- A part of a command, a field in a call of the quoter unless it is raw. -/
def Part.quoted : Part → Part
  | .literal s => .literal s
  | .field e spec =>
    if spec = some rawSpec then .field e none
    else .field (.callOf Shell.quoter [.template [.field e spec]]) none

/-- A shell literal replaced by the call that runs it, with nothing done inside its fields. -/
def Expr.replaced (d : Delivery) : Expr → Expr
  | .unary .invert (.str text) => .callOf d.runner [.str text]
  | .unary .invert (.template parts) => .callOf d.runner [.template (parts.map Part.quoted)]
  | e => e

theorem expandParts_quoted (ps : List Part) :
    expandParts (ps.map Part.quoted) = commandParts ps := by
  induction ps with
  | nil => rfl
  | cons p ps ih =>
    cases p with
    | literal s => rw [List.map_cons, Part.quoted, expandParts, commandParts, ih]
    | field e spec =>
      rw [List.map_cons, Part.quoted, commandParts]
      by_cases hraw : spec = some rawSpec
      · rw [if_pos hraw, if_pos hraw, expandParts, ih]
      · rw [if_neg hraw, if_neg hraw, expandParts, ih]
        rfl

theorem partNotes_quoted (line : Nat) (ps : List Part) :
    partNotes line (ps.map Part.quoted) = partNotes line ps := by
  induction ps with
  | nil => rfl
  | cons p ps ih =>
    cases p with
    | literal s => exact ih
    | field e spec =>
      have hquoter : (Expr.callOf Shell.quoter [.template [.field e spec]]).notes line =
          e.notes line := by
        simp [Expr.callOf, Expr.notes, Expr.siteNotes, allNotes, keywordNotes, partNotes]
      rw [List.map_cons, Part.quoted, partNotes]
      by_cases hraw : spec = some rawSpec
      · rw [if_pos hraw, partNotes, ih]
      · rw [if_neg hraw, partNotes, hquoter, ih]

/-- A pass that replaces a literal and then goes on into the call it has built arrives at the
expansion: there is nothing to replace in the call but what was in the fields. -/
theorem expand_replaced (d : Delivery) (e : Expr) :
    (e.replaced d).expand none = e.expand (some d) := by
  cases hliteral : e.isLiteral with
  | false =>
    have hsame : e.replaced d = e := by
      unfold Expr.replaced
      split
      · cases hliteral
      · cases hliteral
      · rfl
    rw [hsame, expand_of_not_literal hliteral (some d)]
  | true =>
    obtain ⟨s, rfl⟩ | ⟨ps, rfl⟩ := Expr.eq_of_isLiteral hliteral
    · rfl
    · have hparts := expandParts_quoted ps
      simp only [Expr.replaced, Expr.callOf, Expr.expand, expandAll, expandKeywords, hparts]

/-- Such a pass writes in the new call what it would write in the literal. -/
theorem notes_replaced (line : Nat) (d : Delivery) (e : Expr) :
    (e.replaced d).notes line = e.notes line := by
  unfold Expr.replaced
  split
  · rfl
  · next parts =>
    have hparts := partNotes_quoted line parts
    simp [Expr.callOf, Expr.notes, Expr.siteNotes, allNotes, keywordNotes, hparts]
  · rfl

namespace Node

/-- A node with the shell literals in it expanded. -/
def expand : Node → Node
  | program body => program (expandBody body)
  | stmt s => stmt s.expand
  | expr line site e => expr line site (e.expand site)

variable {line : Nat} {site : Option Delivery} {n m : Node}

theorem exprParts_expand (line : Nat) (e : Expr) :
    exprParts line (e.expand none) = (exprParts line e).map expand := by
  cases e with
  | unary op e =>
    rw [expand_unary]
    cases op with
    | neg | not => rfl
    | invert =>
      cases e with
      | template ps =>
        rw [Expr.expand, exprParts, exprParts, fieldsOf_expandParts, List.map_map, List.map_map]
        rfl
      | unary op e => simp only [exprParts, List.map_cons, List.map_nil, expand, expand_unary]
      | _ => rfl
  | template ps =>
    rw [Expr.expand, exprParts, exprParts, fieldsOf_expandParts, List.map_map, List.map_map]
    rfl
  | tuple items | list items =>
    rw [Expr.expand, exprParts, exprParts, expandAll_eq_map, List.map_map, List.map_map]
    rfl
  | call f args keywords =>
    rw [Expr.expand, exprParts, exprParts, expandAll_eq_map, values_expandKeywords,
      ← List.map_append, List.map_map, List.map_cons, List.map_map]
    rfl
  | _ => rfl

theorem stmtParts_expand (s : Stmt) : stmtParts s.expand = (stmtParts s).map expand := by
  cases s with
  | assert line test message => cases message <;> rfl
  | branch line test body orelse =>
    rw [Stmt.expand, stmtParts, stmtParts, expandBody_eq_map, expandBody_eq_map, ← List.map_append,
      List.map_cons, List.map_map, List.map_map]
    rfl
  | whileLoop line test body | forEach line target items body =>
    rw [Stmt.expand, stmtParts, stmtParts, expandBody_eq_map, List.map_cons, List.map_map,
      List.map_map]
    rfl
  | attempt line body handlers =>
    rw [Stmt.expand, stmtParts, stmtParts, expandBody_eq_map, blocks_expandHandlers,
      ← List.map_append, List.map_map, List.map_map]
    rfl
  | _ => rfl

/-- Where no literal is expanded, an expression is expanded as in any other place. -/
theorem expand_of_kept {e : Expr} (h : (expr line site e).delivery? = none) :
    (expr line site e).expand = expr line site (e.expand none) := by
  rw [expand]
  cases hlit : e.isLiteral with
  | false => rw [expand_of_not_literal hlit]
  | true =>
    obtain rfl : site = none := by simpa [delivery?, hlit] using h
    rfl

/-- A node that is not replaced itself has the expanded parts. -/
theorem parts_expand (h : n.delivery? = none) : n.expand.parts = n.parts.map expand := by
  cases n with
  | program body =>
    rw [expand, parts, parts, expandBody_eq_map, List.map_map, List.map_map]
    rfl
  | stmt s => exact stmtParts_expand s
  | expr line site e =>
    rw [expand_of_kept h]
    exact exprParts_expand line e

/-- A node that is not replaced itself is a literal afterwards if it was one, and is not replaced
the next time either. -/
theorem kept_expand (h : n.delivery? = none) :
    n.expand.isLiteral = n.isLiteral ∧ n.expand.delivery? = none := by
  cases n with
  | program _ | stmt _ => exact ⟨rfl, rfl⟩
  | expr line site e =>
    rw [expand_of_kept h]
    have hlit := isLiteral_expand e
    exact ⟨hlit, by simpa only [delivery?, hlit] using h⟩

/-! ### Where nodes go -/

/-- The way from an expanded command to its field number `k`: through the argument of the call, and
for a quoted field on through the argument of the quoter and the one field there. -/
def fieldAddress (k : Nat) (spec : Option String) : Address :=
  if spec = some rawSpec then [1, k] else [1, k, 1, 0]

/-- The way to the part number `k` of a node after an expansion. It is a new one for the fields of a
command alone. -/
def stepTo (n : Node) (k : Nat) : Address :=
  match n with
  | expr _ (some _) (.unary .invert (.template ps)) =>
    match (fieldsOf ps)[k]? with
    | some f => fieldAddress k f.2
    | none => [k]
  | _ => [k]

/-- The address after an expansion of what was at an address before. -/
def moved (n : Node) : Address → Address
  | [] => []
  | k :: place =>
    n.stepTo k ++
      match n.parts[k]? with
      | some m => m.moved place
      | none => place

/-- Only the parts of a node that is replaced get another address. -/
theorem stepTo_of_kept (h : n.delivery? = none) (k : Nat) : n.stepTo k = [k] := by
  unfold stepTo
  split
  · cases h
  · rfl

/-- What has no replaced literal above it stays where it is. -/
theorem moved_of_kept {place : Address}
    (h : ∀ front rest above, place = front ++ rest → rest ≠ [] → n.at? front = some above →
      above.delivery? = none) : n.moved place = place := by
  induction place generalizing n with
  | nil => rfl
  | cons k place ih =>
    have hroot : n.delivery? = none :=
      h [] (k :: place) n rfl (List.cons_ne_nil k place) rfl
    rw [moved, stepTo_of_kept hroot, List.singleton_append]
    congr 1
    cases hk : n.parts[k]? with
    | none => rfl
    | some m =>
      refine ih fun front rest above hplace hrest habove => ?_
      refine h (k :: front) rest above (congrArg (k :: ·) hplace) hrest ?_
      rw [at?, hk]
      exact habove

/-- A node below a part, wherever an expansion takes the part. -/
def carry (n : Node) (k : Nat) (x : Address × Node) : Address × Node := (n.stepTo k ++ x.1, x.2)

/-- The shell literals that an expansion leaves, each where it goes and with its text expanded. -/
def leftLiterals (n : Node) : List (Address × Node) :=
  (n.literals.filter (·.2.delivery?.isNone)).map fun x => (n.moved x.1, x.2.expand)

theorem leftLiterals_eq (n : Node) :
    n.leftLiterals =
      (if n.isLiteral && n.delivery?.isNone then [([], n.expand)] else []) ++
        n.parts.zipIdx.flatMap fun x => x.1.leftLiterals.map (n.carry x.2) := by
  have hparts : ((n.parts.zipIdx.flatMap fun x => x.1.literals.map (under x.2)).filter
        (·.2.delivery?.isNone)).map (fun x => (n.moved x.1, x.2.expand)) =
      n.parts.zipIdx.flatMap fun x => x.1.leftLiterals.map (n.carry x.2) := by
    rw [List.filter_flatMap, List.map_flatMap]
    refine List.flatMap_congr fun x hx => ?_
    have hpart := List.mk_mem_zipIdx_iff_getElem?.mp hx
    rw [leftLiterals, List.filter_map, List.map_map, List.map_map]
    refine List.map_congr_left fun y _ => ?_
    simp only [Function.comp_apply, under, moved, hpart, carry]
  rw [leftLiterals, literals_eq, List.filter_append, List.map_append, hparts]
  cases n.isLiteral <;> cases h : n.delivery? <;> simp [h, moved]

/-- A call with one template for its argument holds the literals of the template's fields. -/
theorem literals_callOf (name : String) (line : Nat) (site : Option Delivery) (ps : List Part) :
    (expr line site (.callOf name [.template ps])).literals =
      (fieldsOf ps).zipIdx.flatMap fun x =>
        (expr line none x.1.1).literals.map fun y => (1 :: x.2 :: y.1, y.2) := by
  have hname : (expr line none (.name name)).literals = [] := literals_of_leaf rfl rfl
  have htext : (expr line (some .single) (.template ps)).literals =
      (fieldsOf ps).zipIdx.flatMap fun x => (expr line none x.1.1).literals.map (under x.2) := by
    rw [literals_eq, parts, exprParts, List.zipIdx_map, List.flatMap_map]
    rfl
  have hparts : (expr line site (.callOf name [.template ps])).parts.zipIdx =
      [(expr line none (.name name), 0), (expr line (some .single) (.template ps), 1)] := rfl
  rw [literals_eq, hparts, List.flatMap_cons, List.flatMap_singleton, hname, htext,
    List.map_flatMap]
  refine List.flatMap_congr fun x _ => ?_
  rw [List.map_map]
  rfl

/-- What stands for a field in an expanded command holds the literals of the field. -/
theorem literals_fieldCall (line : Nat) (f : Expr × Option String) (k : Nat) :
    ((expr line none (fieldCall f)).literals.map fun x => (1 :: k :: x.1, x.2)) =
      (expr line none f.1).expand.literals.map fun x => (fieldAddress k f.2 ++ x.1, x.2) := by
  rw [fieldCall, fieldAddress]
  by_cases hraw : f.2 = some rawSpec
  · rw [if_pos hraw, if_pos hraw]
    rfl
  · rw [if_neg hraw, if_neg hraw, literals_callOf, fieldsOf, fieldsOf, List.zipIdx_singleton,
      List.flatMap_singleton, List.map_map]
    rfl

/-- A literal that is replaced leaves the literals in its fields. -/
theorem literals_replaced {line : Nat} {d : Delivery} {e : Expr} (h : e.isLiteral = true)
    (ih : ∀ m ∈ (expr line (some d) e).parts, m.expand.literals = m.leftLiterals) :
    (expr line (some d) e).expand.literals =
      (expr line (some d) e).parts.zipIdx.flatMap fun x =>
        x.1.leftLiterals.map ((expr line (some d) e).carry x.2) := by
  obtain ⟨s, rfl⟩ | ⟨ps, rfl⟩ := Expr.eq_of_isLiteral h
  · have hname : (expr line none (.name d.runner)).literals = [] := literals_of_leaf rfl rfl
    have htext : (expr line (some .single) (.str s)).literals = [] := literals_of_leaf rfl rfl
    have hcall : (expr line (some d) (.unary .invert (.str s))).expand.parts.zipIdx =
        [(expr line none (.name d.runner), 0), (expr line (some .single) (.str s), 1)] := rfl
    rw [literals_eq, hcall, List.flatMap_cons, List.flatMap_singleton, hname, htext]
    rfl
  · have hcall : (expr line (some d) (.unary .invert (.template ps))).expand =
        expr line (some d) (.callOf d.runner [.template (commandParts ps)]) := rfl
    rw [hcall, literals_callOf, fieldsOf_commandParts, List.zipIdx_map, List.flatMap_map, parts,
      exprParts, List.zipIdx_map, List.flatMap_map]
    refine List.flatMap_congr fun x hx => ?_
    have hfield := List.mk_mem_zipIdx_iff_getElem?.mp hx
    have hpart := ih (expr line none x.1.1)
      (List.mem_map.mpr ⟨x.1, List.mem_of_getElem? hfield, rfl⟩)
    refine (literals_fieldCall line x.1 x.2).trans ?_
    rw [hpart]
    refine List.map_congr_left fun y _ => ?_
    simp only [carry, stepTo, Prod.map_snd, id_eq, hfield]

/-- **The literals of an expanded tree are those that an expansion leaves, each in its place.** -/
theorem literals_expand (n : Node) : n.expand.literals = n.leftLiterals := by
  induction n using induct with
  | step n ih =>
    rw [leftLiterals_eq]
    cases hd : n.delivery? with
    | none =>
      -- the node is a literal if it was one, and its parts keep their numbers
      obtain ⟨hliteral, -⟩ := kept_expand hd
      rw [literals_eq, parts_expand hd, hliteral, List.zipIdx_map, List.flatMap_map,
        Option.isNone_none, Bool.and_true]
      congr 1
      refine List.flatMap_congr fun x hx => ?_
      have hm := List.mem_of_getElem? (List.mk_mem_zipIdx_iff_getElem?.mp hx)
      rw [← ih x.1 hm]
      refine List.map_congr_left fun y _ => ?_
      rw [under, carry, stepTo_of_kept hd]
      rfl
    | some d =>
      -- the node is a call now, so only what was below it can be a literal
      obtain ⟨line, e, rfl, hliteral⟩ := delivery?_eq_some hd
      rw [literals_replaced hliteral ih, Option.isNone_some, Bool.and_false]
      rfl

end Node

namespace Program

theorem root_expand (p : Program) : p.expand.root = p.root.expand := rfl

theorem literalCount_eq (p : Program) :
    p.literalCount = p.root.nodes.countP fun x => x.2.delivery?.isSome := by
  have hperm := p.root.filter_notes_perm (q := LogRecord.isRunsAs) (fun _ _ => rfl) fun _ => rfl
  calc p.literalCount
      = (p.notes.filter LogRecord.isRunsAs).length := List.countP_eq_length_filter
    _ = (p.root.nodes.filterMap fun x => x.2.record?).length := hperm.length_eq
    _ = p.root.nodes.countP fun x => x.2.record?.isSome := List.length_filterMap_eq_countP
    _ = p.root.nodes.countP fun x => x.2.delivery?.isSome := by simp only [Node.isSome_record?]

/-- No literal that an expansion leaves is replaced the next time. -/
theorem delivery?_expand (p : Program) {x : Address × Node} (h : x ∈ p.expand.root.nodes) :
    x.2.delivery? = none := by
  by_contra hne
  obtain ⟨d, hd⟩ := Option.ne_none_iff_exists'.mp hne
  obtain ⟨line, e, he, hliteral⟩ := Node.delivery?_eq_some hd
  have hx : x ∈ p.expand.root.literals := by
    refine List.mem_filter.mpr ⟨h, ?_⟩
    rw [he]
    exact hliteral
  rw [root_expand, Node.literals_expand] at hx
  obtain ⟨y, hy, rfl⟩ := List.mem_map.mp hx
  have hkept := Option.isNone_iff_eq_none.mp (List.mem_filter.mp hy).2
  exact hne (Node.kept_expand hkept).2

theorem notes_expand (p : Program) : p.expand.notes = [] := by
  have hperm := p.expand.root.notes_perm
  have hown : (p.expand.root.nodes.flatMap fun x => x.2.ownNotes) = [] := by
    refine List.flatMap_eq_nil_iff.mpr fun x hx => ?_
    exact Node.ownNotes_of_kept (p.delivery?_expand hx)
  rw [hown] at hperm
  exact hperm.eq_nil

/--
**Expansion is exact, and a second one changes nothing.**

The number of replaced literals is the number of shell literals, at any depth, in places that
deliver output. For each of them one debug record is written, with its line and its delivery, and
there is no other. In the expanded program no shell literal stands in such a place; those it has are
the ones that did not stand in such a place before, in the same order, each where it was but for the
calls around it, its own text expanded.
-/
theorem expand_exact (p : Program) :
    p.literalCount = (p.root.nodes.countP fun x => x.2.delivery?.isSome)
    ∧ (p.notes.filter fun r => r.level = .debug).Perm
        (p.root.nodes.filterMap fun x => x.2.record?)
    ∧ (∀ x ∈ p.expand.root.nodes, x.2.delivery? = none)
    ∧ p.expand.root.literals =
        ((p.root.literals.filter fun x => x.2.delivery?.isNone).map fun x =>
          (p.root.moved x.1, x.2.expand))
    ∧ p.expand.literalCount = 0 ∧ p.expand.notes = [] ∧ p.expand.expand = p.expand := by
  have hnotes := p.notes_expand
  have hcount : p.expand.literalCount = 0 := by
    rw [literalCount, hnotes]
    rfl
  refine ⟨p.literalCount_eq, ?_, fun x => p.delivery?_expand, p.root.literals_expand, hcount,
    hnotes, expand_eq_self hcount⟩
  exact p.root.filter_notes_perm (fun _ _ => rfl) fun _ => rfl

end Program

end Tilde
