import Mathlib.Data.List.Nodup
import Tilde.Expand

/-!
# The nodes of a program

A program is a tree: its statements and expressions are the nodes, and the parts of a node come in
the order they are written in. A node is found by its address, the numbers of the parts that lead to
it from the root.

What decides about a shell literal is noted where a part is named. Each expression comes with the
line of the statement it stands in, and with the delivery its place asks for: a place delivers
output if the parent is an expression statement, an assignment, a call with the literal among its
arguments, or an attribute. A shell literal is one node, and its parts are the fields of its text.
-/

namespace Tilde

open Shell (Delivery)

/-- The fields of an interpolated string, with their format specs. -/
def fieldsOf : List Part → List (Expr × Option String)
  | [] => []
  | .literal _ :: ps => fieldsOf ps
  | .field e spec :: ps => (e, spec) :: fieldsOf ps

/-- The block of a handler. -/
def Handler.block : Handler → List Stmt
  | .mk _ _ body => body

/-- Whether the expression is a shell literal: a tilde in front of a string literal. -/
def Expr.isLiteral : Expr → Bool
  | .unary .invert (.str _) | .unary .invert (.template _) => true
  | _ => false

theorem Expr.eq_of_isLiteral {e : Expr} (h : e.isLiteral = true) :
    (∃ s, e = .unary .invert (.str s)) ∨ ∃ ps, e = .unary .invert (.template ps) := by
  unfold isLiteral at h
  split at h
  · next s => exact .inl ⟨s, rfl⟩
  · next ps => exact .inr ⟨ps, rfl⟩
  · cases h

/-- A node of a program. -/
inductive Node where
  | program (body : List Stmt)
  | stmt (s : Stmt)
  /-- An expression in a statement of the line, whose place delivers output as `site` says. -/
  | expr (line : Nat) (site : Option Delivery) (e : Expr)

/-- The way to a node: the number of each part on it. -/
abbrev Address := List Nat

namespace Node

/-- The nodes directly below an expression. -/
def exprParts (line : Nat) : Expr → List Node
  | .name _ | .int _ | .bool _ | .none | .str _ | .unary .invert (.str _) => []
  | .unary .invert (.template ps) | .template ps => (fieldsOf ps).map fun f => .expr line none f.1
  | .unary _ e | .star e => [.expr line none e]
  | .tuple items | .list items => items.map (.expr line none)
  | .binary _ l r | .compare _ l r | .logical _ l r => [.expr line none l, .expr line none r]
  | .call f args keywords =>
    .expr line none f :: (args ++ keywords.map Keyword.value).map (.expr line (some .single))
  | .attribute e _ => [.expr line (some .single) e]
  | .subscript e i => [.expr line none e, .expr line none i]

/-- The nodes directly below a statement. -/
def stmtParts : Stmt → List Node
  | .evaluate line e => [.expr line (some .stream) e]
  | .assign line target e =>
    [.expr line (some (if target.isSequence then .triple else .single)) e]
  | .assert line test message => .expr line none test :: message.toList.map (.expr line none)
  | .pass _ | .breakLoop _ | .continueLoop _ => []
  | .branch line test body orelse => .expr line none test :: (body ++ orelse).map .stmt
  | .whileLoop line test body => .expr line none test :: body.map .stmt
  | .forEach line _ items body => .expr line none items :: body.map .stmt
  | .attempt _ body handlers => (body ++ handlers.flatMap Handler.block).map .stmt

/-- The nodes directly below a node. -/
def parts : Node → List Node
  | program body => body.map .stmt
  | stmt s => stmtParts s
  | expr line _ e => exprParts line e

/-- The node at an address. -/
def at? (n : Node) : Address → Option Node
  | [] => some n
  | k :: place => n.parts[k]?.bind fun m => m.at? place

/-! ## Parts are smaller -/

/-- How much tree there is at a node. -/
noncomputable def size : Node → Nat
  | program body => sizeOf body
  | stmt s => sizeOf s
  | expr _ _ e => sizeOf e

end Node

theorem sizeOf_fieldsOf {ps : List Part} {f : Expr × Option String} (h : f ∈ fieldsOf ps) :
    sizeOf f.1 < sizeOf ps := by
  induction ps with
  | nil => cases h
  | cons p ps ih =>
    cases p with
    | literal s =>
      have := ih h
      simp only [List.cons.sizeOf_spec]
      omega
    | field e spec =>
      rcases List.mem_cons.mp h with rfl | h
      · simp only [List.cons.sizeOf_spec, Part.field.sizeOf_spec]
        omega
      · have := ih h
        simp only [List.cons.sizeOf_spec]
        omega

theorem Keyword.sizeOf_value (k : Keyword) : sizeOf k.value < sizeOf k := by
  cases k
  simp only [Keyword.value, Keyword.mk.sizeOf_spec]
  omega

theorem Handler.sizeOf_block (h : Handler) : sizeOf h.block < sizeOf h := by
  cases h
  simp only [Handler.block, Handler.mk.sizeOf_spec]
  omega

namespace Node

variable {line : Nat} {n m : Node}

theorem size_exprParts {e : Expr} (h : m ∈ exprParts line e) : m.size < sizeOf e := by
  -- an f-string has its fields for parts, and other expressions have lists of parts
  have hfields {ps : List Part}
      (h : m ∈ (fieldsOf ps).map fun f => Node.expr line none f.1) : m.size < sizeOf ps := by
    obtain ⟨f, hf, rfl⟩ := List.mem_map.mp h
    exact sizeOf_fieldsOf hf
  have hlist {site : Option Delivery} {es : List Expr} (h : m ∈ es.map (.expr line site)) :
      m.size < sizeOf es := by
    obtain ⟨e, he, rfl⟩ := List.mem_map.mp h
    exact List.sizeOf_lt_of_mem he
  cases e with
  | name _ | int _ | bool _ | none | str _ => cases h
  | template ps =>
    have := hfields h
    simp only [Expr.template.sizeOf_spec]
    omega
  | tuple items | list items =>
    have := hlist h
    simp only [Expr.tuple.sizeOf_spec, Expr.list.sizeOf_spec]
    omega
  | star e =>
    obtain rfl := List.mem_singleton.mp h
    simp only [size, Expr.star.sizeOf_spec]
    omega
  | unary op e =>
    have hop {e : Expr} (h : m ∈ [Node.expr line none e]) :
        m.size < 1 + sizeOf op + sizeOf e := by
      obtain rfl := List.mem_singleton.mp h
      simp only [size]
      omega
    -- a shell literal is one node with its text, so its parts are those of the text
    rw [Expr.unary.sizeOf_spec]
    cases op with
    | neg | not => exact hop h
    | invert =>
      cases e with
      | str _ => cases h
      | template ps =>
        have := hfields h
        simp only [Expr.template.sizeOf_spec]
        omega
      | _ => exact hop h
  | binary op l r | compare op l r | logical op l r | subscript l r =>
    simp only [exprParts, List.mem_cons, List.not_mem_nil, or_false] at h
    rcases h with rfl | rfl
    all_goals
      simp only [size, Expr.binary.sizeOf_spec, Expr.compare.sizeOf_spec, Expr.logical.sizeOf_spec,
        Expr.subscript.sizeOf_spec]
      omega
  | «attribute» e n =>
    obtain rfl := List.mem_singleton.mp h
    simp only [size, Expr.attribute.sizeOf_spec]
    omega
  | call f args keywords =>
    rw [Expr.call.sizeOf_spec]
    rcases List.mem_cons.mp h with rfl | h
    · simp only [size]
      omega
    · rw [List.map_append] at h
      rcases List.mem_append.mp h with h | h
      · have := hlist h
        omega
      · obtain ⟨_, hvalue, rfl⟩ := List.mem_map.mp h
        obtain ⟨k, hk, rfl⟩ := List.mem_map.mp hvalue
        have := List.sizeOf_lt_of_mem hk
        have := k.sizeOf_value
        simp only [size]
        omega

theorem size_stmtParts {s : Stmt} (h : m ∈ stmtParts s) : m.size < sizeOf s := by
  have hbody {ss : List Stmt} (h : m ∈ ss.map .stmt) : m.size < sizeOf ss := by
    -- a statement lies in the block itself or in that of one of the handlers
    obtain ⟨s, hs, rfl⟩ := List.mem_map.mp h
    exact List.sizeOf_lt_of_mem hs
  cases s with
  | evaluate line e | assign line target e =>
    obtain rfl := List.mem_singleton.mp h
    simp only [size, Stmt.evaluate.sizeOf_spec, Stmt.assign.sizeOf_spec]
    omega
  | pass _ | breakLoop _ | continueLoop _ => cases h
  | assert line test message =>
    rw [Stmt.assert.sizeOf_spec]
    rcases List.mem_cons.mp h with rfl | h
    · simp only [size]
      omega
    · cases message with
      | none => cases h
      | some e =>
        obtain rfl := List.mem_singleton.mp h
        simp only [size, Option.some.sizeOf_spec]
        omega
  | branch line test body orelse =>
    rw [Stmt.branch.sizeOf_spec]
    rcases List.mem_cons.mp h with rfl | h
    · simp only [size]
      omega
    · rw [List.map_append] at h
      rcases List.mem_append.mp h with h | h
      all_goals
        have := hbody h
        omega
  | whileLoop line e body | forEach line target e body =>
    rcases List.mem_cons.mp h with rfl | h
    · simp only [size, Stmt.whileLoop.sizeOf_spec, Stmt.forEach.sizeOf_spec]
      omega
    · have := hbody h
      simp only [Stmt.whileLoop.sizeOf_spec, Stmt.forEach.sizeOf_spec]
      omega
  | attempt line body handlers =>
    rw [Stmt.attempt.sizeOf_spec]
    obtain ⟨s, hs, rfl⟩ := List.mem_map.mp h
    rcases List.mem_append.mp hs with hs | hs
    · have := List.sizeOf_lt_of_mem hs
      simp only [size]
      omega
    · obtain ⟨k, hk, hs⟩ := List.mem_flatMap.mp hs
      have := List.sizeOf_lt_of_mem hk
      have := k.sizeOf_block
      have := List.sizeOf_lt_of_mem hs
      simp only [size]
      omega

/-- A part is smaller than the node it is a part of. -/
theorem size_parts (h : m ∈ n.parts) : m.size < n.size := by
  cases n with
  | program body =>
    obtain ⟨s, hs, rfl⟩ := List.mem_map.mp h
    exact List.sizeOf_lt_of_mem hs
  | stmt s => exact size_stmtParts h
  | expr line site e => exact size_exprParts h

/-- What holds of a node as soon as it holds of its parts holds of every node. -/
theorem induct {P : Node → Prop} (step : ∀ n, (∀ m ∈ n.parts, P m) → P n) (n : Node) : P n :=
  step n fun m _ => induct step m
termination_by n.size
decreasing_by exact size_parts ‹_›

/-! ## All nodes -/

/-- A node below the part number `k`, as seen from the node that has the part. -/
def under (k : Nat) (x : Address × Node) : Address × Node := (k :: x.1, x.2)

/-- Every node of a tree with its address, a node before its parts. -/
def nodes (n : Node) : List (Address × Node) :=
  ([], n) :: n.parts.zipIdx.attach.flatMap fun x => x.1.1.nodes.map (under x.1.2)
termination_by n.size
decreasing_by exact size_parts (List.mem_of_getElem? (List.mk_mem_zipIdx_iff_getElem?.mp x.2))

/-- The nodes below a node that has these parts. -/
def nodesIn (ms : List Node) : List (Address × Node) :=
  ms.zipIdx.flatMap fun x => x.1.nodes.map (under x.2)

theorem nodes_eq (n : Node) : n.nodes = ([], n) :: nodesIn n.parts := by
  rw [nodes, nodesIn, List.flatMap_subtype (g := fun x => x.1.nodes.map (under x.2)) fun _ _ => rfl,
    List.unattach_attach]

/-- What is gathered from the nodes below is gathered from one part after the other. -/
theorem flatMap_nodesIn {α : Type} (f : Node → List α) (ms : List Node) :
    ((nodesIn ms).flatMap fun x => f x.2) = ms.flatMap fun m => m.nodes.flatMap fun x => f x.2 := by
  have hpart (x : Node × Nat) : ((x.1.nodes.map (under x.2)).flatMap fun y => f y.2) =
      x.1.nodes.flatMap fun y => f y.2 := List.flatMap_map ..
  rw [nodesIn, List.flatMap_assoc, ← List.zipIdx_map_fst 0 ms, List.flatMap_map,
    List.zipIdx_map_fst]
  exact List.flatMap_congr fun x _ => hpart x

/-- The listed nodes are those at an address. -/
theorem mem_nodes {place : Address} : (place, m) ∈ n.nodes ↔ n.at? place = some m := by
  -- the induction is on the address, a step of which goes to one of the parts
  induction place generalizing n with
  | nil =>
    rw [nodes_eq]
    constructor
    · intro h
      rcases List.mem_cons.mp h with h | h
      · rw [at?, (Prod.mk.inj h).2]
      · obtain ⟨x, _, h⟩ := List.mem_flatMap.mp h
        obtain ⟨y, _, h⟩ := List.mem_map.mp h
        cases h
    · intro h
      cases h
      exact List.mem_cons_self ..
  | cons k place ih =>
    rw [nodes_eq, at?, Option.bind_eq_some_iff]
    constructor
    · intro h
      rcases List.mem_cons.mp h with h | h
      · cases h
      · obtain ⟨⟨l, j⟩, hl, h⟩ := List.mem_flatMap.mp h
        obtain ⟨⟨p, m'⟩, hp, h⟩ := List.mem_map.mp h
        cases h
        exact ⟨l, List.mk_mem_zipIdx_iff_getElem?.mp hl, ih.mp hp⟩
    · rintro ⟨l, hl, h⟩
      refine List.mem_cons_of_mem _ (List.mem_flatMap.mpr ⟨(l, k), ?_, ?_⟩)
      · exact List.mk_mem_zipIdx_iff_getElem?.mpr hl
      · exact List.mem_map.mpr ⟨(place, m), ih.mpr h, rfl⟩

/-- No address is listed twice. -/
theorem nodup_nodes (n : Node) : (n.nodes.map Prod.fst).Nodup := by
  induction n using induct with
  | step n ih =>
    rw [nodes_eq, List.map_cons, List.nodup_cons, nodesIn, List.map_flatMap]
    constructor
    · intro h
      obtain ⟨x, _, h⟩ := List.mem_flatMap.mp h
      simp [under] at h
    · rw [List.nodup_flatMap]
      constructor
      · intro x hx
        have hnodup := ih x.1 (List.mem_of_getElem? (List.mk_mem_zipIdx_iff_getElem?.mp hx))
        have := hnodup.map (List.cons_injective (a := x.2))
        rwa [List.map_map] at this ⊢
      · -- addresses below different parts differ in their first number
        have hnumbers : (n.parts.zipIdx.map Prod.snd).Nodup := by
          rw [List.zipIdx_map_snd]
          exact List.nodup_range'
        refine (List.pairwise_map.mp hnumbers).imp fun {x y} hne => ?_
        intro place hx hy
        simp only [List.map_map, List.mem_map, Function.comp_apply, under] at hx hy
        obtain ⟨_, _, rfl⟩ := hx
        obtain ⟨_, _, h⟩ := hy
        exact hne (List.cons.inj h).1.symm

/-! ## Shell literals -/

/-- Whether the node is a shell literal. -/
def isLiteral : Node → Bool
  | expr _ _ e => e.isLiteral
  | _ => false

/-- The delivery of a shell literal that is to be replaced, since its place delivers output. -/
def delivery? : Node → Option Delivery
  | expr _ site e => if e.isLiteral then site else none
  | _ => none

theorem delivery?_eq_some {d : Delivery} (h : n.delivery? = some d) :
    ∃ line e, n = expr line (some d) e ∧ e.isLiteral = true := by
  cases n with
  | program _ | stmt _ => cases h
  | expr line site e =>
    rw [delivery?] at h
    split at h
    · next hliteral => exact ⟨line, e, by rw [h], hliteral⟩
    · cases h

/-- The shell literals in a tree. -/
def literals (n : Node) : List (Address × Node) := n.nodes.filter (·.2.isLiteral)

theorem literals_eq (n : Node) :
    n.literals =
      (if n.isLiteral then [([], n)] else []) ++
        n.parts.zipIdx.flatMap fun x => x.1.literals.map (under x.2) := by
  have hparts : (nodesIn n.parts).filter (·.2.isLiteral) =
      n.parts.zipIdx.flatMap fun x => x.1.literals.map (under x.2) := by
    rw [nodesIn, List.filter_flatMap]
    refine List.flatMap_congr fun x _ => ?_
    rw [List.filter_map]
    rfl
  rw [literals, nodes_eq, List.filter_cons, hparts]
  split <;> rfl

theorem literals_of_leaf (hparts : n.parts = []) (h : n.isLiteral = false) : n.literals = [] := by
  rw [literals_eq, hparts, h]
  rfl

end Node

namespace Program

/-- The tree of a program. -/
def root (p : Program) : Node := .program p.body

end Program

end Tilde
