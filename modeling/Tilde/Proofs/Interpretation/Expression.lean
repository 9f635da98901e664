import Tilde.Eval
import Tilde.Proofs.Effects

/-!
# The meaning of an expression in any monad

An expression says in which order operations apply, and not what they are. So it has a meaning in
every monad in which there are such operations (`Expr.interpret`). With the operations of a host it
is the value that the expression evaluates to; with others it may also tell which expressions were
come to on the way, or carry out the operations in another manner.

What all meanings have in common is proved once. If a relation between the computations of two
monads holds of the operations and is kept by doing one thing after the other, it holds of the
meanings of every expression (`interpret_related`). A predicate is a relation that looks at one side
only.
-/

namespace Tilde

/-- The operations that an evaluation is made of, in some monad. -/
structure Operations (m : Type → Type) where
  /-- What is done where the evaluation comes to an expression. -/
  enter : Expr → m Unit
  find : String → m Value
  /-- A starred expression, which has no value. -/
  star : m Value
  unary : UnaryOp → Value → m Value
  binary : BinaryOp → Value → Value → m Value
  compared : Comparison → Value → Value → m Bool
  attributeOf : Value → String → m Value
  itemAt : Value → Value → m Value
  format : Value → Option String → m String
  call : Value → Args → m Value

section Interpret

variable {m : Type → Type} [Monad m] (ops : Operations m)

mutual

/-- The meaning of an expression. -/
def Expr.interpret : Expr → m Value
  | .name n => do
    ops.enter (.name n)
    ops.find n
  | .int i => do
    ops.enter (.int i)
    return .int i
  | .bool b => do
    ops.enter (.bool b)
    return .bool b
  | .none => do
    ops.enter .none
    return .none
  | .str s => do
    ops.enter (.str s)
    return .str s
  | .template parts => do
    ops.enter (.template parts)
    return .str (← interpretParts parts)
  | .tuple items => do
    ops.enter (.tuple items)
    return .tuple (← interpretAll items)
  | .list items => do
    ops.enter (.list items)
    return .list (← interpretAll items)
  | .star e => do
    ops.enter (.star e)
    ops.star
  | .unary op e => do
    ops.enter (.unary op e)
    let v ← e.interpret
    ops.unary op v
  | .binary op l r => do
    ops.enter (.binary op l r)
    let a ← l.interpret
    let b ← r.interpret
    ops.binary op a b
  | .compare op l r => do
    ops.enter (.compare op l r)
    let a ← l.interpret
    let b ← r.interpret
    return .bool (← ops.compared op a b)
  | .logical op l r => do
    ops.enter (.logical op l r)
    let a ← l.interpret
    let decided := match op with
      | .and => !a.truthy
      | .or => a.truthy
    if decided then return a else r.interpret
  | .call f args keywords => do
    ops.enter (.call f args keywords)
    let f ← f.interpret
    let positional ← interpretAll args
    let keywords ← interpretKeywords keywords
    ops.call f ⟨positional, keywords⟩
  | .attribute e n => do
    ops.enter (.attribute e n)
    let v ← e.interpret
    ops.attributeOf v n
  | .subscript e i => do
    ops.enter (.subscript e i)
    let v ← e.interpret
    let index ← i.interpret
    ops.itemAt v index

/-- The meaning of expressions in order. -/
def interpretAll : List Expr → m (List Value)
  | [] => return []
  | e :: es => do
    let v ← e.interpret
    return v :: (← interpretAll es)

/-- The meaning of arguments given by name, in order. -/
def interpretKeywords : List Keyword → m (List (String × Value))
  | [] => return []
  | .mk n e :: ks => do
    let v ← e.interpret
    return (n, v) :: (← interpretKeywords ks)

/-- The meaning of the parts of an interpolated string, in order. -/
def interpretParts : List Part → m String
  | [] => return ""
  | .literal s :: ps => return s ++ (← interpretParts ps)
  | .field e spec :: ps => do
    let v ← e.interpret
    let s ← ops.format v spec
    return s ++ (← interpretParts ps)

end

end Interpret

/-! ## Relations between meanings -/

/-- A relation between computations is kept by doing one thing after the other, and it holds between
the operations of both monads. -/
structure Operations.Related {m n : Type → Type} [Monad m] [Monad n]
    (R : {α : Type} → m α → n α → Prop) (ops : Operations m) (ops' : Operations n) : Prop where
  pure : ∀ {α : Type} (a : α), R (pure a) (pure a)
  bind : ∀ {α β : Type} {x : m α} {y : n α} {f : α → m β} {g : α → n β}, R x y →
    (∀ a, R (f a) (g a)) → R (x >>= f) (y >>= g)
  enter : ∀ e, R (ops.enter e) (ops'.enter e)
  find : ∀ name, R (ops.find name) (ops'.find name)
  star : R ops.star ops'.star
  unary : ∀ op v, R (ops.unary op v) (ops'.unary op v)
  binary : ∀ op a b, R (ops.binary op a b) (ops'.binary op a b)
  compared : ∀ op a b, R (ops.compared op a b) (ops'.compared op a b)
  attributeOf : ∀ v name, R (ops.attributeOf v name) (ops'.attributeOf v name)
  itemAt : ∀ v index, R (ops.itemAt v index) (ops'.itemAt v index)
  format : ∀ v spec, R (ops.format v spec) (ops'.format v spec)
  call : ∀ f args, R (ops.call f args) (ops'.call f args)

variable {m n : Type → Type} {R : {α : Type} → m α → n α → Prop}

theorem related_ite {α : Type} {c : Prop} [Decidable c] {x x' : m α} {y y' : n α}
    (ht : R x y) (he : R x' y') : R (if c then x else x') (if c then y else y') := by
  by_cases hc : c
  · rw [if_pos hc, if_pos hc]; exact ht
  · rw [if_neg hc, if_neg hc]; exact he

section Related

variable [Monad m] [Monad n] {ops : Operations m} {ops' : Operations n} (h : ops.Related R ops')
include h

mutual

/-- **What holds between the operations holds between the meanings of every expression.** -/
theorem Expr.interpret_related : ∀ e : Expr, R (e.interpret ops) (e.interpret ops')
  | .name n => h.bind (h.enter _) fun _ => h.find n
  | .int _ | .bool _ | .none | .str _ => h.bind (h.enter _) fun _ => h.pure _
  | .template parts => h.bind (h.enter _) fun _ => h.bind (interpretParts_related parts) fun _ =>
    h.pure _
  | .tuple items | .list items => h.bind (h.enter _) fun _ =>
    h.bind (interpretAll_related items) fun _ => h.pure _
  | .star _ => h.bind (h.enter _) fun _ => h.star
  | .unary op e => h.bind (h.enter _) fun _ => h.bind e.interpret_related fun _ => h.unary op _
  | .binary op l r => h.bind (h.enter _) fun _ => h.bind l.interpret_related fun _ =>
    h.bind r.interpret_related fun _ => h.binary op _ _
  | .compare op l r => h.bind (h.enter _) fun _ => h.bind l.interpret_related fun _ =>
    h.bind r.interpret_related fun _ => h.bind (h.compared op _ _) fun _ => h.pure _
  | .logical op l r => h.bind (h.enter _) fun _ => h.bind l.interpret_related fun a => by
    cases op with
    | and | or => exact related_ite (h.pure a) r.interpret_related
  | .call f args keywords => h.bind (h.enter _) fun _ => h.bind f.interpret_related fun _ =>
    h.bind (interpretAll_related args) fun _ =>
      h.bind (interpretKeywords_related keywords) fun _ => h.call _ _
  | .attribute e n => h.bind (h.enter _) fun _ => h.bind e.interpret_related fun _ =>
    h.attributeOf _ n
  | .subscript e i => h.bind (h.enter _) fun _ => h.bind e.interpret_related fun _ =>
    h.bind i.interpret_related fun _ => h.itemAt _ _

theorem interpretAll_related :
    ∀ es : List Expr, R (interpretAll ops es) (interpretAll ops' es)
  | [] => h.pure _
  | e :: es => h.bind e.interpret_related fun _ => h.bind (interpretAll_related es) fun _ =>
    h.pure _

theorem interpretKeywords_related :
    ∀ ks : List Keyword, R (interpretKeywords ops ks) (interpretKeywords ops' ks)
  | [] => h.pure _
  | .mk _ e :: ks => h.bind e.interpret_related fun _ =>
    h.bind (interpretKeywords_related ks) fun _ => h.pure _

theorem interpretParts_related :
    ∀ ps : List Part, R (interpretParts ops ps) (interpretParts ops' ps)
  | [] => h.pure _
  | .literal _ :: ps => h.bind (interpretParts_related ps) fun _ => h.pure _
  | .field e spec :: ps => h.bind e.interpret_related fun _ => h.bind (h.format _ spec) fun _ =>
    h.bind (interpretParts_related ps) fun _ => h.pure _

end

end Related

/-! ## The operations of a host -/

variable {ω : Type}

/-- The operations of a host, over the variables of a program. -/
def Operations.ofHost (host : Host ω) (ns : Namespace) : Operations (EvalM ω) where
  enter _ := return ()
  find name := .ofExcept (ns.find name)
  star := .fail .misplacedStar
  unary op v := .ofExcept (Value.unary op v)
  binary op a b := .ofExcept (Value.binary op a b)
  compared op a b := .ofExcept (Value.compared op a b)
  attributeOf v name := .ofExcept (v.attribute name)
  itemAt v index := .ofExcept (v.itemAt index)
  format v spec := .ofExcept (v.format spec)
  call f args := f.callWith host args

section OfHost

variable (host : Host ω) (ns : Namespace)

mutual

/-- **With the operations of a host, an expression means what it evaluates to.** -/
theorem Expr.interpret_ofHost : ∀ e : Expr, e.interpret (.ofHost host ns) = e.eval host ns
  | .name _ | .int _ | .bool _ | .none | .str _ | .star _ => rfl
  | .template parts => by
    rw [Expr.interpret, Expr.eval, interpretParts_ofHost parts]; rfl
  | .tuple items | .list items => by
    rw [Expr.interpret, Expr.eval, interpretAll_ofHost items]; rfl
  | .unary op e => by rw [Expr.interpret, Expr.eval, e.interpret_ofHost]; rfl
  | .binary op l r => by
    rw [Expr.interpret, Expr.eval, l.interpret_ofHost, r.interpret_ofHost]; rfl
  | .compare op l r => by
    rw [Expr.interpret, Expr.eval, l.interpret_ofHost, r.interpret_ofHost]; rfl
  | .logical op l r => by
    rw [Expr.interpret, Expr.eval, l.interpret_ofHost, r.interpret_ofHost]; rfl
  | .call f args keywords => by
    rw [Expr.interpret, Expr.eval, f.interpret_ofHost, interpretAll_ofHost args,
      interpretKeywords_ofHost keywords]
    rfl
  | .attribute e n => by rw [Expr.interpret, Expr.eval, e.interpret_ofHost]; rfl
  | .subscript e i => by
    rw [Expr.interpret, Expr.eval, e.interpret_ofHost, i.interpret_ofHost]; rfl

theorem interpretAll_ofHost :
    ∀ es : List Expr, interpretAll (.ofHost host ns) es = evalAll host ns es
  | [] => rfl
  | e :: es => by rw [interpretAll, evalAll, e.interpret_ofHost, interpretAll_ofHost es]

theorem interpretKeywords_ofHost :
    ∀ ks : List Keyword, interpretKeywords (.ofHost host ns) ks = evalKeywords host ns ks
  | [] => rfl
  | .mk n e :: ks => by
    rw [interpretKeywords, evalKeywords, e.interpret_ofHost, interpretKeywords_ofHost ks]

theorem interpretParts_ofHost :
    ∀ ps : List Part, interpretParts (.ofHost host ns) ps = evalParts host ns ps
  | [] => rfl
  | .literal s :: ps => by rw [interpretParts, evalParts, interpretParts_ofHost ps]
  | .field e spec :: ps => by
    rw [interpretParts, evalParts, e.interpret_ofHost, interpretParts_ofHost ps]; rfl

end

end OfHost

end Tilde
