import Tilde.Eval.Builtin
import Tilde.Eval.Method
import Tilde.Namespace
import Tilde.Value.Format

/-!
# Evaluating expressions

Operands are evaluated from left to right, then the operator applies. A call evaluates its function,
its arguments by position and its arguments by name, in this order.
-/

namespace Tilde

variable {ω : Type}

/-- Calls a value. -/
def Value.callWith (host : Host ω) (v : Value) (args : Args) : EvalM ω Value :=
  match v with
  | .builtin f => f.call host args
  | .method receiver m => .ofExcept (m.call receiver args)
  | v => .fail (.notCallable v.type)

/-- Looks up an attribute. Strings have methods, and nothing else has attributes. -/
def Value.attribute (v : Value) (name : String) : Except Fault Value :=
  match v, Method.ofName? name with
  | .str s, some m => .ok (.method s m)
  | v, _ => .error (.noAttribute v.type name)

/-- Looks up a variable. -/
def Namespace.find (ns : Namespace) (name : String) : Except Fault Value :=
  match ns.get? name with
  | some v => .ok v
  | none => .error (.unbound name)

mutual

/-- Evaluates an expression. -/
def Expr.eval (host : Host ω) (ns : Namespace) : Expr → EvalM ω Value
  | .name n => .ofExcept (ns.find n)
  | .int i => return .int i
  | .bool b => return .bool b
  | .none => return .none
  | .str s => return .str s
  | .template parts => return .str (← evalParts host ns parts)
  | .tuple items => return .tuple (← evalAll host ns items)
  | .list items => return .list (← evalAll host ns items)
  | .star _ => .fail .misplacedStar
  | .unary op e => do
    let v ← e.eval host ns
    .ofExcept (Value.unary op v)
  | .binary op l r => do
    let a ← l.eval host ns
    let b ← r.eval host ns
    .ofExcept (Value.binary op a b)
  | .compare op l r => do
    let a ← l.eval host ns
    let b ← r.eval host ns
    return .bool (← .ofExcept (Value.compared op a b))
  | .logical op l r => do
    let a ← l.eval host ns
    let decided := match op with
      | .and => !a.truthy
      | .or => a.truthy
    if decided then return a else r.eval host ns
  | .call f args keywords => do
    let f ← f.eval host ns
    let positional ← evalAll host ns args
    let keywords ← evalKeywords host ns keywords
    f.callWith host ⟨positional, keywords⟩
  | .attribute e n => do
    let v ← e.eval host ns
    .ofExcept (v.attribute n)
  | .subscript e i => do
    let v ← e.eval host ns
    let index ← i.eval host ns
    .ofExcept (v.itemAt index)

/-- Evaluates expressions in order. -/
def evalAll (host : Host ω) (ns : Namespace) : List Expr → EvalM ω (List Value)
  | [] => return []
  | e :: es => do
    let v ← e.eval host ns
    return v :: (← evalAll host ns es)

/-- Evaluates arguments given by name in order. -/
def evalKeywords (host : Host ω) (ns : Namespace) : List Keyword → EvalM ω (List (String × Value))
  | [] => return []
  | .mk n e :: ks => do
    let v ← e.eval host ns
    return (n, v) :: (← evalKeywords host ns ks)

/-- Evaluates the parts of an interpolated string in order and joins their texts. -/
def evalParts (host : Host ω) (ns : Namespace) : List Part → EvalM ω String
  | [] => return ""
  | .literal s :: ps => return s ++ (← evalParts host ns ps)
  | .field e spec :: ps => do
    let v ← e.eval host ns
    let s ← .ofExcept (v.format spec)
    return s ++ (← evalParts host ns ps)

end

end Tilde
