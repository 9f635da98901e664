import Tilde.Fault
import Tilde.Program
import Tilde.Value

/-!
# Namespaces

The variables of a running program. A fresh namespace binds every built-in function, the helpers of
shell literals among them, and the name of the main module.
-/

namespace Tilde

/-- Variables and their values. -/
structure Namespace where
  bindings : List (String × Value)

namespace Namespace

/-- The value of a variable. -/
def get? (ns : Namespace) (name : String) : Option Value := ns.bindings.lookup name

/-- The bindings with a variable set. -/
def setIn (name : String) (v : Value) : List (String × Value) → List (String × Value)
  | [] => [(name, v)]
  | (n, w) :: rest => if n = name then (n, v) :: rest else (n, w) :: setIn name v rest

/-- Sets a variable. -/
def set (ns : Namespace) (name : String) (v : Value) : Namespace :=
  ⟨setIn name v ns.bindings⟩

/-- A fresh namespace. -/
def fresh : Namespace :=
  ⟨Builtin.all.map (fun f => (f.name, .builtin f)) ++ [("__name__", .str "__main__")]⟩

/-- A fresh namespace for a script, with its name and arguments. -/
def withArgs (args : List String) : Namespace :=
  fresh.set "argv" (.list (args.map .str))

end Namespace

/-! ## Binding targets

Binding a value to a target takes the value apart as the target asks. The items are bound from left
to right, so where a later item does not fit, the earlier names are bound already. -/

/-- Changes of a namespace, which a fault may cut short. -/
abbrev BindM := ExceptT Fault (StateM Namespace)

/-- Sets a variable. -/
def BindM.setName (name : String) (v : Value) : BindM Unit := modify (·.set name v)

namespace Target

/-- Whether the target is a starred name. -/
def isStar : Target → Bool
  | .star _ => true
  | _ => false

/-- The parts of a value that the items of a sequence get: one item each, and for a starred one the
list of the items that its neighbours leave. -/
def distribute (targets : List Target) (items : List Value) : Except Fault (List Value) :=
  let wanted := targets.length
  let given := items.length
  match targets.findIdx? isStar with
  | none =>
    if given < wanted then .error (.tooFewItems wanted given)
    else if wanted < given then .error (.tooManyItems wanted)
    else .ok items
  | some before =>
    let after := wanted - before - 1
    if given < before + after then .error (.tooFewForStar (before + after) given)
    else
      let middle := given - before - after
      .ok (items.take before ++ .list ((items.drop before).take middle)
        :: items.drop (before + middle))

mutual

/-- Binds a value. -/
def bind : Target → Value → BindM Unit
  | .name n, v => .setName n v
  | .star n, v =>
    match v.items? with
    | some items => .setName n (.list items)
    | none => throw (.notIterable v.type)
  | .sequence targets, v =>
    match v.items? with
    | none => throw (.notUnpackable v.type)
    | some items =>
      match distribute targets items with
      | .error f => throw f
      | .ok parts => bindAll targets parts

/-- Binds values, one to each target. -/
def bindAll : List Target → List Value → BindM Unit
  | t :: ts, v :: vs => do
    t.bind v
    bindAll ts vs
  | _, _ => return ()

end

end Target

end Tilde
