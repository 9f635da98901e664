import Tilde.Eval.Basic
import Tilde.Text.Case
import Tilde.Text.Pieces

/-!
# Methods of strings
-/

namespace Tilde

/-- A list of strings. -/
def Value.ofPieces (pieces : List (List Char)) : Value :=
  .list (pieces.map fun p => .str (String.ofList p))

namespace Method

/-- The characters that a stripping method removes: white space, unless the argument names
others. -/
def stripped (m : Method) : Option Value → Except Fault (Char → Bool)
  | none | some .none => .ok Text.isBlank
  | some (.str cs) => .ok cs.toList.contains
  | some v => .error (.notString m.name v.type)

/-- The strings among the items of a joined value, all of which have to be strings. `i` is the
number of the first one. -/
def pieces (i : Nat) : List Value → Except Fault (List String)
  | [] => .ok []
  | .str s :: vs => return s :: (← pieces (i + 1) vs)
  | v :: _ => .error (.notStringItem i v.type)

/-- Calls a method. -/
def call (m : Method) (s : String) (args : Args) : Except Fault Value := do
  match m with
  | .splitlines =>
    args.noArgs m.name
    return .ofPieces (Text.lines s.toList)
  | .strip =>
    let p ← m.stripped (← args.atMostOne m.name)
    return .str (String.ofList (Text.trimEndWhere p (Text.trimStartWhere p s.toList)))
  | .lstrip =>
    let p ← m.stripped (← args.atMostOne m.name)
    return .str (String.ofList (Text.trimStartWhere p s.toList))
  | .rstrip =>
    let p ← m.stripped (← args.atMostOne m.name)
    return .str (String.ofList (Text.trimEndWhere p s.toList))
  | .split =>
    match ← args.atMostOne m.name with
    | none | some .none => return .ofPieces (Text.words s.toList)
    | some (.str sep) =>
      if sep.isEmpty then throw .emptySeparator
      else return .ofPieces (Text.split sep.toList s.toList)
    | some v => throw (.notString m.name v.type)
  | .startswith =>
    match ← args.one m.name with
    | .str front => return .bool (Text.startsWith front.toList s.toList)
    | v => throw (.notString m.name v.type)
  | .endswith =>
    match ← args.one m.name with
    | .str back => return .bool (Text.endsWith back.toList s.toList)
    | v => throw (.notString m.name v.type)
  | .upper =>
    args.noArgs m.name
    return .str (Text.upper s)
  | .lower =>
    args.noArgs m.name
    return .str (Text.lower s)
  | .replace =>
    match ← args.between m.name 2 2 with
    | [.str old, .str new] =>
      return .str (String.ofList (Text.replace old.toList new.toList s.toList))
    | [.str _, v] => throw (.notString m.name v.type)
    | v :: _ => throw (.notString m.name v.type)
    | [] => throw (.argumentCount m.name (.exactly 2) 0)
  | .join =>
    let v ← args.one m.name
    match v.items? with
    | none => throw (.notJoinable v.type)
    | some items => return .str (s.intercalate (← pieces 0 items))

end Method

end Tilde
