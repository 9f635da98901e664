import Tilde.Shell.Delivery
import Tilde.Text.Blank
import Tilde.Text.Printable

/-!
# Values

What an expression evaluates to. Lists cannot change, so a list and a tuple differ in how they are
written and in what they equal, not in what can be done to them.
-/

namespace Tilde

/-- A function that every namespace starts with. -/
inductive Builtin where
  | print
  | len
  | str
  | int
  | repr
  | range
  | exit
  /-- Runs a command. -/
  | run (delivery : Shell.Delivery)
  /-- Quotes a value for a command. -/
  | quote
  deriving DecidableEq, Repr

namespace Builtin

/-- The name a built-in function is bound to. -/
def name : Builtin → String
  | print => "print"
  | len => "len"
  | str => "str"
  | int => "int"
  | repr => "repr"
  | range => "range"
  | exit => "exit"
  | run d => d.runner
  | quote => Shell.quoter

/-- All built-in functions. -/
def all : List Builtin :=
  [print, len, str, int, repr, range, exit, run .stream, run .single, run .triple, quote]

end Builtin

/-- A method of strings. -/
inductive Method where
  | splitlines
  | strip
  | lstrip
  | rstrip
  | split
  | startswith
  | endswith
  | upper
  | lower
  | replace
  | join
  deriving DecidableEq, Repr

namespace Method

/-- The name of a method. -/
def name : Method → String
  | splitlines => "splitlines"
  | strip => "strip"
  | lstrip => "lstrip"
  | rstrip => "rstrip"
  | split => "split"
  | startswith => "startswith"
  | endswith => "endswith"
  | upper => "upper"
  | lower => "lower"
  | replace => "replace"
  | join => "join"

/-- All methods. -/
def all : List Method :=
  [splitlines, strip, lstrip, rstrip, split, startswith, endswith, upper, lower, replace, join]

/-- The method of a name. -/
def ofName? (name : String) : Option Method := all.find? (·.name == name)

end Method

/-- A value of the language. -/
inductive Value where
  | none
  | bool (b : Bool)
  | int (i : Int64)
  | str (s : String)
  | tuple (items : List Value)
  | list (items : List Value)
  | builtin (f : Builtin)
  /-- A method looked up on a string and not called yet. -/
  | method (receiver : String) (m : Method)

/-- The type of a value. -/
inductive ValueType where
  | none
  | bool
  | int
  | str
  | tuple
  | list
  | builtin
  | method
  deriving DecidableEq, Repr

/-- The name of a type. -/
def ValueType.name : ValueType → String
  | none => "NoneType"
  | bool => "bool"
  | int => "int"
  | str => "str"
  | tuple => "tuple"
  | list => "list"
  | builtin => "builtin_function"
  | method => "method"

namespace Value

/-- The type of a value. -/
def type : Value → ValueType
  | none => .none
  | bool _ => .bool
  | int _ => .int
  | str _ => .str
  | tuple _ => .tuple
  | list _ => .list
  | builtin _ => .builtin
  | method .. => .method

/-- The name of the type of a value. -/
def typeName (v : Value) : String := v.type.name

/-- Whether a condition takes the value as true. -/
def truthy : Value → Bool
  | none => false
  | bool b => b
  | int i => i != 0
  | str s => !s.isEmpty
  | tuple items | list items => !items.isEmpty
  | builtin _ | method .. => true

/-- The number of the language that an integer is, if there is one. -/
def int64? (i : Int) : Option Int64 :=
  if Int64.minValue.toInt ≤ i ∧ i ≤ Int64.maxValue.toInt then some (Int64.ofInt i) else Option.none

/-- The number that a value is: a boolean counts as zero or one. -/
def asInt? : Value → Option Int64
  | int i => some i
  | bool b => some (if b then 1 else 0)
  | _ => Option.none

/-- The items that a loop goes through; a string has its characters. -/
def items? : Value → Option (List Value)
  | str s => some (s.toList.map fun c => str (String.singleton c))
  | tuple items | list items => some items
  | _ => Option.none

/-- The quote that a string is written in: double quotes where that spares escapes. -/
def quoteFor (s : List Char) : Char :=
  if s.contains '\'' && !s.contains '"' then '"' else '\''

/-- A character of a string as it is written between two `quote` characters. -/
def writeChar (quote c : Char) : List Char :=
  match c with
  | '\\' => ['\\', '\\']
  | '\n' => ['\\', 'n']
  | '\r' => ['\\', 'r']
  | '\t' => ['\\', 't']
  | c =>
    if c = quote then ['\\', c]
    else if Text.isControl c then
      ['\\', 'x', Nat.digitChar (c.toNat / 16), Nat.digitChar (c.toNat % 16)]
    else [c]

/-- A string as it is written in a program. -/
def writeString (s : String) : String :=
  let cs := s.toList
  let quote := quoteFor cs
  String.ofList (quote :: cs.flatMap (writeChar quote) ++ [quote])

mutual

/-- A value as it is written in a program. -/
def repr : Value → String
  | none => "None"
  | bool true => "True"
  | bool false => "False"
  | int i => toString i.toInt
  | str s => writeString s
  | tuple [item] => "(" ++ item.repr ++ ",)"
  | tuple items => "(" ++ ", ".intercalate (reprs items) ++ ")"
  | list items => "[" ++ ", ".intercalate (reprs items) ++ "]"
  | builtin f => s!"<built-in function {f.name}>"
  | method _ m => s!"<built-in method {m.name} of {ValueType.str.name} object>"

/-- Values as they are written in a program. -/
def reprs : List Value → List String
  | [] => []
  | v :: vs => v.repr :: reprs vs

end

/-- A value as text: a string is its own text. -/
def text : Value → String
  | str s => s
  | v => v.repr

mutual

/-- Whether two values are alike in every part, types included. -/
def same : Value → Value → Bool
  | none, none => true
  | bool a, bool b => a == b
  | int a, int b => a == b
  | str a, str b => a == b
  | tuple a, tuple b => sameAll a b
  | list a, list b => sameAll a b
  | builtin a, builtin b => a == b
  | method a m, method b n => a == b && m == n
  | _, _ => false

/-- Whether two lists of values are alike, item by item. -/
def sameAll : List Value → List Value → Bool
  | [], [] => true
  | a :: as, b :: bs => same a b && sameAll as bs
  | _, _ => false

end

/-- Whether the language takes two values as equal: numbers by their value, all else as `same`. -/
def equal (a b : Value) : Bool :=
  match a.asInt?, b.asInt? with
  | some i, some j => i == j
  | _, _ => same a b

end Value

end Tilde
