import Tilde.OsError
import Tilde.Program
import Tilde.Shell.Quote
import Tilde.Value

/-!
# Faults

What can go wrong while a program runs. A fault is a cause with the data its message needs; its kind
is what a handler asks for. A request to exit is not a fault: it stops the program in the same way,
but only a handler that names it takes it.
-/

namespace Tilde

/-- The kinds of fault that handlers and diagnostics name. -/
inductive FaultKind where
  | syntaxError
  | nameError
  | typeError
  | valueError
  | attributeError
  | indexError
  | zeroDivisionError
  | assertionError
  | childProcessError
  | osError
  | systemExit
  deriving DecidableEq, Repr

/-- The name of a kind. -/
def FaultKind.name : FaultKind → String
  | syntaxError => "SyntaxError"
  | nameError => "NameError"
  | typeError => "TypeError"
  | valueError => "ValueError"
  | attributeError => "AttributeError"
  | indexError => "IndexError"
  | zeroDivisionError => "ZeroDivisionError"
  | assertionError => "AssertionError"
  | childProcessError => "ChildProcessError"
  | osError => "OSError"
  | systemExit => "SystemExit"

/-- How many arguments a function takes, as its refusal of a call says it. -/
inductive Expected where
  | exactly (n : Nat)
  | atLeast (n : Nat)
  | atMost (n : Nat)
  deriving DecidableEq, Repr

/-- The wording of an expected number of arguments. -/
def Expected.text : Expected → String
  | exactly n => s!"exactly {n} {noun n}"
  | atLeast n => s!"at least {n} {noun n}"
  | atMost n => s!"at most {n} {noun n}"
where
  noun (n : Nat) : String := if n = 1 then "argument" else "arguments"

/-- The operators that are written in front of a number. -/
def UnaryOp.symbol : UnaryOp → String
  | invert => "~"
  | neg => "-"
  | not => "not"

/-- How an operator is written. -/
def BinaryOp.symbol : BinaryOp → String
  | add => "+"
  | sub => "-"
  | mul => "*"
  | floorDiv => "//"
  | mod => "%"

/-- What went wrong. -/
inductive Fault where
  | unbound (name : String)
  -- operands
  | notNumber (op : UnaryOp) (operand : ValueType)
  | unsupported (op : BinaryOp) (left right : ValueType)
  | notComparable (left right : ValueType)
  | notSubstring (item : ValueType)
  | notContainer (container : ValueType)
  | notIndex (index : ValueType)
  | notSubscriptable (operand : ValueType)
  | indexOutOfRange (operand : ValueType)
  | noAttribute (operand : ValueType) (name : String)
  | overflow
  | divisionByZero
  | tooLarge
  | badFormat (spec : String) (operand : ValueType)
  | badWidth (spec : String)
  | misplacedStar
  -- statements
  | notIterable (operand : ValueType)
  | notUnpackable (operand : ValueType)
  | tooFewItems (expected got : Nat)
  | tooFewForStar (expected got : Nat)
  | tooManyItems (expected : Nat)
  | assertion (message : String)
  | outsideLoop
  -- calls
  | notCallable (operand : ValueType)
  | unexpectedKeyword (function name : String)
  | argumentCount (function : String) (expected : Expected) (given : Nat)
  | noLength (operand : ValueType)
  | notText (keyword : String) (operand : ValueType)
  | notInteger (operand : ValueType)
  | badInteger (literal : String)
  | notBound (operand : ValueType)
  | zeroStep
  | notStatus (operand : ValueType)
  | statusOutOfRange (status : Int64)
  | notString (method : String) (operand : ValueType)
  | emptySeparator
  | notJoinable (operand : ValueType)
  | notStringItem (index : Nat) (operand : ValueType)
  -- commands
  | notCommand (function : String) (operand : ValueType)
  | unquotable (error : Shell.QuoteError)
  | shell (error : Shell.RunError)
  /-- The output of the program cannot be written. -/
  | io (error : OsError)
  deriving DecidableEq, Repr

namespace Fault

/-- The kind of a fault. -/
def kind : Fault → FaultKind
  | unbound _ => .nameError
  | notNumber .. | unsupported .. | notComparable .. | notSubstring _ | notContainer _
  | notIndex _ | notSubscriptable _ | misplacedStar | notIterable _ | notUnpackable _
  | outsideLoop | notCallable _ | unexpectedKeyword .. | argumentCount .. | noLength _
  | notText .. | notInteger _ | notBound _ | notStatus _ | notString .. | notJoinable _
  | notStringItem .. | notCommand .. => .typeError
  | overflow | tooLarge | badFormat .. | badWidth _ | tooFewItems .. | tooFewForStar ..
  | tooManyItems _ | badInteger _ | zeroStep | statusOutOfRange _ | emptySeparator
  | unquotable _ => .valueError
  | noAttribute .. => .attributeError
  | indexOutOfRange _ => .indexError
  | divisionByZero => .zeroDivisionError
  | assertion _ => .assertionError
  | shell (.failed _) => .childProcessError
  | shell (.notStarted ..) | shell (.io _) | io _ => .osError

/-- The message of a fault. -/
def message : Fault → String
  | unbound name => s!"name '{name}' is not defined"
  | notNumber op t => s!"bad operand type for unary {op.symbol}: '{t.name}'"
  | unsupported op l r =>
    s!"unsupported operand type(s) for {op.symbol}: '{l.name}' and '{r.name}'"
  | notComparable l r =>
    s!"comparison not supported between instances of '{l.name}' and '{r.name}'"
  | notSubstring t => s!"'in <string>' requires string as left operand, not {t.name}"
  | notContainer t => s!"argument of type '{t.name}' is not iterable"
  | notIndex t => s!"indices must be integers, not {t.name}"
  | notSubscriptable t => s!"'{t.name}' object is not subscriptable"
  | indexOutOfRange t => s!"{t.name} index out of range"
  | noAttribute t name => s!"'{t.name}' object has no attribute '{name}'"
  | overflow => "integer overflow"
  | divisionByZero => "integer division or modulo by zero"
  | tooLarge => "repetition result is too large"
  | badFormat spec t => s!"Invalid format specifier '{spec}' for object of type '{t.name}'"
  | badWidth spec => s!"width too large in '{spec}'"
  | misplacedStar => "starred expression is not allowed here"
  | notIterable t => s!"'{t.name}' object is not iterable"
  | notUnpackable t => s!"cannot unpack non-iterable {t.name} object"
  | tooFewItems expected got =>
    s!"not enough values to unpack (expected {expected}, got {got})"
  | tooFewForStar expected got =>
    s!"not enough values to unpack (expected at least {expected}, got {got})"
  | tooManyItems expected => s!"too many values to unpack (expected {expected})"
  | assertion message => message
  | outsideLoop => "'break' or 'continue' outside loop"
  | notCallable t => s!"'{t.name}' object is not callable"
  | unexpectedKeyword function name =>
    s!"{function}() got an unexpected keyword argument '{name}'"
  | argumentCount function expected given =>
    s!"{function}() takes {expected.text} ({given} given)"
  | noLength t => s!"object of type '{t.name}' has no len()"
  | notText keyword t => s!"{keyword} must be None or a string, not {t.name}"
  | notInteger t => s!"int() argument must be a string or a number, not '{t.name}'"
  | badInteger literal =>
    s!"invalid literal for int() with base 10: {Value.writeString literal}"
  | notBound t => s!"'{t.name}' object cannot be interpreted as an integer"
  | zeroStep => "range() arg 3 must not be zero"
  | notStatus t => s!"exit code must be an int, not '{t.name}'"
  | statusOutOfRange status => s!"exit code {status.toInt} is out of range"
  | notString method t => s!"{method}() argument must be str, not {t.name}"
  | emptySeparator => "empty separator"
  | notJoinable t => s!"can only join an iterable, not '{t.name}'"
  | notStringItem index t => s!"sequence item {index}: expected str instance, {t.name} found"
  | notCommand function t => s!"{function}() expects a command string, not '{t.name}'"
  | unquotable error => error.message
  | shell error => error.message
  | io error => error.message

end Fault

end Tilde
