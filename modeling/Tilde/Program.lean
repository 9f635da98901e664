/-!
# Programs

The tree of an expression; statements, each with the line it starts on; and the programs they make.
The tilde is the complement of a number and, in front of a string literal, marks a shell command.
-/

namespace Tilde

/-! ## Expressions -/

/-- Operators in front of one operand. -/
inductive UnaryOp where
  | invert
  | neg
  | not
  deriving DecidableEq, Repr

/-- Arithmetic operators, which on sequences join and repeat. -/
inductive BinaryOp where
  | add
  | sub
  | mul
  | floorDiv
  | mod
  deriving DecidableEq, Repr

/-- Comparisons. -/
inductive Comparison where
  | eq
  | ne
  | lt
  | le
  | gt
  | ge
  | isIn
  | notIn
  deriving DecidableEq, Repr

/-- Connectives that skip their right operand when the left one decides. -/
inductive Connective where
  | and
  | or
  deriving DecidableEq, Repr

mutual

/-- An expression. -/
inductive Expr where
  | name (name : String)
  | int (value : Int64)
  | bool (value : Bool)
  | none
  | str (text : String)
  /-- An interpolated string. -/
  | template (parts : List Part)
  | tuple (items : List Expr)
  | list (items : List Expr)
  /-- An expression after a star, which makes sense in an assignment target only. -/
  | star (operand : Expr)
  | unary (op : UnaryOp) (operand : Expr)
  | binary (op : BinaryOp) (left right : Expr)
  | compare (op : Comparison) (left right : Expr)
  | logical (op : Connective) (left right : Expr)
  | call (func : Expr) (args : List Expr) (keywords : List Keyword)
  | attribute (operand : Expr) (name : String)
  | subscript (operand index : Expr)

/-- A part of an interpolated string. -/
inductive Part where
  | literal (text : String)
  | field (operand : Expr) (spec : Option String)

/-- An argument given by name. -/
inductive Keyword where
  | mk (name : String) (value : Expr)

end

/-- A call of a named function with positional arguments. -/
def Expr.callOf (name : String) (args : List Expr) : Expr := .call (.name name) args []

/-! ## Statements -/

/-- What an assignment or a loop binds. -/
inductive Target where
  | name (name : String)
  /-- A name that takes all the items its neighbours leave. -/
  | star (name : String)
  | sequence (items : List Target)
  deriving Repr

/-- Whether the target takes a value apart. -/
def Target.isSequence : Target → Bool
  | .name _ => false
  | .star _ | .sequence _ => true

mutual

/-- A statement. The first argument is the line it starts on. -/
inductive Stmt where
  /-- An expression evaluated for what it does. -/
  | evaluate (line : Nat) (value : Expr)
  | assign (line : Nat) (target : Target) (value : Expr)
  | assert (line : Nat) (test : Expr) (message : Option Expr)
  | pass (line : Nat)
  | breakLoop (line : Nat)
  | continueLoop (line : Nat)
  /-- A condition. A chain of alternatives is nested in `orelse`. -/
  | branch (line : Nat) (test : Expr) (body orelse : List Stmt)
  | whileLoop (line : Nat) (test : Expr) (body : List Stmt)
  | forEach (line : Nat) (target : Target) (items : Expr) (body : List Stmt)
  | attempt (line : Nat) (body : List Stmt) (handlers : List Handler)

/-- A clause that handles a fault: the kind it asks for, the name it binds to the message, and its
block. Without a kind it handles every fault. -/
inductive Handler where
  | mk (kind : Option String) (name : Option String) (body : List Stmt)

end

/-- The line a statement starts on. -/
def Stmt.line : Stmt → Nat
  | .evaluate line _ | .assign line _ _ | .assert line _ _ | .pass line | .breakLoop line
  | .continueLoop line | .branch line _ _ _ | .whileLoop line _ _ | .forEach line _ _ _
  | .attempt line _ _ => line

/-- How a source text is run. -/
inductive Mode where
  /-- As a script. -/
  | file
  /-- As input at the prompt, where the values of expression statements are shown. -/
  | interactive
  deriving DecidableEq, Repr

/-- A parsed source text. -/
structure Program where
  body : List Stmt
  mode : Mode

end Tilde
