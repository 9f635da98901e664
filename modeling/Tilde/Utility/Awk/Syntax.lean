import Tilde.Text.Utf8

/-!
# Awk programs

What a program that scans records consists of: rules with patterns and actions, functions, and the
statements and expressions in them.
-/

namespace Tilde.Utility.Awk

open Unix (Bytes)

/-- Where a variable is kept. -/
inductive Place where
  | everywhere (n : Nat)
  /-- In the call of a function. -/
  | inCall (n : Nat)
  deriving DecidableEq, Repr, Inhabited

/-- The operators of arithmetic. -/
inductive ArithOp where
  | add
  | sub
  | mul
  | div
  | mod
  | pow
  deriving DecidableEq, Repr

/-- The comparisons. -/
inductive CompareOp where
  | lt
  | le
  | eq
  | ne
  | gt
  | ge
  deriving DecidableEq, Repr

/-- The functions that are always there. -/
inductive Builtin where
  | length
  | substr
  | index
  | split
  | sub
  | gsub
  | match_
  | sprintf
  | sin
  | cos
  | atan2
  | exp
  | log
  | sqrt
  | int
  | rand
  | srand
  | tolower
  | toupper
  | system
  | close
  | fflush
  | strftime
  | mktime
  | systime
  deriving DecidableEq, Repr

/-- Where a record is read from. -/
inductive Feed where
  /-- The input of the program. -/
  | main
  | file
  | command
  deriving DecidableEq, Repr

/-- Expressions. -/
inductive Expr where
  | number (x : Float)
  | text (s : Bytes)
  /-- A pattern, which by itself asks whether the record matches it. -/
  | regex (s : Bytes)
  | var (p : Place)
  | field (e : Expr)
  | element (array : Place) (subscripts : List Expr)
  | assign (target value : Expr)
  | update (op : ArithOp) (target value : Expr)
  /-- Adds one or takes one away; the value is that after it or that before it. -/
  | step (isAfter down : Bool) (target : Expr)
  | choice (c a b : Expr)
  | both (a b : Expr)
  | either (a b : Expr)
  | not (a : Expr)
  | negate (a : Expr)
  | plus (a : Expr)
  | arith (op : ArithOp) (a b : Expr)
  | compare (op : CompareOp) (a b : Expr)
  | isMatch (wanted : Bool) (a pattern : Expr)
  | member (subscripts : List Expr) (array : Place)
  | concat (a b : Expr)
  | call (f : Nat) (args : List Expr)
  | builtin (b : Builtin) (args : List Expr)
  | getline (feed : Feed) (source target : Option Expr)
  /-- Several expressions in parentheses. -/
  | group (es : List Expr)
  deriving Inhabited

/-- Where output goes. -/
inductive Dest where
  | main
  | file (e : Expr)
  | append (e : Expr)
  | command (e : Expr)

/-- Statements. -/
inductive Stmt where
  | block (body : List Stmt)
  | ifElse (c : Expr) (yes no : Stmt)
  | while_ (c : Expr) (body : Stmt)
  | doWhile (body : Stmt) (c : Expr)
  | for_ (start : Stmt) (c : Option Expr) (next body : Stmt)
  | forIn (target : Expr) (array : Place) (body : Stmt)
  | break_
  | continue_
  | next
  | nextFile
  | exit (e : Option Expr)
  | return_ (e : Option Expr)
  | delete (array : Place) (subscripts : List Expr)
  | print (args : List Expr) (dest : Dest)
  | printf (args : List Expr) (dest : Dest)
  | expr (e : Expr)
  deriving Inhabited

/-- Which records a rule is about. -/
inductive Pattern where
  | always
  | when (e : Expr)
  | range (first last : Expr)

/-- What is done to which records. -/
structure Rule where
  pattern : Pattern
  action : Stmt

/-- A function: the number of its parameters, and what it does. -/
structure Function where
  params : Nat
  body : Stmt

/-- A program. -/
structure Program where
  begins : List Stmt := []
  rules : List Rule := []
  ends : List Stmt := []
  functions : Array Function := #[]
  /-- The names of the variables. -/
  names : Array Bytes := #[]

/-- The variables with a meaning, in the order in which they are kept. -/
def specialNames : List Bytes := ["NF", "NR", "FNR", "FS", "OFS", "ORS", "RS", "FILENAME", "SUBSEP",
  "RSTART", "RLENGTH", "CONVFMT", "OFMT", "ENVIRON", "ARGC", "ARGV"]

/-- The functions that are always there, by their names. -/
def builtins : List (Bytes × Builtin) := [("length", .length), ("substr", .substr),
  ("index", .index), ("split", .split), ("sub", .sub), ("gsub", .gsub), ("match", .match_),
  ("sprintf", .sprintf), ("sin", .sin), ("cos", .cos), ("atan2", .atan2), ("exp", .exp),
  ("log", .log), ("sqrt", .sqrt), ("int", .int), ("rand", .rand), ("srand", .srand),
  ("tolower", .tolower), ("toupper", .toupper), ("system", .system), ("close", .close),
  ("fflush", .fflush), ("strftime", .strftime), ("mktime", .mktime), ("systime", .systime)]

/-- The words with a meaning. -/
def keywords : List Bytes :=
  ["BEGIN", "END", "function", "func", "if", "else", "while", "do", "for",
  "in", "break", "continue", "next", "nextfile", "exit", "return", "delete", "print", "printf",
  "getline"]

end Tilde.Utility.Awk
