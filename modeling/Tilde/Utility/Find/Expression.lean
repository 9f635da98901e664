import Tilde.Regex.Search
import Tilde.Sh.Pattern
import Tilde.Unix.Conversion
import Tilde.Utility.Calendar
import Tilde.Utility.Permissions

/-!
# What a search asks of files

A search goes through the files below some places and asks the same expression of each of them:
tests that hold of a file or do not, and actions that are done with it, joined by `and`, `or` and
`not`. An operand that decides nothing any more is not asked.
-/

namespace Tilde.Utility.Find

open Unix (Bytes Conversion FileInfo)

/-- A number that something has to equal, to be above, or to be below. -/
structure Wanted where
  order : Ordering := .eq
  number : Nat

/-- Whether a number is one that is wanted. -/
def Wanted.fits (w : Wanted) (n : Int) : Bool := compare n (w.number : Int) == w.order

/-- Which of the permissions that are named a file has to have. -/
inductive ModeRule where
  | exactly
  | atLeast
  | any
  deriving DecidableEq, Repr

/-- What is asked of a file. -/
inductive Test where
  | always (answer : Bool)
  /-- The last name is of a form. -/
  | name (form : Sh.Pattern) (folds : Bool)
  /-- The whole path is of a form. -/
  | path (form : Sh.Pattern) (folds : Bool)
  /-- The file is a link, and where it leads is of a form. -/
  | target (form : Sh.Pattern) (folds : Bool)
  | regex (searcher : Regex.Searcher)
  /-- The letter of its kind is one of these. `through` asks of what a link leads to. -/
  | kind (letters : List Char) (through : Bool)
  /-- The size in units, of which the last one need not be full. -/
  | size (unit : Nat) (wanted : Wanted)
  | empty
  /-- The permissions, which may be meant otherwise for directories. -/
  | mode (rule : ModeRule) (file dir : Nat)
  /-- It was changed after a time in microseconds. -/
  | newer (time : Int)
  /-- How many whole units ago it was changed. -/
  | age (unit : Nat) (now : Int) (wanted : Wanted)
  /-- How long ago it was changed, where a part of a unit counts as a whole one. -/
  | ageUp (unit : Nat) (now : Int) (wanted : Wanted)
  | links (wanted : Wanted)
  | number (wanted : Wanted)
  | owner (wanted : Wanted)
  /-- It is the file of a number. -/
  | same (number : Nat)
  /-- It may be run. -/
  | runs

/-- A piece of a format. -/
inductive Piece where
  | text (s : Bytes)
  /-- Nothing is shown from here on. -/
  | stop
  | field (c : Conversion) (letter : Char)
  /-- A time as another letter asks for. -/
  | time (c : Conversion) (letter : Char)

/-- Where an action writes: to an open file, or to the output. -/
abbrev Outlet := Option Nat

/-- What is done with a file. -/
inductive Action where
  | print (outlet : Outlet) (ending : Bytes)
  | format (outlet : Outlet) (pieces : List Piece)
  | describe (outlet : Outlet)
  /-- Runs a command for the file, perhaps in its directory, and perhaps after a question. -/
  | run (command : List Bytes) (inDirectory asks : Bool)
  /-- Notes the file for a command that is run for many files at once. -/
  | gather (number : Nat) (command : List Bytes) (inDirectory : Bool)
  | delete
  /-- Nothing below the directory is looked at. -/
  | prune
  | quit

/-- Whether an action shows something, or does something with the file. -/
def Action.shows : Action → Bool
  | .prune | .quit => false
  | _ => true

/-- What is asked of each file. -/
inductive Expr where
  | test (t : Test)
  | act (a : Action)
  | not (e : Expr)
  | and (a b : Expr)
  | or (a b : Expr)
  /-- Both, of which the second is the answer. -/
  | both (a b : Expr)

/-- The letter of the kind of a file. -/
def kindLetter (i : FileInfo) : Char :=
  match i.kind with
  | .regular => 'f'
  | .directory => 'd'
  | .link => 'l'
  | .characterDevice => 'c'
  | .pipe => 'p'

/-- Whether a text is of a form, perhaps whatever the case of its letters is. -/
def isOfForm (form : Sh.Pattern) (folds : Bool) (text : Bytes) : Bool :=
  if folds then
    Sh.Pattern.matchesText (form.map fun c => { c with char := c.char.toLower })
      text.toLower.toList
  else form.matchesText text.toList

/-- Whether permissions are as they should be. -/
def ModeRule.fits (rule : ModeRule) (wanted mode : Nat) : Bool :=
  match rule with
  | .exactly => mode &&& 0o7777 == wanted
  | .atLeast => mode &&& wanted == wanted
  | .any => wanted == 0 || mode &&& wanted != 0

end Tilde.Utility.Find
