/-!
# Shell commands

The tree of a command text of the POSIX shell. Texts are kept as bytes, one in each character, since
a shell does not look at characters beyond ASCII.

A word is a row of atoms: its characters, the quotes around them, and the expansions in it. An
expansion with an argument opens and closes like a bracket, so the quotes in an argument are seen in
the order in which they were written.
-/

namespace Tilde.Sh

/-- Which matches of a pattern are replaced. -/
inductive Replaced where
  | first
  | all
  | atFront
  | atBack
  deriving DecidableEq, Repr

/-- What a parameter expansion does besides giving the parameter. -/
inductive ParamOp where
  | plain
  | length
  | orElse
  | orAssign
  | orFail
  | ifSet
  | cutBack (longest : Bool)
  | cutFront (longest : Bool)
  /-- A part of the text, from a place on. -/
  | slice
  /-- The first match of a pattern, or all of them, or one at an end, is replaced. -/
  | replace (which : Replaced)
  /-- Letters become capitals, or the other way. -/
  | changeCase (up all : Bool)
  /-- An expansion that is none. -/
  | bad
  deriving DecidableEq, Repr

/-- How a file is opened by a redirection. -/
inductive FileOp where
  | read
  | write
  /-- Also over a file that must not be overwritten. -/
  | overwrite
  | append
  | readWrite
  deriving DecidableEq, Repr

mutual

/-- A part of a word. -/
inductive Atom where
  /-- A character; an escaped one stands for itself in a pattern. -/
  | char (c : Char) (escaped : Bool)
  /-- A quote, which opens or closes. -/
  | quote
  /-- A parameter. With `colon`, an empty parameter counts as one that is not set. Unless the
  operation is plain, an argument follows, up to `paramEnd`. -/
  | param (name : String) (op : ParamOp) (colon : Bool)
  | paramEnd
  /-- The output of a command. -/
  | output (body : Command)
  /-- An arithmetic expression follows, up to `arithEnd`. -/
  | arith
  | arithEnd
  /-- The elements of an array that is assigned. -/
  | elements (words : List (List Atom))
  /-- A path under which a command is read, or written to. -/
  | process (reads : Bool) (body : Command)

/-- A redirection of a descriptor. -/
inductive Redirection where
  | file (fd : Nat) (op : FileOp) (path : List Atom)
  /-- To a copy of another descriptor. -/
  | copy (fd : Nat) (source : List Atom)
  /-- To a text that is given in the lines after the command, by the number of the text. -/
  | here (fd : Nat) (text : Nat)

/-- A condition between double brackets. -/
inductive Condition where
  | unary (op : String) (a : List Atom)
  | binary (op : String) (a b : List Atom)
  | negated (c : Condition)
  | both (c d : Condition)
  | either (c d : Condition)

/-- A command. -/
inductive Command where
  | nothing
  | simple (line : Nat) (assigns words : List (List Atom)) (redirs : List Redirection)
  | pipeline (background : Bool) (stages : List Command)
  | negated (body : Command)
  | both (first second : Command)
  | either (first second : Command)
  | sequence (first second : Command)
  | background (line : Nat) (body : Command) (redirs : List Redirection)
  | subshell (line : Nat) (body : Command) (redirs : List Redirection)
  | redirected (line : Nat) (body : Command) (redirs : List Redirection)
  | ifElse (test body orelse : Command)
  | loop (whileTrue : Bool) (test body : Command)
  | forIn (line : Nat) (name : String) (words : List (List Atom)) (body : Command)
  | caseOf (line : Nat) (subject : List Atom) (arms : List (List (List Atom) × Command))
  | define (line : Nat) (name : String) (body : Command)
  | condition (line : Nat) (c : Condition)
  /-- An expression, which is true if it is not zero. -/
  | arithmetic (line : Nat) (e : List Atom)
  /-- A loop that expressions begin, bound and carry on. -/
  | count (line : Nat) (start test next : List Atom) (body : Command)

end

/-- A word. -/
abbrev Word := List Atom

/-- The text of a word that has only characters that are not escaped. -/
def plainText? : Word → Option String
  | [] => some ""
  | .char c false :: w => (plainText? w).map fun s => String.ofList (c :: s.toList)
  | _ => none

/-- The characters of a word, whether quoted or not. -/
def bareText (w : Word) : String :=
  String.ofList (w.filterMap fun
    | .char c _ => some c
    | _ => none)

/-- Whether a name may start with the character. -/
def isNameStart (c : Char) : Bool :=
  ('a' ≤ c && c ≤ 'z') || ('A' ≤ c && c ≤ 'Z') || c == '_'

/-- Whether the character is a digit. -/
def isDigit (c : Char) : Bool := '0' ≤ c && c ≤ '9'

/-- Whether a name may go on with the character. -/
def isNameChar (c : Char) : Bool := isNameStart c || isDigit c

/-- Whether the text is a name. -/
def isName (s : String) : Bool :=
  match s.toList with
  | [] => false
  | c :: cs => isNameStart c && cs.all isNameChar

/-- Whether the character is a special parameter. -/
def isSpecial (c : Char) : Bool := ['@', '*', '#', '?', '-', '$', '!'].contains c

/-- The parts of a word that assigns to a variable or to an element of an array, or adds to it: the
name, the subscript, whether it adds, and the value. -/
structure Assignment where
  name : String
  subscript : Option Word := none
  adds : Bool := false
  value : Word

/-- The subscript and the value of an element of an array that is assigned. -/
def subscripted? (w : Word) : Option (Word × Word) :=
  match w with
  | .char '[' false :: rest =>
    let inside := rest.takeWhile (!isBracket ·)
    match rest.drop inside.length with
    | _ :: .char '=' false :: value => some (inside, value)
    | _ => none
  | _ => none
where
  isBracket : Atom → Bool
    | .char ']' false => true
    | _ => false

/-- Reads a word as an assignment. -/
def assignment? (w : Word) : Option Assignment := do
  let (name, rest) := nameOf [] w
  guard (isName name)
  match rest with
  | .char '=' false :: value => some { name, value }
  | .char '+' false :: .char '=' false :: value => some { name, adds := true, value }
  | .char '[' false :: rest =>
    let subscript := rest.takeWhile (!isBracket ·)
    match rest.drop subscript.length with
    | _ :: .char '=' false :: value => some { name, subscript := some subscript, value }
    | _ :: .char '+' false :: .char '=' false :: value =>
      some { name, subscript := some subscript, adds := true, value }
    | _ => none
  | _ => none
where
  nameOf (acc : List Char) : Word → String × Word
    | .char c false :: w =>
      if isNameChar c then nameOf (c :: acc) w else (String.ofList acc.reverse, .char c false :: w)
    | w => (String.ofList acc.reverse, w)
  isBracket : Atom → Bool
    | .char ']' false => true
    | _ => false

/-- Whether a word assigns to a variable. -/
def isAssignment : Word → Bool
  | .char c false :: w => isNameStart c && named w
  | _ => false
where
  named : Word → Bool
    | .char c false :: w => c == '=' || (isNameChar c && named w)
    | _ => false

end Tilde.Sh
