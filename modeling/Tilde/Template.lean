import Tilde.Text.Blank

/-!
# The body of an interpolated string

The body alternates literal text, in which `{{` and `}}` stand for single braces, and fields, each
a source text in braces with an optional `:` and format spec. Inside a field, quotes hide
everything up to the next quote of their kind, and brackets nest, so a colon or a closing brace
counts only outside both. The source text of a field is parsed later.
-/

namespace Tilde.Template

/-- One piece of the body of an interpolated string. -/
inductive Piece where
  /-- Text copied as it is, its doubled braces already single. -/
  | literal (text : String)
  /-- A field: the source text of an expression and its format spec. -/
  | field (source : String) (spec : Option String)
  deriving DecidableEq, Repr

/-- Why a body is malformed. -/
inductive Fault where
  | unterminatedField
  | strayBrace
  | emptyField
  deriving DecidableEq, Repr

/-- The message of a fault. -/
def Fault.message : Fault → String
  | .unterminatedField => "f-string: expecting '\x7d'"
  | .strayBrace => "f-string: single '\x7d' is not allowed"
  | .emptyField => "f-string: empty expression not allowed"

/-- A field being read. The characters of `source` and `spec` are kept last first; `depth` counts
open brackets, and `quote` is the quote that has to be closed. -/
structure Field where
  source : List Char := []
  spec : Option (List Char) := none
  depth : Nat := 0
  quote : Option Char := none
  deriving DecidableEq, Repr

namespace Field

/-- Keeps a character, in the spec once its colon has been read. -/
def keep (f : Field) (c : Char) : Field :=
  match f.spec with
  | some spec => { f with spec := some (c :: spec) }
  | none => { f with source := c :: f.source }

/-- Whether the character closes the field. -/
def closes (f : Field) (c : Char) : Bool :=
  f.quote.isNone && f.depth == 0 && c == '\x7d'

/-- Reads a character that does not close the field. -/
def feed (f : Field) (c : Char) : Field :=
  match f.quote with
  | some q => { f with quote := if c = q then none else some q }.keep c
  | none =>
    if c = ':' && f.depth == 0 && f.spec.isNone then { f with spec := some [] }
    else if c = '\'' || c = '"' then { f with quote := some c }.keep c
    else if c = '(' || c = '[' || c = '\x7b' then { f with depth := f.depth + 1 }.keep c
    else if c = ')' || c = ']' || c = '\x7d' then { f with depth := f.depth - 1 }.keep c
    else f.keep c

/-- The piece that a closed field makes. A field without an expression is refused. -/
def close (f : Field) : Except Fault Piece :=
  if f.source.all Text.isBlank then .error .emptyField
  else .ok (.field (String.ofList f.source.reverse)
    (f.spec.map fun spec => String.ofList spec.reverse))

end Field

/-- Ends a literal, whose characters are kept last first; an empty one is no piece. -/
def flush (literal : List Char) (pieces : List Piece) : List Piece :=
  if literal.isEmpty then pieces else .literal (String.ofList literal.reverse) :: pieces

/-- Where the reader of a body stands. -/
inductive Reading where
  | literal (text : List Char)
  | field (f : Field)

/-- Reads the rest of a body; `pieces` holds the pieces read so far, the last of them first. -/
def read (pieces : List Piece) : Reading → List Char → Except Fault (List Piece)
  | .literal text, '\x7b' :: '\x7b' :: rest => read pieces (.literal ('\x7b' :: text)) rest
  | .literal text, '\x7d' :: '\x7d' :: rest => read pieces (.literal ('\x7d' :: text)) rest
  | .literal text, '\x7b' :: rest => read (flush text pieces) (.field {}) rest
  | .literal _, '\x7d' :: _ => .error .strayBrace
  | .literal text, c :: rest => read pieces (.literal (c :: text)) rest
  | .literal text, [] => .ok (flush text pieces).reverse
  | .field f, c :: rest =>
    if f.closes c then
      match f.close with
      | .ok piece => read (piece :: pieces) (.literal []) rest
      | .error fault => .error fault
    else read pieces (.field (f.feed c)) rest
  | .field _, [] => .error .unterminatedField

/-- Splits the body of an interpolated string into its pieces. -/
def split (body : List Char) : Except Fault (List Piece) := read [] (.literal []) body

end Tilde.Template
