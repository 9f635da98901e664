import Tilde.Text.Printable

/-!
# Quoting

Two parts that have little in common: how a value is quoted, and which places of a command text are
quoted already.

A value is written as one shell word. The program leaves this to a quoting library, so the chunking,
from `Styles` to `quoteChars`, is that library's; the program's own part begins with `QuoteError`,
the message for a value that cannot be quoted. The library cuts a value into chunks, each as long as
possible, whose characters agree on a style: bare, in single quotes or in double quotes. No style
suits every character: single quotes cannot hold a single quote; a backslash is left to double
quotes; an expansion character is live in double quotes; and a caret, which an old shell may read as
a pipe and an interactive one as a history reference, only opens a single-quoted chunk.

The scan for quotes is all the program's own. In a command text, a single quote opens and closes a
span outside double quotes, and a double quote outside single quotes. Backslashes are ordinary
there. The quote characters of a span belong to it.
-/

namespace Tilde.Shell

/-! ## What the quoting library does -/

/-- The styles that are open to a chunk. -/
structure Styles where
  bare : Bool
  single : Bool
  double : Bool
  deriving DecidableEq, Repr

namespace Styles

/-- The styles in both. -/
def meet (s t : Styles) : Styles := ⟨s.bare && t.bare, s.single && t.single, s.double && t.double⟩

/-- Whether no style is left. -/
def isEmpty (s : Styles) : Bool := !s.bare && !s.single && !s.double

end Styles

/-- Whether the character means itself to every shell without quotes. -/
def isBare (c : Char) : Bool :=
  ('0' ≤ c && c ≤ '9') || ('A' ≤ c && c ≤ 'Z') || ('a' ≤ c && c ≤ 'z') ||
    ['+', '-', '.', '/', ':', '@', ']', '_'].contains c

/-- The styles that a character allows in the middle of a chunk. -/
def stylesOf (c : Char) : Styles where
  bare := isBare c
  single := !(['\'', '^', '\\'].contains c)
  double := !(['\x60', '$', '!', '^'].contains c)

/-- The styles that a chunk may have after its first character. -/
def firstStyles (c : Char) : Styles :=
  if c = '^' then ⟨false, true, false⟩ else stylesOf c

/-- A chunk in the plainest style it allows. -/
def writeChunk (s : Styles) (chunk : List Char) : List Char :=
  if s.bare then chunk
  else if s.single then '\'' :: chunk ++ ['\'']
  else '"' :: chunk.flatMap (fun c => if c = '"' || c = '\\' then ['\\', c] else [c]) ++ ['"']

/-- Writes the chunk read so far, whose characters are kept last first, and the rest of the
value. -/
def writeChunks (s : Styles) (chunk : List Char) : List Char → List Char
  | [] => writeChunk s chunk.reverse
  | c :: cs =>
    let next := s.meet (stylesOf c)
    if next.isEmpty then writeChunk s chunk.reverse ++ writeChunks (firstStyles c) [c] cs
    else writeChunks next (c :: chunk) cs

/-- A value as one shell word. -/
def quoteChars : List Char → List Char
  | [] => ['\'', '\'']
  | c :: cs => writeChunks (firstStyles c) [c] cs

/-! ## What the program makes of it -/

/-- A value that no shell word can hold, since it has a NUL in it. -/
structure QuoteError where
  value : String
  deriving DecidableEq, Repr

/-- The message of the error. -/
def QuoteError.message (e : QuoteError) : String :=
  s!"cannot quote {Text.escapedText e.value} for the shell: it contains a NUL byte"

/-- Quotes a value, so that a shell reads it back as exactly one word. -/
def quote (value : String) : Except QuoteError String :=
  if value.toList.contains '\x00' then .error ⟨value⟩
  else .ok (String.ofList (quoteChars value.toList))

/-! ## Where a command text is inside single quotes -/

/-- The kind of span that a place in a command text is in. -/
inductive Span where
  | plain
  | single
  | double
  deriving DecidableEq, Repr

namespace Span

/-- The span after a character. -/
def next : Span → Char → Span
  | plain, '\'' => single
  | plain, '"' => double
  | single, '\'' => plain
  | double, '"' => plain
  | s, _ => s

/-- The span at the end of a text that begins in this one. -/
def run (s : Span) (cs : List Char) : Span := cs.foldl next s

end Span

/-- Whether a text that begins in the span `s` has its character number `i` in single quotes; past
the end, whether text appended to it would be. -/
def singleQuotedFrom (s : Span) : List Char → Nat → Bool
  | [], _ => s == .single
  | c :: _, 0 => s == .single || s.next c == .single
  | c :: cs, i + 1 => singleQuotedFrom (s.next c) cs i

/-- Whether the character at the index is in single quotes; past the end, whether text appended to
the command would be. -/
def isSingleQuoted (command : String) (index : Nat) : Bool :=
  singleQuotedFrom .plain command.toList index

/-- For each character of a text that begins in the span `s`, whether it is in single quotes. -/
def singleQuotedFlags (s : Span) : List Char → List Bool
  | [] => []
  | c :: cs => (s == .single || s.next c == .single) :: singleQuotedFlags (s.next c) cs

/-- The flag of each character is the answer for its index. -/
theorem getElem?_singleQuotedFlags (s : Span) (cs : List Char) (i : Nat) :
    (singleQuotedFlags s cs)[i]? =
      if i < cs.length then some (singleQuotedFrom s cs i) else none := by
  induction cs generalizing s i with
  | nil => simp [singleQuotedFlags]
  | cons c cs ih =>
    cases i with
    | zero => simp [singleQuotedFlags, singleQuotedFrom]
    | succ i => simp [singleQuotedFlags, singleQuotedFrom, ih]

/-- Whether text appended to the command would be in single quotes. -/
def endsSingleQuoted (command : List Char) : Bool := Span.run .plain command == .single

end Tilde.Shell
