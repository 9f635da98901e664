import Tilde.Text.Letter
import Tilde.Value.Arith

/-!
# Format specs

A spec has the form `[[fill]align][width]`. Of the ways to read it the one with a fill comes first,
so an align character at the front is a fill where another one follows it. Strings go to the left
and everything else to the right, unless the spec says otherwise.
-/

namespace Tilde.Value

/-- On which side the text stands. -/
inductive Align where
  | left
  | right
  | center
  deriving DecidableEq, Repr

/-- The side that a character stands for. -/
def Align.ofChar? : Char → Option Align
  | '<' => some left
  | '>' => some right
  | '^' => some center
  | _ => .none

/-- A format spec, its width still in digits. -/
structure Spec where
  fill : Char := ' '
  align : Option Align := .none
  width : List Char := []
  deriving DecidableEq, Repr

namespace Spec

/-- Reads a spec with a fill and an align character. -/
def withFill? : List Char → Option Spec
  | fill :: c :: width => do
    let align ← Align.ofChar? c
    if fill ≠ '\n' && width.all Text.isDecimalDigit then some { fill, align := some align, width }
    else .none
  | _ => .none

/-- Reads a spec with an align character at the front. -/
def withAlign? : List Char → Option Spec
  | c :: width => do
    let align ← Align.ofChar? c
    if width.all Text.isDecimalDigit then some { align := some align, width } else .none
  | [] => .none

/-- Reads a spec of a width alone. -/
def widthOnly? (width : List Char) : Option Spec :=
  if width.all Text.isDecimalDigit then some { width } else .none

/-- Reads a spec. -/
def read? (spec : List Char) : Option Spec :=
  (withFill? spec).or ((withAlign? spec).or (widthOnly? spec))

/-- The width, if its digits are those of ASCII and it is not too great. -/
def width? (s : Spec) : Option Nat :=
  if s.width.all Text.isAsciiDigit then
    let w := s.width.foldl (fun n c => 10 * n + (c.toNat - '0'.toNat)) 0
    if w ≤ maxLength then some w else .none
  else .none

end Spec

/-- The number of fill characters before and after a text. -/
def padding (align : Align) (length width : Nat) : Nat × Nat :=
  let n := width - length
  match align with
  | .left => (0, n)
  | .right => (n, 0)
  | .center => (n / 2, n - n / 2)

/-- The side on which a value stands by itself. -/
def side : Value → Align
  | .str _ => .left
  | _ => .right

/-- A value as text, formatted by a spec. -/
def format (v : Value) (spec : Option String) : Except Fault String :=
  match spec with
  | .none => .ok v.text
  | some spec =>
    if spec.isEmpty then .ok v.text
    else match Spec.read? spec.toList with
      | .none => .error (.badFormat spec v.type)
      | some s =>
        match s.width? with
        | .none => .error (.badWidth spec)
        | some width =>
          let text := v.text
          let (before, after) := padding (s.align.getD v.side) text.length width
          .ok ((("".pushn s.fill before) ++ text).pushn s.fill after)

end Tilde.Value
