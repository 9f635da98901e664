/-!
# Classes of characters

A character class of the Unicode standard is a union of ranges. It is kept as the increasing list
of the code points at which membership changes, starting from "not a member" at zero, so a code
point belongs to the class exactly when an odd number of changes lies at or below it.

The smallest classes stand here: white space in the sense of the Unicode property `White_Space`, and
the control characters.
-/

namespace Tilde.Text

/-- A set of code points, given by the places where membership changes. -/
structure CodePointSet where
  flips : Array Nat

/-- Whether the character belongs to the set. -/
def CodePointSet.contains (s : CodePointSet) (c : Char) : Bool :=
  s.flips.countP (· ≤ c.toNat) % 2 == 1

/-! ## Blanks and control characters -/

/-- The `White_Space` code points from 128 on. -/
def blankSet : CodePointSet where
  flips := #[
    0x85, 0x86, 0xA0, 0xA1, 0x1680, 0x1681, 0x2000, 0x200B, 0x2028, 0x202A, 0x202F, 0x2030,
    0x205F, 0x2060, 0x3000, 0x3001]

/-- Whether the character is white space. -/
def isBlank (c : Char) : Bool :=
  if c.toNat < 128 then c == ' ' || (0x09 ≤ c.toNat && c.toNat ≤ 0x0D) else blankSet.contains c

/-- Whether the character is a control character. -/
def isControl (c : Char) : Bool :=
  c.toNat < 0x20 || (0x7F ≤ c.toNat && c.toNat < 0xA0)

/-- Removes the characters satisfying `p` from the front. -/
def trimStartWhere (p : Char → Bool) (cs : List Char) : List Char := cs.dropWhile p

/-- Removes the characters satisfying `p` from the back. -/
def trimEndWhere (p : Char → Bool) (cs : List Char) : List Char :=
  (cs.reverse.dropWhile p).reverse

/-- Removes the white space around a text. -/
def trim (s : String) : String :=
  String.ofList (trimEndWhere isBlank (trimStartWhere isBlank s.toList))

end Tilde.Text
