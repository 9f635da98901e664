/-!
# Regular expressions

What a regular expression is once it has been read: sets of bytes joined by sequence, choice and
repetition, with numbered groups, references to what a group has matched, and conditions on the
place.
-/

namespace Tilde.Regex

/-- A set of bytes: for each byte whether it belongs to the set. -/
structure ByteSet where
  members : ByteArray

namespace ByteSet

/-- The set of the bytes that a predicate holds of. -/
def ofPredicate (p : Char → Bool) : ByteSet :=
  ⟨⟨((List.range 256).map fun n => if p (Char.ofNat n) then 1 else 0).toArray⟩⟩

/-- Whether a byte belongs to a set. -/
def contains (s : ByteSet) (c : Char) : Bool :=
  let n := c.toNat
  if h : n < s.members.size then s.members[n] != 0 else false

/-- All bytes. -/
def all : ByteSet := ofPredicate fun _ => true

/-- One byte. -/
def one (c : Char) : ByteSet := ofPredicate (· == c)

/-- The bytes that do not belong to a set. -/
def complement (s : ByteSet) : ByteSet := ofPredicate (!s.contains ·)

/-- The set with both cases of each letter. -/
def ignoringCase (s : ByteSet) : ByteSet :=
  ofPredicate fun c => s.contains c || s.contains c.toLower || s.contains c.toUpper

end ByteSet

/-- Whether a byte may stand in a word. -/
def isWordByte (c : Char) : Bool := c.isAlphanum || c == '_'

/-- White space. -/
def isSpaceByte (c : Char) : Bool := c == ' ' || ('\t' ≤ c && c ≤ '\r')

/-- The members of a class of bytes. -/
def classOf? (name : String) : Option (Char → Bool) :=
  let isGraph (c : Char) : Bool := '!' ≤ c && c ≤ '~'
  match name with
  | "alpha" => some Char.isAlpha
  | "digit" => some Char.isDigit
  | "alnum" => some Char.isAlphanum
  | "upper" => some Char.isUpper
  | "lower" => some Char.isLower
  | "space" => some isSpaceByte
  | "blank" => some fun c => c == ' ' || c == '\t'
  | "punct" => some fun c => isGraph c && !c.isAlphanum
  | "print" => some fun c => isGraph c || c == ' '
  | "graph" => some isGraph
  | "cntrl" => some fun c => c < ' ' || c == '\x7F'
  | "xdigit" => some fun c =>
      c.isDigit || ('a' ≤ c && c ≤ 'f') || ('A' ≤ c && c ≤ 'F')
  | _ => none

/-- A condition on a place in a text. -/
inductive Place where
  | lineStart
  | lineEnd
  | textStart
  | textEnd
  | wordStart
  | wordEnd
  | wordEdge
  | noWordEdge
  /-- No word goes on to the place from before, or from it. -/
  | noWordBefore
  | noWordAfter
  deriving DecidableEq, Repr

end Regex

/-- A regular expression. -/
inductive Regex where
  | empty
  | byte (set : Regex.ByteSet)
  | place (p : Regex.Place)
  | seq (first second : Regex)
  | choice (first second : Regex)
  /-- At least `least` times, and at most `most` times if that is given. -/
  | times (r : Regex) (least : Nat) (most : Option Nat)
  | group (n : Nat) (r : Regex)
  /-- What a group has matched, once more. -/
  | again (n : Nat)

namespace Regex

/-- A sequence of expressions. -/
def ofList : List Regex → Regex
  | [] => .empty
  | [r] => r
  | r :: rs => .seq r (ofList rs)

/-- Whether an expression refers to what a group has matched. -/
def refers : Regex → Bool
  | .again _ => true
  | .seq a b | .choice a b => a.refers || b.refers
  | .times r _ _ | .group _ r => r.refers
  | .empty | .byte _ | .place _ => false

end Regex

end Tilde
