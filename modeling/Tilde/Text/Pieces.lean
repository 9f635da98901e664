import Tilde.Text.Blank

/-!
# Cutting texts and joining them

Occurrences of a separator are found from left to right and do not overlap.
-/

namespace Tilde.Text

/-- The text after the separator, if it stands at the front. -/
def afterFront? : (sep text : List Char) → Option (List Char)
  | [], text => some text
  | _ :: _, [] => none
  | a :: sep, c :: text => if a = c then afterFront? sep text else none

theorem afterFront?_length {sep text rest : List Char} (h : afterFront? sep text = some rest) :
    text.length = sep.length + rest.length := by
  induction sep generalizing text with
  | nil => simp_all [afterFront?]
  | cons a sep ih =>
    cases text with
    | nil => simp [afterFront?] at h
    | cons c text =>
      simp only [afterFront?] at h
      split at h
      · simp [ih h]; omega
      · contradiction

theorem afterFront?_shorter {a : Char} {sep text rest : List Char}
    (h : afterFront? (a :: sep) text = some rest) : rest.length < text.length := by
  have := afterFront?_length h
  simp at this
  omega

/-- The pieces between the occurrences of the separator `a :: sep`. `piece` holds the characters of
the first piece that are read already, the last of them first. -/
def splitFrom (a : Char) (sep : List Char) (piece : List Char) : List Char → List (List Char)
  | [] => [piece.reverse]
  | c :: cs =>
    match _found : afterFront? (a :: sep) (c :: cs) with
    | some rest => piece.reverse :: splitFrom a sep [] rest
    | none => splitFrom a sep (c :: piece) cs
termination_by text => text.length
decreasing_by
  · exact afterFront?_shorter _found
  · simp

/-- The pieces of a text between the occurrences of a separator. -/
def split (sep text : List Char) : List (List Char) :=
  match sep with
  | [] => [text]
  | a :: sep => splitFrom a sep [] text

/-- The runs of characters that are no white space. -/
def splitBlankFrom (word : List Char) : List Char → List (List Char)
  | [] => if word.isEmpty then [] else [word.reverse]
  | c :: cs =>
    if isBlank c then
      if word.isEmpty then splitBlankFrom [] cs else word.reverse :: splitBlankFrom [] cs
    else splitBlankFrom (c :: word) cs

/-- The words of a text. -/
def words (text : List Char) : List (List Char) := splitBlankFrom [] text

/-- The lines of a text, without their ends. `line` holds the characters of the first line that are
read already, the last of them first. A line ends with a line feed, and with the carriage return
before it if there is one; what follows the last line feed is a line unless it is empty. -/
def linesFrom (line : List Char) : List Char → List (List Char)
  | [] => if line.isEmpty then [] else [line.reverse]
  | '\n' :: cs =>
    (match line with
      | '\r' :: rest => rest.reverse
      | _ => line.reverse) :: linesFrom [] cs
  | c :: cs => linesFrom (c :: line) cs

/-- The lines of a text. -/
def lines (text : List Char) : List (List Char) := linesFrom [] text

/-- Pieces with a separator between. -/
def join (sep : List Char) (pieces : List (List Char)) : List Char :=
  List.intercalate sep pieces

/-- A text with `new` in place of each occurrence of `a :: old`. -/
def replaceFrom (a : Char) (old new : List Char) : List Char → List Char
  | [] => []
  | c :: cs =>
    match _found : afterFront? (a :: old) (c :: cs) with
    | some rest => new ++ replaceFrom a old new rest
    | none => c :: replaceFrom a old new cs
termination_by text => text.length
decreasing_by
  · exact afterFront?_shorter _found
  · simp

/-- A text with another text in place of each occurrence of the first. Where the first is empty, it
occurs before every character and at the end. -/
def replace (old new text : List Char) : List Char :=
  match old with
  | [] => new ++ text.flatMap (fun c => c :: new)
  | a :: old => replaceFrom a old new text

/-- Whether a text stands at the front of another. -/
def startsWith (front text : List Char) : Bool := front.isPrefixOf text

/-- Whether a text stands at the end of another. -/
def endsWith (back text : List Char) : Bool := back.reverse.isPrefixOf text.reverse

/-- Whether a text stands anywhere in another. -/
def contains (part : List Char) : List Char → Bool
  | [] => part.isEmpty
  | c :: cs => part.isPrefixOf (c :: cs) || contains part cs

/-- A text that many times over. -/
def times (s : String) (n : Nat) : String := n.repeat (· ++ s) ""

end Tilde.Text
