/-!
# Patterns

A star stands for any text, a question mark for any character, and brackets for one character of a
set. A character that was quoted stands for itself, as does one after a backslash.
-/

namespace Tilde.Sh

/-- A character of a pattern, and whether it stands for itself. -/
structure PatternChar where
  char : Char
  quoted : Bool
  deriving DecidableEq, Repr

/-- A pattern. -/
abbrev Pattern := List PatternChar

namespace Pattern

/-- The pattern in which a backslash makes the character after it stand for itself. -/
def unescaped : Pattern → Pattern
  | ⟨'\\', false⟩ :: p :: ps => { p with quoted := true } :: unescaped ps
  | p :: ps => p :: unescaped ps
  | [] => []

/-- Whether a character has a meaning of its own. -/
def isMeta (p : PatternChar) : Bool := !p.quoted && ['*', '?', '['].contains p.char

/-- The named sets of characters. -/
def namedSets : List (List Char × (Char → Bool)) :=
  let lower (c : Char) : Bool := 'a' ≤ c && c ≤ 'z'
  let upper (c : Char) : Bool := 'A' ≤ c && c ≤ 'Z'
  let digit (c : Char) : Bool := '0' ≤ c && c ≤ '9'
  let alnum (c : Char) : Bool := lower c || upper c || digit c
  let graph (c : Char) : Bool := '!' ≤ c && c ≤ '~'
  [(":alnum:]".toList, alnum), (":alpha:]".toList, fun c => lower c || upper c),
    (":blank:]".toList, fun c => c == ' ' || c == '\t'),
    (":cntrl:]".toList, fun c => c < ' ' || c == '\x7f'), (":digit:]".toList, digit),
    (":graph:]".toList, graph), (":lower:]".toList, lower),
    (":print:]".toList, fun c => ' ' ≤ c && c ≤ '~'),
    (":punct:]".toList, fun c => graph c && !alnum c),
    (":space:]".toList, fun c => c == ' ' || ('\t' ≤ c && c ≤ '\r')),
    (":upper:]".toList, upper),
    (":xdigit:]".toList, fun c => digit c || ('a' ≤ c && c ≤ 'f') || ('A' ≤ c && c ≤ 'F'))]

/-- A named set at the front of a pattern, and the pattern after it. -/
def namedSet? (p : Pattern) : Option ((Char → Bool) × Pattern) :=
  namedSets.findSome? fun (name, set) =>
    if p.length < name.length then none
    else if p.take name.length == name.map (⟨·, false⟩) then some (set, p.drop name.length)
    else none

/-- The place of a byte in the order of the bytes, where those beyond ASCII come first. -/
def rank (c : Char) : Int := if c.toNat < 128 then c.toNat else (c.toNat : Int) - 256

/-- Whether a character is in the set that a bracket opens, and the pattern after the bracket that
closes it; none if there is no such bracket. -/
def bracket? (c : Char) : (bound : Nat) → (found first : Bool) → Pattern →
    Option (Bool × Pattern)
  | 0, _, _, _ => none
  | _ + 1, _, _, [] => none
  | bound + 1, found, first, p :: ps =>
    if p == ⟨']', false⟩ && !first then some (found, ps)
    else
      let single : Unit → Option (Bool × Pattern) := fun _ =>
        match ps with
        | ⟨'-', false⟩ :: q :: rest =>
          if q == ⟨']', false⟩ then bracket? c bound (found || p.char == c) false ps
          else
            let isIn := rank p.char ≤ rank c && rank c ≤ rank q.char
            bracket? c bound (found || isIn) false rest
        | ps => bracket? c bound (found || p.char == c) false ps
      if p == ⟨'[', false⟩ then
        match namedSet? ps with
        | some (set, rest) => bracket? c bound (found || set c) false rest
        | none => single ()
      else single ()

/-- The pattern after its first part, if that is no star and matches a character. -/
def afterOne? (c : Char) : Pattern → Option Pattern
  | [] => none
  | p :: ps =>
    let literal : Option Pattern := if p.char == c then some ps else none
    if p.quoted then literal
    else if p.char == '?' then some ps
    else if p.char == '[' then
      let (negated, set) := match ps with
        | ⟨'!', false⟩ :: rest => (true, rest)
        | ps => (false, ps)
      match bracket? c (set.length + 1) false true set with
      | none => literal
      | some (found, rest) => if found == negated then none else some rest
    else literal

/-- Whether a pattern matches a whole text. When it does not go on, the last star takes one
character more; `star` is the pattern after it and the text after what it has taken. -/
def matchesWithin : (bound : Nat) → Option (Pattern × List Char) → Pattern → List Char → Bool
  | 0, _, _, _ => false
  | bound + 1, star, p, cs =>
    let again : Unit → Bool := fun _ =>
      match star with
      | some (after, _ :: rest) => matchesWithin bound (some (after, rest)) after rest
      | _ => false
    match p, cs with
    | [], [] => true
    | ⟨'*', false⟩ :: ps, cs => matchesWithin bound (some (ps, cs)) ps cs
    | p, c :: rest =>
      match afterOne? c p with
      | some ps => matchesWithin bound star ps rest
      | none => again ()
    | _, [] => false

/-- Whether a pattern matches a whole text. -/
def matchesText (p : Pattern) (cs : List Char) : Bool :=
  matchesWithin ((p.length + 2) * (cs.length + 2)) none p cs

/-- The pattern that a text is. -/
def ofText (s : String) : Pattern := unescaped (s.toList.map (⟨·, false⟩))

/-- The text left when the shortest or longest part that matches is cut off the front. -/
def cutFront (longest : Bool) (p : Pattern) (cs : List Char) : List Char :=
  let lengths := List.range (cs.length + 1)
  let lengths := if longest then lengths.reverse else lengths
  match lengths.find? fun n => p.matchesText (cs.take n) with
  | some n => cs.drop n
  | none => cs

/-- The text left when the shortest or longest part that matches is cut off the back. -/
def cutBack (longest : Bool) (p : Pattern) (cs : List Char) : List Char :=
  let starts := List.range (cs.length + 1)
  let starts := if longest then starts else starts.reverse
  match starts.find? fun n => p.matchesText (cs.drop n) with
  | some n => cs.take n
  | none => cs

end Pattern

end Tilde.Sh
