import Tilde.Regex.Search
import Tilde.Text.Utf8

/-!
# Patterns in texts

The regular expressions of awk programs: which texts are expressions, how a text is split where one
matches, and how matches are replaced.
-/

namespace Tilde.Utility.Awk

open Unix (Bytes)
open Regex (Searcher)

/-- The character that a letter behind a backslash stands for. -/
def controlOf? (c : Char) : Option Char :=
  [('n', '\n'), ('t', '\t'), ('r', '\r'), ('a', '\x07'), ('b', '\x08'), ('f', '\x0C'),
    ('v', '\x0B')].lookup c

/-- The walk over the text of an expression. -/
structure Walk where
  /-- The text to be read as an expression, the last character first. -/
  out : List Char := []
  depth : Nat := 0
  /-- Something has to follow for an operator to work on. -/
  needs : Bool := true
  afterStart : Bool := false
  isFirst : Bool := true

/-- The walk with characters after which an operator may come. -/
def Walk.put (w : Walk) (cs : List Char) : Walk :=
  { w with out := cs.reverse ++ w.out, needs := false, afterStart := false, isFirst := false }

/-- Goes over a text and writes it in the way in which expressions are read. -/
def Walk.go (w : Walk) : (bound : Nat) → List Char → Except Bytes (List Char)
  | 0, _ => return w.out.reverse
  | _, [] =>
    if 0 < w.depth then throw "missing ')'"
    else if w.needs && !w.isFirst then throw "missing operand"
    else return w.out.reverse
  | bound + 1, '\\' :: c :: cs =>
    match controlOf? c with
    | some d => (w.put [d]).go bound cs
    | none =>
      if '0' ≤ c && c ≤ '7' then
        let digits := ((c :: cs).take 3).takeWhile fun c => '0' ≤ c && c ≤ '7'
        let d := Char.ofNat (digits.foldl (fun n c => 8 * n + (c.toNat - 48)) 0 % 256)
        let written := if d.isAlphanum then [d] else ['\\', d]
        (w.put written).go bound ((c :: cs).drop digits.length)
      else (w.put (if c.isAlphanum then [c] else ['\\', c])).go bound cs
  | bound + 1, ['\\'] => (w.put ['\\', '\\']).go bound []
  | bound + 1, '[' :: cs =>
    let front := if cs.head? == some '^' then ['^'] else []
    let cs := cs.drop front.length
    let front := if cs.head? == some ']' then front ++ [']'] else front
    let cs := if cs.head? == some ']' then cs.drop 1 else cs
    match members cs.length [] cs with
    | some (inside, cs) => (w.put ('[' :: front ++ inside ++ [']'])).go bound cs
    | none => throw "bad class -- [], [^] or ["
  | bound + 1, c :: cs =>
    match c with
    | '(' =>
      if cs.head? == some ')' then throw "missing operand"
      else { w with
        out := c :: w.out, depth := w.depth + 1, needs := true, afterStart := false,
        isFirst := false }.go bound cs
    | ')' =>
      if w.depth == 0 then (w.put ['\\', ')']).go bound cs
      else if w.needs then throw "missing operand"
      else ({ w with depth := w.depth - 1 }.put [')']).go bound cs
    | '|' =>
      if w.needs then throw "missing operand"
      else { w with out := c :: w.out, needs := true, afterStart := false, isFirst := false }.go
        bound cs
    | '*' | '+' | '?' =>
      if w.needs then throw "missing operand"
      else if w.afterStart && c != '?' then throw "syntax error ^* or ^+"
      else (w.put [c]).go bound cs
    | '^' => { w.put ['^'] with afterStart := true }.go bound cs
    | c => (w.put [c]).go bound cs
where
  /-- The members of a set in brackets, up to its end. -/
  members : (bound : Nat) → (acc : List Char) → List Char → Option (List Char × List Char)
    | 0, _, _ | _, _, [] => none
    | bound + 1, acc, c :: cs =>
      match c, cs with
      | ']', cs => some (acc.reverse, cs)
      | '\\', c :: cs =>
        match controlOf? c with
        | some d => members bound (d :: acc) cs
        | none => members bound (c :: '\\' :: acc) cs
      | '[', ':' :: cs =>
        let name := cs.takeWhile (· != ':')
        if (cs.drop name.length).take 2 == [':', ']'] then
          members bound (']' :: ':' :: name.reverse ++ ':' :: '[' :: acc)
            (cs.drop (name.length + 2))
        else members bound ('[' :: '\\' :: acc) (':' :: cs)
      | '[', cs => members bound ('[' :: '\\' :: acc) cs
      | c, cs => members bound (c :: acc) cs

/-- The expression that a text is, made ready; or why it is none. -/
def searcherOf (s : Bytes) : Except Bytes Searcher := do
  let text ← ({} : Walk).go (s.length + 1) s.toList
  let d : Regex.Dialect :=
    { extended := true, lenient := true, escapesInBrackets := true, letters := false }
  match Regex.parse d (String.ofList text) with
  | .ok p => return p.searcher false
  | .error .badInterval => throw "bad interval expression"
  | .error _ => throw "bad class -- [], [^] or ["

/-! ### Splitting -/

/-- What stands between fields. -/
inductive Splitter where
  | blanks
  | characters
  | mark (c : Char)
  | pattern (s : Searcher)

/-- White space between fields. -/
def isBlank (c : Char) : Bool := c == ' ' || c == '\t' || c == '\n'

/-- The parts of a text between runs of blanks. -/
def words : (bound : Nat) → List Char → List Bytes
  | 0, _ => []
  | bound + 1, cs =>
    let cs := cs.dropWhile isBlank
    if cs.isEmpty then []
    else
      let word := cs.takeWhile (!isBlank ·)
      String.ofList word :: words bound (cs.drop word.length)

/-- The places from a place on where something matches that is not empty. -/
def matchesFrom (s : Searcher) (text : Array Char) : (bound : Nat) → Nat → List (Nat × Nat)
  | 0, _ => []
  | bound + 1, start =>
    match s.find? text start false with
    | none => []
    | some m =>
      if m.start == m.stop then
        if m.stop < text.size then matchesFrom s text bound (m.stop + 1) else []
      else (m.start, m.stop) :: matchesFrom s text bound m.stop

/-- The parts of a text between places. -/
def between (text : Array Char) : (start : Nat) → List (Nat × Nat) → List Bytes
  | start, [] => [String.ofList (text.extract start text.size).toList]
  | start, (a, b) :: places =>
    String.ofList (text.extract start a).toList :: between text b places

/-- The fields of a text. -/
def Splitter.split (s : Splitter) (text : Bytes) : List Bytes :=
  if text.isEmpty then []
  else match s with
    | .blanks => words (text.length + 1) text.toList
    | .characters => text.toList.map String.singleton
    | .mark c => text.splitOn (String.singleton c)
    | .pattern s =>
      let chars := text.toList.toArray
      between chars 0 (matchesFrom s chars (chars.size + 1) 0)

/-! ### Replacing -/

/-- What takes the place of a match. -/
def replacement (found : List Char) : List Char → List Char
  | [] => []
  | '\\' :: '\\' :: cs => '\\' :: replacement found cs
  | '\\' :: '&' :: cs => '&' :: replacement found cs
  | '&' :: cs => found ++ replacement found cs
  | c :: cs => c :: replacement found cs

/-- Replaces the first match. -/
def replaceFirst (s : Searcher) (by_ text : Bytes) : Option Bytes := do
  let chars := text.toList.toArray
  let m ← s.find? chars 0 false
  let found := (chars.extract m.start m.stop).toList
  return String.ofList ((chars.extract 0 m.start).toList ++ replacement found by_.toList ++
    (chars.extract m.stop chars.size).toList)

/-- Replaces all matches from a place on. An empty match right behind another one does not count.
The result has the pieces last first. -/
def replaceFrom (s : Searcher) (by_ : List Char) (text : Array Char) : (bound : Nat) →
    (start : Nat) → (afterMatch : Bool) → (count : Nat) → List (List Char) → Nat × List (List Char)
  | 0, _, _, count, out => (count, out)
  | bound + 1, start, afterMatch, count, out =>
    match s.find? text start false with
    | none => (count, (text.extract start text.size).toList :: out)
    | some m =>
      let before := (text.extract start m.start).toList
      if m.start == m.stop then
        let next := (text.extract m.stop (m.stop + 1)).toList
        let put := if afterMatch && m.start == start then [] else replacement [] by_
        let count := if afterMatch && m.start == start then count else count + 1
        let out := next :: put :: before :: out
        if m.stop < text.size then replaceFrom s by_ text bound (m.stop + 1) false count out
        else (count, out)
      else
        let put := replacement (text.extract m.start m.stop).toList by_
        let out := put :: before :: out
        if m.stop < text.size then replaceFrom s by_ text bound m.stop true (count + 1) out
        else (count + 1, out)

/-- Replaces all matches, and counts them. -/
def replaceAll (s : Searcher) (by_ text : Bytes) : Nat × Bytes :=
  let chars := text.toList.toArray
  let (count, out) := replaceFrom s by_.toList chars (2 * chars.size + 2) 0 false 0 []
  (count, String.ofList out.reverse.flatten)

end Tilde.Utility.Awk
