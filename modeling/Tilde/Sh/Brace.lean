import Tilde.Sh.State

/-!
# Braces

In the extended shell, braces in a word stand for several words: one for each part between commas,
or one for each member of a row of numbers or letters.
-/

namespace Tilde.Sh

open Unix (Bytes)

namespace Brace

/-- What is open around an atom. -/
structure Around where
  inQuotes : Bool := false
  params : Nat := 0

/-- What is open behind an atom. -/
def Around.after (o : Around) : Atom → Around
  | .quote => { o with inQuotes := !o.inQuotes }
  | .param _ op _ => if op == .plain || op == .length then o else { o with params := o.params + 1 }
  | .arith => { o with params := o.params + 1 }
  | .paramEnd | .arithEnd => { o with params := o.params - 1 }
  | _ => o

/-- Whether braces count. -/
def Around.isFree (o : Around) : Bool := !o.inQuotes && o.params == 0

/-- Reads the parts up to the closing brace, and what comes after it. -/
def parts (depth : Nat) (o : Around) (part : Word) (found : List Word) :
    Word → Option (List Word × Word)
  | [] => none
  | a :: w =>
    let go (depth : Nat) : Option (List Word × Word) := parts depth (o.after a) (a :: part) found w
    match a with
    | .char c false =>
      if !o.isFree then go depth
      else if c == '\x7b' then go (depth + 1)
      else if c == '\x7d' then
        if depth == 0 then some ((part.reverse :: found).reverse, w) else go (depth - 1)
      else if c == ',' && depth == 0 then parts depth (o.after a) [] (part.reverse :: found) w
      else go depth
    | _ => go depth

/-- The numbers from one to another by steps. -/
def numbers (bound : Nat) (a b step : Int) : List Int :=
  match bound with
  | 0 => []
  | bound + 1 =>
    if a == b then [a]
    else if a < b then
      a :: (if b < a + step then [] else numbers bound (a + step) b step)
    else a :: (if a - step < b then [] else numbers bound (a - step) b step)

/-- A number in at least so many digits. -/
def padded (width : Nat) (n : Int) : Bytes :=
  let digits := toString n.natAbs
  let sign := if n < 0 then "-" else ""
  sign ++ "".pushn '0' (width - digits.length - sign.length) ++ digits

/-- The members of a row. -/
def row? (text : Bytes) : Option (List Bytes) := do
  let parts := text.splitOn ".."
  let step ← match parts with
    | [_, _] => some 1
    | [_, _, s] => (s.toInt?).map fun n => if n == 0 then 1 else (n.natAbs : Int)
    | _ => none
  let a := parts.headD ""
  let b := parts.getD 1 ""
  match a.toInt?, b.toInt? with
  | some m, some n =>
    let digits (s : Bytes) : Bytes := if s.startsWith "-" then (s.drop 1).toString else s
    let isPadded (s : Bytes) : Bool := (digits s).startsWith "0" && 1 < (digits s).length
    let width := if isPadded a || isPadded b then max a.length b.length else 0
    some ((numbers ((m - n).natAbs + 1) m n step).map (padded width))
  | _, _ =>
    match a.toList, b.toList with
    | [c], [d] =>
      if c.isAlpha && d.isAlpha then
        some ((numbers 256 c.toNat d.toNat step).map fun n => String.singleton (Char.ofNat n.toNat))
      else none
    | _, _ => none

/-- The words that a word stands for. -/
def expand : (bound : Nat) → Around → Word → List Word
  | 0, _, w => [w]
  | _, _, [] => [[]]
  | bound + 1, o, a :: w =>
    let literal : List Word := (expand bound (o.after a) w).map (a :: ·)
    match a with
    | .char '\x7b' false =>
      if !o.isFree then literal
      else match parts 0 o [] [] w with
        | none => literal
        | some (found, rest) =>
          let join (fronts : List Word) : List Word :=
            let backs := expand bound o rest
            fronts.flatMap fun front => backs.map (front ++ ·)
          match found with
          | [one] =>
            match (plainText? one).bind row? with
            | some texts => join (texts.map fun t => t.toList.map (Atom.char · false))
            | none => literal
          | found => join (found.flatMap (expand bound o))
    | _ => literal

end Brace

/-- The words that a word with braces stands for. -/
def Word.braced (w : Word) : List Word :=
  let hasBrace := w.any fun
    | .char '\x7b' false => true
    | _ => false
  if hasBrace then Brace.expand (4 * w.length + 4) {} w else [w]

end Tilde.Sh
