import Tilde.Unix.Course

/-!
# Permissions

The permissions of files: how they are shown, and how a change of them is written, as an octal
number or as letters that say whose permissions change and how.
-/

namespace Tilde.Utility

open Unix (Bytes)

namespace Permissions

/-- All bits of permissions. -/
def all : Nat := 0o7777

/-- The bits of `a` that are not in `b`. -/
def without (a b : Nat) : Nat := a &&& (all ^^^ (b &&& all))

/-- Permissions as nine letters. -/
def show_ (mode : Nat) : Bytes :=
  let bit (n : Nat) : Bool := mode &&& n != 0
  let flag (n : Nat) (c : Char) : Char := if bit n then c else '-'
  let run (x special : Nat) (c : Char) : Char :=
    if bit special then (if bit x then c else c.toUpper) else flag x 'x'
  String.ofList [
    flag 0o400 'r', flag 0o200 'w', run 0o100 0o4000 's',
    flag 0o40 'r', flag 0o20 'w', run 0o10 0o2000 's',
    flag 0o4 'r', flag 0o2 'w', run 0o1 0o1000 't']

/-- The letter for the kind of a file. -/
def kindLetter : Unix.FileKind → Char
  | .regular => '-'
  | .directory => 'd'
  | .link => 'l'
  | .characterDevice => 'c'
  | .pipe => 'p'

/-- Which bits a change names. -/
inductive Bits where
  | plain (bits : Nat)
  /-- Those that somebody has already. -/
  | copied (bits : Nat)

/-- A change of permissions. -/
structure Change where
  /-- The bits of those that the change is about; none for everybody but what the mask keeps. -/
  affected : Nat
  sign : Char
  bits : Bits
  /-- Files that somebody may run, and directories, may be run by everybody. -/
  runs : Bool := false
  /-- The bits that the text speaks of. -/
  mentioned : Nat := 0

/-- Reads whose permissions change. -/
def readWho (affected : Nat) : List Char → Nat × List Char
  | 'u' :: cs => readWho (affected ||| 0o4700) cs
  | 'g' :: cs => readWho (affected ||| 0o2070) cs
  | 'o' :: cs => readWho (affected ||| 0o1007) cs
  | 'a' :: cs => readWho all cs
  | cs => (affected, cs)

/-- Reads which permissions change. -/
def readBits (bits : Nat) (runs : Bool) : List Char → Nat × Bool × List Char
  | 'r' :: cs => readBits (bits ||| 0o444) runs cs
  | 'w' :: cs => readBits (bits ||| 0o222) runs cs
  | 'x' :: cs => readBits (bits ||| 0o111) runs cs
  | 'X' :: cs => readBits bits true cs
  | 's' :: cs => readBits (bits ||| 0o6000) runs cs
  | 't' :: cs => readBits (bits ||| 0o1000) runs cs
  | cs => (bits, runs, cs)

/-- The number that octal digits make; none if it is too great. -/
def octalOf? (cs : List Char) : Option Nat :=
  if cs.isEmpty || !cs.all fun c => '0' ≤ c && c ≤ '7' then none
  else
    let n := cs.foldl (fun n c => 8 * n + (c.toNat - 48)) 0
    if n ≤ all then some n else none

/-- Reads the changes after whose they are. -/
def readChanges (affected : Nat) : (bound : Nat) → List Char → Option (List Change × List Char)
  | 0, _ => none
  | bound + 1, sign :: cs =>
    if !(['=', '+', '-'].contains sign) then none
    else do
      let digits := cs.takeWhile Char.isDigit
      let (change, rest) ←
        if !digits.isEmpty then do
          let n ← octalOf? digits
          if affected != 0 then none
          pure (({ affected := all, sign, bits := .plain n, mentioned := all } : Change),
            cs.drop digits.length)
        else
          let make (bits : Bits) (runs : Bool) (mentioned : Nat) : Change :=
            { affected, sign, bits, runs,
              mentioned := if affected == 0 then mentioned else affected &&& mentioned }
          match cs with
          | 'u' :: rest => pure (make (.copied 0o700) false 0, rest)
          | 'g' :: rest => pure (make (.copied 0o070) false 0, rest)
          | 'o' :: rest => pure (make (.copied 0o007) false 0, rest)
          | _ =>
            let (bits, runs, rest) := readBits 0 false cs
            pure (make (.plain bits) runs bits, rest)
      match rest with
      | [] | ',' :: _ => some ([change], rest)
      | rest =>
        let (more, rest) ← readChanges affected bound rest
        some (change :: more, rest)
  | _, [] => none

/-- Reads clauses between commas. -/
def readClauses : (bound : Nat) → List Char → Option (List Change)
  | 0, _ => none
  | bound + 1, cs => do
    let (affected, rest) := readWho 0 cs
    let (changes, rest) ← readChanges affected (rest.length + 1) rest
    match rest with
    | ',' :: rest => some (changes ++ (← readClauses bound rest))
    | _ => some changes

/-- The changes that a text asks for. -/
def parse? (text : Bytes) : Option (List Change) :=
  let cs := text.toList
  if !cs.isEmpty && cs.all Char.isDigit then do
    let n ← octalOf? cs
    let mentioned := if cs.length < 5 then (n &&& 0o7000) ||| 0o777 else all
    some [{ affected := all, sign := '=', bits := .plain n, mentioned }]
  else readClauses (cs.length + 1) cs

/-- Permissions after a change. The mask says which bits a change about nobody in particular leaves
alone. -/
def Change.apply (c : Change) (isDir : Bool) (mask mode : Nat) : Nat :=
  let omitted := without (if isDir then 0o6000 else 0) c.mentioned
  let bits := match c.bits with
    | .plain n => n
    | .copied who =>
      let n := mode &&& who
      (if n &&& 0o444 != 0 then 0o444 else 0) ||| (if n &&& 0o222 != 0 then 0o222 else 0) |||
        (if n &&& 0o111 != 0 then 0o111 else 0)
  let bits := if c.runs && (isDir || mode &&& 0o111 != 0) then bits ||| 0o111 else bits
  let bits := without (if c.affected == 0 then without bits mask else bits &&& c.affected) omitted
  match c.sign with
  | '=' =>
    let kept := (if c.affected == 0 then 0 else without all c.affected) ||| omitted
    (mode &&& kept) ||| bits
  | '+' => mode ||| bits
  | _ => without mode bits

/-- Permissions after some changes. -/
def apply (changes : List Change) (isDir : Bool) (mask mode : Nat) : Nat :=
  changes.foldl (fun mode c => c.apply isDir mask mode) mode

/-- Permissions as an octal number. -/
def digits (mode : Nat) : Bytes := String.ofList (Nat.toDigits 8 mode)

/-- Permissions as an octal number of four digits. -/
def fourDigits (mode : Nat) : Bytes :=
  let text := digits mode
  "".pushn '0' (4 - text.length) ++ text

end Permissions

end Tilde.Utility
