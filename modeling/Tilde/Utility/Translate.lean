import Tilde.Regex.Basic
import Tilde.Utility.Input
import Tilde.Utility.Options
import Tilde.Utility.Tool

/-!
# Translating characters

The tool that puts characters for others, takes characters away, and makes runs of a character
single. Its sets are written as characters, ranges, classes and repetitions.
-/

namespace Tilde.Utility.Tr

open Unix (Bytes Act Errno)

/-- A character of a set as it is written. -/
structure Letter where
  char : Char
  /-- It came from an escape and has no other meaning. -/
  escaped : Bool := false

/-- An element of a set. -/
inductive Element where
  | chars (cs : List Char)
  | charClass (name : String)
  | same (c : Char)
  /-- A character a number of times; without a number as often as needed. -/
  | repeated (c : Char) (count : Option Nat)

/-- Whether a letter is a character that has a meaning. -/
def Letter.isPlain (l : Letter) (c : Char) : Bool := !l.escaped && l.char == c

/-- What stands in a set. The flags say that there is a backslash at the end, and which escapes are
too great. -/
structure Letters where
  letters : List Letter := []
  openEnd : Bool := false
  tooGreat : List (List Char) := []

/-- Reads escapes. -/
def readLetters : (bound : Nat) → List Char → Letters
  | 0, _ | _, [] => {}
  | _, ['\\'] => { letters := [⟨'\\', false⟩], openEnd := true }
  | bound + 1, '\\' :: c :: cs =>
    let put (e : Char) : Letters :=
      let rest := readLetters bound cs
      { rest with letters := ⟨e, true⟩ :: rest.letters }
    match c with
    | 'a' => put '\x07'
    | 'b' => put '\x08'
    | 'f' => put '\x0C'
    | 'n' => put '\n'
    | 'r' => put '\r'
    | 't' => put '\t'
    | 'v' => put '\x0B'
    | c =>
      let isOctal (c : Char) : Bool := '0' ≤ c && c ≤ '7'
      if isOctal c then
        let digits := ((c :: cs).take 3).takeWhile isOctal
        let value (ds : List Char) : Nat := ds.foldl (fun n d => 8 * n + (d.toNat - 48)) 0
        let kept := if 255 < value digits then digits.take 2 else digits
        let rest := readLetters bound ((c :: cs).drop kept.length)
        { rest with
          letters := ⟨Char.ofNat (value kept), true⟩ :: rest.letters
          tooGreat := if 255 < value digits then digits :: rest.tooGreat else rest.tooGreat }
      else put c
  | bound + 1, c :: cs =>
    let rest := readLetters bound cs
    { rest with letters := ⟨c, false⟩ :: rest.letters }

/-- The characters from one to another. -/
def charsBetween (a b : Char) : List Char :=
  (List.range (b.toNat + 1 - a.toNat)).map fun i => Char.ofNat (a.toNat + i)

/-- The text up to a mark and a closing bracket. -/
def upTo (mark : Char) : List Letter → Option (List Letter × List Letter)
  | a :: b :: rest =>
    if a.isPlain mark && b.isPlain ']' then some ([], rest)
    else (upTo mark (b :: rest)).map fun (name, more) => (a :: name, more)
  | _ => none

/-- The text of letters. -/
def textOf (ls : List Letter) : String := String.ofList (ls.map (·.char))

/-- A character in a message. -/
def shownChar (c : Char) : String := if isShown c then String.singleton c else escape c

/-- Reads what stands in brackets. None if the bracket is an ordinary character. -/
def bracket (ls : List Letter) : Except String (Option (Element × List Letter)) :=
  match ls with
  | a :: rest =>
    if a.isPlain ':' then
      match upTo ':' rest with
      | some (name, more) =>
        if name.isEmpty then .error "missing character class name '[::]'"
        else if (Regex.classOf? (textOf name)).isSome then
          .ok (some (.charClass (textOf name), more))
        else .error ("invalid character class " ++ Quoting.plain (textOf name))
      | none => repetition
    else if a.isPlain '=' then
      match upTo '=' rest with
      | some ([c], more) => .ok (some (.same c.char, more))
      | some ([], _) => .error "missing equivalence class character '[==]'"
      | some (name, _) =>
        .error (textOf name ++ ": equivalence class operand must be a single character")
      | none => repetition
    else repetition
  | [] => .ok none
where
  repetition : Except String (Option (Element × List Letter)) :=
    match ls with
    | c :: star :: rest =>
      if !star.isPlain '*' then .ok none
      else
        let count := rest.takeWhile (!·.isPlain ']')
        let more := rest.drop count.length
        if more.isEmpty then .ok none
        else
          let digits := textOf count
          let base := if digits.startsWith "0" then 8 else 10
          if digits.isEmpty then .ok (some (.repeated c.char none, more.tail))
          else match natOf? digits with
            | some _ =>
              let n := digits.foldl (fun n d => base * n + (d.toNat - 48)) 0
              .ok (some (.repeated c.char (if n == 0 then none else some n), more.tail))
            | none =>
              let shown := Quoting.plain digits
              .error ("invalid repeat count " ++ shown ++ " in [c*n] construct")
    | _ => .ok none

/-- Reads the elements of a set. -/
def elements : (bound : Nat) → List Letter → Except String (List Element)
  | 0, _ | _, [] => .ok []
  | bound + 1, a :: rest => do
    let special ← if a.isPlain '[' then bracket rest else pure none
    match special with
    | some (e, more) => return e :: (← elements bound more)
    | none =>
      match rest with
      | dash :: b :: more =>
        if dash.isPlain '-' then
          if b.char < a.char then
            let shown := shownChar a.char ++ "-" ++ shownChar b.char
            throw ("range-endpoints of '" ++ shown ++ "' are in reverse collating sequence order")
          else return .chars (charsBetween a.char b.char) :: (← elements bound more)
        else return .chars [a.char] :: (← elements bound rest)
      | _ => return .chars [a.char] :: (← elements bound rest)

/-- The members of a class, in order. -/
def classMembers (name : String) : List Char :=
  match Regex.classOf? name with
  | some p => (charsBetween '\x00' '\xFF').filter p
  | none => []

/-- The characters of an element, where a repetition without a number stands for `fill` of them. -/
def Element.members (fill : Nat) : Element → List Char
  | .chars cs => cs
  | .charClass name => classMembers name
  | .same c => [c]
  | .repeated c count => List.replicate (count.getD fill) c

/-- Whether an element is a repetition without a number. -/
def Element.isFill : Element → Bool
  | .repeated _ none => true
  | _ => false

/-- Whether an element is a class of letters of one case. -/
def Element.isCase : Element → Bool
  | .charClass name => name == "upper" || name == "lower"
  | _ => false

/-- Whether an element is a class. -/
def Element.isClass : Element → Bool
  | .charClass _ => true
  | _ => false

/-- The places at which classes of letters of one case begin. -/
def casePlaces (fill : Nat) (es : List Element) : List Nat :=
  (es.foldl (fun (place, found) e =>
    (place + (e.members fill).length, if e.isCase then place :: found else found))
    (0, ([] : List Nat))).2

/-- What the tool does. -/
structure Style where
  complement : Bool := false
  deletes : Bool := false
  squeezes : Bool := false
  truncates : Bool := false

/-- The options of the tool. -/
def table : OptionTable where
  letters := OptionTable.ofLetters "cCdst" ""
  words := [("complement", 'c', .none), ("delete", 'd', .none), ("squeeze-repeats", 's', .none),
    ("truncate-set1", 't', .none)]
  mixes := false

/-- The way each character goes: the characters that are deleted, what the others become, and those
of which a run becomes a single one. -/
structure Plan where
  deleted : Regex.ByteSet := ⟨.empty⟩
  become : Array Char := #[]
  squeezed : Regex.ByteSet := ⟨.empty⟩

/-- Applies a plan to a text. `last` is the last character written. -/
def Plan.apply (p : Plan) (last : Option Char) (text : Bytes) : Option Char × Bytes :=
  text.foldl (fun (last, out) c =>
    if p.deleted.contains c then (last, out)
    else
      let c := p.become.getD c.toNat c
      if last == some c && p.squeezed.contains c then (last, out) else (some c, out.push c))
    (last, "")

/-- The set of some characters. -/
def setOf (cs : List Char) : Regex.ByteSet :=
  let table := cs.foldl (fun (t : Array Bool) c => t.set! c.toNat true) (Array.replicate 256 false)
  .ofPredicate fun c => table.getD c.toNat false

/-- Reads a set, and says what is odd about it. -/
def readSet (text : Bytes) : Tool (List Element) := do
  let read := readLetters (text.length + 1) text.toList
  read.tooGreat.forM fun digits => do
    let d := String.ofList digits
    let front := "0" ++ (d.take 2).toString
    Tool.say ("warning: the ambiguous octal escape \\" ++ d ++
      " is being\n\tinterpreted as the 2-byte sequence \\" ++ front ++ ", " ++
      (d.drop 2).toString)
  if read.openEnd then
    Tool.say "warning: an unescaped backslash at end of string is not portable"
  match elements (read.letters.length + 1) read.letters with
  | .ok es => return es
  | .error message => Tool.die 1 message

/-- The characters of the first set. -/
def firstSet (s : Style) (es : List Element) : List Char :=
  let members := es.flatMap (·.members 0)
  if s.complement then
    let set := setOf members
    (charsBetween '\x00' '\xFF').filter (!set.contains ·)
  else members

/-- What the characters of the first set become. -/
def translation (s : Style) (es₁ es₂ : List Element) : Tool (List (Char × Char)) := do
  let first := firstSet s es₁
  if 1 < es₂.countP (·.isFill) then
    Tool.die 1 "only one [c*] repeat construct may appear in string2"
  let fixed := (es₂.flatMap (·.members 0)).length
  let fill := first.length - fixed
  let second := es₂.flatMap (·.members fill)
  if es₂.any fun e => e.isClass && !e.isCase then
    Tool.die 1 ("when translating, the only character classes that may appear in\n" ++
      "string2 are 'upper' and 'lower'")
  if (casePlaces fill es₂).any fun p => s.complement || !(casePlaces 0 es₁).contains p then
    Tool.die 1 "misaligned [:upper:] and/or [:lower:] construct"
  if s.complement && es₁.any (·.isClass) && 1 < second.eraseDups.length then
    Tool.die 1 ("when translating with complemented character classes,\n" ++
      "string2 must map all characters in the domain to one")
  if second.length < first.length then
    if s.truncates then return first.zip second
    else match second.getLast? with
      | none => Tool.die 1 "when not truncating set1, string2 must be non-empty"
      | some last =>
        if (es₂.getLast?).any (·.isClass) then
          Tool.die 1 ("when translating with string1 longer than string2,\n" ++
            "the latter string must not end with a character class")
        return first.zip (second ++ List.replicate (first.length - second.length) last)
  else return first.zip second

/-- The plan for some sets. -/
def planFor (s : Style) (es₁ : List Element) (es₂ : Option (List Element)) : Tool Plan := do
  if es₁.any (·.isFill) || es₁.any (fun e => e matches .repeated ..) then
    Tool.die 1 "the [c*] repeat construct may not appear in string1"
  let first := firstSet s es₁
  let second := ((es₂.getD []).flatMap (·.members 0))
  if s.deletes then
    return { deleted := setOf first, squeezed := if s.squeezes then setOf second else ⟨.empty⟩ }
  else match es₂ with
    | none => return { squeezed := setOf first }
    | some es₂ =>
      let pairs ← translation s es₁ es₂
      let become := pairs.foldl (fun (t : Array Char) (a, b) => t.set! a.toNat b)
        ((charsBetween '\x00' '\xFF').toArray)
      return { become, squeezed := if s.squeezes then setOf (pairs.map (·.2)) else ⟨.empty⟩ }

/-- Passes the input on. -/
def pump (p : Plan) : (bound : Nat) → Option Char → Tool Unit
  | 0, _ => return
  | bound + 1, last => do
    match ← Tool.readBlock 0 with
    | .error e => Tool.die 1 ("read error: " ++ e.text)
    | .ok "" => return
    | .ok text =>
      let (last, out) := p.apply last text
      Tool.put out
      pump p bound last

/-- Translates the input. -/
def run (args : List Bytes) : Tool Unit := do
  let (s, sets) ← Tool.options table args ({} : Style) fun s g => return match g.letter with
    | 'd' => { s with deletes := true }
    | 's' => { s with squeezes := true }
    | 't' => { s with truncates := true }
    | _ => { s with complement := true }
  let needsTwo := s.deletes == s.squeezes
  let most := if s.deletes && !s.squeezes then 1 else 2
  match sets with
  | [] => Tool.missingOperand 1
  | [first] =>
    if needsTwo then
      Tool.say ("missing operand after " ++ Quoting.plain first)
      Tool.writeErr (if s.squeezes then
        "Two strings must be given when both deleting and squeezing repeats.\n"
        else "Two strings must be given when translating.\n")
      Tool.writeErr (← Tool.hint)
      Tool.stop 1
  | _ => pure ()
  if most < sets.length then
    Tool.say ("extra operand " ++ Quoting.plain (sets.getD most ""))
    if sets.length == 2 then
      Tool.writeErr "Only one string may be given when deleting without squeezing repeats.\n"
    Tool.writeErr (← Tool.hint)
    Tool.stop 1
  let es₁ ← readSet (sets.headD "")
  let es₂ ← match sets with
    | [_, second] => pure (some (← readSet second))
    | _ => pure none
  pump (← planFor s es₁ es₂) Tool.rounds none

end Tilde.Utility.Tr
