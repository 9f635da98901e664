import Tilde.Utility.Basic
import Tilde.Utility.Input
import Tilde.Utility.Tool

/-!
# Comparing files byte by byte

The tool that says where two files begin to differ, or shows all bytes in which they do.
-/

namespace Tilde.Utility.Cmp

open Unix (Bytes Errno)

/-- What is shown of which bytes. -/
structure Style where
  showsBytes : Bool := false
  showsAll : Bool := false
  silent : Bool := false
  limit : Option Nat := none
  skips : Nat × Nat := (0, 0)

/-- The options of the tool. -/
def table : OptionTable where
  letters := OptionTable.ofLetters "bls" "in"
  words := [("bytes", 'n', .required), ("ignore-initial", 'i', .required),
    ("print-bytes", 'b', .none), ("quiet", 's', .none), ("silent", 's', .none),
    ("verbose", 'l', .none)]
  status := 2
  usage := "cmp: "

/-- Says what is wrong with the arguments, and ends the tool. -/
def misused {α : Type} (message : Bytes) : Tool α := do
  Tool.say message
  Tool.writeErr "cmp: Try 'cmp --help' for more information.\n"
  Tool.stop 2

/-- A number of bytes for an option. -/
def amount (option text : Bytes) : Tool Nat := do
  match amountOf? text with
  | some n => return n
  | none => misused ("invalid --" ++ option ++ " value " ++ Quoting.always text)

/-- Changes what is done by an option. -/
def Style.withOption (s : Style) (g : Given) : Tool Style := do
  let value := g.value.getD ""
  match g.letter with
  | 'b' => return { s with showsBytes := true }
  | 'l' =>
    if s.silent then misused "options -l and -s are incompatible"
    return { s with showsAll := true }
  | 's' =>
    if s.showsAll then misused "options -l and -s are incompatible"
    return { s with silent := true }
  | 'n' => return { s with limit := some (← amount "bytes" value) }
  | _ =>
    let wrong {α : Type} : Tool α :=
      misused ("invalid --ignore-initial value " ++ Quoting.always value)
    match (value.splitOn ":").map amountOf? with
    | [some n] => return { s with skips := (n, n) }
    | [some n, some m] => return { s with skips := (n, m) }
    | _ => wrong

/-- A byte as people can see it. -/
def visible (c : Char) : Bytes :=
  let n := c.toNat
  let front := if 128 ≤ n then "M-" else ""
  let n := n % 128
  if n < 32 then front ++ "^" ++ String.singleton (Char.ofNat (n + 64))
  else if n == 127 then front ++ "^?"
  else front ++ String.singleton (Char.ofNat n)

/-- A byte in octal, in three places. -/
def octalOf (c : Char) : Bytes :=
  let digits := String.ofList (Nat.toDigits 8 c.toNat)
  "".pushn ' ' (3 - digits.length) ++ digits

/-- The bytes in which two texts differ, with their places, counted from one. -/
def differences : (place : Nat) → List Char → List Char → List (Nat × Char × Char)
  | _, [], _ | _, _, [] => []
  | place, a :: as, b :: bs =>
    if a == b then differences (place + 1) as bs
    else (place, a, b) :: differences (place + 1) as bs

/-- Says that the shorter file is at its end, if one of them is. -/
def Style.reportEnd (s : Style) (a b : Bytes) (x y : List Char) : Tool Unit := do
  if x.length == y.length then return
  Tool.setStatus 1
  if s.silent then return
  let (name, cs) := if x.length < y.length then (a, x) else (b, y)
  let lines := cs.count '\n'
  let line := if s.showsAll then ""
    else if cs.getLast? == some '\n' then ", line " ++ toString lines
    else ", in line " ++ toString (lines + 1)
  if cs.isEmpty then Tool.say ("EOF on " ++ name ++ " which is empty")
  else Tool.say ("EOF on " ++ name ++ " after byte " ++ toString cs.length ++ line)

/-- Shows in what two texts differ. `width` is the room for numbers. -/
def Style.report (s : Style) (a b : Bytes) (width : Nat) (x y : List Char) : Tool Unit := do
  let found := differences 1 x y
  match found with
  | [] => s.reportEnd a b x y
  | (place, c, d) :: _ =>
    Tool.setStatus 1
    if s.showsAll then
      found.forM fun (place, c, d) => do
        let number := toString place
        let left := octalOf c ++ (if s.showsBytes then
          " " ++ (visible c).pushn ' ' (4 - (visible c).length) else "")
        let right := octalOf d ++ (if s.showsBytes then " " ++ visible d else "")
        Tool.putLine ("".pushn ' ' (width - number.length) ++ number ++ " " ++ left ++ " " ++ right)
      s.reportEnd a b x y
    else if !s.silent then
      let line := toString (1 + (x.take (place - 1)).count '\n')
      let what := if s.showsBytes then " differ: byte " else " differ: char "
      Tool.putLine (a ++ " " ++ b ++ what ++ toString place ++ ", line " ++ line ++
        (if s.showsBytes then " is " ++ octalOf c ++ " " ++ visible c ++ " " ++ octalOf d ++ " " ++
          visible d else ""))

/-- Reads a file, or ends the tool. -/
def Style.load (s : Style) (path : Bytes) : Tool (List Char × Bool) := do
  let fail {α : Type} (e : Errno) : Tool α := do
    if s.silent && e == .notFound then Tool.stop 2
    Tool.die 2 (path ++ ": " ++ e.text)
  match ← Tool.openInput path with
  | .error e => fail e
  | .ok fd =>
    let info ← Tool.act (Unix.Act.info (.infoOf fd))
    let text ← Tool.readAll fd
    Tool.closeInput fd
    match text with
    | .error e => fail e
    | .ok text => return (text.toList, info.toOption.any (·.kind == .regular))

/-- Compares two files. -/
def run (args : List Bytes) : Tool Unit := do
  let (s, operands) ← Tool.options table args ({} : Style) Style.withOption
  match operands with
  | [] => misused ("missing operand after " ++ Quoting.always (args.getLastD (← get).name))
  | a :: rest =>
    let b := rest.headD "-"
    let skips ← (rest.drop 1).take 2 |>.mapM (amount "ignore-initial")
    let s := { s with skips := (max s.skips.1 (skips.headD 0), max s.skips.2 (skips.getD 1 0)) }
    if let some extra := rest[3]? then misused ("extra operand " ++ Quoting.always extra)
    if a == b && s.skips.1 == s.skips.2 then
      if a == "-" then return
      if let .ok _ ← Tool.info a true then return
    let (x, xIsFile) ← s.load a
    let (y, yIsFile) ← s.load b
    let (x, y) := (x.drop s.skips.1, y.drop s.skips.2)
    let cut (cs : List Char) : List Char := match s.limit with
      | some n => cs.take n
      | none => cs
    let sizes := s.limit.toList ++ (if xIsFile then [x.length] else []) ++
      (if yIsFile then [y.length] else [])
    let most := sizes.foldl min 9223372036854775807
    s.report a b (toString most).length (cut x) (cut y)

end Tilde.Utility.Cmp
