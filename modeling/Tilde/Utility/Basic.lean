import Tilde.Unix.Decimal
import Tilde.Utility.Options

/-!
# Small tools

Tools that write what they are given, repeat it, wait, or take paths apart.
-/

namespace Tilde.Utility

open Unix (Bytes Act Errno)

namespace Constant

/-- Ends with a status, whatever the arguments are. -/
def run (status : Nat) (_ : List Bytes) : Tool Unit := Tool.setStatus status

end Constant

namespace Yes

/-- The options of the tool. -/
def table : OptionTable := {}

/-- Writes a line again and again. -/
def run (args : List Bytes) : Tool Unit := do
  let (_, words) ← Tool.options table args () fun _ _ => return ()
  let line := (if words.isEmpty then "y" else " ".intercalate words) ++ "\n"
  let block := String.join (List.replicate (1 + 8192 / line.utf8ByteSize) line)
  Tool.loop (fun (_ : Unit) => do
    match ← Tool.act (Act.write 1 block) with
    | .ok _ => return some ()
    | .error e => Tool.die 1 ("standard output: " ++ e.text)) Tool.rounds ()

end Yes

namespace Echo

/-- The value of a hexadecimal digit. -/
def hexValue? (c : Char) : Option Nat :=
  let n := Unix.hexValue c
  if n < 16 then some n else none

/-- The byte of digits in a base, at most as many as there are allowed, and the text after it. -/
def byteOf (base limit : Nat) (cs : List Char) : Char × List Char :=
  let isGood (c : Char) : Bool := (hexValue? c).any (· < base)
  let digits := (cs.take limit).takeWhile isGood
  let n := digits.foldl (fun n c => base * n + (hexValue? c).getD 0) 0
  (Char.ofNat (n % 256), cs.drop digits.length)

/-- A text with what its backslashes stand for, and whether the output ends with it. -/
def unescaped : (bound : Nat) → List Char → List Char × Bool
  | 0, cs => (cs, false)
  | _, [] => ([], false)
  | bound + 1, c :: cs =>
    let put (c : Char) (rest : List Char) : List Char × Bool :=
      let (text, ends) := unescaped bound rest
      (c :: text, ends)
    if c != '\\' then put c cs
    else match cs with
      | [] => (['\\'], false)
      | e :: rest =>
        match e with
        | 'a' => put '\x07' rest
        | 'b' => put '\x08' rest
        | 'c' => ([], true)
        | 'e' => put '\x1B' rest
        | 'f' => put '\x0C' rest
        | 'n' => put '\n' rest
        | 'r' => put '\r' rest
        | 't' => put '\t' rest
        | 'v' => put '\x0B' rest
        | '\\' => put '\\' rest
        | 'x' =>
          if (rest.head?.bind hexValue?).isNone then
            let (text, ends) := unescaped bound rest
            ('\\' :: 'x' :: text, ends)
          else
            let (byte, rest) := byteOf 16 2 rest
            put byte rest
        | '0' =>
          let (byte, rest) := byteOf 8 3 rest
          put byte rest
        | e =>
          if '1' ≤ e && e ≤ '7' then
            let (byte, rest) := byteOf 8 3 cs
            put byte rest
          else
            let (text, ends) := unescaped bound rest
            ('\\' :: e :: text, ends)

/-- Reads the options: whether the line ends, and whether backslashes count. -/
def readOptions : (ends escapes : Bool) → List Bytes → Bool × Bool × List Bytes
  | ends, escapes, [] => (ends, escapes, [])
  | ends, escapes, arg :: rest =>
    let letters := (arg.drop 1).toString.toList
    if arg.startsWith "-" && !letters.isEmpty && letters.all ['n', 'e', 'E'].contains then
      readOptions (ends && !letters.contains 'n')
        (letters.foldl (fun on c => if c == 'e' then true else if c == 'E' then false else on)
          escapes) rest
    else (ends, escapes, arg :: rest)

/-- Writes its arguments. -/
def run (args : List Bytes) : Tool Unit := do
  let (ends, escapes, words) := readOptions true false args
  let text := " ".intercalate words
  if !escapes then Tool.put (if ends then text ++ "\n" else text)
  else
    let (cs, stops) := unescaped (text.length + 1) text.toList
    Tool.put (String.ofList cs)
    if ends && !stops then Tool.put "\n"

end Echo

namespace Sleep

/-- The time that a text asks for, in microseconds; none if it is for ever. -/
def interval? (text : Bytes) : Option (Option Nat) := do
  let r := Unix.readDecimal text.toList
  let unit ← match r.rest with
    | [] | ['s'] => some 1
    | ['m'] => some 60
    | ['h'] => some 3600
    | ['d'] => some 86400
    | _ => none
  if !r.found || r.negative || r.notANumber then none
  else if r.infinite then some none
  else
    let f := r.fraction
    some (some (f.num * 1000000 * unit / f.den))

/-- Waits for some time. -/
def run (args : List Bytes) : Tool Unit := do
  let (_, words) ← Tool.options {} args () fun _ _ => return ()
  if words.isEmpty then Tool.missingOperand 1
  let wrong := words.filter fun w => (interval? w).isNone
  wrong.forM fun w => Tool.say ("invalid time interval " ++ Quoting.plain w)
  if !wrong.isEmpty then
    Tool.writeErr (← Tool.hint)
    Tool.stop 1
  let micros := words.foldl (fun n w => n + ((interval? w).join.getD 1000000000000000)) 0
  let _ ← Tool.ask (.sleep micros)

end Sleep

/-! ### Parts of paths -/

/-- A path without the slashes at its end; the root keeps one. -/
def withoutSlashes (path : Bytes) : Bytes :=
  let cut := (path.dropEndWhile (· == '/')).toString
  if cut.isEmpty && !path.isEmpty then "/" else cut

/-- The last name of a path. -/
def lastName (path : Bytes) : Bytes :=
  let path := withoutSlashes path
  if path == "/" then "/" else (path.splitOn "/").getLastD ""

/-- What comes before the last name of a path. -/
def directoryName (path : Bytes) : Bytes :=
  let whole := withoutSlashes path
  let dir := (whole.take (whole.length - (lastName whole).length)).toString
  if whole == "/" then "/"
  else if dir.isEmpty then "."
  else withoutSlashes dir

namespace Basename

/-- What is shown of which paths. -/
structure Style where
  all : Bool := false
  suffix : Bytes := ""
  ending : Bytes := "\n"

/-- The options of the tool. -/
def table : OptionTable where
  letters := OptionTable.ofLetters "az" "s"
  words := [("multiple", 'a', .none), ("suffix", 's', .required), ("zero", 'z', .none)]
  mixes := false

/-- The last name of a path without a suffix, unless the suffix is all of it. -/
def cut (path suffix : Bytes) : Bytes :=
  let name := lastName path
  if name != suffix && name.endsWith suffix then (name.dropEnd suffix.length).toString else name

/-- Shows the last names of paths. -/
def run (args : List Bytes) : Tool Unit := do
  let (s, paths) ← Tool.options table args ({} : Style) fun s g => return match g.letter with
    | 'a' => { s with all := true }
    | 's' => { s with all := true, suffix := g.value.getD "" }
    | _ => { s with ending := "\x00" }
  match paths with
  | [] => Tool.missingOperand 1
  | path :: rest =>
    if s.all then paths.forM fun p => Tool.put (cut p s.suffix ++ s.ending)
    else match rest with
      | [] => Tool.put (cut path "" ++ s.ending)
      | [suffix] => Tool.put (cut path suffix ++ s.ending)
      | _ :: extra :: _ => Tool.extraOperand 1 extra

end Basename

namespace Dirname

/-- The options of the tool. -/
def table : OptionTable where
  letters := OptionTable.ofLetters "z" ""
  words := [("zero", 'z', .none)]
  mixes := false

/-- Shows what comes before the last names of paths. -/
def run (args : List Bytes) : Tool Unit := do
  let (ending, paths) ← Tool.options table args "\n" fun _ _ => return "\x00"
  if paths.isEmpty then Tool.missingOperand 1
  paths.forM fun p => Tool.put (directoryName p ++ ending)

end Dirname

end Tilde.Utility
