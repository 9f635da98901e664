import Tilde.Sh.State
import Tilde.Unix.Conversion

/-!
# Escapes and formats of a shell

What the commands `echo` and `printf` make of their arguments. A format is gone through again as
long as it takes arguments and there are some left.
-/

namespace Tilde.Sh

open Unix (Bytes Conversion)

/-- The character that a letter stands for after a backslash. -/
def escapeLetter? : Char → Option Char
  | 'a' => some '\x07'
  | 'b' => some '\x08'
  | 'e' => some '\x1b'
  | 'f' => some '\x0c'
  | 'n' => some '\n'
  | 'r' => some '\r'
  | 't' => some '\t'
  | 'v' => some '\x0b'
  | '\\' => some '\\'
  | _ => none

/-- Whether the character is an octal digit. -/
def isOctal (c : Char) : Bool := '0' ≤ c && c ≤ '7'

/-- Reads up to three octal digits. -/
def octal (cs : List Char) : Char × List Char :=
  let digits := (cs.take 3).takeWhile isOctal
  let n := digits.foldl (fun n c => 8 * n + (c.toNat - 48)) 0
  (Char.ofNat (n % 256), cs.drop digits.length)

/-- Resolves the escapes of an argument, where octal digits follow a zero. The result says whether
output stops there. -/
def resolve : (bound : Nat) → (acc : List Char) → List Char → Bytes × Bool
  | 0, acc, _ => (String.ofList acc.reverse, false)
  | _ + 1, acc, [] => (String.ofList acc.reverse, false)
  | _ + 1, acc, '\\' :: 'c' :: _ => (String.ofList acc.reverse, true)
  | bound + 1, acc, '\\' :: d :: cs =>
    if isOctal d then
      let digits := match d, cs with
        | '0', c :: _ => if isOctal c then cs else d :: cs
        | _, _ => d :: cs
      let (c, rest) := octal digits
      resolve bound (c :: acc) rest
    else match escapeLetter? d with
      | some c => resolve bound (c :: acc) cs
      | none => resolve bound ('\\' :: acc) (d :: cs)
  | bound + 1, acc, c :: cs => resolve bound (c :: acc) cs

/-- Resolves the escapes of an argument. -/
def resolved (s : Bytes) : Bytes × Bool := resolve (s.length + 1) [] s.toList

/-- The output of `echo`. -/
def echoText (args : List Bytes) : Bytes :=
  let (args, ending) := match args with
    | "-n" :: rest => (rest, "")
    | args => (args, "\n")
  let (text, stops) := resolved (" ".intercalate args)
  if stops then text else text ++ ending

/-- The text of `echo` in the extended shell, where letters behind a dash say whether backslashes
count and whether there is an end of line. -/
def extendedEchoText (counts ends : Bool) : List Bytes → Bytes
  | arg :: args =>
    match arg.toList with
    | '-' :: c :: cs =>
      let letters := c :: cs
      if letters.all fun c => ['n', 'e', 'E'].contains c then
        let last := (letters.filter (· != 'n')).getLast?
        let counts := if last.isSome then last == some 'e' else counts
        extendedEchoText counts (ends && !(letters.contains 'n')) args
      else plainly (arg :: args)
    | _ => plainly (arg :: args)
  | [] => plainly []
where
  plainly (args : List Bytes) : Bytes :=
    let text := " ".intercalate args
    let (text, stops) := if counts then resolved text else (text, false)
    if ends && !stops then text ++ "\n" else text

/-- A run of `printf`: the arguments left, whether a conversion has taken one, whether one was no
number, and whether the output stops. -/
structure Printing where
  args : List Bytes
  used : Bool := false
  failed : Bool := false
  stopped : Bool := false

/-- The acts of `printf`. -/
abbrev Printer := StateT Printing ShM

namespace Printer

/-- Takes the next argument. -/
def next : Printer (Option Bytes) := do
  let p ← get
  set { p with args := p.args.tail, used := true }
  return p.args.head?

/-- Writes. -/
def out (s : Bytes) : Printer Unit := (ShM.out s : ShM Unit)

/-- Says that an argument is no number, if it is none. -/
def checked (arg : Bytes) (rest : List Char) (overflow : Bool) : Printer Unit := do
  let complain (message : Bytes) : Printer Unit := do
    let extended := (← (get : ShM State)).extended
    (ShM.warn (arg ++ ": " ++ (if extended then "invalid number" else message)) : ShM Unit)
    modify fun p => { p with failed := true }
  if !rest.isEmpty then
    complain (if rest.length == arg.length then "expected numeric value"
      else "not completely converted")
  else if overflow then complain "Numerical result out of range"

/-- The number of the character after a quote. -/
def quotedChar? (arg : Bytes) : Option Nat :=
  match arg.toList with
  | [q] => if q == '\'' || q == '"' then some 0 else none
  | q :: c :: _ => if q == '\'' || q == '"' then some c.toNat else none
  | [] => none

/-- The greatest number without a sign. -/
def maxUnsigned : Int := 18446744073709551615

/-- Takes a whole number. -/
def nextInteger (isSigned : Bool) : Printer Int := do
  match ← next with
  | none => return 0
  | some arg =>
    match quotedChar? arg with
    | some n => return n
    | none =>
      let r := readNumber 0 arg.toList
      if isSigned then
        checked arg r.rest r.overflow
        return r.value
      else
        let size := unsignedSize arg.toList
        let overflow := maxUnsigned < size
        checked arg r.rest overflow
        if overflow then return maxUnsigned
        else return if ((arg.toList.dropWhile isSpace).head? == some '-') then -size else size
where
  /-- The number without its sign. -/
  unsignedSize (cs : List Char) : Int :=
    let cs := (cs.dropWhile isSpace).dropWhile fun c => c == '-' || c == '+'
    let isHex : List Char → Bool
      | '0' :: x :: c :: _ => (x == 'x' || x == 'X') && digitValue c < 16
      | _ => false
    let (base, cs) := if isHex cs then (16, cs.drop 2)
      else if cs.head? == some '0' then (8, cs) else (10, cs)
    let digits := cs.takeWhile fun c => digitValue c < base
    let n : Nat := digits.foldl (fun n c => base * n + digitValue c) 0
    n

/-- Takes a floating-point number. -/
def nextFloat : Printer Float := do
  match ← next with
  | none => return 0.0
  | some arg =>
    match quotedChar? arg with
    | some n => return Float.ofNat n
    | none =>
      let r := Unix.readDecimal arg.toList
      let x := r.toFloat
      checked arg (if r.found then r.rest else arg.toList) (x.isInf && !r.infinite)
      return x

/-- Takes a number for a width or a precision. -/
def takeNumber (cs : List Char) : Printer (Int × List Char) := do
  match cs with
  | '*' :: rest => return (← nextInteger true, rest)
  | cs =>
    let digits := cs.takeWhile isDigit
    let n : Nat := digits.foldl (fun n c => 10 * n + (c.toNat - 48)) 0
    return (n, cs.drop digits.length)

/-- A text with backslashes before the characters that a shell would not leave as they are. -/
def protected_ (s : Bytes) : Bytes :=
  if s.isEmpty then "''"
  else
    let isPlain (c : Char) : Bool := c.isAlphanum || "%+,-./:=@_".toList.contains c
    String.ofList (s.toList.flatMap fun c => if isPlain c then [c] else ['\\', c])

/-- Carries out the conversion of a letter. `spec` is the text of the conversion. -/
def convert (c : Conversion) (spec : Bytes) (letter : Char) : Printer Unit := do
  let extended := (← (get : ShM State)).extended
  match letter with
  | 's' => out (c.text ((← next).getD ""))
  | 'q' =>
    if !extended then (ShM.fail (spec ++ ": invalid directive") : ShM Unit)
    out (c.text (protected_ ((← next).getD "")))
  | 'b' =>
    let (s, stops) := resolved ((← next).getD "")
    out (c.text s)
    if stops then modify fun p => { p with stopped := true }
  | 'c' =>
    let first := (((← next).getD "").toList.head?).getD '\x00'
    out ({ c with precision := none }.text (String.singleton first))
  | letter =>
    if letter == 'd' || letter == 'i' then out (c.integer letter (← nextInteger true))
    else if ['o', 'u', 'x', 'X'].contains letter then
      out (c.integer letter (← nextInteger false))
    else if ['a', 'A', 'e', 'E', 'f', 'F', 'g', 'G'].contains letter then
      out (c.float letter (← nextFloat))
    else (ShM.fail (spec ++ ": invalid directive") : ShM Unit)

/-- Reads and carries out a conversion after its percent sign. -/
def conversion (cs : List Char) : Printer (List Char) := do
  let (c, after) := Conversion.flags {} cs
  let (width, after) ← takeNumber after
  let c := c.withWidth width
  let (c, after) ← match after with
    | '.' :: after =>
      let (n, after) ← takeNumber after
      pure (c.withPrecision n, after)
    | after => pure (c, after)
  match after with
  | letter :: rest =>
    convert c (String.ofList ('%' :: cs.take (cs.length - rest.length))) letter
    return rest
  | [] =>
    (ShM.fail "missing format character" : ShM Unit)
    return []

/-- Goes through a format once. -/
def once : (bound : Nat) → List Char → Printer Unit
  | 0, _ => return
  | bound + 1, cs => do
    match cs with
    | [] => return
    | '%' :: '%' :: cs =>
      out "%"
      once bound cs
    | '%' :: cs =>
      let rest ← conversion cs
      if (← get).stopped then return else once bound rest
    | '\\' :: d :: cs =>
      if isOctal d then
        let (c, rest) := octal (d :: cs)
        out (String.singleton c)
        once bound rest
      else match escapeLetter? d with
        | some c =>
          out (String.singleton c)
          once bound cs
        | none =>
          out "\\"
          once bound (d :: cs)
    | c :: cs =>
      out (String.singleton c)
      once bound cs

/-- Goes through a format as often as it takes to use up the arguments. -/
def repeated (format : Bytes) : (bound : Nat) → Printer Unit
  | 0 => return
  | bound + 1 => do
    modify fun p => { p with used := false }
    once (format.length + 1) format.toList
    let p ← get
    if p.stopped || p.args.isEmpty || !p.used then return else repeated format bound

end Printer

/-- The command `printf`: writes its arguments in the form that a format gives. -/
def ShM.printf (format : Bytes) (args : List Bytes) : ShM Nat := do
  let (_, p) ← (Printer.repeated format (args.length + 1)).run { args }
  return if p.failed then 1 else 0

end Tilde.Sh
