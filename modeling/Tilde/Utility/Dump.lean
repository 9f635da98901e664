import Tilde.Unix.Conversion
import Tilde.Utility.Input
import Tilde.Utility.Options
import Tilde.Utility.Tool

/-!
# Bytes as text

Tools that show bytes as numbers or characters, and that write bytes in an alphabet of letters and
digits and read them back.
-/

namespace Tilde.Utility

open Unix (Bytes Act Errno)

namespace Od

/-- What a field shows. -/
inductive Kind where
  | signed
  | unsigned
  | octal
  | hex
  | char
  | name
  deriving DecidableEq

/-- How the bytes of a line are shown. -/
structure Format where
  kind : Kind
  size : Nat := 1
  /-- The characters are shown behind the line. -/
  trailer : Bool := false

/-- The width of a field without the blank before it. -/
def Format.width (f : Format) : Nat :=
  let byLength (a b c d : Nat) : Nat :=
    if f.size == 1 then a else if f.size == 2 then b else if f.size == 4 then c else d
  match f.kind with
  | .signed => byLength 4 6 11 20
  | .unsigned => byLength 3 5 10 20
  | .octal => byLength 3 6 11 22
  | .hex => byLength 2 4 8 16
  | .char | .name => 3

/-- The names of the control characters. -/
def controlNames : Array String :=
  #["nul", "soh", "stx", "etx", "eot", "enq", "ack", "bel", "bs", "ht", "nl", "vt", "ff", "cr",
    "so", "si", "dle", "dc1", "dc2", "dc3", "dc4", "nak", "syn", "etb", "can", "em", "sub", "esc",
    "fs", "gs", "rs", "us", "sp"]

/-- A character in a field. -/
def charText (c : Char) : String :=
  match c with
  | '\x00' => "\\0"
  | '\x07' => "\\a"
  | '\x08' => "\\b"
  | '\t' => "\\t"
  | '\n' => "\\n"
  | '\x0B' => "\\v"
  | '\x0C' => "\\f"
  | '\r' => "\\r"
  | c => if isShown c then String.singleton c else octal c.toNat

/-- The name of a character in a field; the highest bit does not count. -/
def nameText (c : Char) : String :=
  let n := c.toNat % 128
  if n == 127 then "del" else controlNames.getD n (String.singleton (Char.ofNat n))

/-- A number in a field. -/
def Format.number (f : Format) (n : Nat) : String :=
  let digits (base width : Nat) : String :=
    let ds := String.ofList (Nat.toDigits base n)
    "".pushn '0' (width - ds.length) ++ ds
  match f.kind with
  | .octal => digits 8 f.width
  | .hex => digits 16 f.width
  | .signed =>
    let limit := Nat.pow 256 f.size
    if 2 * n < limit then toString n else "-" ++ toString (limit - n)
  | _ => toString n

/-- The fields of some bytes. -/
def Format.fields (f : Format) : (bound : Nat) → List Char → List String
  | 0, _ | _, [] => []
  | bound + 1, cs =>
    let text := match f.kind with
      | .char => charText (cs.headD ' ')
      | .name => nameText (cs.headD ' ')
      | _ => f.number ((cs.take f.size).reverse.foldl (fun n c => 256 * n + c.toNat) 0)
    text :: f.fields bound (cs.drop f.size)

/-- What is shown. -/
structure Style where
  radix : Char := 'o'
  formats : List Format := []
  skip : Nat := 0
  limit : Option Nat := none
  all : Bool := false
  width : Option Nat := none

/-- The options of the tool. -/
def table : OptionTable where
  letters := OptionTable.ofLetters "abcdilosvxfehOHIDXL" "AjNtS" ++ [('w', .optional)]
  words := [("address-radix", 'A', .required), ("skip-bytes", 'j', .required),
    ("read-bytes", 'N', .required), ("format", 't', .required),
    ("output-duplicates", 'v', .none), ("width", 'w', .optional)]

/-- The size that letters or digits ask for. -/
def sizeOf (whole : Bytes) (usual : Nat) (cs : List Char) : Tool (Nat × List Char) := do
  match cs with
  | 'C' :: cs => return (1, cs)
  | 'S' :: cs => return (2, cs)
  | 'I' :: cs => return (4, cs)
  | 'L' :: cs => return (8, cs)
  | cs =>
    let digits := cs.takeWhile Char.isDigit
    if digits.isEmpty then return (usual, cs)
    let n := digitsValue digits
    if !([1, 2, 4, 8].contains n) then
      Tool.die 1 ("invalid type string " ++ Quoting.plain whole ++
        ";\nthis system doesn't provide a " ++ toString n ++ "-byte integral type")
    return (n, cs.drop digits.length)

/-- Reads formats. -/
def readFormats (whole : Bytes) : (bound : Nat) → List Char → Tool (List Format)
  | 0, _ | _, [] => return []
  | bound + 1, c :: cs => do
    let (kind, usual) ← match c with
      | 'a' => pure (Kind.name, 0)
      | 'c' => pure (.char, 0)
      | 'd' => pure (.signed, 4)
      | 'u' => pure (.unsigned, 4)
      | 'o' => pure (.octal, 4)
      | 'x' => pure (.hex, 4)
      | c =>
        let shown := Quoting.plain whole
        Tool.die 1 ("invalid character '" ++ String.singleton c ++ "' in type string " ++ shown)
    let (size, cs) ← if usual == 0 then pure (1, cs) else sizeOf whole usual cs
    let (trailer, cs) := match cs with
      | 'z' :: cs => (true, cs)
      | cs => (false, cs)
    return ⟨kind, size, trailer⟩ :: (← readFormats whole bound cs)

/-- A number of bytes. -/
def amount (option text : Bytes) : Tool Nat := do
  match amountOf? text with
  | some n => return n
  | none => Tool.die 1 ("invalid " ++ option ++ " argument " ++ Quoting.plain text)

/-- The style with an option. -/
def Style.withOption (s : Style) (g : Given) : Tool Style := do
  let text := g.value.getD ""
  let add (kind : Kind) (size : Nat) : Style :=
    { s with formats := s.formats ++ [⟨kind, size, false⟩] }
  match g.letter with
  | 'A' =>
    match text.toList with
    | c :: _ =>
      if ['d', 'o', 'x', 'n'].contains c then return { s with radix := c }
      Tool.die 1 ("invalid output address radix '" ++ String.singleton c ++
        "'; it must be one character from [doxn]")
    | [] => Tool.die 1 "invalid output address radix ''; it must be one character from [doxn]"
  | 'j' => return { s with skip := ← amount "-j" text }
  | 'N' => return { s with limit := some (← amount "-N" text) }
  | 't' =>
    return { s with formats := s.formats ++ (← readFormats text (text.length + 1) text.toList) }
  | 'v' => return { s with all := true }
  | 'w' =>
    match g.value with
    | none => return { s with width := some 32 }
    | some text => return { s with width := some (← amount "-w" text) }
  | 'a' => return add .name 1
  | 'b' => return add .octal 1
  | 'c' => return add .char 1
  | 'd' => return add .unsigned 2
  | 'i' | 'I' => return add .signed 4
  | 'l' | 'L' | 'D' => return add .signed 8
  | 'o' => return add .octal 2
  | 's' => return add .signed 2
  | 'x' | 'h' => return add .hex 2
  | 'O' => return add .octal 4
  | 'H' | 'X' => return add .hex 4
  | _ => return s

/-- An address in front of a line. -/
def Style.address (s : Style) (n : Nat) : String :=
  let digits (base width : Nat) : String :=
    let ds := String.ofList (Nat.toDigits base n)
    "".pushn '0' (width - ds.length) ++ ds
  match s.radix with
  | 'd' => digits 10 7
  | 'x' => digits 16 6
  | 'n' => ""
  | _ => digits 8 7

/-- The blanks in front of each field, when a number of them are spread over all fields. -/
def spread (pad count : Nat) (width : Nat) : (left : Nat) → (rest : Nat) → List String → String
  | 0, _, _ | _, _, [] => ""
  | left + 1, rest, field :: fields =>
    let next := pad * left / count
    let full := rest - next + width
    "".pushn ' ' (full - field.length) ++ field ++ spread pad count width left next fields

/-- The lines that show some bytes. -/
def Style.lines (s : Style) (width : Nat) (address : Nat) (cs : List Char) : String :=
  let blockWidth (f : Format) : Nat := (f.width + 1) * (width / f.size)
  let widest := s.formats.foldl (fun n f => max n (blockWidth f)) 0
  let one (isFirst : Bool) (f : Format) : String :=
    let count := width / f.size
    let pad := widest - blockWidth f
    let front := if isFirst then s.address address
      else "".pushn ' ' (s.address 0).length
    let body := spread pad count (f.width + 1) count pad (f.fields (cs.length + 1) cs)
    let shown := String.ofList (cs.map fun c => if isShown c then c else '.')
    let used := cs.length / f.size + (if cs.length % f.size == 0 then 0 else 1)
    let fill := (f.width + 1) * (count - used) + (pad * (count - used) / max count 1)
    front ++ body ++
      (if f.trailer then "".pushn ' ' fill ++ "  >" ++ shown ++ "<" else "") ++ "\n"
  match s.formats with
  | [] => ""
  | f :: fs => one true f ++ String.join (fs.map (one false))

/-- Shows bytes. A line that is like the one before it is left out, with a star for such lines. -/
def showBytes (s : Style) (width : Nat) : (bound : Nat) → (address : Nat) →
    (last : Option (List Char)) → (starred : Bool) → List Char → Tool Nat
  | 0, address, _, _, _ => return address
  | _, address, _, _, [] => return address
  | bound + 1, address, last, starred, cs => do
    let line := cs.take width
    let next := address + line.length
    if !s.all && line.length == width && last == some line then
      if !starred then Tool.put "*\n"
      showBytes s width bound next last true (cs.drop width)
    else
      Tool.put (s.lines width address line)
      showBytes s width bound next (some line) false (cs.drop width)

/-- Shows the bytes of files. -/
def run (args : List Bytes) : Tool Unit := do
  let (s, paths) ← Tool.options table args ({} : Style) Style.withOption
  let s := if s.formats.isEmpty then { s with formats := [⟨.octal, 2, false⟩] } else s
  let texts ← (Tool.inputs paths).mapM fun path => do
    match s.limit with
    | none => return (← Tool.readFile path).getD ""
    | some n =>
      match ← Tool.openInput path with
      | .error e =>
        Tool.warnOf path e
        return ""
      | .ok fd =>
        let text ← Tool.act (Act.text (.read fd (s.skip + n)))
        Tool.closeInput fd
        return text.toOption.getD ""
  let cs := (String.join texts).toList
  if cs.length < s.skip then Tool.die 1 "cannot skip past end of combined input"
  let cs := cs.drop s.skip
  let cs := match s.limit with
    | some n => cs.take n
    | none => cs
  let unit := s.formats.foldl (fun n f => Nat.lcm n f.size) 1
  let width := match s.width with
    | some w => if w == 0 || w % unit != 0 then unit else w
    | none => 16
  let stop ← showBytes s width (cs.length + 1) s.skip none false cs
  if s.radix != 'n' then Tool.putLine (s.address stop)

end Od

namespace Alphabet

/-- An alphabet: how many bits a letter holds, the letters, and the number of letters that are
written together. -/
structure Base where
  bits : Nat
  letters : Array Char
  group : Nat

/-- Sixty-four letters. -/
def base64 : Base :=
  ⟨6, "ABCDEFGHIJKLMNOPQRSTUVWXYZabcdefghijklmnopqrstuvwxyz0123456789+/".toList.toArray, 4⟩

/-- Thirty-two letters. -/
def base32 : Base := ⟨5, "ABCDEFGHIJKLMNOPQRSTUVWXYZ234567".toList.toArray, 8⟩

/-- The bytes of a group of letters. -/
def Base.groupBytes (b : Base) : Nat := b.group * b.bits / 8

/-- The letters of at most as many bytes as a group has. -/
def Base.encodeGroup (b : Base) (cs : List Char) : String :=
  let full := b.groupBytes
  let n := (cs ++ List.replicate (full - cs.length) '\x00').foldl
    (fun n c => 256 * n + c.toNat) 0
  let used := (8 * cs.length + b.bits - 1) / b.bits
  let base := Nat.pow 2 b.bits
  let letter (i : Nat) : Char :=
    if i < used then b.letters.getD (n / Nat.pow base (b.group - 1 - i) % base) '?' else '='
  String.ofList ((List.range b.group).map letter)

/-- The letters of bytes. -/
def Base.encode (b : Base) : (bound : Nat) → List Char → List String
  | 0, _ | _, [] => []
  | bound + 1, cs => b.encodeGroup (cs.take b.groupBytes) :: b.encode bound (cs.drop b.groupBytes)

/-- The bytes of letters, and whether the letters are right. -/
def Base.decode (b : Base) : (bound : Nat) → List Char → String × Bool
  | 0, _ | _, [] => ("", true)
  | bound + 1, cs =>
    let letters := cs.take b.group
    let valid := letters.takeWhile b.letters.contains
    let n := (valid ++ List.replicate (b.group - valid.length) 'A').foldl
      (fun n c => Nat.pow 2 b.bits * n + (b.letters.idxOf? c).getD 0) 0
    let count := valid.length * b.bits / 8
    let byte (i : Nat) : Char := Char.ofNat (n / Nat.pow 256 (b.groupBytes - 1 - i) % 256)
    let text := String.ofList ((List.range count).map byte)
    let padding := letters.drop valid.length
    let needed := (b.group - (8 * count + b.bits - 1) / b.bits) % b.group
    let isRight := letters.length == b.group && padding.all (· == '=') &&
      padding.length == needed && 0 < count
    if !isRight then (text, false)
    else
      let (more, ok) := b.decode bound (cs.drop b.group)
      (text ++ more, ok)

/-- What is done. -/
structure Style where
  decodes : Bool := false
  ignores : Bool := false
  wrap : Nat := 76

/-- The options of the tools. -/
def table : OptionTable where
  letters := OptionTable.ofLetters "di" "w"
  words := [("decode", 'd', .none), ("ignore-garbage", 'i', .none), ("wrap", 'w', .required)]

/-- Writes a text in lines of a width. -/
def wrapped (width : Nat) : (bound : Nat) → List Char → Tool Unit
  | 0, _ | _, [] => return
  | bound + 1, cs => do
    Tool.putLine (String.ofList (cs.take width))
    wrapped width bound (cs.drop width)

/-- Writes a file in an alphabet, or reads it back. -/
def run (b : Base) (args : List Bytes) : Tool Unit := do
  let (s, paths) ← Tool.options table args ({} : Style) fun s g => do
    match g.letter with
    | 'd' => return { s with decodes := true }
    | 'i' => return { s with ignores := true }
    | _ =>
      let text := g.value.getD ""
      match natOf? text with
      | some wrap => return { s with wrap }
      | none => Tool.die 1 ("invalid wrap size: " ++ Quoting.plain text)
  match paths.drop 1 with
  | extra :: _ => Tool.extraOperand 1 extra
  | [] => pure ()
  let path := paths.headD "-"
  match ← Tool.openInput path with
  | .error e => Tool.die 1 (Quoting.name path ++ ": " ++ e.text)
  | .ok fd =>
    match ← Tool.readAll fd with
    | .error e => Tool.die 1 ("read error: " ++ e.text)
    | .ok text =>
      let cs := text.toList
      if s.decodes then
        let cs := cs.filter fun c =>
          c != '\n' && (!s.ignores || b.letters.contains c || c == '=')
        let (text, ok) := b.decode (cs.length + 1) cs
        Tool.put text
        if !ok then Tool.die 1 "invalid input"
      else
        let text := String.join (b.encode (cs.length + 1) cs)
        if s.wrap == 0 then Tool.put text
        else wrapped s.wrap (text.length + 1) text.toList

end Alphabet

end Tilde.Utility
