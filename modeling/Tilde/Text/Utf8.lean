/-!
# Reading text from bytes

UTF-8 as the Unicode standard defines it, without overlong forms, surrogates or values beyond the
last code point. Bytes that belong to no character are replaced by U+FFFD, one for each longest
run that could have begun a character, or for each byte that could not.

`decode` reads a whole sequence of bytes. `Decoder` reads one that arrives in pieces: it holds back
the bytes of a character that is not complete yet.

Neither is the program's own work: both readers are those of the decoding library it calls, which
decodes as the Encoding Standard prescribes. What the program decides is when each of them is asked,
and when the bytes are at their end: this is in the module on running commands.

The system knows no text but only bytes. They are kept as strings with one byte in each character,
so that what handles characters handles them too.
-/

namespace Tilde.Utf8

/-- What stands for bytes that make no character. -/
def replacement : Char := '\uFFFD'

/-- The number of bytes of a character that begins with this byte; zero if none does. -/
def width (a : UInt8) : Nat :=
  if a < 0x80 then 1
  else if a < 0xC2 then 0
  else if a < 0xE0 then 2
  else if a < 0xF0 then 3
  else if a < 0xF5 then 4
  else 0

/-- Whether the byte may stand after the second one of a character. -/
def isTail (b : UInt8) : Bool := 0x80 ≤ b && b ≤ 0xBF

/-- Whether `b` may be the second byte of a character that begins with `a`. -/
def isSecond (a b : UInt8) : Bool :=
  if a == 0xE0 then 0xA0 ≤ b && b ≤ 0xBF
  else if a == 0xED then 0x80 ≤ b && b ≤ 0x9F
  else if a == 0xF0 then 0x90 ≤ b && b ≤ 0xBF
  else if a == 0xF4 then 0x80 ≤ b && b ≤ 0x8F
  else isTail b

/-- The character of two bytes. -/
def char2 (a b : UInt8) : Char := Char.ofNat (a.toNat % 32 * 64 + b.toNat % 64)

/-- The character of three bytes. -/
def char3 (a b c : UInt8) : Char :=
  Char.ofNat ((a.toNat % 16 * 64 + b.toNat % 64) * 64 + c.toNat % 64)

/-- The character of four bytes. -/
def char4 (a b c d : UInt8) : Char :=
  Char.ofNat (((a.toNat % 8 * 64 + b.toNat % 64) * 64 + c.toNat % 64) * 64 + d.toNat % 64)

/-- The text of a whole sequence of bytes. -/
def decode : List UInt8 → List Char
  | [] => []
  | a :: rest =>
    match width a with
    | 0 => replacement :: decode rest
    | 1 => Char.ofNat a.toNat :: decode rest
    | n =>
      match rest with
      | [] => [replacement]
      | b :: rest' =>
        if !isSecond a b then replacement :: decode (b :: rest')
        else if n == 2 then char2 a b :: decode rest'
        else match rest' with
          | [] => [replacement]
          | c :: rest'' =>
            if !isTail c then replacement :: decode (c :: rest'')
            else if n == 3 then char3 a b c :: decode rest''
            else match rest'' with
              | [] => [replacement]
              | d :: rest''' =>
                if !isTail d then replacement :: decode (d :: rest''')
                else char4 a b c d :: decode rest'''
termination_by bytes => bytes.length

/-- The text of a whole sequence of bytes. -/
def decodeText (bytes : List UInt8) : String := String.ofList (decode bytes)

/-- The bytes of a text. -/
def encode (s : String) : List UInt8 := s.toUTF8.toList

/-- A reader of bytes that arrive in pieces: the bytes of the character that is not complete. -/
structure Decoder where
  held : List UInt8 := []
  deriving DecidableEq, Repr

namespace Decoder

/-- Reads the first byte of a character. -/
def begin (a : UInt8) : List Char × Decoder :=
  match width a with
  | 0 => ([replacement], ⟨[]⟩)
  | 1 => ([Char.ofNat a.toNat], ⟨[]⟩)
  | _ => ([], ⟨[a]⟩)

/-- Gives up the held bytes for a replacement and reads the byte as a first one. -/
def restart (b : UInt8) : List Char × Decoder :=
  let (text, d) := begin b
  (replacement :: text, d)

/-- Reads a byte: the characters it completes, and the reader after it. -/
def push (d : Decoder) (x : UInt8) : List Char × Decoder :=
  match d.held with
  | [a] =>
    if !isSecond a x then restart x
    else if width a == 2 then ([char2 a x], ⟨[]⟩)
    else ([], ⟨[a, x]⟩)
  | [a, b] =>
    if !isTail x then restart x
    else if width a == 3 then ([char3 a b x], ⟨[]⟩)
    else ([], ⟨[a, b, x]⟩)
  | [a, b, c] =>
    if !isTail x then restart x
    else ([char4 a b c x], ⟨[]⟩)
  | _ => begin x

/-- Reads a piece. -/
def feed (d : Decoder) : List UInt8 → List Char × Decoder
  | [] => ([], d)
  | x :: xs =>
    let (text, d) := d.push x
    let (more, d) := d.feed xs
    (text ++ more, d)

/-- Ends the bytes: a character that is not complete is replaced. -/
def finish (d : Decoder) : List Char :=
  if d.held.isEmpty then [] else [replacement]

end Decoder

end Tilde.Utf8

/-! ## Bytes as characters -/

namespace Tilde.Unix

/-- Bytes, one in each character. -/
abbrev Bytes := String

/-- The bytes of a list. -/
def bytesOfList (bytes : List UInt8) : Bytes :=
  String.ofList (bytes.map fun b => Char.ofNat b.toNat)

/-- The bytes of a text. -/
def bytesOf (text : String) : Bytes := bytesOfList (Utf8.encode text)

/-- The bytes as a list. -/
def listOfBytes (s : Bytes) : List UInt8 := s.toList.map fun c => c.toNat.toUInt8

end Tilde.Unix
