import Tilde.Text.Utf8

/-!
# Digests

Functions that make a short text of any bytes, so that it is hard to find others with the same one,
and a sum that shows when bytes have been changed by chance.
-/

namespace Tilde.Utility.Digest

open Unix (Bytes)

/-- The bytes of a number, the lowest first. -/
def lowFirst (count n : Nat) : List UInt8 :=
  (List.range count).map fun i => (n / Nat.pow 256 i % 256).toUInt8

/-- The bytes of a number, the highest first. -/
def highFirst (count n : Nat) : List UInt8 := (lowFirst count n).reverse

/-- Bytes filled up to whole blocks, with their length in bits at the end. -/
def filled (block lengthSize : Nat) (lengthBytes : Nat → List UInt8) (bytes : List UInt8) :
    ByteArray :=
  let n := bytes.length
  let zeros := (2 * block - 1 - lengthSize - n % block) % block
  ⟨(bytes ++ 0x80 :: List.replicate zeros 0 ++ lengthBytes (8 * n)).toArray⟩

/-- A byte of a block. -/
def byteAt (b : ByteArray) (i : Nat) : UInt8 := if h : i < b.size then b[i] else 0

/-- The hexadecimal text of bytes. -/
def hex (bytes : List UInt8) : String :=
  let digit (n : Nat) : Char := (Nat.digitChar n)
  String.ofList (bytes.flatMap fun b => [digit (b.toNat / 16), digit (b.toNat % 16)])

/-- Turns bits to the left. -/
def turnLeft (x : UInt32) (n : UInt32) : UInt32 := (x <<< n) ||| (x >>> (32 - n))

/-- Turns bits to the right. -/
def turnRight (x : UInt32) (n : UInt32) : UInt32 := (x >>> n) ||| (x <<< (32 - n))

/-- Turns bits to the right. -/
def turnRight64 (x : UInt64) (n : UInt64) : UInt64 := (x >>> n) ||| (x <<< (64 - n))

/-- A word of four bytes, the highest first. -/
def word (b : ByteArray) (i : Nat) : UInt32 :=
  (List.range 4).foldl (fun n k => (n <<< 8) ||| (byteAt b (i + k)).toUInt32) 0

/-- A word of four bytes, the lowest first. -/
def wordLow (b : ByteArray) (i : Nat) : UInt32 :=
  (List.range 4).foldr (fun k n => (n <<< 8) ||| (byteAt b (i + k)).toUInt32) 0

/-- A word of eight bytes, the highest first. -/
def word64 (b : ByteArray) (i : Nat) : UInt64 :=
  (List.range 8).foldl (fun n k => (n <<< 8) ||| (byteAt b (i + k)).toUInt64) 0

/-- The places at which blocks begin. -/
def blocks (size : Nat) (b : ByteArray) : List Nat :=
  (List.range (b.size / size)).map (· * size)

/-! ### MD5 -/

/-- How far bits are turned in each round of MD5. -/
def md5Turns : Array UInt32 :=
  #[7, 12, 17, 22, 5, 9, 14, 20, 4, 11, 16, 23, 6, 10, 15, 21]

/-- The constants of MD5. -/
def md5Constants : Array UInt32 := #[
  0xd76aa478, 0xe8c7b756, 0x242070db, 0xc1bdceee, 0xf57c0faf, 0x4787c62a, 0xa8304613, 0xfd469501,
  0x698098d8, 0x8b44f7af, 0xffff5bb1, 0x895cd7be, 0x6b901122, 0xfd987193, 0xa679438e, 0x49b40821,
  0xf61e2562, 0xc040b340, 0x265e5a51, 0xe9b6c7aa, 0xd62f105d, 0x02441453, 0xd8a1e681, 0xe7d3fbc8,
  0x21e1cde6, 0xc33707d6, 0xf4d50d87, 0x455a14ed, 0xa9e3e905, 0xfcefa3f8, 0x676f02d9, 0x8d2a4c8a,
  0xfffa3942, 0x8771f681, 0x6d9d6122, 0xfde5380c, 0xa4beea44, 0x4bdecfa9, 0xf6bb4b60, 0xbebfbc70,
  0x289b7ec6, 0xeaa127fa, 0xd4ef3085, 0x04881d05, 0xd9d4d039, 0xe6db99e5, 0x1fa27cf8, 0xc4ac5665,
  0xf4292244, 0x432aff97, 0xab9423a7, 0xfc93a039, 0x655b59c3, 0x8f0ccc92, 0xffeff47d, 0x85845dd1,
  0x6fa87e4f, 0xfe2ce6e0, 0xa3014314, 0x4e0811a1, 0xf7537e82, 0xbd3af235, 0x2ad7d2bb, 0xeb86d391]

/-- The four words of MD5. -/
abbrev Four := UInt32 × UInt32 × UInt32 × UInt32

/-- A step of MD5. -/
def md5Step (b : ByteArray) (at_ : Nat) (s : Four) (i : Nat) : Four :=
  let (x, y, z, w) := s
  let (f, k) :=
    if i < 16 then ((y &&& z) ||| (~~~y &&& w), i)
    else if i < 32 then ((w &&& y) ||| (~~~w &&& z), (5 * i + 1) % 16)
    else if i < 48 then (y ^^^ z ^^^ w, (3 * i + 5) % 16)
    else (z ^^^ (y ||| ~~~w), 7 * i % 16)
  let sum := x + f + md5Constants.getD i 0 + wordLow b (at_ + 4 * k)
  (w, y + turnLeft sum (md5Turns.getD (i / 16 * 4 + i % 4) 0), y, z)

/-- The MD5 digest. -/
def md5 (bytes : List UInt8) : String :=
  let b := filled 64 8 (lowFirst 8) bytes
  let (x, y, z, w) := (blocks 64 b).foldl (fun (s : Four) at_ =>
    let (x, y, z, w) := s
    let (x', y', z', w') := (List.range 64).foldl (md5Step b at_) s
    (x + x', y + y', z + z', w + w')) (0x67452301, 0xefcdab89, 0x98badcfe, 0x10325476)
  hex ([x, y, z, w].flatMap fun v => lowFirst 4 v.toNat)

/-! ### SHA-1 -/

/-- The words of a block, with those that are made of them. -/
def sha1Words (b : ByteArray) (at_ : Nat) : Array UInt32 :=
  (List.range 80).foldl (fun ws i =>
    if i < 16 then ws.push (word b (at_ + 4 * i))
    else
      let get (k : Nat) : UInt32 := ws.getD (i - k) 0
      ws.push (turnLeft (get 3 ^^^ get 8 ^^^ get 14 ^^^ get 16) 1)) #[]

/-- A step of SHA-1. -/
def sha1Step (ws : Array UInt32) (s : UInt32 × Four) (i : Nat) : UInt32 × Four :=
  let (a, b, c, d, e) := s
  let (f, k) : UInt32 × UInt32 :=
    if i < 20 then ((b &&& c) ||| (~~~b &&& d), 0x5a827999)
    else if i < 40 then (b ^^^ c ^^^ d, 0x6ed9eba1)
    else if i < 60 then ((b &&& c) ||| (b &&& d) ||| (c &&& d), 0x8f1bbcdc)
    else (b ^^^ c ^^^ d, 0xca62c1d6)
  (turnLeft a 5 + f + e + k + ws.getD i 0, a, turnLeft b 30, c, d)

/-- The SHA-1 digest. -/
def sha1 (bytes : List UInt8) : String :=
  let data := filled 64 8 (highFirst 8) bytes
  let (a, b, c, d, e) := (blocks 64 data).foldl (fun (s : UInt32 × Four) at_ =>
    let (a, b, c, d, e) := s
    let ws := sha1Words data at_
    let (a', b', c', d', e') := (List.range 80).foldl (sha1Step ws) s
    (a + a', b + b', c + c', d + d', e + e'))
    (0x67452301, 0xefcdab89, 0x98badcfe, 0x10325476, 0xc3d2e1f0)
  hex ([a, b, c, d, e].flatMap fun v => highFirst 4 v.toNat)

/-! ### SHA-2 -/

/-- The primes below a number. -/
def primesBelow (n : Nat) : List Nat :=
  (List.range n).filter fun p => 1 < p && (List.range p).all fun d => d < 2 || p % d != 0

/-- The greatest number whose power does not exceed a number. -/
def root (power n : Nat) : (bound : Nat) → (low high : Nat) → Nat
  | 0, low, _ => low
  | bound + 1, low, high =>
    if high ≤ low + 1 then low
    else
      let middle := (low + high) / 2
      if Nat.pow middle power ≤ n then root power n bound middle high
      else root power n bound low middle

/-- The first bits behind the point of a root of a number. -/
def rootBits (power bits n : Nat) : Nat :=
  root power (n * Nat.pow 2 (power * bits)) (bits + 10) 0 (Nat.pow 2 (bits + 5)) % Nat.pow 2 bits

/-- The constants of the digests of 32-bit words. -/
def constants32 : Array UInt32 :=
  (((primesBelow 312).take 64).map fun p => (rootBits 3 32 p).toUInt32).toArray

/-- The constants of the digests of 64-bit words. -/
def constants64 : Array UInt64 :=
  (((primesBelow 410).take 80).map fun p => (rootBits 3 64 p).toUInt64).toArray

/-- The words of a block, with those that are made of them. -/
def sha256Words (b : ByteArray) (at_ : Nat) : Array UInt32 :=
  (List.range 64).foldl (fun ws i =>
    if i < 16 then ws.push (word b (at_ + 4 * i))
    else
      let x := ws.getD (i - 15) 0
      let y := ws.getD (i - 2) 0
      let s₀ := turnRight x 7 ^^^ turnRight x 18 ^^^ (x >>> 3)
      let s₁ := turnRight y 17 ^^^ turnRight y 19 ^^^ (y >>> 10)
      ws.push (ws.getD (i - 16) 0 + s₀ + ws.getD (i - 7) 0 + s₁)) #[]

/-- A step on eight words. -/
def sha256Step (ws : Array UInt32) (s : Array UInt32) (i : Nat) : Array UInt32 :=
  let get (k : Nat) : UInt32 := s.getD k 0
  let a := get 0
  let e := get 4
  let s₁ := turnRight e 6 ^^^ turnRight e 11 ^^^ turnRight e 25
  let choice := (e &&& get 5) ^^^ (~~~e &&& get 6)
  let t₁ := get 7 + s₁ + choice + constants32.getD i 0 + ws.getD i 0
  let s₀ := turnRight a 2 ^^^ turnRight a 13 ^^^ turnRight a 22
  let majority := (a &&& get 1) ^^^ (a &&& get 2) ^^^ (get 1 &&& get 2)
  #[t₁ + s₀ + majority, a, get 1, get 2, get 3 + t₁, e, get 5, get 6]

/-- A digest of 32-bit words from some words on, of which a number is shown. -/
def sha2Of32 (start : Array UInt32) (shown : Nat) (bytes : List UInt8) : String :=
  let data := filled 64 8 (highFirst 8) bytes
  let final := (blocks 64 data).foldl (fun s at_ =>
    let t := (List.range 64).foldl (sha256Step (sha256Words data at_)) s
    (s.zip t).map fun (x, y) => x + y) start
  hex ((final.toList.take shown).flatMap fun v => highFirst 4 v.toNat)

/-- The words of a block, with those that are made of them. -/
def sha512Words (b : ByteArray) (at_ : Nat) : Array UInt64 :=
  (List.range 80).foldl (fun ws i =>
    if i < 16 then ws.push (word64 b (at_ + 8 * i))
    else
      let x := ws.getD (i - 15) 0
      let y := ws.getD (i - 2) 0
      let s₀ := turnRight64 x 1 ^^^ turnRight64 x 8 ^^^ (x >>> 7)
      let s₁ := turnRight64 y 19 ^^^ turnRight64 y 61 ^^^ (y >>> 6)
      ws.push (ws.getD (i - 16) 0 + s₀ + ws.getD (i - 7) 0 + s₁)) #[]

/-- A step on eight words. -/
def sha512Step (ws : Array UInt64) (s : Array UInt64) (i : Nat) : Array UInt64 :=
  let get (k : Nat) : UInt64 := s.getD k 0
  let a := get 0
  let e := get 4
  let s₁ := turnRight64 e 14 ^^^ turnRight64 e 18 ^^^ turnRight64 e 41
  let choice := (e &&& get 5) ^^^ (~~~e &&& get 6)
  let t₁ := get 7 + s₁ + choice + constants64.getD i 0 + ws.getD i 0
  let s₀ := turnRight64 a 28 ^^^ turnRight64 a 34 ^^^ turnRight64 a 39
  let majority := (a &&& get 1) ^^^ (a &&& get 2) ^^^ (get 1 &&& get 2)
  #[t₁ + s₀ + majority, a, get 1, get 2, get 3 + t₁, e, get 5, get 6]

/-- A digest of 64-bit words from some words on, of which a number is shown. -/
def sha2Of64 (start : Array UInt64) (shown : Nat) (bytes : List UInt8) : String :=
  let data := filled 128 16 (highFirst 16) bytes
  let final := (blocks 128 data).foldl (fun s at_ =>
    let t := (List.range 80).foldl (sha512Step (sha512Words data at_)) s
    (s.zip t).map fun (x, y) => x + y) start
  hex ((final.toList.take shown).flatMap fun v => highFirst 8 v.toNat)

/-- The first bits behind the point of the square roots of some primes. -/
def squareRoots (bits first : Nat) : List Nat :=
  (((primesBelow 60).drop first).take 8).map (rootBits 2 bits)

/-- The SHA-256 digest. -/
def sha256 : List UInt8 → String :=
  sha2Of32 ((squareRoots 32 0).map Nat.toUInt32).toArray 8

/-- The SHA-224 digest. -/
def sha224 : List UInt8 → String :=
  sha2Of32 ((squareRoots 64 8).map fun n => (n % 4294967296).toUInt32).toArray 7

/-- The SHA-512 digest. -/
def sha512 : List UInt8 → String :=
  sha2Of64 ((squareRoots 64 0).map Nat.toUInt64).toArray 8

/-- The SHA-384 digest. -/
def sha384 : List UInt8 → String :=
  sha2Of64 ((squareRoots 64 8).map Nat.toUInt64).toArray 6

/-! ### Sums -/

/-- A byte shifted through the polynomial of the sum. -/
def crcEntry (n : Nat) : UInt32 :=
  (List.range 8).foldl (fun c _ =>
    if c &&& 0x80000000 != 0 then (c <<< 1) ^^^ 0x04c11db7 else c <<< 1) (n.toUInt32 <<< 24)

/-- The sums of single bytes. -/
def crcTable : Array UInt32 := ((List.range 256).map crcEntry).toArray

/-- Adds a byte to a sum. -/
def crcAdd (c : UInt32) (b : UInt8) : UInt32 :=
  (c <<< 8) ^^^ crcTable.getD ((c >>> 24) ^^^ b.toUInt32).toNat 0

/-- The bytes of a length, the lowest first, as many as it needs. -/
def lengthBytes : (bound : Nat) → Nat → List UInt8
  | 0, _ => []
  | bound + 1, n => if n == 0 then [] else (n % 256).toUInt8 :: lengthBytes bound (n / 256)

/-- The cyclic sum of bytes and their number. -/
def crc (bytes : List UInt8) : Nat :=
  let sum := bytes.foldl crcAdd 0
  (~~~((lengthBytes 20 bytes.length).foldl crcAdd sum)).toNat

/-- The sum of bytes in which each step turns the sum by a bit. -/
def turningSum (bytes : List UInt8) : Nat :=
  bytes.foldl (fun sum b => (sum / 2 + 32768 * (sum % 2) + b.toNat) % 65536) 0

/-- The plain sum of bytes, folded into sixteen bits. -/
def plainSum (bytes : List UInt8) : Nat :=
  let sum := bytes.foldl (fun sum b => sum + b.toNat) 0
  let once := sum % 65536 + sum % 4294967296 / 65536
  once % 65536 + once / 65536

end Tilde.Utility.Digest
