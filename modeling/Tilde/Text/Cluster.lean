import Tilde.Text.Printable

/-!
# Clusters

What a reader takes for one character may be several: a letter with its marks, a syllable, a flag,
or an emoji of several parts. A text is cut between two characters unless a rule joins them, and
each rule looks at the two characters and at a little of what stands before them (`Joining`).

A backspace in a line takes away the cluster before it. The line remembers how long each of its
clusters is, in bytes, and has one byte for each length: of a cluster of 256 bytes or more only the
last bytes go, as many as that byte counts.
-/

namespace Tilde.Text

/-- What a character is to the rules. -/
inductive ClusterClass where
  | return_
  | feed
  | control
  | extend
  | joiner
  | regional
  | front
  | spacing
  | leadingJamo
  | vowelJamo
  | trailingJamo
  | openSyllable
  | closedSyllable
  | pictograph
  | consonant
  | other
  deriving DecidableEq, Repr

/-- Characters that control what stands around them. -/
def controlSet : CodePointSet where
  flips := #[
    0x0, 0xA, 0xB, 0xD, 0xE, 0x20, 0x7F, 0xA0, 0xAD, 0xAE, 0x61C, 0x61D, 0x180E, 0x180F, 0x200B,
    0x200C, 0x200E, 0x2010, 0x2028, 0x202F, 0x2060, 0x2070, 0xFEFF, 0xFF00, 0xFFF0, 0xFFFC,
    0x13430, 0x13440, 0x1BCA0, 0x1BCA4, 0x1D173, 0x1D17B, 0xE0000, 0xE0020, 0xE0080, 0xE0100,
    0xE01F0, 0xE1000]

/-- Characters that belong to the one after them. -/
def frontSet : CodePointSet where
  flips := #[
    0x600, 0x606, 0x6DD, 0x6DE, 0x70F, 0x710, 0x890, 0x892, 0x8E2, 0x8E3, 0xD4E, 0xD4F, 0x110BD,
    0x110BE, 0x110CD, 0x110CE, 0x111C2, 0x111C4, 0x113D1, 0x113D2, 0x1193F, 0x11940, 0x11941,
    0x11942, 0x11A84, 0x11A8A, 0x11D46, 0x11D47, 0x11F02, 0x11F03]

/-- Marks that take a place of their own and belong to the character before them. -/
def spacingSet : CodePointSet where
  flips := #[
    0x903, 0x904, 0x93B, 0x93C, 0x93E, 0x941, 0x949, 0x94D, 0x94E, 0x950, 0x982, 0x984, 0x9BF,
    0x9C1, 0x9C7, 0x9C9, 0x9CB, 0x9CD, 0xA03, 0xA04, 0xA3E, 0xA41, 0xA83, 0xA84, 0xABE, 0xAC1,
    0xAC9, 0xACA, 0xACB, 0xACD, 0xB02, 0xB04, 0xB40, 0xB41, 0xB47, 0xB49, 0xB4B, 0xB4D, 0xBBF,
    0xBC0, 0xBC1, 0xBC3, 0xBC6, 0xBC9, 0xBCA, 0xBCD, 0xC01, 0xC04, 0xC41, 0xC45, 0xC82, 0xC84,
    0xCBE, 0xCBF, 0xCC1, 0xCC2, 0xCC3, 0xCC5, 0xCF3, 0xCF4, 0xD02, 0xD04, 0xD3F, 0xD41, 0xD46,
    0xD49, 0xD4A, 0xD4D, 0xD82, 0xD84, 0xDD0, 0xDD2, 0xDD8, 0xDDF, 0xDF2, 0xDF4, 0xE33, 0xE34,
    0xEB3, 0xEB4, 0xF3E, 0xF40, 0xF7F, 0xF80, 0x1031, 0x1032, 0x103B, 0x103D, 0x1056, 0x1058,
    0x1084, 0x1085, 0x17B6, 0x17B7, 0x17BE, 0x17C6, 0x17C7, 0x17C9, 0x1923, 0x1927, 0x1929, 0x192C,
    0x1930, 0x1932, 0x1933, 0x1939, 0x1A19, 0x1A1B, 0x1A55, 0x1A56, 0x1A57, 0x1A58, 0x1A6D, 0x1A73,
    0x1B04, 0x1B05, 0x1B3E, 0x1B42, 0x1B82, 0x1B83, 0x1BA1, 0x1BA2, 0x1BA6, 0x1BA8, 0x1BE7, 0x1BE8,
    0x1BEA, 0x1BED, 0x1BEE, 0x1BEF, 0x1C24, 0x1C2C, 0x1C34, 0x1C36, 0x1CE1, 0x1CE2, 0x1CF7, 0x1CF8,
    0xA823, 0xA825, 0xA827, 0xA828, 0xA880, 0xA882, 0xA8B4, 0xA8C4, 0xA952, 0xA953, 0xA983, 0xA984,
    0xA9B4, 0xA9B6, 0xA9BA, 0xA9BC, 0xA9BE, 0xA9C0, 0xAA2F, 0xAA31, 0xAA33, 0xAA35, 0xAA4D, 0xAA4E,
    0xAAEB, 0xAAEC, 0xAAEE, 0xAAF0, 0xAAF5, 0xAAF6, 0xABE3, 0xABE5, 0xABE6, 0xABE8, 0xABE9, 0xABEB,
    0xABEC, 0xABED, 0x11000, 0x11001, 0x11002, 0x11003, 0x11082, 0x11083, 0x110B0, 0x110B3, 0x110B7,
    0x110B9, 0x1112C, 0x1112D, 0x11145, 0x11147, 0x11182, 0x11183, 0x111B3, 0x111B6, 0x111BF,
    0x111C0, 0x111CE, 0x111CF, 0x1122C, 0x1122F, 0x11232, 0x11234, 0x112E0, 0x112E3, 0x11302,
    0x11304, 0x1133F, 0x11340, 0x11341, 0x11345, 0x11347, 0x11349, 0x1134B, 0x1134D, 0x11362,
    0x11364, 0x113B9, 0x113BB, 0x113CA, 0x113CB, 0x113CC, 0x113CE, 0x11435, 0x11438, 0x11440,
    0x11442, 0x11445, 0x11446, 0x114B1, 0x114B3, 0x114B9, 0x114BA, 0x114BB, 0x114BD, 0x114BE,
    0x114BF, 0x114C1, 0x114C2, 0x115B0, 0x115B2, 0x115B8, 0x115BC, 0x115BE, 0x115BF, 0x11630,
    0x11633, 0x1163B, 0x1163D, 0x1163E, 0x1163F, 0x116AC, 0x116AD, 0x116AE, 0x116B0, 0x1171E,
    0x1171F, 0x11726, 0x11727, 0x1182C, 0x1182F, 0x11838, 0x11839, 0x11931, 0x11936, 0x11937,
    0x11939, 0x11940, 0x11941, 0x11942, 0x11943, 0x119D1, 0x119D4, 0x119DC, 0x119E0, 0x119E4,
    0x119E5, 0x11A39, 0x11A3A, 0x11A57, 0x11A59, 0x11A97, 0x11A98, 0x11B61, 0x11B62, 0x11B65,
    0x11B66, 0x11B67, 0x11B68, 0x11C2F, 0x11C30, 0x11C3E, 0x11C3F, 0x11CA9, 0x11CAA, 0x11CB1,
    0x11CB2, 0x11CB4, 0x11CB5, 0x11D8A, 0x11D8F, 0x11D93, 0x11D95, 0x11D96, 0x11D97, 0x11EF5,
    0x11EF7, 0x11F03, 0x11F04, 0x11F34, 0x11F36, 0x11F3E, 0x11F40, 0x1612A, 0x1612D, 0x16F51,
    0x16F88]

/-- Pictographs, which a joiner may join. -/
def pictographSet : CodePointSet where
  flips := #[
    0xA9, 0xAA, 0xAE, 0xAF, 0x203C, 0x203D, 0x2049, 0x204A, 0x2122, 0x2123, 0x2139, 0x213A, 0x2194,
    0x219A, 0x21A9, 0x21AB, 0x231A, 0x231C, 0x2328, 0x2329, 0x23CF, 0x23D0, 0x23E9, 0x23F4, 0x23F8,
    0x23FB, 0x24C2, 0x24C3, 0x25AA, 0x25AC, 0x25B6, 0x25B7, 0x25C0, 0x25C1, 0x25FB, 0x25FF, 0x2600,
    0x2605, 0x260E, 0x260F, 0x2611, 0x2612, 0x2614, 0x2616, 0x2618, 0x2619, 0x261D, 0x261E, 0x2620,
    0x2621, 0x2622, 0x2624, 0x2626, 0x2627, 0x262A, 0x262B, 0x262E, 0x2630, 0x2638, 0x263B, 0x2640,
    0x2641, 0x2642, 0x2643, 0x2648, 0x2654, 0x265F, 0x2661, 0x2663, 0x2664, 0x2665, 0x2667, 0x2668,
    0x2669, 0x267B, 0x267C, 0x267E, 0x2680, 0x2692, 0x2698, 0x2699, 0x269A, 0x269B, 0x269D, 0x26A0,
    0x26A2, 0x26A7, 0x26A8, 0x26AA, 0x26AC, 0x26B0, 0x26B2, 0x26BD, 0x26BF, 0x26C4, 0x26C6, 0x26C8,
    0x26C9, 0x26CE, 0x26D0, 0x26D1, 0x26D2, 0x26D3, 0x26D5, 0x26E9, 0x26EB, 0x26F0, 0x26F6, 0x26F7,
    0x26FB, 0x26FD, 0x26FE, 0x2702, 0x2703, 0x2705, 0x2706, 0x2708, 0x270E, 0x270F, 0x2710, 0x2712,
    0x2713, 0x2714, 0x2715, 0x2716, 0x2717, 0x271D, 0x271E, 0x2721, 0x2722, 0x2728, 0x2729, 0x2733,
    0x2735, 0x2744, 0x2745, 0x2747, 0x2748, 0x274C, 0x274D, 0x274E, 0x274F, 0x2753, 0x2756, 0x2757,
    0x2758, 0x2763, 0x2765, 0x2795, 0x2798, 0x27A1, 0x27A2, 0x27B0, 0x27B1, 0x27BF, 0x27C0, 0x2934,
    0x2936, 0x2B05, 0x2B08, 0x2B1B, 0x2B1D, 0x2B50, 0x2B51, 0x2B55, 0x2B56, 0x3030, 0x3031, 0x303D,
    0x303E, 0x3297, 0x3298, 0x3299, 0x329A, 0x1F004, 0x1F005, 0x1F02C, 0x1F030, 0x1F094, 0x1F0A0,
    0x1F0AF, 0x1F0B1, 0x1F0C0, 0x1F0C1, 0x1F0CF, 0x1F0D1, 0x1F0F6, 0x1F100, 0x1F170, 0x1F172,
    0x1F17E, 0x1F180, 0x1F18E, 0x1F18F, 0x1F191, 0x1F19B, 0x1F1AE, 0x1F1E6, 0x1F201, 0x1F210,
    0x1F21A, 0x1F21B, 0x1F22F, 0x1F230, 0x1F232, 0x1F23B, 0x1F23C, 0x1F240, 0x1F249, 0x1F260,
    0x1F266, 0x1F322, 0x1F324, 0x1F394, 0x1F396, 0x1F398, 0x1F399, 0x1F39C, 0x1F39E, 0x1F3F1,
    0x1F3F3, 0x1F3F6, 0x1F3F7, 0x1F3FB, 0x1F400, 0x1F4FE, 0x1F4FF, 0x1F53E, 0x1F549, 0x1F54F,
    0x1F550, 0x1F568, 0x1F56F, 0x1F571, 0x1F573, 0x1F57B, 0x1F587, 0x1F588, 0x1F58A, 0x1F58E,
    0x1F590, 0x1F591, 0x1F595, 0x1F597, 0x1F5A4, 0x1F5A6, 0x1F5A8, 0x1F5A9, 0x1F5B1, 0x1F5B3,
    0x1F5BC, 0x1F5BD, 0x1F5C2, 0x1F5C5, 0x1F5D1, 0x1F5D4, 0x1F5DC, 0x1F5DF, 0x1F5E1, 0x1F5E2,
    0x1F5E3, 0x1F5E4, 0x1F5E8, 0x1F5E9, 0x1F5EF, 0x1F5F0, 0x1F5F3, 0x1F5F4, 0x1F5FA, 0x1F650,
    0x1F680, 0x1F6C6, 0x1F6CB, 0x1F6D3, 0x1F6D5, 0x1F6E6, 0x1F6E9, 0x1F6EA, 0x1F6EB, 0x1F6F1,
    0x1F6F3, 0x1F700, 0x1F7DA, 0x1F800, 0x1F80C, 0x1F810, 0x1F848, 0x1F850, 0x1F85A, 0x1F860,
    0x1F888, 0x1F890, 0x1F8AE, 0x1F8B0, 0x1F8BC, 0x1F8C0, 0x1F8C2, 0x1F8D0, 0x1F8D9, 0x1F900,
    0x1F90C, 0x1F93B, 0x1F93C, 0x1F946, 0x1F947, 0x1FA00, 0x1FA58, 0x1FA60, 0x1FA6E, 0x1FB00,
    0x1FC00, 0x1FFFE]

/-- The consonants that form conjuncts. -/
def consonantSet : CodePointSet where
  flips := #[
    0x915, 0x93A, 0x958, 0x960, 0x978, 0x980, 0x995, 0x9A9, 0x9AA, 0x9B1, 0x9B2, 0x9B3, 0x9B6,
    0x9BA, 0x9DC, 0x9DE, 0x9DF, 0x9E0, 0x9F0, 0x9F2, 0xA95, 0xAA9, 0xAAA, 0xAB1, 0xAB2, 0xAB4,
    0xAB5, 0xABA, 0xAF9, 0xAFA, 0xB15, 0xB29, 0xB2A, 0xB31, 0xB32, 0xB34, 0xB35, 0xB3A, 0xB5C,
    0xB5E, 0xB5F, 0xB60, 0xB71, 0xB72, 0xC15, 0xC29, 0xC2A, 0xC3A, 0xC58, 0xC5B, 0xD15, 0xD3B,
    0x1000, 0x102B, 0x103F, 0x1040, 0x1050, 0x1056, 0x105A, 0x105E, 0x1061, 0x1062, 0x1065, 0x1067,
    0x106E, 0x1071, 0x1075, 0x1082, 0x108E, 0x108F, 0x1780, 0x17B4, 0x1A20, 0x1A55, 0x1B0B, 0x1B0D,
    0x1B13, 0x1B34, 0x1B45, 0x1B4D, 0x1B83, 0x1BA1, 0x1BAE, 0x1BB0, 0x1BBB, 0x1BBE, 0xA989, 0xA98C,
    0xA98F, 0xA9B3, 0xA9E0, 0xA9E5, 0xA9E7, 0xA9F0, 0xA9FA, 0xA9FF, 0xAA60, 0xAA70, 0xAA71, 0xAA74,
    0xAA7A, 0xAA7B, 0xAA7E, 0xAA80, 0xAAE0, 0xAAEB, 0xABC0, 0xABDB, 0x10A00, 0x10A01, 0x10A10,
    0x10A14, 0x10A15, 0x10A18, 0x10A19, 0x10A36, 0x11103, 0x11127, 0x11144, 0x11145, 0x11147,
    0x11148, 0x11380, 0x1138A, 0x1138B, 0x1138C, 0x1138E, 0x1138F, 0x11390, 0x113B6, 0x11900,
    0x11907, 0x11909, 0x1190A, 0x1190C, 0x11914, 0x11915, 0x11917, 0x11918, 0x11930, 0x11A00,
    0x11A01, 0x11A0B, 0x11A33, 0x11A50, 0x11A51, 0x11A5C, 0x11A84, 0x11F04, 0x11F11, 0x11F12,
    0x11F34]

/-- The signs that join the consonant before them to the one after them. -/
def isLinker (c : Char) : Bool :=
  [0x94D, 0x9CD, 0xACD, 0xB4D, 0xC4D, 0xD4D, 0x1039, 0x17D2, 0x1A60, 0x1B44, 0x1BAB, 0xA9C0, 0xAAF6,
    0x10A3F, 0x11133, 0x113D0, 0x1193E, 0x11A47, 0x11A99, 0x11F42].contains c.toNat

/-- Whether a code point lies between two others. -/
def isBetween (low high : Nat) (c : Char) : Bool := low ≤ c.toNat && c.toNat ≤ high

/-- The class of a character. -/
def clusterClass (c : Char) : ClusterClass :=
  if c == '\r' then .return_
  else if c == '\n' then .feed
  else if c.toNat == 0x200D then .joiner
  else if isExtending c || isBetween 0xFF9E 0xFF9F c || isBetween 0x1F3FB 0x1F3FF c then .extend
  else if controlSet.contains c then .control
  else if c.toNat < 0x300 then (if pictographSet.contains c then .pictograph else .other)
  else if isBetween 0x1F1E6 0x1F1FF c then .regional
  else if isBetween 0xAC00 0xD7A3 c then
    if (c.toNat - 0xAC00) % 28 == 0 then .openSyllable else .closedSyllable
  else if isBetween 0x1100 0x115F c || isBetween 0xA960 0xA97C c then .leadingJamo
  else if isBetween 0x1160 0x11A7 c || isBetween 0xD7B0 0xD7C6 c then .vowelJamo
  else if c.toNat == 0x16D63 || isBetween 0x16D67 0x16D6A c then .vowelJamo
  else if isBetween 0x11A8 0x11FF c || isBetween 0xD7CB 0xD7FB c then .trailingJamo
  else if consonantSet.contains c then .consonant
  else if pictographSet.contains c then .pictograph
  else if spacingSet.contains c then .spacing
  else if frontSet.contains c then .front
  else .other

/-- What stands before a place in a text, as far as the rules ask. -/
structure Joining where
  last : ClusterClass
  /-- An odd number of regional indicators ends here. -/
  oddRegional : Bool
  /-- A pictograph with its marks ends here, and whether a joiner follows it. -/
  pictograph : Bool
  joined : Bool
  /-- A consonant with its marks ends here, and whether a linker is among them. -/
  consonant : Bool
  linked : Bool

/-- What stands before a place after its first character. -/
def Joining.start (c : Char) : Joining :=
  let k := clusterClass c
  { last := k, oddRegional := k == .regional, pictograph := k == .pictograph, joined := false
    consonant := k == .consonant, linked := false }

/-- What stands before a place after one more character. A non-joiner ends what a consonant has
begun. -/
def Joining.next (j : Joining) (c : Char) : Joining :=
  let k := clusterClass c
  let marks := (k == .extend || k == .joiner) && c.toNat != 0x200C
  { last := k
    oddRegional := k == .regional && !(j.last == .regional && j.oddRegional)
    pictograph := k == .pictograph || (j.pictograph && !j.joined && k == .extend) ||
      (j.pictograph && !j.joined && k == .joiner)
    joined := j.pictograph && !j.joined && k == .joiner
    consonant := k == .consonant || (j.consonant && marks)
    linked := j.consonant && marks && (j.linked || isLinker c) }

/-- Whether a character joins the ones before it. -/
def Joining.joins (j : Joining) (c : Char) : Bool :=
  let k := clusterClass c
  let isBreak (k : ClusterClass) : Bool := k == .control || k == .return_ || k == .feed
  if j.last == .return_ && k == .feed then true
  else if isBreak j.last || isBreak k then false
  else if k == .extend || k == .joiner || k == .spacing || j.last == .front then true
  else match j.last, k with
    | .leadingJamo, .leadingJamo | .leadingJamo, .vowelJamo | .leadingJamo, .openSyllable
    | .leadingJamo, .closedSyllable | .openSyllable, .vowelJamo | .openSyllable, .trailingJamo
    | .vowelJamo, .vowelJamo | .vowelJamo, .trailingJamo | .closedSyllable, .trailingJamo
    | .trailingJamo, .trailingJamo => true
    | .regional, .regional => j.oddRegional
    | _, .consonant => j.consonant && j.linked
    | _, .pictograph => j.pictograph && j.joined
    | _, _ => false

/-- The clusters of a text, where `cluster` is the one being read, its last character first, and
`j` what stands before the rest. -/
def clustersFrom (j : Joining) (cluster : List Char) : List Char → List (List Char)
  | [] => [cluster.reverse]
  | c :: cs =>
    if j.joins c then clustersFrom (j.next c) (c :: cluster) cs
    else cluster.reverse :: clustersFrom (.start c) [c] cs

/-- The clusters of a text. -/
def clusters : List Char → List (List Char)
  | [] => []
  | c :: cs => clustersFrom (.start c) [c] cs

/-! ## Backspaces -/

/-- A line that is being read: its characters, the last one first, and the lengths of its clusters
as far as the line remembers them, the last one first. -/
structure Typed where
  characters : List Char := []
  lengths : List UInt8 := []

/-- The characters without the first ones, which take up a number of bytes. There are none where
that number ends inside a character. -/
def dropBytes : Nat → List Char → Option (List Char)
  | 0, cs => some cs
  | _, [] => none
  | count, c :: cs => if c.utf8Size ≤ count then dropBytes (count - c.utf8Size) cs else none

/-- The length of a cluster, as far as one byte counts it. -/
def clusterLength (cluster : List Char) : UInt8 := (cluster.map Char.utf8Size).foldl
  (fun total size => total + size.toUInt8) 0

/-- A line after one more cluster, which may be a backspace. -/
def Typed.push (line : Typed) (cluster : List Char) : Option Typed :=
  if cluster = ['\x08'] then
    match line.lengths with
    | [] => some line
    | length :: lengths => do return ⟨← dropBytes length.toNat line.characters, lengths⟩
  else some ⟨cluster.reverse ++ line.characters, clusterLength cluster :: line.lengths⟩

/-- A line as it is meant. There is none where a backspace would divide a character. -/
def withoutBackspaces (line : String) : Option String := do
  let typed ← (clusters line.toList).foldlM Typed.push {}
  return String.ofList typed.characters.reverse

end Tilde.Text
