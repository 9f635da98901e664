import Tilde.Utility.Digest
import Tilde.Utility.Input
import Tilde.Utility.Options

/-!
# Checking files

Tools that show digests and sums of files, and that check files by digests shown before.
-/

namespace Tilde.Utility

open Unix (Bytes Act Errno)

namespace Checksum

/-- A digest by its name. -/
structure Kind where
  name : Bytes
  digest : List UInt8 → String
  /-- The length of the digest in hexadecimal digits. -/
  size : Nat

/-- The digests. -/
def kinds : List Kind :=
  [⟨"MD5", Digest.md5, 32⟩, ⟨"SHA1", Digest.sha1, 40⟩, ⟨"SHA224", Digest.sha224, 56⟩,
    ⟨"SHA256", Digest.sha256, 64⟩, ⟨"SHA384", Digest.sha384, 96⟩, ⟨"SHA512", Digest.sha512, 128⟩]

/-- What is shown. -/
structure Style where
  binary : Bool := false
  checks : Bool := false
  tagged : Bool := false
  quiet : Bool := false
  silent : Bool := false
  strict : Bool := false
  ignoresMissing : Bool := false
  ending : Char := '\n'

/-- The options of the tools. -/
def table : OptionTable where
  letters := OptionTable.ofLetters "bctwz" ""
  words := [("binary", 'b', .none), ("check", 'c', .none), ("tag", 'T', .none),
    ("text", 't', .none), ("zero", 'z', .none), ("ignore-missing", 'i', .none),
    ("quiet", 'q', .none), ("status", 's', .none), ("strict", 'S', .none), ("warn", 'w', .none)]

/-- The style with an option. -/
def Style.withOption (s : Style) (g : Given) : Style :=
  match g.letter with
  | 'b' => { s with binary := true }
  | 'c' => { s with checks := true }
  | 't' => { s with binary := false }
  | 'T' => { s with tagged := true }
  | 'z' => { s with ending := '\x00' }
  | 'q' => { s with quiet := true }
  | 's' => { s with silent := true }
  | 'S' => { s with strict := true }
  | 'i' => { s with ignoresMissing := true }
  | _ => s

/-- Shows the digest of a file. -/
def Kind.showFile (k : Kind) (s : Style) (path : Bytes) : Tool Unit := do
  match ← Tool.readFile path with
  | none => return
  | some text =>
    let digest := k.digest (Unix.listOfBytes text)
    let line := if s.tagged then k.name ++ " (" ++ path ++ ") = " ++ digest
      else digest ++ (if s.binary then " *" else "  ") ++ path
    Tool.put (line.push s.ending)

/-- A line that says which digest a file has: the digest and the file. -/
def Kind.expectation? (k : Kind) (line : Bytes) : Option (Bytes × Bytes) :=
  let tag := k.name ++ " ("
  if line.startsWith tag then
    match ((line.drop tag.length).toString.splitOn ") = ").reverse with
    | digest :: rest => some (digest, ") = ".intercalate rest.reverse)
    | [] => none
  else
    let digest := (line.take k.size).toString
    let rest := (line.drop k.size).toString
    if digest.length == k.size && digest.all (fun c => c.isDigit || ('a' ≤ c && c ≤ 'f')) &&
        (rest.startsWith "  " || rest.startsWith " *") && 2 < rest.length then
      some (digest, (rest.drop 2).toString)
    else none

/-- What has come of checking lines. -/
structure Tally where
  right : Nat := 0
  wrong : Nat := 0
  unread : Nat := 0
  bad : Nat := 0

/-- Checks a line. -/
def Kind.checkLine (k : Kind) (s : Style) (t : Tally) (line : Bytes) : Tool Tally := do
  match k.expectation? line with
  | none => return { t with bad := t.bad + 1 }
  | some (digest, path) =>
    match ← Tool.openInput path with
    | .error e =>
      if s.ignoresMissing && e == .notFound then return t
      Tool.warnOf path e
      if !s.silent then Tool.putLine (path ++ ": FAILED open or read")
      return { t with unread := t.unread + 1 }
    | .ok fd =>
      let text ← Tool.readAll fd
      Tool.closeInput fd
      let isRight := k.digest (Unix.listOfBytes (text.toOption.getD "")) == digest.toLower
      if !s.silent && !(isRight && s.quiet) then
        Tool.putLine (path ++ ": " ++ (if isRight then "OK" else "FAILED"))
      return if isRight then { t with right := t.right + 1 } else { t with wrong := t.wrong + 1 }

/-- A number of things in a message. -/
def plural (n : Nat) (one several : Bytes) : Bytes :=
  toString n ++ " " ++ (if n == 1 then one else several)

/-- Checks the lines of a file. -/
def Kind.checkFile (k : Kind) (s : Style) (path : Bytes) : Tool Unit := do
  match ← Tool.readFile path with
  | none => return
  | some text =>
    let lines := (text.splitOn "\n").filter fun l => l != "" && !l.startsWith "#"
    let t ← lines.foldlM (k.checkLine s) {}
    if t.right + t.wrong + t.unread == 0 then
      let name := if path == "-" then "'standard input'" else Quoting.name path
      Tool.warn (name ++ ": no properly formatted checksum lines found")
    else if !s.silent then
      let warning (n : Nat) (one several : Bytes) : Tool Unit := do
        if n != 0 then Tool.say ("WARNING: " ++ plural n one several)
      warning t.bad "line is improperly formatted" "lines are improperly formatted"
      warning t.unread "listed file could not be read" "listed files could not be read"
      warning t.wrong "computed checksum did NOT match" "computed checksums did NOT match"
    if 0 < t.wrong || 0 < t.unread || (s.strict && 0 < t.bad) then Tool.setStatus 1

/-- Shows or checks the digests of files. -/
def run (k : Kind) (args : List Bytes) : Tool Unit := do
  let (s, paths) ← Tool.options table args ({} : Style) fun s g => return s.withOption g
  (Tool.inputs paths).forM (if s.checks then k.checkFile s else k.showFile s)

end Checksum

namespace Cksum

/-- The options of the tool. -/
def table : OptionTable where
  letters := OptionTable.ofLetters "" "a"
  words := [("algorithm", 'a', .required), ("untagged", 'u', .none), ("tag", 't', .none)]

/-- Shows the cyclic sums of files, or digests if these are asked for. -/
def run (args : List Bytes) : Tool Unit := do
  let ((algorithm, untagged), paths) ← Tool.options table args ("crc", false) fun s g =>
    return match g.letter with
      | 'a' => (g.value.getD "", s.2)
      | 'u' => (s.1, true)
      | _ => s
  match Checksum.kinds.find? fun k => k.name.toLower == algorithm with
  | some k => (Tool.inputs paths).forM (k.showFile { tagged := !untagged })
  | none =>
    (Tool.inputs paths).forM fun path => do
      match ← Tool.readFile path with
      | none => return
      | some text =>
        let bytes := Unix.listOfBytes text
        let name := if paths.isEmpty then "" else " " ++ path
        Tool.putLine (toString (Digest.crc bytes) ++ " " ++ toString bytes.length ++ name)

end Cksum

namespace Sum

/-- The options of the tool. -/
def table : OptionTable where
  letters := OptionTable.ofLetters "rs" ""
  words := [("sysv", 's', .none)]

/-- A number filled up on the left. -/
def padded (fill : Char) (width n : Nat) : Bytes :=
  let ds := toString n
  "".pushn fill (width - ds.length) ++ ds

/-- Shows the sums of files, and how many blocks they have. -/
def run (args : List Bytes) : Tool Unit := do
  let (plain, paths) ← Tool.options table args false fun _ g => return g.letter == 's'
  (Tool.inputs paths).forM fun path => do
    match ← Tool.readFile path with
    | none => return
    | some text =>
      let bytes := Unix.listOfBytes text
      let name := if paths.isEmpty then "" else " " ++ path
      let blocks (size : Nat) : Nat := (bytes.length + size - 1) / size
      if plain then
        Tool.putLine (toString (Digest.plainSum bytes) ++ " " ++ toString (blocks 512) ++ name)
      else
        Tool.putLine (padded '0' 5 (Digest.turningSum bytes) ++ " " ++
          padded ' ' 5 (blocks 1024) ++ name)

end Sum

end Tilde.Utility
