import Tilde.Utility.Input
import Tilde.Utility.Options

/-!
# Copying input

Tools that hand on what they read: as it is, to several places, or turned round, which is line by
line from the last to the first, or each line character by character.
-/

namespace Tilde.Utility

open Unix (Bytes Act Errno)

namespace Cat

/-- What is shown besides the text itself. -/
structure Style where
  numbers : Bool := false
  /-- Only lines that are not empty get numbers. -/
  sparse : Bool := false
  squeezes : Bool := false
  ends : Bool := false
  tabs : Bool := false
  controls : Bool := false

/-- The options of the tool. -/
def table : OptionTable where
  letters := OptionTable.ofLetters "AbeEnstTuv" ""
  words := [("show-all", 'A', .none), ("number-nonblank", 'b', .none), ("show-ends", 'E', .none),
    ("number", 'n', .none), ("squeeze-blank", 's', .none), ("show-tabs", 'T', .none),
    ("show-nonprinting", 'v', .none)]

/-- The style with an option. -/
def Style.withOption (s : Style) (g : Given) : Style :=
  match g.letter with
  | 'A' => { s with controls := true, ends := true, tabs := true }
  | 'b' => { s with numbers := true, sparse := true }
  | 'e' => { s with controls := true, ends := true }
  | 'E' => { s with ends := true }
  | 'n' => { s with numbers := true }
  | 's' => { s with squeezes := true }
  | 't' => { s with controls := true, tabs := true }
  | 'T' => { s with tabs := true }
  | 'v' => { s with controls := true }
  | _ => s

/-- Whether the text is shown as it is. -/
def Style.isPlain (s : Style) : Bool :=
  !(s.numbers || s.squeezes || s.ends || s.tabs || s.controls)

/-- A character below the highest bit, as it is shown. -/
def lowShown (n : Nat) : String :=
  if n < 32 then "^" ++ String.singleton (Char.ofNat (n + 64))
  else if n == 127 then "^?"
  else String.singleton (Char.ofNat n)

/-- A character as it is shown. -/
def Style.shown (s : Style) (c : Char) : String :=
  let n := c.toNat
  if c == '\t' then if s.tabs then "^I" else "\t"
  else if !s.controls then String.singleton c
  else if n < 128 then lowShown n
  else "M-" ++ lowShown (n - 128)

/-- A text with a width, filled up on the left. -/
def padded (width : Nat) (s : String) : String := "".pushn ' ' (width - s.length) ++ s

/-- Where a copy with a style has come to. -/
structure Progress where
  count : Nat := 0
  /-- How many lines without text came last. -/
  blanks : Nat := 0
  /-- The last line had no end. -/
  isOpen : Bool := false

/-- Copies a line. -/
def Style.copyLine (s : Style) (p : Progress) (l : Line) : Tool (Progress × Bool) := do
  let isBlank := l.text.isEmpty && !p.isOpen
  let blanks := if isBlank then p.blanks + 1 else 0
  if s.squeezes && 2 ≤ blanks then return ({ p with blanks }, true)
  let isNumbered := s.numbers && !p.isOpen && !(s.sparse && isBlank)
  let count := if isNumbered then p.count + 1 else p.count
  if isNumbered then Tool.put (padded 6 (toString count) ++ "\t")
  let text := if s.tabs || s.controls then String.join (l.text.toList.map s.shown) else l.text
  let text := if s.ends && l.ended && text.endsWith "\r" && !s.controls then
    (text.dropEnd 1).toString ++ "^M" else text
  Tool.put text
  if l.ended then Tool.put (if s.ends then "$\n" else "\n")
  return ({ count, blanks, isOpen := !l.ended }, true)

/-- Copies a block after the other. The result is whether reading went well. -/
def copyBlocks (fd : Nat) : (bound : Nat) → Tool (Option Errno)
  | 0 => return none
  | bound + 1 => do
    match ← Tool.readBlock fd with
    | .error .interrupted => copyBlocks fd bound
    | .error e => return some e
    | .ok "" => return none
    | .ok text =>
      match ← Tool.act (Act.write 1 text) with
      | .ok _ => copyBlocks fd bound
      | .error e => Tool.die 1 ("write error: " ++ e.text)

/-- Copies a file as it is. -/
def copyFile (path : Bytes) : Tool Unit := do
  match ← Tool.openInput path with
  | .error e => Tool.warnOf path e
  | .ok fd =>
    match ← copyBlocks fd Tool.rounds with
    | some e => Tool.warnOf path e
    | none => pure ()
    Tool.closeInput fd

/-- Shows files one after the other. -/
def run (args : List Bytes) : Tool Unit := do
  let (style, paths) ← Tool.options table args {} fun (s : Style) g => return s.withOption g
  let paths := Tool.inputs paths
  if style.isPlain then paths.forM copyFile
  else
    let _ ← Tool.foldFiles '\n' style.copyLine paths {}

end Cat

end Tilde.Utility

namespace Tilde.Utility.Tee

open Unix (Bytes Act Errno)

/-- The options of the tool. -/
def table : OptionTable where
  letters := OptionTable.ofLetters "aip" ""
  words := [("append", 'a', .none), ("ignore-interrupts", 'i', .none),
    ("output-error", 'p', .optional)]

/-- Writes a block to all places. The result are those that could be written to. -/
def writeAll (text : Bytes) : List (Bytes × Nat) → Tool (List (Bytes × Nat))
  | [] => return []
  | (name, fd) :: rest => do
    match ← Tool.act (Act.write fd text) with
    | .ok _ => return (name, fd) :: (← writeAll text rest)
    | .error e =>
      Tool.warn (name ++ ": " ++ e.text)
      writeAll text rest

/-- Copies block after block. -/
def pump : (bound : Nat) → List (Bytes × Nat) → Tool Unit
  | 0, _ => return
  | bound + 1, targets => do
    if targets.isEmpty then return
    match ← Tool.readBlock 0 with
    | .error .interrupted => pump bound targets
    | .error e => Tool.warn ("read error: " ++ e.text)
    | .ok "" => return
    | .ok text => pump bound (← writeAll text targets)

/-- Copies the input to the output and to files. -/
def run (args : List Bytes) : Tool Unit := do
  let (appends, paths) ← Tool.options table args false fun on g => return on || g.letter == 'a'
  let how : Unix.OpenMode :=
    { writes := true, creates := true, truncates := !appends, appends }
  let open_ (path : Bytes) : Tool (Option (Bytes × Nat)) := do
    match ← Tool.act (Act.number (.open_ path how 0o666)) with
    | .ok fd => return some (Quoting.name path, fd)
    | .error e =>
      Tool.warnOf path e
      return none
  let files ← paths.filterMapM open_
  pump Tool.rounds (("'standard output'", 1) :: files)

end Tilde.Utility.Tee

namespace Tilde.Utility

open Unix (Bytes Act Errno)

namespace Tac

/-- The options of the tool. -/
def table : OptionTable where
  letters := OptionTable.ofLetters "br" "s"
  words := [("before", 'b', .none), ("regex", 'r', .none), ("separator", 's', .required)]

/-- The parts of a text, each with the separator at its end, or at its start if `before`. -/
def parts (separator text : Bytes) (before : Bool) : List Bytes :=
  match text.splitOn separator with
  | [] => []
  | first :: rest =>
    if before then first :: rest.map (separator ++ ·)
    else
      let all := first :: rest
      all.dropLast.map (· ++ separator) ++ [all.getLastD ""]

/-- Shows the lines of files from the last to the first. -/
def run (args : List Bytes) : Tool Unit := do
  let ((before, separator), paths) ← Tool.options table args (false, "\n") fun s g =>
    return match g.letter with
      | 'b' => (true, s.2)
      | 's' => (s.1, g.value.getD "")
      | _ => s
  let separator := if separator.isEmpty then "\x00" else separator
  (Tool.inputs paths).forM fun path => do
    match ← Tool.openInput path with
    | .error e =>
      Tool.warn ("failed to open " ++ Quoting.always path ++ " for reading: " ++ e.text)
    | .ok fd =>
      match ← Tool.readAll fd with
      | .error e =>
        let e := if e == .isDirectory then Errno.invalid else e
        Tool.warn (Quoting.name path ++ ": read error: " ++ e.text)
      | .ok text => (parts separator text before).reverse.forM Tool.put
      Tool.closeInput fd

end Tac

namespace Rev

/-- Shows the characters of each line from the last to the first. -/
def run (args : List Bytes) : Tool Unit := do
  let (_, paths) ← Tool.options {} args () fun _ _ => return ()
  (Tool.inputs paths).forM fun path => do
    match ← Tool.openInput path with
    | .error e => Tool.warn ("cannot open " ++ path ++ ": " ++ e.text)
    | .ok fd =>
      let _ ← Tool.foldLines (fun (_ : Unit) l => do
        Tool.put (({ l with text := String.ofList l.text.toList.reverse }).whole '\n')
        return ((), true)) Tool.rounds { fd } ()
      Tool.closeInput fd

end Rev

end Tilde.Utility
