import Tilde.Utility.Input
import Tilde.Utility.Options

/-!
# Counting

The tool that counts lines, words and bytes.
-/

namespace Tilde.Utility

open Unix (Bytes Act Errno)

namespace Wc

/-- What a text comes to. -/
structure Counts where
  lines : Nat := 0
  words : Nat := 0
  bytes : Nat := 0
  longest : Nat := 0
  /-- The width of the line that is not complete yet. -/
  width : Nat := 0
  inWord : Bool := false

/-- Which counts are shown, and how their sum is. -/
structure Style where
  lines : Bool := false
  words : Bool := false
  chars : Bool := false
  bytes : Bool := false
  longest : Bool := false
  total : Bytes := "auto"
  list : Option Bytes := none

/-- The options of the tool. -/
def table : OptionTable where
  letters := OptionTable.ofLetters "lwmcL" ""
  words := [("bytes", 'c', .none), ("chars", 'm', .none), ("lines", 'l', .none),
    ("words", 'w', .none), ("max-line-length", 'L', .none), ("total", 't', .required),
    ("files0-from", 'f', .required)]

/-- The style with an option. -/
def Style.withOption (s : Style) (g : Given) : Tool Style :=
  match g.letter with
  | 'l' => return { s with lines := true }
  | 'w' => return { s with words := true }
  | 'm' => return { s with chars := true }
  | 'c' => return { s with bytes := true }
  | 'L' => return { s with longest := true }
  | 't' => return { s with total := g.value.getD "" }
  | _ => return { s with list := g.value }

/-- Counts a character. -/
def Counts.add (n : Counts) (c : Char) : Counts :=
  let n := { n with bytes := n.bytes + 1 }
  if c == '\n' then
    { n with lines := n.lines + 1, longest := max n.longest n.width, width := 0, inWord := false }
  else if c == '\r' || c == '\x0C' then
    { n with longest := max n.longest n.width, width := 0, inWord := false }
  else if c == '\t' then { n with width := n.width + (8 - n.width % 8), inWord := false }
  else if c == ' ' then { n with width := n.width + 1, inWord := false }
  else if c == '\x0B' then { n with inWord := false }
  else
    { n with
      width := if ' ' ≤ c && c ≤ '~' then n.width + 1 else n.width
      words := if n.inWord then n.words else n.words + 1
      inWord := true }

/-- The counts with the last line. -/
def Counts.finished (n : Counts) : Counts := { n with longest := max n.longest n.width }

/-- The counts of two texts together. -/
def Counts.join (a b : Counts) : Counts where
  lines := a.lines + b.lines
  words := a.words + b.words
  bytes := a.bytes + b.bytes
  longest := max a.longest b.longest

/-- Counts what a descriptor gives. -/
def countAll (fd : Nat) : (bound : Nat) → Counts → Tool (Counts × Option Errno)
  | 0, n => return (n.finished, none)
  | bound + 1, n => do
    match ← Tool.readBlock fd with
    | .error e => return (n.finished, some e)
    | .ok "" => return (n.finished, none)
    | .ok text => countAll fd bound (text.foldl Counts.add n)

/-- The line that shows some counts. -/
def Style.shown (s : Style) (width : Nat) (n : Counts) (name : Option Bytes) : Bytes :=
  let number (show_ : Bool) (n : Nat) : List Bytes :=
    if show_ then
      let digits := toString n
      ["".pushn ' ' (width - digits.length) ++ digits]
    else []
  let numbers := number s.lines n.lines ++ number s.words n.words ++ number s.chars n.bytes ++
    number s.bytes n.bytes ++ number s.longest n.longest
  " ".intercalate (numbers ++ name.toList) ++ "\n"

/-- The width of numbers that may be as great as the sizes of some files together. Where there is
no telling how great they are, it is seven. -/
def widthOf (paths : List Bytes) : Tool Nat := do
  let step : Nat × Nat → Bytes → Tool (Nat × Nat)
    | (sum, least), path => do
      let call := if path == "-" then Unix.Call.infoOf 0 else .info path true
      match ← Tool.act (Act.info call) with
      | .ok i =>
        if i.kind == .regular then return (sum + i.size, least) else return (sum, 7)
      | .error _ => return (sum, least)
  let (sum, least) ← paths.foldlM step (0, 1)
  return max least (toString sum).length

/-- Counts and shows a file. -/
def showFile (s : Style) (width : Nat) (sum : Counts) (path : Bytes) (name : Option Bytes) :
    Tool Counts := do
  match ← Tool.openInput path with
  | .error e =>
    Tool.warnOf path e
    return sum
  | .ok fd =>
    let (n, error) ← countAll fd Tool.rounds {}
    match error with
    | some e => Tool.warnOf (name.getD "standard input") e
    | none => pure ()
    if s.total != "only" then Tool.put (s.shown width n (name.map Quoting.name))
    Tool.closeInput fd
    return sum.join n

/-- Counts what is in files. -/
def run (args : List Bytes) : Tool Unit := do
  let (s, paths) ← Tool.options table args ({} : Style) Style.withOption
  let s := if s.lines || s.words || s.chars || s.bytes || s.longest then s
    else { s with lines := true, words := true, bytes := true }
  let paths ← match s.list with
    | none => pure paths
    | some list =>
      match ← Tool.readFile list with
      | some text => pure ((text.splitOn "\x00").filter (· != ""))
      | none => Tool.stop 1
  let shownCounts := [s.lines, s.words, s.chars, s.bytes, s.longest].count true
  let single := shownCounts == 1 && paths.length ≤ 1
  let width ← if single || s.total == "only" then pure 1 else widthOf (Tool.inputs paths)
  match paths with
  | [] =>
    let _ ← showFile s width {} "-" none
  | paths =>
    let sum ← paths.foldlM (fun sum path => showFile s width sum path (some path)) {}
    let sums : Bool := match s.total with
      | "auto" => 1 < paths.length
      | "never" => false
      | _ => true
    if sums then
      Tool.put (s.shown width sum (if s.total == "only" then none else some "total"))

end Wc

end Tilde.Utility
