import Tilde.Utility.Input
import Tilde.Utility.Options
import Tilde.Utility.Order

/-!
# Sorting

The tool that sorts lines, by keys that are parts of them. Lines that are alike in all keys are
sorted by their bytes, unless they are to stay in order.
-/

namespace Tilde.Utility.Sort

open Unix (Bytes Act Errno)

/-- How a key is compared, as letters, and whether it is turned round. -/
structure Rule where
  letters : List Char := []
  deriving DecidableEq

/-- Whether a rule has a letter. -/
def Rule.has (r : Rule) (c : Char) : Bool := r.letters.contains c

/-- A key: the field and the character it begins and ends with, counted from zero. -/
structure Key where
  firstField : Nat := 0
  firstChar : Nat := 0
  lastField : Option Nat := none
  /-- The characters of the last field; zero for all of them. -/
  lastChar : Nat := 0
  skipsFirst : Bool := false
  skipsLast : Bool := false
  rule : Rule := {}

/-- What the tool does. -/
structure Style where
  keys : List Key := []
  global : Rule := {}
  tab : Option Char := none
  unique : Bool := false
  stable : Bool := false
  merges : Bool := false
  /-- Whether the order is only checked, and whether in silence. -/
  checks : Option Bool := none
  output : Option Bytes := none
  ending : Char := '\n'

/-- The options of the tool. -/
def table : OptionTable where
  letters := OptionTable.ofLetters "bdfghiMnRrVcCmsuz" "kotST"
  words := [("ignore-leading-blanks", 'b', .none), ("dictionary-order", 'd', .none),
    ("ignore-case", 'f', .none), ("general-numeric-sort", 'g', .none),
    ("human-numeric-sort", 'h', .none), ("ignore-nonprinting", 'i', .none),
    ("month-sort", 'M', .none), ("numeric-sort", 'n', .none), ("random-sort", 'R', .none),
    ("reverse", 'r', .none), ("version-sort", 'V', .none), ("check", 'c', .optional),
    ("merge", 'm', .none), ("stable", 's', .none), ("unique", 'u', .none),
    ("zero-terminated", 'z', .none), ("key", 'k', .required), ("output", 'o', .required),
    ("field-separator", 't', .required), ("buffer-size", 'S', .required),
    ("temporary-directory", 'T', .required), ("parallel", 'P', .required),
    ("sort", 'Z', .required), ("batch-size", 'P', .required)]
  status := 2

/-- Ends the tool because of a key. -/
def badKey {α : Type} (text reason : Bytes) : Tool α :=
  Tool.die 2 (reason ++ ": invalid field specification " ++ Quoting.plain text)

/-- Reads a number of a key. -/
def keyNumber (cs : List Char) (what : Bytes) : Tool (Nat × List Char) := do
  let digits := cs.takeWhile Char.isDigit
  if digits.isEmpty then
    let shown := Quoting.plain (String.ofList cs)
    Tool.die 2 (what ++ ": invalid count at start of " ++ shown)
  return (digitsValue digits, cs.drop digits.length)

/-- Reads the letters of a key. The flag says that there is a blank letter. -/
def keyLetters (cs : List Char) : List Char × Bool × List Char :=
  let letters := cs.takeWhile "bdfghiMnRrV".toList.contains
  (letters.filter (· != 'b'), letters.contains 'b', cs.drop letters.length)

/-- Reads a key. -/
def readKey (text : Bytes) : Tool Key := do
  let (field, rest) ← keyNumber text.toList "invalid number at field start"
  if field == 0 then badKey text "field number is zero"
  let (char, rest) ← match rest with
    | '.' :: rest =>
      let (n, rest) ← keyNumber rest "invalid number after '.'"
      if n == 0 then badKey text "character offset is zero"
      pure (n - 1, rest)
    | rest => pure (0, rest)
  let (letters, skipsFirst, rest) := keyLetters rest
  let key : Key :=
    { firstField := field - 1, firstChar := char, skipsFirst, rule := ⟨letters⟩ }
  match rest with
  | [] => return key
  | ',' :: rest =>
    let (field, rest) ← keyNumber rest "invalid number after ','"
    if field == 0 then badKey text "field number is zero"
    let (char, rest) ← match rest with
      | '.' :: rest => keyNumber rest "invalid number after '.'"
      | rest => pure (0, rest)
    let (more, skipsLast, rest) := keyLetters rest
    if !rest.isEmpty then badKey text "stray character in field spec"
    return { key with
      lastField := some (field - 1), lastChar := char, skipsLast, rule := ⟨letters ++ more⟩ }
  | _ => badKey text "stray character in field spec"

/-- The letter of a word for an order. -/
def orderOf (word : Bytes) : Tool Char := do
  let orders := [("general-numeric", 'g'), ("human-numeric", 'h'), ("month", 'M'),
    ("numeric", 'n'), ("random", 'R'), ("version", 'V')]
  match orders.filter (·.1.startsWith word) with
  | [(_, c)] => return c
  | _ =>
    Tool.say ("invalid argument " ++ Quoting.plain word ++ " for '--sort'")
    Tool.writeErr ("Valid arguments are:\n" ++
      String.join (orders.map fun o => "  - '" ++ o.1 ++ "'\n"))
    Tool.writeErr (← Tool.hint)
    Tool.stop 2

/-- The style with an option. -/
def Style.withOption (s : Style) (g : Given) : Tool Style := do
  let text := g.value.getD ""
  match g.letter with
  | 'k' => return { s with keys := s.keys ++ [← readKey text] }
  | 'o' => return { s with output := some text }
  | 't' =>
    match text.toList with
    | [c] => return { s with tab := some c }
    | ['\\', '0'] => return { s with tab := some '\x00' }
    | [] => Tool.die 2 "empty tab"
    | _ => Tool.die 2 ("multi-character tab " ++ Quoting.plain text)
  | 'c' =>
    if g.value.isSome && text != "diagnose-first" && text != "quiet" && text != "silent" then
      Tool.say ("invalid argument " ++ Quoting.plain text ++ " for '--check'")
      Tool.writeErr ("Valid arguments are:\n  - 'quiet', 'silent'\n  - 'diagnose-first'\n")
      Tool.writeErr (← Tool.hint)
      Tool.stop 2
    return { s with checks := some (text == "quiet" || text == "silent") }
  | 'C' => return { s with checks := some true }
  | 'm' => return { s with merges := true }
  | 's' => return { s with stable := true }
  | 'u' => return { s with unique := true }
  | 'z' => return { s with ending := '\x00' }
  | 'S' | 'T' | 'P' => return s
  | 'Z' =>
    let c ← orderOf text
    return { s with global := ⟨s.global.letters ++ [c]⟩ }
  | c => return { s with global := ⟨s.global.letters ++ [c]⟩ }

/-- Whether the letters of a rule exclude each other. -/
def Rule.clashes (r : Rule) : Bool :=
  let others := r.has 'V' || r.has 'R' || r.has 'd' || r.has 'i'
  1 < [r.has 'n', r.has 'g', r.has 'h', r.has 'M', others].count true

/-! ### Keys -/

/-- The text behind a number of fields. -/
def behindFields (tab : Option Char) : Nat → List Char → List Char
  | 0, cs => cs
  | n + 1, cs =>
    match tab with
    | some t => behindFields tab n ((cs.dropWhile (· != t)).drop 1)
    | none => behindFields tab n ((cs.dropWhile Order.isBlank).dropWhile (!Order.isBlank ·))

/-- The text at the end of a number of fields, where the last one keeps its separator. -/
def atFieldEnd (tab : Option Char) (joined : Bool) : Nat → List Char → List Char
  | 0, cs => cs
  | n + 1, cs =>
    match tab with
    | some t =>
      let rest := cs.dropWhile (· != t)
      atFieldEnd tab joined n (if n != 0 || joined then rest.drop 1 else rest)
    | none => atFieldEnd tab joined n ((cs.dropWhile Order.isBlank).dropWhile (!Order.isBlank ·))

/-- The part of a line that a key takes. -/
def Key.part (k : Key) (tab : Option Char) (line : List Char) : List Char :=
  let start := behindFields tab k.firstField line
  let start := if k.skipsFirst then start.dropWhile Order.isBlank else start
  let start := start.drop k.firstChar
  match k.lastField with
  | none => start
  | some field =>
    let rest :=
      if k.lastChar == 0 then atFieldEnd tab false (field + 1) line
      else
        let rest := atFieldEnd tab true field line
        let rest := if k.skipsLast then rest.dropWhile Order.isBlank else rest
        rest.drop k.lastChar
    start.take (start.length - rest.length)

/-- The characters that a rule compares, as it compares them. -/
def Rule.text (r : Rule) (cs : List Char) : List Char :=
  let cs := if r.has 'd' then
    cs.filter fun c => c.isAlphanum || c == ' ' || c == '\t' else cs
  let cs := if r.has 'i' then cs.filter fun c => ' ' ≤ c && c ≤ '~' else cs
  if r.has 'f' then cs.map Char.toUpper else cs

/-- The order of the parts of two lines. -/
def Rule.order (r : Rule) (a b : List Char) : Ordering :=
  let o :=
    if r.has 'n' then Order.numbers a b
    else if r.has 'h' then Order.sizes a b
    else if r.has 'g' then Order.floats a b
    else if r.has 'M' then Order.months a b
    else if r.has 'V' then Order.versions (r.text a) (r.text b)
    else Order.bytes (r.text a) (r.text b)
  if r.has 'r' then o.swap else o

/-- A line with the parts that its keys take. -/
structure Entry where
  line : Bytes
  chars : List Char
  parts : List (Rule × List Char)

/-- The keys that count: a key without letters of its own has those of the tool. -/
def Style.allKeys (s : Style) : List Key :=
  let isPlain := s.global.letters.all (· == 'r')
  if s.keys.isEmpty then
    if isPlain then []
    else [{ rule := ⟨s.global.letters.filter (· != 'b')⟩, skipsFirst := s.global.has 'b' }]
  else s.keys.map fun k =>
    if k.rule.letters.isEmpty && !k.skipsFirst && !k.skipsLast then
      { k with
        rule := ⟨s.global.letters.filter (· != 'b')⟩, skipsFirst := s.global.has 'b'
        skipsLast := s.global.has 'b' }
    else k

/-- An entry for a line. -/
def entry (keys : List Key) (tab : Option Char) (line : Bytes) : Entry :=
  let chars := line.toList
  { line, chars, parts := keys.map fun k => (k.rule, k.part tab chars) }

/-- The order of the keys of two lines. -/
def orderOfParts : List (Rule × List Char) → List (Rule × List Char) → Ordering
  | (r, a) :: as, (_, b) :: bs => (r.order a b).then (orderOfParts as bs)
  | _, _ => .eq

/-- The order of two lines. -/
def Style.order (s : Style) (a b : Entry) : Ordering :=
  let o := orderOfParts a.parts b.parts
  if !a.parts.isEmpty && (s.unique || s.stable) then o
  else o.then (if s.global.has 'r' then Order.bytes b.chars a.chars
    else Order.bytes a.chars b.chars)

/-- Drops lines that are like the one before them. -/
def Style.single (s : Style) : List Entry → List Entry
  | a :: b :: rest =>
    if s.order a b == .eq then s.single (a :: rest) else a :: s.single (b :: rest)
  | es => es
termination_by es => es.length

/-- The lines of a file. -/
def linesOf (s : Style) (path : Bytes) : Tool (List Bytes) := do
  match ← Tool.openInput path with
  | .error e => Tool.die 2 ("cannot read: " ++ Quoting.name path ++ ": " ++ e.text)
  | .ok fd =>
    let text ← Tool.readAll fd
    Tool.closeInput fd
    match text with
    | .error e => Tool.die 2 ("read failed: " ++ Quoting.name path ++ ": " ++ e.text)
    | .ok "" => return []
    | .ok text =>
      let pieces := text.splitOn (String.singleton s.ending)
      return if text.endsWith (String.singleton s.ending) then pieces.dropLast else pieces

/-- Says where lines are out of order. -/
def check (s : Style) (silent : Bool) (path : Bytes) : (number : Nat) → List Entry → Tool Unit
  | n, a :: b :: rest =>
    let o := s.order a b
    if o == .gt || (s.unique && o == .eq) then do
      if !silent then
        Tool.say (Quoting.name path ++ ":" ++ toString (n + 1) ++ ": disorder: " ++ b.line)
      Tool.stop 1
    else check s silent path (n + 1) (b :: rest)
  | _, _ => return

/-- Writes the lines to a file. -/
def writeFile (path : Bytes) (text : Bytes) : Tool Unit := do
  let how : Unix.OpenMode := { writes := true, creates := true, truncates := true }
  match ← Tool.act (Act.number (.open_ path how 0o666)) with
  | .error e => Tool.die 2 ("open failed: " ++ Quoting.name path ++ ": " ++ e.text)
  | .ok fd =>
    let _ ← Tool.act (Act.write fd text)
    Tool.closeInput fd

/-- Arguments in the old way to name keys are those that begin with a plus sign. -/
def oldKey? (arg : Bytes) : Option Bytes := do
  let text ← if arg.startsWith "+" then some (arg.drop 1).toString else none
  let n ← natOf? text
  return toString (n + 1)

/-- Sorts the lines of files. -/
def run (args : List Bytes) : Tool Unit := do
  let args := args.flatMap fun a => match oldKey? a with
    | some key => ["-k", key]
    | none => [a]
  let (s, paths) ← Tool.options table args ({} : Style) Style.withOption
  let keys := s.allKeys
  match (keys.map (·.rule)).find? (·.clashes) with
  | some r =>
    let shown := "dfghiMnRV".toList.filter r.has
    Tool.die 2 ("options '-" ++ String.ofList shown ++ "' are incompatible")
  | none => pure ()
  let paths := Tool.inputs paths
  match s.checks, paths.drop 1 with
  | some silent, extra :: _ =>
    let shown := Quoting.plain extra
    let letter := if silent then "C" else "c"
    Tool.die 2 ("extra operand " ++ shown ++ " not allowed with -" ++ letter)
  | _, _ => pure ()
  let files ← paths.mapM fun path => do
    return (← linesOf s path).map (entry keys s.tab)
  match s.checks with
  | some silent => check s silent (paths.headD "-") 1 files.flatten
  | none =>
    let before (a b : Entry) : Bool := s.order a b != .gt
    let sorted := if s.merges then files.foldl (fun a b => a.merge b before) []
      else files.flatten.mergeSort before
    let shown := if s.unique then s.single sorted else sorted
    match s.output with
    | none => shown.forM fun e => Tool.put (e.line.push s.ending)
    | some path => writeFile path (String.join (shown.map fun e => e.line.push s.ending))

end Tilde.Utility.Sort
