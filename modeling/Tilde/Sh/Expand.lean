import Tilde.Sh.Arith
import Tilde.Sh.Pattern

/-!
# Expanding words

A word is expanded into items: characters, of which those that were quoted are marked, and the
quotes themselves, so that an empty text in quotes is still a word. The parts that came from
expansions outside quotes are noted as regions, since only those are split into fields.
-/

namespace Tilde.Sh

open Unix (Bytes Act Call)

/-- An item of an expanded word. -/
inductive Item where
  | char (c : Char) (quoted : Bool)
  | quote

/-- A part of the items that is split into fields: by the separators, or where arguments end. -/
structure Region where
  first : Nat
  last : Nat
  atArguments : Bool

/-- An expanded word: its items and its regions, the last region first. -/
structure Expanded where
  items : Array Item := #[]
  regions : List Region := []

/-- How a word is expanded. -/
structure Expanding where
  /-- The result may be several words. -/
  full : Bool := false
  /-- A tilde at the front stands for a directory. -/
  tilde : Bool := false
  /-- So does one after the equals sign of an assignment and after a colon. -/
  assigns : Bool := false
  /-- The equals sign has been seen. -/
  assigned : Bool := false
  quoted : Bool := false
  /-- The word stands in an expansion. -/
  inner : Bool := false
  /-- The word does not count. -/
  discard : Bool := false

/-- The acts of expanding a word. -/
abbrev Expander := StateT Expanded ShM

namespace Item

/-- The characters of items. -/
def chars (items : List Item) : List Char :=
  items.filterMap fun
    | char c _ => some c
    | quote => none

/-- The text of items. -/
def text (items : List Item) : Bytes := String.ofList (chars items)

/-- Items as a pattern. -/
def pattern (items : List Item) : Pattern :=
  Pattern.unescaped (items.filterMap fun
    | char c quoted => some ⟨c, quoted⟩
    | quote => none)

end Item

namespace Expander

/-- Adds an item. -/
def add (i : Item) : Expander Unit := modify fun e => { e with items := e.items.push i }

/-- Adds a text. In quotes, the characters with a meaning in patterns are marked. -/
def addText (quoted : Bool) (s : Bytes) : Expander Unit :=
  let addChar (items : Array Item) (c : Char) : Array Item :=
    items.push (.char c (quoted && (hasMeaning c || c == '\\')))
  modify fun e => { e with items := s.toList.foldl addChar e.items }
where
  hasMeaning (c : Char) : Bool := "!*?[=~:/-]".toList.contains c

/-- Notes a region up to the end. -/
def note (first : Nat) (atArguments : Bool) : Expander Unit :=
  modify fun e => { e with regions := ⟨first, e.items.size, atArguments⟩ :: e.regions }

/-- Notes a region up to the end, unless it is empty. -/
def noteSome (first : Option Nat) : Expander Unit := do
  match first with
  | some n => if n < (← get).items.size then note n false
  | none => return

/-- Where the items end. -/
def here : Expander Nat := return (← get).items.size

/-- Does something with items of its own. -/
def apart {α : Type} (m : Expander α) : Expander (α × List Item) := do
  let (a, e) ← (m.run {} : ShM (α × Expanded))
  return (a, e.items.toList)

end Expander

/-- The place of a key in a table. -/
def placeOf (key : Bytes) : Nat :=
  (key.foldl (fun (h : UInt32) c => (h * 16777619) ^^^ c.toNat.toUInt32) 2166136261).toNat % 1024

/-- The elements of a table in the order in which they are listed. -/
def inOrder (elements : List (Bytes × Bytes)) : List (Bytes × Bytes) :=
  elements.mergeSort fun a b => placeOf a.1 ≤ placeOf b.1

/-- The texts that a parameter stands for, if it stands for any number of them. -/
def textsOf? (name : Bytes) : ShM (Option (List Bytes)) := do
  let s ← get
  if name == "@" || name == "*" then return some s.arguments.list
  else if name.endsWith "[@]" || name.endsWith "[*]" then
    let array := (name.dropEnd 3).toString
    let target := (array.drop 1).toString
    if let some elements := s.tables[array]? then return some ((inOrder elements).map (·.2))
    if array.startsWith "!" then
      match s.tables[target]? with
      | some elements => return some ((inOrder elements).map (·.1))
      | none => return some (((s.arrays[target]?).getD []).map fun e => toString e.1)
    else match s.arrays[array]? with
      | some elements => return some (elements.map (·.2))
      | none => return some ((s.vars[array]?).bind (·.value)).toList
  else return none

/-- The text of a subscript, with the values of the variables in it and without quotes. -/
def subscriptText : (bound : Nat) → List Char → ShM (List Char)
  | 0, cs => return cs
  | _, [] => return []
  | bound + 1, '$' :: cs => do
    let braced := cs.head? == some '\x7b'
    let cs := if braced then cs.drop 1 else cs
    let name := cs.takeWhile isNameChar
    let rest := cs.drop name.length
    let rest := if braced then rest.drop 1 else rest
    let value ← match name, cs with
      | [], c :: _ => if c == '#' then pure (toString (← get).arguments.list.length) else pure ""
      | name, _ => pure ((← ShM.lookup (String.ofList name)).getD "")
    return value.toList ++ (← subscriptText bound (if name.isEmpty then rest.drop 1 else rest))
  | bound + 1, c :: cs => do
    let rest ← subscriptText bound cs
    return if c == '"' || c == '\'' then rest else c :: rest

/-- The number that a subscript stands for. -/
def subscript (text : Bytes) : ShM Int := do
  let cs ← subscriptText text.length text.toList
  Arith.eval (String.ofList cs)

/-- The value of an element of an array, where a negative number counts from the end. -/
def elementOf (array : Bytes) (n : Int) : ShM (Option Bytes) := do
  let s ← get
  match s.arrays[array]? with
  | none => if n == 0 then ShM.lookup array else return none
  | some elements =>
    let last := (elements.map (·.1)).foldl max 0
    let place : Int := if n < 0 then last + 1 + n else n
    return if place < 0 then none else elements.lookup place.toNat

/-- The value of a parameter that only the extended shell has. -/
def extendedValue? (name : Bytes) : ShM (Option Bytes) := do
  match name.toList with
  | ['!', '#'] => return (← get).arguments.list.getLast?
  | '!' :: target =>
    let target := String.ofList target
    let named ← ShM.lookup target
    match named with
    | some v => if isName v then ShM.lookup v else return none
    | none => return none
  | cs =>
    let array := cs.takeWhile (· != '[')
    let inside := (cs.drop (array.length + 1)).dropLast
    if let some elements := (← get).tables[String.ofList array]? then
      let key ← subscriptText inside.length inside
      return elements.lookup (String.ofList key)
    elementOf (String.ofList array) (← subscript (String.ofList inside))

open Expander in
/-- Adds the texts of a list, with what stands between them. The result is the length of the
text. -/
def addArguments (mode : Expanding) (args : List Bytes) (adds isAll : Bool) : Expander Nat := do
  let ifs ← (ShM.lookup "IFS" : ShM (Option Bytes))
  let between : Option Char :=
    if isAll && mode.quoted && mode.full then some '\x00'
    else match ifs with
      | none => some ' '
      | some s =>
        if !mode.quoted && mode.full then some '\x00'
        else s.toList.head?
  let size := args.foldl (fun n a => n + a.length) 0
  if adds then
    let rec addAll : List Bytes → Expander Unit
      | [] => return ()
      | [a] => addText mode.quoted a
      | a :: rest => do
        addText mode.quoted a
        match between with
        | some c => addText mode.quoted (String.singleton c)
        | none => pure ()
        addAll rest
    addAll args
  return size + (if between.isSome then args.length - 1 else 0)

open Expander in
/-- Adds the value of a parameter. The result is its length, or none if it is not set. -/
def addParam (mode : Expanding) (name : Bytes) (op : ParamOp) : Expander (Option Nat) := do
  let adds := op != .ifSet && op != .length && !mode.discard
  if op == .bad then
    if mode.discard then return none
    else (ShM.failAs "Bad substitution" ("$\x7b" ++ name ++ "\x7d: bad substitution") : ShM Unit)
  let s ← (get : ShM State)
  let value (v : Bytes) : Expander (Option Nat) := do
    if adds then addText mode.quoted v
    return some v.length
  match name with
  | "$" => value (toString s.pid)
  | "?" => value (toString s.status)
  | "#" => value (toString s.arguments.list.length)
  | "!" => if s.lastBackground == 0 then return none else value (toString s.lastBackground)
  | "-" => value (← (ShM.switchLetters : ShM Bytes))
  | "@" => return some (← addArguments mode s.arguments.list adds true)
  | "*" => return some (← addArguments mode s.arguments.list adds false)
  | name =>
    if let some texts ← (textsOf? name : ShM (Option (List Bytes))) then
      let size ← addArguments mode texts adds (name.endsWith "[@]")
      if op == .length then return some texts.length
      return if texts.isEmpty then none else some size
    if name.startsWith "!" || name.endsWith "]" then
      match ← (extendedValue? name : ShM (Option Bytes)) with
      | some v => value v
      | none => return none
    else if isDigit (name.toList.headD 'x') then
      let n := (readNumber 10 name.toList).value.toNat
      if n == 0 then value s.name
      else match s.arguments.list[n - 1]? with
        | some v => value v
        | none => return none
    else match ← (ShM.lookup name : ShM (Option Bytes)) with
      | some v => value v
      | none => return none

/-- Fails because a parameter is not set. -/
def paramUnset {α : Type} (name : Bytes) (message : Option Bytes)
    (colon isError : Bool) : ShM α := do
  if (← get).extended then
    let usual := if !isError then "unbound variable"
      else if colon then "parameter null or not set" else "parameter not set"
    ShM.failWith 127 (name ++ ": " ++ message.getD usual)
  match message with
  | some m => ShM.fail (name ++ ": " ++ m)
  | none => ShM.fail (name ++ ": parameter not set" ++ (if colon then " or null" else ""))

/-- The home directory of a user. -/
def homeOf (user : Bytes) : ShM (Option Bytes) := do
  if user.isEmpty then return ← ShM.lookup "HOME"
  let read : Act Bytes := do
    match ← Act.number (.open_ "/etc/passwd" { reads := true } 0) with
    | .error _ => return ""
    | .ok fd =>
      let text ← Act.readAll fd
      let _ ← Act.ask (.close fd)
      return text.toOption.getD ""
  let text ← ShM.act read
  return (text.splitOn "\n").findSome? fun line =>
    match line.splitOn ":" with
    | name :: _ :: _ :: _ :: _ :: home :: _ => if name == user then some home else none
    | _ => none

open Expander in
/-- Reads a tilde and the name of a user after it, if they stand for a directory. The result is
what is left of the word. -/
def expandTilde (mode : Expanding) (w : Word) : Expander Word := do
  match w with
  | .char '~' false :: rest =>
    match nameAtoms rest with
    | none => return w
    | some (name, after) =>
      if mode.discard then return after
      match ← (homeOf name : ShM (Option Bytes)) with
      | none => return w
      | some home =>
        addText true home
        return after
  | w => return w
where
  nameAtoms : Word → Option (Bytes × Word)
    | [] => some ("", [])
    | .paramEnd :: w => some ("", .paramEnd :: w)
    | .char c false :: w =>
      if c == '/' || (c == ':' && mode.assigns) then some ("", .char c false :: w)
      else (nameAtoms w).map fun (s, after) => (String.ofList (c :: s.toList), after)
    | _ => none

/-- What the expander goes back to: other words, and commands whose output is wanted. -/
structure ExpandHooks where
  /-- Expands a word up to its end, or up to that of the expansion it stands in. -/
  word : Expanding → Word → Expander Word
  output : Command → ShM Bytes
  /-- The path under which a command is read, or written to. -/
  process : Bool → Command → ShM Bytes

open Expander in
/-- Cuts what matches a pattern off the items from a place on. -/
def cutItems (first : Nat) (front longest : Bool) (p : Pattern) : Expander Unit :=
  modify fun e =>
    let value := (e.items.toList.drop first)
    let cs := Item.chars value
    let left := if front then (p.cutFront longest cs).length else (p.cutBack longest cs).length
    let value := if front then value.drop (cs.length - left) else value.take left
    { e with items := (e.items.take first).append value.toArray }

/-- The parts of items between characters that are not quoted. -/
def splitItems (mark : Char) : List Item → List (List Item)
  | [] => [[]]
  | i :: items =>
    match i, splitItems mark items with
    | .char c false, part :: parts =>
      if c == mark then [] :: part :: parts else (.char c false :: part) :: parts
    | i, part :: parts => (i :: part) :: parts
    | i, [] => [[i]]

/-- The part of a list from a place on; a negative place counts from the end. -/
def sliced {α : Type} (first : Int) (size : Option Int) (xs : List α) : List α :=
  let total : Int := xs.length
  let start := if first < 0 then total + first else first
  if start < 0 then []
  else
    let rest := xs.drop start.toNat
    match size with
    | none => rest
    | some n => if n < 0 then rest.take (total + n - start).toNat else rest.take n.toNat

/-- The length of the longest text at the front that matches a pattern. -/
def longestFront (p : Pattern) (cs : List Char) : Option Nat :=
  ((List.range (cs.length + 1)).reverse).find? fun n => p.matchesText (cs.take n)

/-- Replaces matches of a pattern from the front on. -/
def replaceFrom (p : Pattern) (new : List Char) (all : Bool) : (bound : Nat) → List Char → List Char
  | 0, cs => cs
  | bound + 1, cs =>
    match longestFront p cs, cs with
    | some 0, [] | none, [] => []
    | some (n + 1), cs =>
      let rest := cs.drop (n + 1)
      new ++ (if all then replaceFrom p new all bound rest else rest)
    | _, c :: cs => c :: replaceFrom p new all bound cs

/-- Replaces matches of a pattern in a text. -/
def Replaced.apply (which : Replaced) (p : Pattern) (new text : Bytes) : Bytes :=
  let cs := text.toList
  let size := cs.length
  String.ofList (match which with
    | .first => if p.isEmpty then cs else replaceFrom p new.toList false (size + 1) cs
    | .all => if p.isEmpty then cs else replaceFrom p new.toList true (size + 1) cs
    | .atFront =>
      match longestFront p cs with
      | some n => new.toList ++ cs.drop n
      | none => cs
    | .atBack =>
      match (List.range (size + 1)).find? fun n => p.matchesText (cs.drop n) with
      | some n => cs.take n ++ new.toList
      | none => cs)

/-- What an operation of the extended shell does to texts. `isList` says that they are a list, of
which parts are taken, not of the texts in it. -/
def changeTexts (op : ParamOp) (isArguments isList : Bool) (items : List Item)
    (texts : List Bytes) :
    ShM (List Bytes) := do
  match op with
  | .slice =>
    let parts := splitItems ':' items
    let first ← Arith.eval (Item.text (parts.headD []))
    let size ← match parts with
      | _ :: size :: _ => some <$> Arith.eval (Item.text size)
      | _ => pure none
    if isArguments then return sliced first size ((← get).name :: texts)
    else if isList then return sliced first size texts
    else return texts.map fun t => String.ofList (sliced first size t.toList)
  | .replace which =>
    let parts := splitItems '/' items
    let new := "/".intercalate ((parts.drop 1).map Item.text)
    return texts.map (which.apply (Item.pattern (parts.headD [])) new)
  | .changeCase up all =>
    let change (c : Char) : Char := if up then c.toUpper else c.toLower
    let first (s : Bytes) : Bytes := match s.toList with
      | c :: cs => String.ofList (change c :: cs)
      | [] => s
    return texts.map fun s => if all then String.ofList (s.toList.map change) else first s
  | _ => return texts

/-- Whether an operation changes the texts that a parameter stands for. -/
def ParamOp.changes : ParamOp → Bool
  | .slice | .replace _ | .changeCase _ _ => true
  | _ => false

open Expander in
/-- Expands a parameter whose text is changed. The result is what is left of the word. -/
def expandChanged (k : ExpandHooks) (mode : Expanding) (name : Bytes) (op : ParamOp) (rest : Word) :
    Expander Word := do
  let first ← here
  let list ← (textsOf? name : ShM (Option (List Bytes)))
  let (size, old) ← apart (addParam { mode with quoted := true, discard := false } name .plain)
  let texts := list.getD [Item.text old]
  let skipped := mode.discard || (size.isNone && list.isNone)
  let (after, items) ← apart (k.word { discard := skipped } rest)
  if skipped then return after
  let isArguments := name == "@" || name == "*"
  let texts ← (changeTexts op isArguments list.isSome items texts : ShM (List Bytes))
  let isAll := name == "@" || name.endsWith "[@]"
  if list.isSome then
    let _ ← addArguments mode texts true isAll
  else addText mode.quoted (String.join texts)
  if !mode.quoted then note first false
  else if isAll && !texts.isEmpty then note first true
  return after

open Expander in
/-- Expands a parameter. The result is what is left of the word. -/
def expandParam (k : ExpandHooks) (mode : Expanding) (name : Bytes) (op : ParamOp)
    (colon : Bool) (rest : Word) : Expander Word := do
  if op.changes then return ← expandChanged k mode name op rest
  let first ← here
  let isAll := name.startsWith "@" || name.endsWith "[@]"
  let record (dropped : Bool) : Expander Unit := do
    if mode.discard || dropped then return
    if mode.quoted then
      let texts ← (textsOf? name : ShM (Option (List Bytes)))
      if isAll && !(texts.getD []).isEmpty then note first true
    else note first false
  let size ← addParam mode name op
  let isUnset := match size with
    | none => true
    | some n => colon && n == 0
  let nounset : Expander Unit := do
    if isUnset && !mode.discard then
      if ← (ShM.isOn .nounset : ShM Bool) then (paramUnset name none false false : ShM Unit)
  match op with
  | .orElse | .bad | .slice | .replace _ | .changeCase _ _ =>
    let rest ← k.word { mode with
      tilde := true, inner := true, discard := mode.discard || !isUnset } rest
    record isUnset
    return rest
  | .ifSet =>
    let rest ← k.word { mode with
      tilde := true, inner := true, discard := mode.discard || isUnset } rest
    record !isUnset
    return rest
  | .orAssign | .orFail =>
    let skipped := mode.discard || !isUnset
    let (after, items) ← apart (k.word { tilde := true, discard := skipped } rest)
    if skipped then
      record false
      return after
    let text := Item.text items
    if op == .orFail then
      let isPlain := match rest with
        | .paramEnd :: _ => true
        | _ => false
      (paramUnset name (if isPlain then none else some text) colon true : ShM Unit)
    (ShM.setVar name text : ShM Unit)
    let _ ← addParam mode name .plain
    record false
    return after
  | .length =>
    nounset
    if mode.discard then return rest.drop 1
    addText mode.quoted (toString (size.getD 0))
    record false
    return rest.drop 1
  | .plain =>
    nounset
    record isUnset
    return rest
  | .cutFront longest | .cutBack longest =>
    nounset
    let skipped := mode.discard || isUnset
    let (after, items) ← apart (k.word { tilde := true, discard := skipped } rest)
    if !skipped then
      let isFront := match op with
        | .cutFront _ => true
        | _ => false
      cutItems first isFront longest (Item.pattern items)
    record isUnset
    return after

open Expander in
/-- Expands the rest of a word. `inQuotes` says whether quotes are open, and `run` where the
characters begin that are split like an expansion. -/
def expandFrom (k : ExpandHooks) : (bound : Nat) → Expanding → (inQuotes : Bool) →
    (run : Option Nat) → Word → Expander Word
  | 0, _, _, _, _ => return []
  | bound + 1, mode, inQuotes, run, w => do
    let splits := mode.inner && !mode.quoted
    let runIf (starts : Bool) : Expander (Option Nat) := do
      let n ← here
      return if splits && starts then some n else none
    let newRun := runIf (!inQuotes)
    match w with
    | [] =>
      noteSome run
      return []
    | .paramEnd :: rest | .arithEnd :: rest =>
      noteSome run
      return rest
    | .elements _ :: rest => expandFrom k bound mode inQuotes run rest
    | .process reads body :: rest =>
      noteSome run
      if !mode.discard then addText true (← (k.process reads body : ShM Bytes))
      expandFrom k bound mode inQuotes (← newRun) rest
    | .char c escaped :: rest =>
      if !mode.discard then
        if escaped then noteSome run
        add (.char c escaped)
      let run ← if escaped then newRun else pure run
      let stops := !escaped && mode.assigns && (c == ':' || (c == '=' && !mode.assigned))
      let mode := if stops && c == '=' then { mode with assigned := true } else mode
      match rest with
      | .char '~' false :: _ =>
        if stops then
          noteSome run
          let rest ← expandTilde mode rest
          match rest with
          | .char '~' false :: rest =>
            if !mode.discard then add (.char '~' false)
            expandFrom k bound mode inQuotes (← newRun) rest
          | rest => expandFrom k bound mode inQuotes (← newRun) rest
        else expandFrom k bound mode inQuotes run rest
      | rest => expandFrom k bound mode inQuotes run rest
    | .quote :: rest =>
      noteSome run
      match rest with
      | .param name .plain _ :: .quote :: after =>
        if inQuotes || !(name == "@" || name.endsWith "[@]") then
          if !mode.discard then add .quote
          expandFrom k bound mode (!inQuotes) (← runIf inQuotes) rest
        else
          let _ ← expandParam k { mode with tilde := false, quoted := true } name .plain false []
          expandFrom k bound mode inQuotes (← newRun) after
      | rest =>
        if !mode.discard then add .quote
        expandFrom k bound mode (!inQuotes) (← runIf inQuotes) rest
    | .param name op colon :: rest =>
      noteSome run
      let inner := { mode with tilde := false, quoted := mode.quoted || inQuotes }
      let rest ← expandParam k inner name op colon rest
      expandFrom k bound mode inQuotes (← newRun) rest
    | .output body :: rest =>
      noteSome run
      if !mode.discard then
        let first ← here
        let text ← (k.output body : ShM Bytes)
        addText (mode.quoted || inQuotes) text
        if !(mode.quoted || inQuotes) then note first false
      expandFrom k bound mode inQuotes (← newRun) rest
    | .arith :: rest =>
      noteSome run
      let (rest, items) ← apart (k.word { discard := mode.discard } rest)
      if !mode.discard then
        let first ← here
        let v ← (Arith.eval (Item.text items) : ShM Int)
        addText (mode.quoted || inQuotes) (toString v)
        if !(mode.quoted || inQuotes) then note first false
      expandFrom k bound mode inQuotes (← newRun) rest

open Expander in
/-- Expands a word up to its end. -/
def expandWord (k : ExpandHooks) (mode : Expanding) (w : Word) : Expander Word := do
  let splits := mode.inner && !mode.quoted
  let (rest, first) ← match mode.tilde, w with
    | true, .char '~' false :: _ => do
      let after ← expandTilde mode w
      match after with
      | .char '~' false :: rest =>
        let first ← here
        if !mode.discard then add (.char '~' false)
        pure (rest, first)
      | after => pure (after, ← here)
    | _, w => pure (w, ← here)
  expandFrom k Act.rounds { mode with tilde := false } false
    (if splits then some first else none) rest

/-- The hooks, down to a depth of nesting. -/
def expandHooks (output : Command → ShM Bytes) (process : Bool → Command → ShM Bytes) :
    (depth : Nat) → ExpandHooks
  | 0 => { word := fun _ _ => return [], output, process }
  | depth + 1 => {
      word := fun mode w e => expandWord (expandHooks output process depth) mode w e
      output, process }

/-! ### Fields -/

/-- What the splitting into fields has come to. -/
structure Splitting where
  start : Nat := 0
  /-- White space has ended a field. -/
  space : Bool := false
  atArguments : Bool := false
  /-- The fields found, by their ends, the last one first. -/
  fields : List (Nat × Nat) := []

/-- Goes on over one character of a region. -/
def Splitting.step (s : Splitting) (ifs : List Char) (exact : Bool) (place : Nat) (c : Char) :
    Splitting :=
  let separates := c == '\x00' || ifs.contains c
  let isSpace := separates && ['\x00', ' ', '\t', '\n'].contains c
  if s.space then
    let start := if separates then place + 1 else place
    { s with start, space := isSpace }
  else if separates then
    let space := if exact then s.space else isSpace
    if place == s.start && space then { s with start := place + 1, space := false }
    else { s with space, start := place + 1, fields := (s.start, place) :: s.fields }
  else s

/-- Splits items into fields. -/
def splitFields (ifs : List Char) (e : Expanded) : List (List Item) :=
  let size := e.items.size
  let overItem (ifs : List Char) (exact : Bool) (s : Splitting) (i : Nat) : Splitting :=
    match (e.items[i]? : Option Item) with
    | some (.char c _) => s.step ifs exact i c
    | _ => if s.space then { s with start := i, space := false } else s
  let overRegion (s : Splitting) (r : Region) : Splitting :=
    let exact := s.atArguments || r.atArguments
    let ifs := if r.atArguments then [] else ifs
    let s := { s with space := false, atArguments := r.atArguments }
    (List.range' r.first (r.last - r.first)).foldl (overItem ifs exact) s
  let s := e.regions.reverse.foldl overRegion {}
  let fields := if s.atArguments || s.start < size then (s.start, size) :: s.fields else s.fields
  fields.reverse.map fun (first, last) => (e.items.extract first last).toList

/-! ### File names -/

/-- The parts of a pattern between slashes. -/
def patternParts : Pattern → List Pattern
  | [] => [[]]
  | p :: ps =>
    match patternParts ps with
    | part :: parts => if p.char == '/' then [] :: part :: parts else (p :: part) :: parts
    | [] => [[p]]

/-- Whether names are looked for where this part of a pattern stands. -/
def hasMeta : Pattern → Bool
  | [] => false
  | p :: ps =>
    if p.quoted then hasMeta ps
    else if p.char == '*' || p.char == '?' then true
    else if p.char == '[' then
      let set := match ps with
        | ⟨'!', false⟩ :: rest => rest
        | ps => ps
      (set.drop 1).contains ⟨']', false⟩ || hasMeta ps
    else hasMeta ps

/-- The text that a pattern stands for where its characters have no meaning. -/
def plainPattern (p : Pattern) : Bytes := String.ofList (p.map (·.char))

/-- The paths that match, given a directory, the parts of the pattern and a bound on their number.
-/
def matchingPaths : (bound : Nat) → (dir : Bytes) → List Pattern → ShM (List Bytes)
  | 0, _, _ => return []
  | bound + 1, dir, parts => do
    let plain := parts.takeWhile fun p => !hasMeta p
    match parts.drop plain.length with
    | [] =>
      if dir.isEmpty then return []
      let path := dir ++ "/".intercalate (plain.map plainPattern)
      match ← ShM.act (Act.info (.info path false)) with
      | .ok _ => return [path]
      | .error _ => return []
    | part :: rest =>
      let dir := dir ++ String.join (plain.map fun p => plainPattern p ++ "/")
      match ← ShM.act (Act.names (.list (if dir.isEmpty then "." else dir))) with
      | .error _ => return []
      | .ok names =>
        let showsDots := part.head?.any (·.char == '.')
        let found := (("." :: ".." :: names).filter fun n =>
          (showsDots || !n.startsWith ".") && part.matchesText n.toList)
        if rest.isEmpty then return found.map (dir ++ ·)
        let paths ← found.mapM fun n => matchingPaths bound (dir ++ n ++ "/") rest
        return paths.flatten

/-- The words that a field stands for: the paths that match it, or its text. -/
def fieldWords (items : List Item) : ShM (List Bytes) := do
  let plain := [Item.text items]
  if ← ShM.isOn .noglob then return plain
  let p := Item.pattern items
  let parts := patternParts p
  if !parts.any hasMeta then return plain
  let paths ← matchingPaths (parts.length + 1) "" parts
  if paths.isEmpty then
    return if (← get).features.contains "nullglob" then [] else plain
  return paths.mergeSort fun a b => decide (a ≤ b)

/-! ### Words of commands -/

/-- Expands a word into any number of words. -/
def ExpandHooks.words (k : ExpandHooks) (w : Word) : ShM (List Bytes) := do
  let (_, e) ← (k.word { full := true, tilde := true } w).run {}
  let ifs ← ShM.separators
  let fields := splitFields ifs.toList e
  let words ← fields.mapM fieldWords
  return words.flatten

/-- Expands a word into items. -/
def ExpandHooks.items (k : ExpandHooks) (mode : Expanding) (w : Word) : ShM (List Item) := do
  let (_, e) ← (k.word mode w).run {}
  return e.items.toList

/-- Expands a word into one text. -/
def ExpandHooks.text (k : ExpandHooks) (mode : Expanding) (w : Word) : ShM Bytes := do
  return Item.text (← k.items mode w)

end Tilde.Sh
