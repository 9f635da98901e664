import Std.Data.HashMap
import Tilde.Utility.Awk.Matching
import Tilde.Utility.Awk.Syntax
import Tilde.Utility.Awk.Table
import Tilde.Utility.Input

/-!
# Running awk programs

What a running program keeps: its variables and arrays, the record and its fields, and the files and
commands that it reads and writes. The record is taken into fields when one of them is asked for,
and put together again when one of them has changed.
-/

namespace Tilde.Utility.Awk

open Unix (Bytes)
open Regex (Searcher)

/-- How statements are left. -/
inductive Leave where
  | break_
  | continue_
  | next
  | nextFile
  | exit
  | return_ (v : Value)
  /-- Something went wrong that has been told. -/
  | stop

/-- What a variable holds. -/
inductive Slot where
  | value (v : Value)
  /-- An array, or nothing so far. -/
  | array (n : Nat)
  deriving Inhabited

/-- What ends records. -/
inductive Separator where
  | mark (c : Char)
  | emptyLines
  | pattern (s : Bytes)
  deriving DecidableEq

/-- Something that records are read from. -/
structure Stream where
  fd : Nat
  /-- The process that writes what is read. -/
  child : Option Nat := none
  separator : Separator := .mark '\n'
  /-- The records that were found, each with what ends it. -/
  ready : List (Bytes × Bytes) := []
  /-- What comes after them. -/
  rest : Bytes := ""
  isOver : Bool := false

/-- Something that is written. -/
structure Output where
  fd : Nat
  child : Option Nat := none
  /-- What has not been written yet, the last piece first. -/
  held : List Bytes := []
  heldSize : Nat := 0

/-- A running program. -/
structure Machine where
  functions : Array Function
  /-- The names of the variables. -/
  names : Array Bytes
  globals : Array Slot
  locals : Array Slot := #[]
  tables : Std.HashMap Nat Table := {}
  /-- The number of the next array. -/
  freeTable : Nat
  text : Bytes := ""
  fields : Array Value := #[]
  /-- The fields are those of the text. -/
  isSplit : Bool := true
  /-- The text is that of the fields. -/
  isJoined : Bool := true
  searchers : Std.HashMap Bytes Searcher := {}
  /-- The rules for ranges that go on. -/
  active : List Nat := []
  /-- Those used last come first. -/
  outputs : List (Bytes × Output) := []
  inputs : List (Bytes × Stream) := []
  main : Option Stream := none
  /-- There is no more input. -/
  isOver : Bool := false
  hasRead : Bool := false
  /-- The number of the argument that is read next. -/
  argument : Nat := 1
  seed : Value := .number 0.0
  random : UInt64 := 88172645463325252
  status : Nat := 0

/-- Acts of a program. -/
abbrev Run := ExceptT Leave (StateT Machine Tool)

namespace Run

/-- The places of the variables with a meaning. -/
abbrev nf : Nat := 0
abbrev nr : Nat := 1
abbrev fnr : Nat := 2
abbrev fs : Nat := 3
abbrev ofs : Nat := 4
abbrev ors : Nat := 5
abbrev rs : Nat := 6
abbrev filename : Nat := 7
abbrev subsep : Nat := 8
abbrev rstart : Nat := 9
abbrev rlength : Nat := 10
abbrev convfmt : Nat := 11
abbrev ofmt : Nat := 12
abbrev environ : Nat := 13
abbrev argc : Nat := 14
abbrev argv : Nat := 15

/-- Does something as a tool. -/
def tool {α : Type} (m : Tool α) : Run α := ExceptT.lift (StateT.lift m)

/-- The value of a variable with a meaning. -/
def special (n : Nat) : Run Value := do
  match (← get).globals[n]? with
  | some (.value v) => return v
  | _ => return .unset

/-- Sets a variable with a meaning. -/
def setSpecial (n : Nat) (v : Value) : Run Unit :=
  modify fun s => { s with globals := s.globals.set! n (.value v) }

/-- A value as a text. -/
def textOf (v : Value) : Run Bytes := do
  match v with
  | .text s | .input s => return s
  | .unset => return ""
  | v => return v.toText ((← special convfmt).toText "%.6g")

/-- The text of a variable with a meaning. -/
def specialText (n : Nat) : Run Bytes := do textOf (← special n)

/-- Says what went wrong, and ends the program. -/
def fail {α : Type} (message : Bytes) : Run α := do
  let file ← specialText filename
  let inFile ← specialText fnr
  let all ← specialText nr
  tool (Tool.writeErr ("awk: run time error: " ++ message ++ "\n\tFILENAME=\"" ++
    file ++ "\" FNR=" ++ inFile ++ " NR=" ++ all ++ "\n"))
  throw .stop

/-- Says what the system does not let the program do, and ends the program. -/
def deny {α : Type} (message : Bytes) : Run α := do
  tool (Tool.writeErr ("awk: " ++ message ++ "\n"))
  throw .stop

/-- An expression made ready. -/
def searcher (s : Bytes) : Run Searcher := do
  match (← get).searchers[s]? with
  | some r => return r
  | none =>
    match searcherOf s with
    | .ok r =>
      modify fun m => { m with searchers := m.searchers.insert s r }
      return r
    | .error e => fail ("regular expression compile failed (" ++ e ++ ")\n" ++ s)

/-- The way to split that a text asks for. -/
def splitter (s : Bytes) : Run Splitter := do
  match s.toList with
  | [' '] => return .blanks
  | [] => return .characters
  | [c] => return .mark c
  | _ => return .pattern (← searcher s)

/-! ### The record -/

/-- Takes the record into fields. -/
def splitRecord : Run Unit := do
  let s ← get
  if s.isSplit then return
  let way ← splitter (← specialText fs)
  let fields := ((way.split s.text).map Value.input).toArray
  modify fun s => { s with fields, isSplit := true }

/-- Sets the record. -/
def setRecord (text : Bytes) : Run Unit :=
  modify fun s => { s with text, isSplit := false, isJoined := true }

/-- The text of the record. -/
def record : Run Bytes := do
  let s ← get
  if s.isJoined then return s.text
  let between ← specialText ofs
  let texts ← s.fields.toList.mapM textOf
  let text := between.intercalate texts
  modify fun s => { s with text, isJoined := true }
  return text

/-- How many fields there are. -/
def fieldCount : Run Nat := do
  splitRecord
  return (← get).fields.size

/-- Sets how many fields there are. -/
def setFieldCount (x : Float) : Run Unit := do
  let n := truncated x
  if n < 0 then fail "negative value assigned to NF"
  splitRecord
  let fields := (← get).fields
  let fields := if n.toNat ≤ fields.size then fields.extract 0 n.toNat
    else fields ++ Array.replicate (n.toNat - fields.size) (Value.input "")
  modify fun s => { s with fields, isJoined := false }

/-- The number of the field that a value names. -/
def fieldNumber (v : Value) : Run Nat := do
  let n := truncated v.toNumber
  if n < 0 then fail ("negative field index $" ++ toString n)
  return n.toNat

/-- A field; the field zero is the record. -/
def field (n : Nat) : Run Value := do
  if n == 0 then return .input (← record)
  splitRecord
  return ((← get).fields[n - 1]?).getD (.input "")

/-- Sets a field. -/
def setField (n : Nat) (v : Value) : Run Unit := do
  if n == 0 then setRecord (← textOf v)
  else
    splitRecord
    let fields := (← get).fields
    let fields := if n ≤ fields.size then fields
      else fields ++ Array.replicate (n - fields.size) (Value.input "")
    modify fun s => { s with fields := fields.set! (n - 1) v, isJoined := false }

/-! ### Variables -/

/-- What is kept at a place. -/
def slot : Place → Run Slot
  | .everywhere n => return ((← get).globals[n]?).getD (.array n)
  | .inCall n => return ((← get).locals[n]?).getD (.array 0)

/-- The value of a variable. -/
def variable_ (p : Place) : Run Value := do
  if p == .everywhere nf then return .number (Float.ofNat (← fieldCount))
  match ← slot p with
  | .value v => return v
  | .array _ => return .unset

/-- Sets a variable. -/
def setVariable (p : Place) (v : Value) : Run Unit := do
  match p with
  | .inCall n => modify fun s => { s with locals := s.locals.set! n (.value v) }
  | .everywhere n =>
    if n == nf then setFieldCount v.toNumber
    else
      if n == fs || n == rs then splitRecord
      modify fun s => { s with globals := s.globals.set! n (.value v) }

/-- The number of the array at a place. -/
def arrayAt (p : Place) : Run Nat := do
  match ← slot p with
  | .array n => return n
  | .value _ => fail "type error in arg in call"

/-- An array. -/
def table (n : Nat) : Run Table := return ((← get).tables[n]?).getD {}

/-- Sets an array. -/
def setTable (n : Nat) (t : Table) : Run Unit :=
  modify fun s => { s with tables := s.tables.insert n t }

/-- Looks for a key in an array, which may be made. -/
def findKey (n : Nat) (key : Table.Key) (makes : Bool) : Run Bool := do
  let s ← get
  let t := (s.tables[n]?).getD {}
  set { s with tables := s.tables.erase n }
  let (found, t) := t.find key makes
  setTable n t
  return found

/-- The value of a key of an array; the key is made. -/
def element (n : Nat) (key : Table.Key) : Run Value := do
  let _ ← findKey n key true
  return ((← table n).values[key.toText]?).getD .unset

/-- Sets the value of a key that is there. -/
def setElement (n : Nat) (key : Table.Key) (v : Value) : Run Unit := do
  let s ← get
  let t := (s.tables[n]?).getD {}
  set { s with tables := s.tables.erase n }
  setTable n (t.set key v)

/-- A key from the values of subscripts. -/
def keyFrom (vs : List Value) : Run Table.Key := do
  match vs with
  | [v] => return Table.keyOf ((← special convfmt).toText "%.6g") v
  | vs =>
    let texts ← vs.mapM textOf
    return .text ((← specialText subsep).intercalate texts)

end Run

end Tilde.Utility.Awk
