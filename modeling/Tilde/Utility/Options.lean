import Tilde.Utility.Tool

/-!
# Options

How tools read their options: letters behind a dash, of which the last may have a value, and words
behind two dashes, which may be cut short as long as it is clear which one is meant. Options may
stand behind other arguments, up to an argument of two dashes.
-/

namespace Tilde.Utility

open Unix (Bytes)

/-- Whether an option has a value. -/
inductive Arity where
  | none
  | required
  /-- A value only if it is joined to the option. -/
  | optional
  deriving DecidableEq, Repr

/-- The options of a tool. -/
structure OptionTable where
  letters : List (Char × Arity) := []
  /-- Words, with the letter that each stands for. -/
  words : List (String × Char × Arity) := []
  /-- Options may stand behind other arguments. -/
  mixes : Bool := true
  /-- The status of a tool whose options are wrong. -/
  status : Nat := 1
  /-- A line about the usage, which is shown when options are wrong. -/
  usage : Bytes := ""

/-- An option with its value. -/
structure Given where
  letter : Char
  value : Option Bytes := none

/-- What an argument is. -/
inductive Argument where
  | option (g : Given)
  | operand (text : Bytes)
  | wrong (message : Bytes)

namespace OptionTable

/-- Letters without a value, and letters with one. -/
def ofLetters (plain : String) (valued : String) : List (Char × Arity) :=
  plain.toList.map (·, .none) ++ valued.toList.map (·, .required)

/-- Reads letters. The result says whether the next argument was used. -/
def readLetters (t : OptionTable) (next : Option Bytes) : List Char → List Argument × Bool
  | [] => ([], false)
  | c :: cs =>
    match t.letters.lookup c with
    | none => ([.wrong ("invalid option -- '" ++ String.singleton c ++ "'")], false)
    | some .none =>
      let (as, used) := readLetters t next cs
      (.option { letter := c } :: as, used)
    | some .optional =>
      ([.option { letter := c, value := if cs.isEmpty then none else some (String.ofList cs) }],
        false)
    | some .required =>
      if !cs.isEmpty then ([.option { letter := c, value := some (String.ofList cs) }], false)
      else match next with
        | some value => ([.option { letter := c, value := some value }], true)
        | none =>
          ([.wrong ("option requires an argument -- '" ++ String.singleton c ++ "'")], false)

/-- Reads a word. The result says whether the next argument was used. -/
def readWord (t : OptionTable) (next : Option Bytes) (text : Bytes) : Argument × Bool :=
  let name := (text.takeWhile (· != '=')).toString
  let value : Option Bytes :=
    if name.length == text.length then none else some (text.drop (name.length + 1)).toString
  let exact := t.words.filter (·.1 == name)
  let found := if exact.isEmpty then t.words.filter (·.1.startsWith name) else exact
  match found with
  | [] => (.wrong ("unrecognized option '--" ++ text ++ "'"), false)
  | (word, letter, arity) :: others =>
    if others.any fun o => o.2 != (letter, arity) then
      let all := String.join (found.map fun f => " '--" ++ f.1 ++ "'")
      (.wrong ("option '--" ++ text ++ "' is ambiguous; possibilities:" ++ all), false)
    else match arity, value with
      | .none, some _ => (.wrong ("option '--" ++ word ++ "' doesn't allow an argument"), false)
      | .required, none =>
        match next with
        | some value => (.option { letter, value := some value }, true)
        | none => (.wrong ("option '--" ++ word ++ "' requires an argument"), false)
      | _, _ => (.option { letter, value }, false)

/-- Reads arguments. -/
def read (t : OptionTable) : List Bytes → List Argument
  | [] => []
  | "--" :: rest => rest.map .operand
  | text :: rest =>
    if text.startsWith "--" then
      let (a, used) := t.readWord rest.head? (text.drop 2).toString
      match used, rest with
      | true, _ :: rest => a :: t.read rest
      | _, rest => a :: t.read rest
    else if text.startsWith "-" && 1 < text.length then
      let (as, used) := t.readLetters rest.head? (text.drop 1).toString.toList
      match used, rest with
      | true, _ :: rest => as ++ t.read rest
      | _, rest => as ++ t.read rest
    else if t.mixes then .operand text :: t.read rest
    else (text :: rest).map .operand

end OptionTable

namespace Tool

/-- Goes through the options in turn, and gives the other arguments. -/
def options {σ : Type} (t : OptionTable) (args : List Bytes) (s : σ)
    (step : σ → Given → Tool σ) : Tool (σ × List Bytes) := do
  let visit : σ × List Bytes → Argument → Tool (σ × List Bytes)
    | (s, operands), .option g => return (← step s g, operands)
    | (s, operands), .operand text => return (s, text :: operands)
    | _, .wrong message => do
      say message
      writeErr t.usage
      writeErr (← hint)
      stop t.status
  let (s, operands) ← (t.read args).foldlM visit (s, [])
  return (s, operands.reverse)

/-- The first of the words for what a value of an option asks for. The words for one thing stand
together; they may be cut short. -/
def choose (status : Nat) (option value : Bytes) (choices : List (List Bytes)) : Tool Bytes := do
  let exact := choices.filter (·.contains value)
  let found := if exact.isEmpty then choices.filter (·.any (·.startsWith value)) else exact
  match found with
  | [words] => return words.headD ""
  | _ =>
    let kind := if found.isEmpty then "invalid" else "ambiguous"
    say (kind ++ " argument " ++ Quoting.plain value ++ " for " ++ Quoting.plain option)
    let lines := choices.map fun words =>
      "  - " ++ ", ".intercalate (words.map Quoting.plain) ++ "\n"
    writeErr ("Valid arguments are:\n" ++ String.join lines)
    writeErr (← hint)
    stop status

end Tool

end Tilde.Utility
