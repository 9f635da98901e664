import Tilde.Utility.DateText
import Tilde.Utility.Input
import Tilde.Utility.Options

/-!
# The date

The tool that shows the time, or another moment, as a format asks for.
-/

namespace Tilde.Utility.Date

open Unix (Bytes)

/-- Which moment is shown, and how. -/
structure Style where
  text : Option Bytes := none
  file : Option Bytes := none
  reference : Option Bytes := none
  format : Option Bytes := none
  /-- The option that the moment comes from. -/
  sources : Nat := 0

/-- The options of the tool. -/
def table : OptionTable where
  letters := OptionTable.ofLetters "Ru" "dfrs" ++ [('I', .optional)]
  words := [("date", 'd', .required), ("debug", 'D', .none), ("file", 'f', .required),
    ("iso-8601", 'I', .optional), ("reference", 'r', .required), ("resolution", 'S', .none),
    ("rfc-2822", 'R', .none), ("rfc-3339", '3', .required), ("rfc-822", 'R', .none),
    ("rfc-email", 'R', .none), ("set", 's', .required),
    ("uct", 'u', .none), ("utc", 'u', .none)]

/-- Sets the format, which may be done once. -/
def Style.withFormat (s : Style) (format : Bytes) : Tool Style := do
  if s.format.isSome then Tool.die 1 "multiple output formats specified"
  return { s with format := some format }

/-- Changes what is shown by an option. -/
def Style.withOption (s : Style) (g : Given) : Tool Style := do
  let value := g.value.getD ""
  match g.letter with
  | 'd' | 's' => return { s with text := g.value, sources := if s.text.isSome then s.sources else
      s.sources + 1 }
  | 'f' => return { s with file := g.value, sources := s.sources + 1 }
  | 'r' => return { s with reference := g.value, sources := s.sources + 1 }
  | 'R' => s.withFormat "%a, %d %b %Y %H:%M:%S %z"
  | 'S' => s.withFormat "%s.%N"
  | 'I' =>
    let choices := [["hours"], ["minutes"], ["date"], ["seconds"], ["ns"]]
    let unit ← match g.value with
      | none => pure "date"
      | some value => Tool.choose 1 "--iso-8601" value choices
    s.withFormat (match unit with
      | "hours" => "%Y-%m-%dT%H%:z"
      | "minutes" => "%Y-%m-%dT%H:%M%:z"
      | "seconds" => "%Y-%m-%dT%H:%M:%S%:z"
      | "ns" => "%Y-%m-%dT%H:%M:%S,%N%:z"
      | _ => "%Y-%m-%d")
  | '3' =>
    let choices := [["date"], ["seconds"], ["ns"]]
    s.withFormat (match ← Tool.choose 1 "--rfc-3339" value choices with
      | "seconds" => "%Y-%m-%d %H:%M:%S%:z"
      | "ns" => "%Y-%m-%d %H:%M:%S.%N%:z"
      | _ => "%Y-%m-%d")
  | _ => return s

/-- The format of dates if none is asked for. -/
def usualFormat : Bytes := "%a %b %e %H:%M:%S %Z %Y"

/-- Shows a moment. -/
def Style.put (s : Style) (nanos : Int) : Tool Unit :=
  Tool.putLine ((Calendar.Moment.ofNanos nanos).show_ (s.format.getD usualFormat))

/-- Shows the moment that a text stands for. -/
def Style.putText (s : Style) (text : Bytes) : Tool Unit := do
  match DateText.resolve? ((← Tool.now) * 1000) text with
  | some nanos => s.put nanos
  | none => Tool.warn ("invalid date " ++ Quoting.plain text)

/-- Shows the date. -/
def run (args : List Bytes) : Tool Unit := do
  let (s, operands) ← Tool.options table args ({} : Style) Style.withOption
  if 1 < s.sources then
    Tool.misused 1 "the options to specify dates for printing are mutually exclusive"
  let s ← match operands with
    | [] => pure s
    | _ :: extra :: _ => Tool.extraOperand 1 extra
    | [arg] =>
      if arg.startsWith "+" then s.withFormat (arg.drop 1).toString
      else if s.sources != 0 then
        Tool.misused 1 ("the argument " ++ Quoting.plain arg ++ " lacks a leading '+';\n" ++
          "when using an option to specify date(s), any non-option\n" ++
          "argument must be a format string beginning with '+'")
      else Tool.die 1 ("invalid date " ++ Quoting.plain arg)
  match s.text, s.file, s.reference with
  | some text, _, _ => s.putText text
  | _, some path, _ =>
    let step (_ : Unit) (l : Line) : Tool (Unit × Bool) := do
      s.putText l.text
      return ((), true)
    Tool.foldFiles '\n' step [path] ()
  | _, _, some path =>
    match ← Tool.info path true with
    | .ok i => s.put (i.modified * 1000)
    | .error e => Tool.die 1 (Quoting.name path ++ ": " ++ e.text)
  | _, _, _ => s.put ((← Tool.now) * 1000)

end Tilde.Utility.Date
