import Tilde.Utility.Options

/-!
# Facts about the system

Tools that say what the system is and who uses it.
-/

namespace Tilde.Utility

open Unix (Bytes Act Errno)

namespace Uname

/-- What is known about the system: a letter for each fact. -/
def facts : List (Char × Bytes) :=
  [('s', "Linux"), ('n', "localhost"), ('r', "6.1.0"), ('v', "#1 SMP"), ('m', "x86_64"),
    ('p', "x86_64"), ('i', "x86_64"), ('o', "GNU/Linux")]

/-- The options of the tool. -/
def table : OptionTable where
  letters := OptionTable.ofLetters "asnrvmpio" ""
  words := [("all", 'a', .none), ("kernel-name", 's', .none), ("sysname", 's', .none),
    ("nodename", 'n', .none), ("kernel-release", 'r', .none), ("release", 'r', .none),
    ("kernel-version", 'v', .none), ("machine", 'm', .none), ("processor", 'p', .none),
    ("hardware-platform", 'i', .none), ("operating-system", 'o', .none)]

/-- Shows the facts asked for, in one order. -/
def run (args : List Bytes) : Tool Unit := do
  let (letters, operands) ← Tool.options table args [] fun ls g => return g.letter :: ls
  match operands with
  | extra :: _ => Tool.extraOperand 1 extra
  | [] =>
    let letters := if letters.isEmpty then ['s'] else letters
    let shown := facts.filter fun (c, _) => letters.contains c || letters.contains 'a'
    Tool.putLine (" ".intercalate (shown.map (·.2)))

end Uname

namespace Whoami

/-- Shows a fact that takes no arguments. -/
def run (fact : Bytes) (args : List Bytes) : Tool Unit := do
  let (_, operands) ← Tool.options {} args () fun _ _ => return ()
  match operands with
  | extra :: _ => Tool.extraOperand 1 extra
  | [] => Tool.putLine fact

end Whoami

namespace Nproc

/-- The options of the tool. -/
def table : OptionTable where
  words := [("all", 'a', .none), ("ignore", 'i', .required)]

/-- Shows how many processors there are. -/
def run (args : List Bytes) : Tool Unit := do
  let (_, operands) ← Tool.options table args () fun _ _ => return ()
  match operands with
  | extra :: _ => Tool.extraOperand 1 extra
  | [] => Tool.putLine "4"

end Nproc

namespace Tty

/-- The options of the tool. -/
def table : OptionTable where
  letters := OptionTable.ofLetters "s" ""
  words := [("silent", 's', .none), ("quiet", 's', .none)]
  status := 2

/-- Says whether the input is a terminal. -/
def run (args : List Bytes) : Tool Unit := do
  let (silent, operands) ← Tool.options table args false fun _ _ => return true
  match operands with
  | extra :: _ => Tool.extraOperand 2 extra
  | [] =>
    if !silent then Tool.putLine "not a tty"
    Tool.setStatus 1

end Tty

namespace Id

/-- A user. -/
structure User where
  name : Bytes
  number : Nat
  group : Bytes
  groupNumber : Nat

/-- The users that are known. -/
def users : List User :=
  [⟨"root", 0, "root", 0⟩, ⟨"daemon", 1, "daemon", 1⟩, ⟨"bin", 2, "bin", 2⟩,
    ⟨"nobody", 65534, "nogroup", 65534⟩]

/-- What is shown about a user. -/
structure Style where
  letters : List Char := []
  names : Bool := false
  real : Bool := false

/-- The options of the tool. -/
def table : OptionTable where
  letters := OptionTable.ofLetters "aguGnrz" ""
  words := [("group", 'g', .none), ("groups", 'G', .none), ("name", 'n', .none),
    ("real", 'r', .none), ("user", 'u', .none), ("zero", 'z', .none)]

/-- The line about a user. -/
def Style.shown (s : Style) (u : User) : Bytes :=
  let entry (n : Nat) (name : Bytes) : Bytes := toString n ++ "(" ++ name ++ ")"
  match s.letters with
  | 'u' :: _ => if s.names then u.name else toString u.number
  | _ :: _ => if s.names then u.group else toString u.groupNumber
  | [] =>
    let group := entry u.groupNumber u.group
    "uid=" ++ entry u.number u.name ++ " gid=" ++ group ++ " groups=" ++ group

/-- Shows who a user is. -/
def run (args : List Bytes) : Tool Unit := do
  let (s, operands) ← Tool.options table args ({} : Style) fun s g => return match g.letter with
    | 'n' => { s with names := true }
    | 'r' => { s with real := true }
    | 'u' | 'g' | 'G' => { s with letters := g.letter :: s.letters }
    | _ => s
  let kinds := s.letters.eraseDups
  if 1 < kinds.length then
    Tool.die 1 "cannot print \"only\" of more than one choice"
  if kinds.isEmpty && (s.names || s.real) then
    Tool.die 1 "cannot print only names or real IDs in default format"
  let show_ (name : Bytes) : Tool Unit := do
    match users.find? fun u => u.name == name || toString u.number == name with
    | some u => Tool.putLine (s.shown u)
    | none => Tool.warn (Quoting.plain name ++ ": no such user")
  (if operands.isEmpty then ["root"] else operands).forM show_

end Id

namespace Groups

/-- Shows the groups of users. -/
def run (args : List Bytes) : Tool Unit := do
  let (_, operands) ← Tool.options {} args () fun _ _ => return ()
  if operands.isEmpty then Tool.putLine "root"
  operands.forM fun name => do
    match Id.users.find? (·.name == name) with
    | some u => Tool.putLine (u.name ++ " : " ++ u.group)
    | none => Tool.warn (Quoting.plain name ++ ": no such user")

end Groups

end Tilde.Utility
