import Tilde.Sh.Expand

/-!
# Redirections

A redirection opens something under a descriptor. What the descriptor was before is kept as a copy
under a higher number, unless the redirection is to stay.
-/

namespace Tilde.Sh

open Unix (Bytes Act Errno OpenMode)

/-- A redirection whose words are expanded. -/
inductive Opening where
  | file (fd : Nat) (op : FileOp) (path : Bytes)
  /-- A copy of another descriptor, or nothing. -/
  | copy (fd : Nat) (source : Option Nat)
  | here (fd : Nat) (text : Nat)

/-- The descriptor of a redirection. -/
def Opening.fd : Opening → Nat
  | file fd .. | copy fd _ | here fd _ => fd

/-- The descriptor that a text names. -/
def descriptor? (s : Bytes) : Option (Option Nat) :=
  match s.toList with
  | ['-'] => some none
  | [c] => if isDigit c then some (some (c.toNat - 48)) else none
  | _ => none

/-- The message of an error about a file, which says what is missing. -/
def fileFault (creates : Bool) (e : Errno) : Bytes :=
  match e with
  | .notFound | .notDirectory => if creates then "Directory nonexistent" else "No such file"
  | e => e.text

/-- The message of an error about a program. -/
def programFault (e : Errno) : Bytes :=
  match e with
  | .notFound | .notDirectory => "not found"
  | e => e.text

namespace ShM

/-- Says that a text cannot be read as commands, and jumps. -/
def syntaxFail {α : Type} (line : Nat) (message : Bytes) : ShM α := do
  modify fun s => { s with errorLine := line }
  fail ("Syntax error: " ++ message)

/-- Says that a line cannot be read as commands because of a token, and jumps. `line` is the text of
the line. -/
def tokenFail {α : Type} (number : Nat) (token : Option Bytes) (message line : Bytes) :
    ShM α := do
  let s ← get
  let inArgument := if s.fromArgument then "-c: " else ""
  let lead (n : Nat) : Bytes := s.name ++ ": " ++ inArgument ++ "line " ++ toString n ++ ": "
  match token with
  | some t =>
    writeErr (lead number ++ "syntax error near unexpected token \x60" ++ t ++ "'\n")
    writeErr (lead number ++ "\x60" ++ line ++ "'\n")
  | none => writeErr (lead number ++ message ++ "\n")
  setStatus 2
  flush
  throw .error

/-- Opens a file. -/
def openPath (path : Bytes) (how : OpenMode) : ShM Nat := do
  match ← act (Act.number (.open_ path how 0o666)) with
  | .ok fd => return fd
  | .error e =>
    let word := if how.creates then "create" else "open"
    failAs ("cannot " ++ word ++ " " ++ path ++ ": " ++ fileFault how.creates e)
      (path ++ ": " ++ e.text)

/-- Closes a descriptor. -/
def close (fd : Nat) : ShM Unit := do
  let _ ← ask (.close fd)

/-- Opens a pipe: where it is read, and where it is written. -/
def pipe : ShM (Nat × Nat) := do
  match ← ask .pipe with
  | .pair a b => return (a, b)
  | _ => fail "Pipe call failed"

/-- Expands the words of redirections. -/
def expandRedirections (k : ExpandHooks) (redirs : List Redirection) : ShM (List Opening) :=
  redirs.mapM fun
    | .file fd op w => return .file fd op (← k.text { tilde := true } w)
    | .here fd text => return .here fd text
    | .copy fd w => do
      match (plainText? w).bind descriptor? with
      | some source => return .copy fd source
      | none =>
        let words ← k.words w
        match descriptor? (words.headD "") with
        | some source => return .copy fd source
        | none => syntaxFail (← get).errorLine "Bad fd number"

/-- Opens the text of a redirection. -/
def openHere (k : ExpandHooks) (text : Nat) : ShM Nat := do
  let w := ((← get).texts[text]?).getD []
  let s ← k.text { quoted := true } w
  let (a, b) ← pipe
  if s.length ≤ 65536 then
    let _ ← act (Act.write b s)
  else
    let child : Act Empty := do
      let _ ← Act.ask (.close a)
      let _ ← Act.ask (.onSignal 2 .ignore)
      let _ ← Act.write b s
      Act.exit 0
    let _ ← act (Act.fork child)
  close b
  return a

/-- Opens a file to be written, which must not be there before unless it is no regular one. -/
def openNew (path : Bytes) : ShM Nat := do
  match ← act (Act.info (.info path true)) with
  | .error _ => openPath path { writes := true, creates := true, exclusive := true }
  | .ok i =>
    if i.kind == .regular then
      failAs ("cannot create " ++ path ++ ": " ++ Errno.exists_.text)
        (path ++ ": cannot overwrite existing file")
    else openPath path { writes := true }

/-- Opens what a redirection names. -/
def openFor (k : ExpandHooks) : Opening → ShM (Option Nat)
  | .copy _ source => return source
  | .here _ text => return some (← openHere k text)
  | .file _ op path => do
    match op with
    | .read => return some (← openPath path { reads := true })
    | .readWrite => return some (← openPath path { reads := true, writes := true, creates := true })
    | .append => return some (← openPath path { writes := true, appends := true, creates := true })
    | .overwrite =>
      return some (← openPath path { writes := true, truncates := true, creates := true })
    | .write =>
      if ← isOn .noclobber then return some (← openNew path)
      else return some (← openPath path { writes := true, truncates := true, creates := true })

/-- Keeps what a descriptor is before it is redirected. -/
def keep (fd : Nat) (opened : Option Nat) : ShM Unit := do
  match (← get).redirects with
  | [] => return
  | frame :: outer =>
    if frame.any (·.1 == fd) then return
    let old ← if opened == some fd then pure none
      else match ← act (Act.number (.duplicate fd 10 true)) with
        | .ok copy =>
          close fd
          pure (some copy)
        | .error _ => pure none
    modify fun s => { s with redirects := ((fd, old) :: frame) :: outer }

/-- Carries out a redirection. -/
def redirectOne (k : ExpandHooks) (keeps : Bool) (r : Opening) : ShM Unit := do
  let fd := r.fd
  let isCopy := match r with
    | .copy .. => true
    | _ => false
  let source ← openFor k r
  if isCopy && source == some fd then return
  if keeps then keep fd source
  if source == some fd then return
  match source with
  | none => if !keeps then close fd else
      -- A descriptor that was kept is closed already.
      let _ ← ask (.close fd)
  | some n =>
    match ← ask (.duplicateTo n fd) with
    | .failed e => fail (toString n ++ ": " ++ e.text)
    | _ => if !isCopy then close n

/-- Carries out redirections. -/
def redirect (k : ExpandHooks) (keeps : Bool) (redirs : List Opening) : ShM Unit :=
  redirs.forM (redirectOne k keeps)

/-- Makes room for what redirections hide. -/
def pushRedirects : ShM Unit := modify fun s => { s with redirects := [] :: s.redirects }

/-- Puts back what the last redirections hid, or lets them stay. -/
def popRedirects (stay : Bool) : ShM Unit := do
  match (← get).redirects with
  | [] => return
  | frame :: outer =>
    modify fun s => { s with redirects := outer }
    frame.forM fun (fd, old) => do
      match old with
      | none => if !stay then close fd
      | some copy =>
        if !stay then
          let _ ← ask (.duplicateTo copy fd)
        close copy

/-- Puts back what redirections hid, down to a number of them. -/
def unwindRedirects (count : Nat) : (bound : Nat) → ShM Unit
  | 0 => return
  | bound + 1 => do
    if (← get).redirects.length ≤ count then return
    popRedirects false
    unwindRedirects count bound

/-- Puts back all that redirections hid, down to a number of them. -/
def unwindRedirectsTo (count : Nat) : ShM Unit := do
  unwindRedirects count (← get).redirects.length

/-- Does something with redirections that may fail. The result says whether they did not. -/
def redirectSafely (k : ExpandHooks) (redirs : List Opening) : ShM Bool := do
  match ← caught (redirect k true redirs) with
  | .ok _ => return true
  | .error .error => return false
  | .error j => throw j

end ShM

end Tilde.Sh
