import Std.Data.HashMap
import Tilde.Text.Utf8
import Tilde.Unix.Errno

/-!
# Files

The files of a system. A file is known by a number; directories give names to numbers, so one file
may have several names or none. A path is walked one name at a time, so `a/../b` needs a directory
`a`, and a slash at the end needs a directory before it.
-/

namespace Tilde.Unix

/-- A device. -/
inductive Device where
  | null
  | zero
  | full
  | random
  | terminal
  /-- What a process has open under a number. -/
  | descriptor (fd : Nat)
  deriving DecidableEq, Repr

/-- What a file is. -/
inductive Content where
  | file (text : Bytes)
  | dir (parent : Nat) (entries : List (Bytes × Nat))
  | link (target : Bytes)
  | device (d : Device)
  /-- A pipe with a name, by the number of the pipe. -/
  | pipe (id : Nat)
  /-- A program of the system, by its name. -/
  | program (name : Bytes)

/-- The time at which the system begins, in microseconds. -/
def beginning : Nat := 1700000000000000

/-- A file with what the system notes about it. Times are in microseconds. -/
structure Inode where
  content : Content
  mode : Nat := 0o644
  modified : Nat := beginning

/-- Whether a file is a directory. -/
def Inode.isDir (i : Inode) : Bool := i.content matches .dir ..

/-- Whether a file is one that somebody may run. -/
def Inode.isExecutable (i : Inode) : Bool :=
  (i.content matches .file _ | .program _) && i.mode &&& 0o111 != 0

/-- The files of a system, by number. The root directory has number zero. -/
structure Files where
  inodes : Std.HashMap Nat Inode
  next : Nat

namespace Files

/-- The number of the root directory. -/
def root : Nat := 0

/-- An empty root directory. -/
def empty : Files where
  inodes := .ofList [(root, { content := .dir root [], mode := 0o755 })]
  next := 1

/-- The names in a path, where empty ones stand between slashes. -/
def names (path : Bytes) : List Bytes := path.splitOn "/"

/-- The greatest length of a name in bytes. -/
def nameLimit : Nat := 255

/-- The number of bytes that a path has to stay below. -/
def pathLimit : Nat := 4096

/-- How many symbolic links a path may lead over. -/
def linkLimit : Nat := 40

/-- What a file is. -/
def content? (f : Files) (file : Nat) : Option Content :=
  match f.inodes[file]? with
  | some i => some i.content
  | none => none

/-- The entries of a directory. -/
def entries? (f : Files) (dir : Nat) : Option (List (Bytes × Nat)) :=
  match f.inodes[dir]? with
  | some { content := .dir _ entries, .. } => some entries
  | _ => none

/-- The directory above a directory. -/
def parent (f : Files) (dir : Nat) : Nat :=
  match f.inodes[dir]? with
  | some { content := .dir parent _, .. } => parent
  | _ => root

/-- Walks from a directory. Where the last name is that of a symbolic link, `follow` says whether
the walk goes on to its target. -/
def walk (f : Files) (follow : Bool) : (bound links : Nat) → (here : Nat) → List Bytes →
    Except Errno Nat
  | 0, _, _, _ => .error .tooManyLinks
  | _ + 1, _, here, [] => .ok here
  | bound + 1, links, here, name :: rest =>
    match f.entries? here with
    | none => .error (if (f.inodes[here]?).isSome then .notDirectory else .notFound)
    | some entries =>
      if name = "" || name = "." then walk f follow bound links here rest
      else if name = ".." then walk f follow bound links (f.parent here) rest
      else if nameLimit < name.length then .error .nameTooLong
      else match entries.lookup name with
        | none => .error .notFound
        | some there =>
          match f.inodes[there]? with
          | some { content := .link target, .. } =>
            if rest.isEmpty && !follow then .ok there
            else match links with
              | 0 => .error .tooManyLinks
              | links + 1 =>
                let start := if target.startsWith "/" then root else here
                walk f follow bound links start (names target ++ rest)
          | _ => walk f follow bound links there rest

/-- Finds the file that a path leads to from a directory. `follow` says whether a symbolic link at
the end stands for its target. -/
def locateOr (follow : Bool) (f : Files) (cwd : Nat) (path : Bytes) : Except Errno Nat :=
  if path.isEmpty then .error .notFound
  else if pathLimit ≤ path.length then .error .nameTooLong
  else
    let start := if path.startsWith "/" then root else cwd
    f.walk follow (64 * pathLimit) linkLimit start (names path)

/-- Finds the file that a path leads to from a directory. -/
def locate (f : Files) (cwd : Nat) (path : Bytes) : Except Errno Nat := f.locateOr true cwd path

/-- Finds what the system notes about the file that a path leads to. -/
def find (f : Files) (cwd : Nat) (path : Bytes) : Except Errno Inode := do
  match f.inodes[← f.locate cwd path]? with
  | some i => .ok i
  | none => .error .notFound

/-- The content of the file that a path leads to. -/
def read (f : Files) (cwd : Nat) (path : Bytes) : Except Errno Bytes := do
  match (← f.find cwd path).content with
  | .file text => .ok text
  | .dir .. => .error .isDirectory
  | _ => .ok ""

/-- The path without the slashes at its end. -/
def trimmed (path : Bytes) : Bytes :=
  if path.toList.all (· == '/') then path else (path.dropEndWhile (· == '/')).toString

/-- The directory in which the last name of a path stands, and that name. -/
def place (f : Files) (cwd : Nat) (path : Bytes) : Except Errno (Nat × Bytes) := do
  if path.isEmpty then throw .notFound
  let parts := names (trimmed path)
  let last := parts.getLastD ""
  if nameLimit < last.length || pathLimit ≤ path.length then throw .nameTooLong
  let above := parts.dropLast
  let dir ← match above with
    | [] => pure cwd
    | [""] => pure root
    | above => f.locate cwd ("/".intercalate above ++ "/")
  if (f.entries? dir).isNone then throw .notDirectory
  return (dir, last)

/-- Changes a file. -/
def modify (f : Files) (file : Nat) (change : Inode → Inode) : Files :=
  match f.inodes[file]? with
  | some i => { f with inodes := f.inodes.insert file (change i) }
  | none => f

/-- Changes the entries of a directory. -/
def modifyEntries (f : Files) (dir : Nat)
    (change : List (Bytes × Nat) → List (Bytes × Nat)) : Files :=
  f.modify dir fun i => match i.content with
    | .dir parent entries => { i with content := .dir parent (change entries) }
    | _ => i

/-- Gives a name in a directory to a file, in place of the file that has it. -/
def addName (f : Files) (dir : Nat) (name : Bytes) (file : Nat) : Files :=
  f.modifyEntries dir fun entries =>
    if (entries.lookup name).isSome then
      entries.map fun e => if e.1 == name then (name, file) else e
    else entries ++ [(name, file)]

/-- Takes a name out of a directory. -/
def dropName (f : Files) (dir : Nat) (name : Bytes) : Files :=
  f.modifyEntries dir fun entries => entries.filter (·.1 != name)

/-- Makes a file with a name in a directory. -/
def make (f : Files) (dir : Nat) (name : Bytes) (i : Inode) : Nat × Files :=
  let file := f.next
  let content : Content := match i.content with
    | .dir _ entries => .dir dir entries
    | content => content
  let f : Files := { inodes := f.inodes.insert file { i with content }, next := f.next + 1 }
  (file, f.addName dir name file)

/-- Puts a file at the end of a list of names, and makes the directories before it. -/
def put (f : Files) (dir : Nat) (i : Inode) : List Bytes → Files
  | [] => f
  | [name] => if i.isDir && ((f.entries? dir).bind (·.lookup name)).isSome then f
    else (f.make dir name i).2
  | name :: rest =>
    match (f.entries? dir).bind (·.lookup name) with
    | some next => f.put next i rest
    | none =>
      let (next, f) := f.make dir name { content := .dir dir [], mode := 0o755 }
      f.put next i rest

/-- The names that lead from the root to a directory. -/
def namesOf (f : Files) : (bound : Nat) → (dir : Nat) → List Bytes
  | 0, _ => []
  | bound + 1, dir =>
    if dir = root then []
    else
      let above := f.parent dir
      match ((f.entries? above).getD []).find? (·.2 == dir) with
      | some (name, _) => f.namesOf bound above ++ [name]
      | none => []

/-- The path of a directory. -/
def pathOf (f : Files) (dir : Nat) : Bytes := "/" ++ "/".intercalate (f.namesOf 4096 dir)

/-- How many names a file has. A directory has one for itself and one for each directory in it. -/
def nameCount (f : Files) (file : Nat) : Nat :=
  match f.entries? file with
  | some entries => 2 + entries.countP fun e => (f.entries? e.2).isSome
  | none => f.inodes.fold (fun n _ i => match i.content with
    | .dir _ entries => n + entries.countP (·.2 == file)
    | _ => n) 0

end Files

end Tilde.Unix
