import Tilde.Regex.Parser

/-!
# Searching for regular expressions

A regular expression is turned into a program of small steps. All ways through the program are
followed at once, byte by byte, so that a search takes time in proportion to the text. The match
found is the leftmost one, and of those the longest.

What the groups have matched is found afterwards, by one way through the program that ends where the
match does. Where an expression refers to groups, all ways are tried.
-/

namespace Tilde.Regex

/-- A step of a program, with the number of the step after it. -/
inductive Step where
  | byte (set : ByteSet) (next : Nat)
  | place (p : Place) (next : Nat)
  /-- Two ways, of which the first is tried first. -/
  | fork (first second : Nat)
  /-- Notes the place as the start or the end of a group. -/
  | mark (slot next : Nat)
  | again (n next : Nat)
  | accept

/-- Steps under construction. -/
abbrev Steps := Array Step

/-- Adds a step, and gives its number. -/
def addStep (steps : Steps) (s : Step) : Nat × Steps := (steps.size, steps.push s)

/-- Adds the steps of something a number of times. -/
def addTimes (add : Nat → Steps → Nat × Steps) : Nat → Nat → Steps → Nat × Steps
  | 0, next, steps => (next, steps)
  | n + 1, next, steps =>
    let (first, steps) := addTimes add n next steps
    add first steps

/-- Adds the steps of something up to a number of times. -/
def addUpTo (add : Nat → Steps → Nat × Steps) (final : Nat) : Nat → Steps → Nat × Steps
  | 0, steps => (final, steps)
  | n + 1, steps =>
    let (rest, steps) := addUpTo add final n steps
    let (body, steps) := add rest steps
    addStep steps (.fork body final)

/-- Adds the steps of something as often as it goes. -/
def addMany (add : Nat → Steps → Nat × Steps) (next : Nat) (steps : Steps) : Nat × Steps :=
  let (here, steps) := addStep steps (.fork next next)
  let (body, steps) := add here steps
  (here, steps.set! here (.fork body next))

/-- Adds the steps of an expression before a step, and gives the number of the first. -/
def addRegex : Regex → Nat → Steps → Nat × Steps
  | .empty, next, steps => (next, steps)
  | .byte s, next, steps => addStep steps (.byte s next)
  | .place p, next, steps => addStep steps (.place p next)
  | .seq a b, next, steps =>
    let (second, steps) := addRegex b next steps
    addRegex a second steps
  | .choice a b, next, steps =>
    let (first, steps) := addRegex a next steps
    let (second, steps) := addRegex b next steps
    addStep steps (.fork first second)
  | .times r least most, next, steps =>
    let (rest, steps) := match most with
      | none => addMany (addRegex r) next steps
      | some m => addUpTo (addRegex r) next (m - least) steps
    addTimes (addRegex r) least rest steps
  | .group n r, next, steps =>
    let (stop, steps) := addStep steps (.mark (2 * n + 1) next)
    let (body, steps) := addRegex r stop steps
    addStep steps (.mark (2 * n) body)
  | .again n, next, steps => addStep steps (.again n next)

/-- A regular expression made ready to search. -/
structure Searcher where
  steps : Steps
  start : Nat
  groups : Nat
  refers : Bool
  /-- A line may start and end within the text. -/
  manyLines : Bool := false

/-- Makes an expression ready. -/
def Parsed.searcher (p : Parsed) (manyLines : Bool) : Searcher :=
  let (start, steps) := addRegex p.regex 0 #[.accept]
  { steps, start, groups := p.groups, refers := p.regex.refers, manyLines }

/-- A place in a text, between two bytes. -/
structure Spot where
  text : Array Char
  at_ : Nat

namespace Spot

/-- The byte before a place. -/
def before (s : Spot) : Option Char := if s.at_ == 0 then none else s.text[s.at_ - 1]?

/-- The byte after a place. -/
def after (s : Spot) : Option Char := s.text[s.at_]?

/-- Whether a condition holds at a place. -/
def holds (s : Spot) (manyLines : Bool) (p : Place) : Bool :=
  let inWord (c : Option Char) : Bool := c.any isWordByte
  match p with
  | .lineStart => s.at_ == 0 || (manyLines && s.before == some '\n')
  | .lineEnd => s.text.size ≤ s.at_ || (manyLines && s.after == some '\n')
  | .textStart => s.at_ == 0
  | .textEnd => s.text.size ≤ s.at_
  | .wordStart => !inWord s.before && inWord s.after
  | .wordEnd => inWord s.before && !inWord s.after
  | .wordEdge => inWord s.before != inWord s.after
  | .noWordEdge => inWord s.before == inWord s.after
  | .noWordBefore => !inWord s.before
  | .noWordAfter => !inWord s.after

end Spot

/-! ### The place of a match -/

/-- Where a search has come to. -/
structure Front where
  /-- The steps that read a byte next, each with the place where its way began; the leftmost
  first. -/
  ways : Array (Nat × Nat)
  /-- When each step was last reached. -/
  seen : Array Nat
  /-- The best match found. -/
  best : Option (Nat × Nat)

/-- Follows ways up to the steps that read a byte. -/
def follow (s : Searcher) (spot : Spot) (begun : Nat) : (bound : Nat) → List Nat → Front → Front
  | 0, _, f => f
  | _, [], f => f
  | bound + 1, i :: work, f =>
    if f.seen.getD i 0 == spot.at_ + 1 then follow s spot begun bound work f
    else
      let f := { f with seen := f.seen.set! i (spot.at_ + 1) }
      match s.steps[i]? with
      | none => follow s spot begun bound work f
      | some (.byte ..) =>
        follow s spot begun bound work { f with ways := f.ways.push (i, begun) }
      | some (.place p next) =>
        follow s spot begun bound (if spot.holds s.manyLines p then next :: work else work) f
      | some (.fork a b) => follow s spot begun bound (a :: b :: work) f
      | some (.mark _ next) | some (.again _ next) => follow s spot begun bound (next :: work) f
      | some .accept =>
        let best := match f.best with
          | some (start, stop) => if start < begun then (start, stop) else (begun, spot.at_)
          | none => (begun, spot.at_)
        follow s spot begun bound work { f with best := some best }

/-- Follows the ways that a byte leaves, those that began no later than the best match. -/
def advance (s : Searcher) (spot : Spot) (c : Char) (ways : Array (Nat × Nat)) (f : Front) :
    Front :=
  ways.foldl (fun f (i, begun) =>
    if f.best.any (·.1 < begun) then f
    else match s.steps[i]? with
      | some (.byte set next) =>
        if set.contains c then follow s spot begun (2 * s.steps.size + 2) [next] f else f
      | _ => f) f

/-- Searches from a place on. -/
def scan (s : Searcher) (text : Array Char) (anchored quick : Bool) :
    (bound : Nat) → (pos : Nat) → Front → Front
  | 0, _, f => f
  | bound + 1, pos, f =>
    match text[pos]? with
    | none => f
    | some c =>
      let ways := f.ways
      if ways.isEmpty && (f.best.isSome || anchored) then f
      else
        let spot : Spot := ⟨text, pos + 1⟩
        let f := advance s spot c ways { f with ways := #[] }
        let f := if f.best.isSome || anchored then f
          else follow s spot (pos + 1) (2 * s.steps.size + 2) [s.start] f
        if quick && f.best.isSome then f else scan s text anchored quick bound (pos + 1) f

/-- The place of the leftmost longest match from a place on. `anchored` says that it has to begin
there; `quick` that any match will do. -/
def place? (s : Searcher) (text : Array Char) (start : Nat) (anchored quick : Bool) :
    Option (Nat × Nat) :=
  let f : Front := { ways := #[], seen := Array.replicate s.steps.size 0, best := none }
  let f := follow s ⟨text, start⟩ start (2 * s.steps.size + 2) [s.start] f
  if quick && f.best.isSome then f.best
  else (scan s text anchored quick (text.size + 1 - start) start f).best

/-! ### Groups -/

/-- What is noted on a way: slots with places, the last first. -/
abbrev Marks := List (Nat × Nat)

/-- The text that a group has matched. -/
def groupText? (text : Array Char) (marks : Marks) (n : Nat) : Option (Array Char) := do
  let start ← marks.lookup (2 * n)
  let stop ← marks.lookup (2 * n + 1)
  return text.extract start stop

/-- Whether a text stands at a place. -/
def standsAt (text : Array Char) (pos : Nat) (part : Array Char) : Bool :=
  text.extract pos (pos + part.size) == part

/-- The first way through a program that ends at a place. Each step is tried once at each place. -/
def firstWay (s : Searcher) (text : Array Char) (start stop : Nat) : (bound : Nat) →
    List (Nat × Nat × Marks) → Array Bool → Option Marks
  | 0, _, _ => none
  | _, [], _ => none
  | bound + 1, (i, pos, marks) :: work, seen =>
    let key := (pos - start) * s.steps.size + i
    if seen.getD key true then firstWay s text start stop bound work seen
    else
      let seen := seen.set! key true
      let goOn (next : Nat) : Option Marks :=
        firstWay s text start stop bound ((next, pos, marks) :: work) seen
      match s.steps[i]? with
      | none => firstWay s text start stop bound work seen
      | some .accept =>
        if pos == stop then some marks else firstWay s text start stop bound work seen
      | some (.byte set next) =>
        if pos < stop && (text[pos]?).any set.contains then
          firstWay s text start stop bound ((next, pos + 1, marks) :: work) seen
        else firstWay s text start stop bound work seen
      | some (.place p next) =>
        if (Spot.mk text pos).holds s.manyLines p then goOn next
        else firstWay s text start stop bound work seen
      | some (.fork a b) =>
        firstWay s text start stop bound ((a, pos, marks) :: (b, pos, marks) :: work) seen
      | some (.mark slot next) =>
        firstWay s text start stop bound ((next, pos, (slot, pos) :: marks) :: work) seen
      | some (.again _ next) => goOn next

/-- The longest way of all through a program. A step is not tried twice at a place with the same
notes. -/
def longestWay (s : Searcher) (text : Array Char) : (bound : Nat) →
    List (Nat × Nat × Marks) → List (Nat × Nat × Marks) → Option (Nat × Marks) →
    Option (Nat × Marks)
  | 0, _, _, best => best
  | _, [], _, best => best
  | bound + 1, (i, pos, marks) :: work, forks, best =>
    let goOn (pos : Nat) (next : Nat) (marks : Marks) : Option (Nat × Marks) :=
      longestWay s text bound ((next, pos, marks) :: work) forks best
    let giveUp : Unit → Option (Nat × Marks) := fun _ => longestWay s text bound work forks best
    match s.steps[i]? with
    | none => giveUp ()
    | some .accept =>
      let best := match best with
        | some (stop, old) => if stop < pos then (pos, marks) else (stop, old)
        | none => (pos, marks)
      longestWay s text bound work forks (some best)
    | some (.byte set next) =>
      if (text[pos]?).any set.contains then goOn (pos + 1) next marks else giveUp ()
    | some (.place p next) =>
      if (Spot.mk text pos).holds s.manyLines p then goOn pos next marks else giveUp ()
    | some (.fork a b) =>
      if forks.contains (i, pos, marks) then giveUp ()
      else longestWay s text bound ((a, pos, marks) :: (b, pos, marks) :: work)
        ((i, pos, marks) :: forks.take 64) best
    | some (.mark slot next) =>
      goOn pos next ((slot, pos) :: marks.filter (·.1 != slot))
    | some (.again n next) =>
      match groupText? text marks n with
      | none => giveUp ()
      | some part => if standsAt text pos part then goOn (pos + part.size) next marks else giveUp ()

/-- A match: where it is, and where its groups are. -/
structure Match where
  start : Nat
  stop : Nat
  marks : Marks

/-- Where a group is; group zero is the whole match. -/
def Match.group? (m : Match) (n : Nat) : Option (Nat × Nat) :=
  if n == 0 then some (m.start, m.stop)
  else do return (← m.marks.lookup (2 * n), ← m.marks.lookup (2 * n + 1))

/-- A bound on the steps of a search in which all ways are tried. -/
def tryBound : Nat := 100000000

/-- Searches by trying all ways from each place in turn. -/
def tryFrom (s : Searcher) (text : Array Char) (anchored : Bool) : (bound : Nat) → (start : Nat) →
    Option Match
  | 0, _ => none
  | bound + 1, start =>
    match longestWay s text tryBound [(s.start, start, [])] [] none with
    | some (stop, marks) => some ⟨start, stop, marks⟩
    | none => if anchored then none else tryFrom s text anchored bound (start + 1)

/-- The leftmost longest match from a place on. -/
def Searcher.find? (s : Searcher) (text : Array Char) (start : Nat) (anchored : Bool) :
    Option Match :=
  if text.size < start then none
  else if s.refers then tryFrom s text anchored (text.size + 1 - start) start
  else do
    let (start, stop) ← place? s text start anchored false
    if s.groups == 0 then return ⟨start, stop, []⟩
    let size := s.steps.size * (stop - start + 1)
    let marks ← firstWay s text start stop (4 * size + 4) [(s.start, start, [])]
      (Array.replicate size false)
    return ⟨start, stop, marks⟩

/-- Whether an expression matches somewhere in a text. -/
def Searcher.matches (s : Searcher) (text : Array Char) : Bool :=
  if s.refers then (s.find? text 0 false).isSome else (place? s text 0 false true).isSome

end Tilde.Regex
