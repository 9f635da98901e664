import Std.Data.HashMap
import Tilde.Text.Utf8

/-!
# What differs between two texts

Two texts are compared by their lines. What differs is a list of changes, each of them some lines of
the first text that are lost and some lines of the second one that are new at that place; the lines
between the changes are the same in both.

Lines that the other text does not have at all are changed for sure. Among the others the least
number of changes is found by following all ways from both ends at once, each as far as lines are
equal, until two of them meet; what is before and after that point is compared in the same way. At
last a run of changed lines that may as well stand earlier or later is moved, so that it joins its
neighbours or ends as late as possible.
-/

namespace Tilde.Utility.Diff

open Unix (Bytes)

/-- Lines that are lost and lines that are new at a place. Lines are counted from zero. -/
structure Change where
  /-- The first line of the change in each text. -/
  first : Nat
  second : Nat
  lost : Nat
  gained : Nat
  deriving DecidableEq, Repr

/-! ### Shortest ways -/

/-- How far the ways from one end have come on each diagonal. The diagonals run from `least` to
`most`; the place of a diagonal is its number and a shift. -/
structure Front where
  ways : Array Int
  least : Int
  most : Int

/-- The texts that are compared, and the part of them that is looked at. -/
structure Window where
  a : Array Bytes
  b : Array Bytes
  left : Nat
  right : Nat
  top : Nat
  bottom : Nat

namespace Window

/-- The place of a diagonal among the ways. -/
def place (w : Window) (d : Int) : Nat := (d + w.b.size + 2).toNat

/-- How far the way on a diagonal has come. -/
def reach (w : Window) (f : Front) (d : Int) : Int := f.ways.getD (w.place d) 0

/-- The ways when the one on a diagonal has come to a place. -/
def setReach (w : Window) (f : Front) (d x : Int) : Front :=
  { f with ways := f.ways.setIfInBounds (w.place d) x }

/-- Whether a line of the first text is one of the second. -/
def same (w : Window) (x y : Int) : Bool :=
  0 ≤ x && 0 ≤ y && w.a[x.toNat]? == w.b[y.toNat]?

/-- Goes on along a diagonal while lines are equal. -/
def slideDown (w : Window) : (bound : Nat) → (x y : Int) → Int
  | 0, x, _ => x
  | bound + 1, x, y =>
    if x < w.right && y < w.bottom && w.same x y then w.slideDown bound (x + 1) (y + 1) else x

/-- Goes back along a diagonal while lines are equal. -/
def slideUp (w : Window) : (bound : Nat) → (x y : Int) → Int
  | 0, x, _ => x
  | bound + 1, x, y =>
    if w.left < x && w.top < y && w.same (x - 1) (y - 1) then w.slideUp bound (x - 1) (y - 1)
    else x

/-- The front one step further on, with `unreached` on the new diagonals at both sides. -/
def widened (w : Window) (unreached : Int) (f : Front) : Front :=
  let lowest : Int := w.left - w.bottom
  let highest : Int := w.right - w.top
  let f := if lowest < f.least then
      w.setReach { f with least := f.least - 1 } (f.least - 2) unreached
    else { f with least := f.least + 1 }
  if f.most < highest then w.setReach { f with most := f.most + 1 } (f.most + 2) unreached
  else { f with most := f.most - 1 }

/-- Every other diagonal of a front, from the last one on. -/
def diagonals (f : Front) : List Int :=
  (List.range ((f.most - f.least) / 2 + 1).toNat).map fun (k : Nat) => f.most - 2 * (k : Int)

/-- How many steps a slide may take. -/
def size (w : Window) : Nat := w.a.size + w.b.size + 2

/-- Takes the ways from the front one step further. An exception is the point where a way meets one
from the back, which can only be if `odd` holds. -/
def advance (w : Window) (odd : Bool) (back f : Front) : Except (Int × Int) Front :=
  let f := w.widened (-1) f
  (diagonals f).foldlM (fun f d =>
    let low := w.reach f (d - 1)
    let high := w.reach f (d + 1)
    let start := if low < high then high else low + 1
    let x := w.slideDown w.size start (start - d)
    if odd && back.least ≤ d && d ≤ back.most && w.reach back d ≤ x then .error (x, x - d)
    else .ok (w.setReach f d x)) f

/-- Takes the ways from the back one step further. -/
def retreat (w : Window) (odd : Bool) (front f : Front) : Except (Int × Int) Front :=
  let f := w.widened (w.size : Int) f
  (diagonals f).foldlM (fun f d =>
    let low := w.reach f (d - 1)
    let high := w.reach f (d + 1)
    let start := if low < high then low else high - 1
    let x := w.slideUp w.size start (start - d)
    if !odd && front.least ≤ d && d ≤ front.most && x ≤ w.reach front d then .error (x, x - d)
    else .ok (w.setReach f d x)) f

/-- Takes both fronts further until they meet. -/
def meetWithin (w : Window) (odd : Bool) : (bound : Nat) → Front → Front → Except (Int × Int) Unit
  | 0, _, _ => .ok ()
  | bound + 1, front, back => do
    let front ← w.advance odd back front
    let back ← w.retreat odd front back
    w.meetWithin odd bound front back

/-- A point on a shortest way through the window. -/
def meet (w : Window) : Nat × Nat :=
  let ways := Array.replicate (w.size + 3) (0 : Int)
  let start : Int := w.left - w.top
  let stop : Int := w.right - w.bottom
  let front := w.setReach ⟨ways, start, start⟩ start w.left
  let back := w.setReach ⟨ways, stop, stop⟩ stop w.right
  match w.meetWithin ((start - stop) % 2 != 0) w.size front back with
  | .error (x, y) => (x.toNat, y.toNat)
  | .ok () => (w.left, w.top)

end Window

/-- The lines of each text that have changed. -/
structure Marks where
  first : Array Bool
  second : Array Bool

/-- Marks some lines. -/
def mark (marks : Array Bool) (lines : List Nat) : Array Bool :=
  lines.foldl (fun m n => m.setIfInBounds n true) marks

/-- Marks what has changed in a window. -/
def compareWithin : (bound : Nat) → Window → Marks → Marks
  | 0, _, m => m
  | bound + 1, w, m =>
    let x := w.slideDown w.size w.left w.top
    let step := x.toNat - w.left
    let w := { w with left := w.left + step, top := w.top + step }
    let step := w.right - (w.slideUp w.size w.right w.bottom).toNat
    let w := { w with right := w.right - step, bottom := w.bottom - step }
    if w.left == w.right then
      { m with second := mark m.second (List.range' w.top (w.bottom - w.top)) }
    else if w.top == w.bottom then
      { m with first := mark m.first (List.range' w.left (w.right - w.left)) }
    else
      let (x, y) := w.meet
      let m := compareWithin bound { w with right := x, bottom := y } m
      compareWithin bound { w with left := x, top := y } m

/-! ### Lines that only one text has -/

/-- The lines of a text that the other one has too, with their numbers. -/
def known (own other : Array Bytes) : Array (Nat × Bytes) :=
  let table : Std.HashMap Bytes Unit := other.foldl (fun t l => t.insert l ()) {}
  ((own.toList.zipIdx.filter fun l => table.contains l.1).map fun l => (l.2, l.1)).toArray

/-- Marks all lines but those that a comparison of some lines, given with their numbers, has found
to be the same. -/
def marksFrom (size : Nat) (lines : Array (Nat × Bytes)) (marks : Array Bool) : Array Bool :=
  let kept := lines.toList.zipIdx.filter fun l => !marks.getD l.2 true
  kept.foldl (fun m l => m.setIfInBounds l.1.1 false) (Array.replicate size true)

/-- What has changed between two texts. If `minimal` holds, no line is left out beforehand. -/
def marksOf (minimal : Bool) (a b : Array Bytes) : Marks :=
  let all (xs : Array Bytes) : Array (Nat × Bytes) :=
    (xs.toList.zipIdx.map fun l => (l.2, l.1)).toArray
  let x := if minimal then all a else known a b
  let y := if minimal then all b else known b a
  let w : Window := { a := x.map (·.2), b := y.map (·.2), left := 0, right := x.size,
                      top := 0, bottom := y.size }
  let fresh (n : Nat) : Array Bool := Array.replicate n false
  let m := compareWithin (x.size + y.size + 1) w ⟨fresh x.size, fresh y.size⟩
  ⟨marksFrom a.size x m.first, marksFrom b.size y m.second⟩

/-! ### Moving runs of changes -/

/-- Whether a line is marked; those outside are not. -/
def isMarked (m : Array Bool) (n : Int) : Bool := 0 ≤ n && m.getD n.toNat false

/-- The first place from one on that is not marked. -/
def afterMarks (m : Array Bool) : (bound : Nat) → Int → Int
  | 0, n => n
  | bound + 1, n => if isMarked m n then afterMarks m bound (n + 1) else n

/-- The last place up to one that is not marked. -/
def beforeMarks (m : Array Bool) : (bound : Nat) → Int → Int
  | 0, n => n
  | bound + 1, n => if isMarked m n then beforeMarks m bound (n - 1) else n

/-- A run of changed lines of a text, and the place in the other text that it belongs to. -/
structure Run where
  lines : Array Bytes
  own : Array Bool
  other : Array Bool
  start : Int
  stop : Int
  place : Int
  /-- The end of the run where it last belonged to a run in the other text. -/
  partner : Int

namespace Run

/-- A line of the text. -/
def line (r : Run) (n : Int) : Bytes := r.lines.getD n.toNat ""

/-- How many steps a loop over the texts may take. -/
def size (r : Run) : Nat := r.own.size + r.other.size + 2

/-- The run one line further to the front. -/
def stepBack (r : Run) : Run :=
  let own := (r.own.setIfInBounds (r.start - 1).toNat true).setIfInBounds (r.stop - 1).toNat false
  { r with
    own, start := r.start - 1, stop := r.stop - 1
    place := beforeMarks r.other r.size (r.place - 1) }

/-- Moves the run to the front as long as the line before it is its last one. -/
def moveBack : (bound : Nat) → Run → Run
  | 0, r => r
  | bound + 1, r =>
    if 0 < r.start && r.line (r.start - 1) == r.line (r.stop - 1) then
      let r := r.stepBack
      moveBack bound { r with start := beforeMarks r.own r.size (r.start - 1) + 1 }
    else r

/-- Moves the run to the back as long as the line after it is its first one. -/
def moveOn : (bound : Nat) → Run → Run
  | 0, r => r
  | bound + 1, r =>
    if r.stop < r.own.size && r.line r.start == r.line r.stop then
      let own := (r.own.setIfInBounds r.start.toNat false).setIfInBounds r.stop.toNat true
      let stop := afterMarks own r.size (r.stop + 1)
      let place := afterMarks r.other r.size (r.place + 1)
      let partner := if r.place + 1 < place then stop else r.partner
      moveOn bound { r with own, start := r.start + 1, stop, place, partner }
    else r

/-- Moves the run to and fro until it does not grow any more. -/
def settle : (bound : Nat) → Run → Run
  | 0, r => r
  | bound + 1, r =>
    let length := r.stop - r.start
    let r := moveBack r.size r
    let partner := if isMarked r.other (r.place - 1) then r.stop else r.own.size
    let r := moveOn r.size { r with partner }
    if r.stop - r.start == length then r else settle bound r

/-- Moves the run back to where it belonged to a run in the other text. -/
def moveToPartner : (bound : Nat) → Run → Run
  | 0, r => r
  | bound + 1, r => if r.partner < r.stop then moveToPartner bound r.stepBack else r

end Run

/-- Moves the runs of changed lines from a line on. `place` is where it is in the other text. -/
def shiftFrom (lines : Array Bytes) (other : Array Bool) : (bound : Nat) → (line place : Int) →
    Array Bool → Array Bool
  | 0, _, _, own => own
  | bound + 1, line, place, own =>
    let size := own.size + other.size + 2
    if (own.size : Int) ≤ line then own
    else if !isMarked own line then
      shiftFrom lines other bound (line + 1) (afterMarks other size place + 1) own
    else
      let r : Run := { lines, own, other, start := line, stop := afterMarks own size line,
                       place := afterMarks other size place, partner := 0 }
      let r := Run.moveToPartner size (Run.settle size r)
      shiftFrom lines other bound r.stop r.place r.own

/-- Moves the runs of changed lines of both texts. -/
def shift (a b : Array Bytes) (m : Marks) : Marks :=
  let size := a.size + b.size + 2
  let first := shiftFrom a m.second size 0 0 m.first
  ⟨first, shiftFrom b first size 0 0 m.second⟩

/-! ### Changes -/

/-- The changes from a line of each text on. -/
def changesFrom (m : Marks) : (bound : Nat) → (x y : Nat) → List Change
  | 0, _, _ => []
  | bound + 1, x, y =>
    let size := m.first.size + m.second.size + 1
    let x' := (afterMarks m.first size x).toNat
    let y' := (afterMarks m.second size y).toNat
    let rest := if m.first.size ≤ x' && m.second.size ≤ y' then []
      else changesFrom m bound (x' + 1) (y' + 1)
    if x' == x && y' == y then rest else ⟨x, y, x' - x, y' - y⟩ :: rest

/-- How many lines at the front are the same. -/
def sameAtFront (a b : List Bytes) : Nat := ((a.zip b).takeWhile fun l => l.1 == l.2).length

/-- What differs between two texts. The lines as they are written stand beside those that are
compared. Lines that are the same at the front and at the end are left out of the comparison, apart
from some next to the others. -/
def changes (minimal : Bool) (margin : Nat) (rawA rawB a b : Array Bytes) : List Change :=
  let front := sameAtFront rawA.toList rawB.toList - margin
  let back := sameAtFront (rawA.toList.drop front).reverse (rawB.toList.drop front).reverse - margin
  let middle (xs : Array Bytes) : Array Bytes := xs.extract front (xs.size - back)
  let (a, b) := (middle a, middle b)
  let m := shift a b (marksOf minimal a b)
  (changesFrom m (a.size + b.size + 1) 0 0).map fun c =>
    { c with first := c.first + front, second := c.second + front }

end Tilde.Utility.Diff
