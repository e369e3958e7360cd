import Keyring.Failure

/-!
# The order of values

Texts have an order, and so have octets, and numbers together with truths. Values of different such
sorts cannot be put in order, and the failure tells the two that were compared in vain first.

Which two those are follows from the way of sorting. The values are cut into stretches. A stretch
goes on as long as its values fall throughout or never fall; if it is then shorter than stretches
may be, further values are put in their places one by one. Neighbouring stretches are merged, those
with deep boundaries first: the depth of a boundary says how often the places of all values must be
halved until the middles of the stretches beside it lie in different parts.
-/

namespace Keyring.Cell

open Text (lit)

/-! ## Comparable values -/

/-- A value comes before another or is it, if values of the two kinds have an order. -/
def le? : Cell → Cell → Option Bool
  | .ofText first, .ofText second => some (Text.le first second)
  | .ofBytes first, .ofBytes second => some (first ≤ second)
  | first, second =>
    match first.number?, second.number? with
    | some first, some second => some (first ≤ second)
    | _, _ => none

/-- The start in which any two neighbours have an order between them. -/
def comparableStart : List Cell → List Cell
  | first :: second :: values =>
    if (le? first second).isSome then first :: comparableStart (second :: values) else [first]
  | values => values

/-- Any two texts have an order between them. -/
theorem comparableStart_map_ofText (texts : List Text) :
    comparableStart (texts.map ofText) = texts.map ofText := by
  induction texts with
  | nil => rfl
  | cons first texts ih =>
    cases texts with
    | nil => rfl
    | cons second texts =>
      simp only [List.map_cons] at ih ⊢
      simp [comparableStart, le?, ih]

/-- Comparable values in order, the smallest first. -/
def inOrder (values : List Cell) : List Cell :=
  values.mergeSort fun first second => (le? first second).getD true

/-- The second value is smaller than the first. -/
def falls (first second : Cell) : Bool :=
  le? first second = some false

/-- How many values at the start of a list go on falling from the previous one, or go on not
falling. -/
def runAfter (falling : Bool) (previous : Cell) : List Cell → Nat
  | [] => 0
  | value :: values =>
    if falls previous value = falling then runAfter falling value values + 1 else 0

/-- How many comparable values from the first one on fall throughout, or never fall. -/
def runLength : List Cell → Nat
  | first :: second :: values => runAfter (falls first second) second values + 2
  | values => values.length

/-! ## Stretches -/

/-- Two values without an order between them, the first of which was to be put before the second if
it is smaller. -/
structure Clash where
  value : Cell
  rival : Cell
  deriving DecidableEq, Repr

/-- The least size of a stretch among `count` values: all of them if they are less than 64, and else
the part between 32 and 64 that halving leaves, rounded up. -/
def leastStretch (count : Nat) : Nat :=
  let parts := Nat.pow 2 (count.log2 - 5)
  (count + (parts - 1)) / parts

/-- How many of the values make a stretch of a least size. In a run each value is compared with the
one before it; behind the run, first with the middle one of those before it, which are in order by
then. -/
def stretchSize (least : Nat) (values : List Cell) : Except Clash Nat :=
  let start := comparableStart values
  let run := runLength start
  let size := max run (min least values.length)
  match values[start.length]? with
  | none => .ok size
  | some value =>
    if run = start.length then .error ⟨value, start.getLastD value⟩
    else if start.length < size then
      .error ⟨value, (inOrder start).getD (start.length / 2) value⟩
    else .ok size

/-- Neighbouring values in order. -/
structure Stretch where
  /-- The place of the first one among all values. -/
  place : Nat
  size : Nat
  least : Cell
  /-- The depth of the boundary to the stretch before. -/
  depth : Nat
  deriving Repr

namespace Stretch

/-- Two neighbouring stretches as one. The least values of both are compared first. -/
def merge (first second : Stretch) : Except Clash Stretch :=
  match le? first.least second.least with
  | none => .error ⟨second.least, first.least⟩
  | some rises =>
    .ok { first with
      size := first.size + second.size
      least := if rises then first.least else second.least }

/-- The depth of the boundary between a stretch and the next one, which has a given size: how often
the places of all `count` values are halved until the middles of the two lie in different parts. -/
def depthAfter (stretch : Stretch) (size count : Nat) : Nat :=
  let middle := 2 * stretch.place + stretch.size
  let next := middle + stretch.size + size
  (List.range count).findIdx fun halvings =>
    middle * Nat.pow 2 halvings / count ≠ next * Nat.pow 2 halvings / count

/-- Merges the last stretches, as long as the boundary between them is deeper than a given depth.
The stretches are given from the last one on. -/
def mergeDeeper (depth : Nat) : List Stretch → Except Clash (List Stretch)
  | last :: previous :: others =>
    if depth < last.depth then
      match previous.merge last with
      | .error clash => .error clash
      | .ok merged => mergeDeeper depth (merged :: others)
    else .ok (last :: previous :: others)
  | stretches => .ok stretches
termination_by stretches => stretches.length

/-- Merges all stretches, which are given from the last one on. The last but one joins the smaller
one of its neighbours, and the last one if they are of one size. -/
def mergeAll : List Stretch → Except Clash (List Stretch)
  | last :: previous :: earlier :: others =>
    if earlier.size < last.size then
      match earlier.merge previous with
      | .error clash => .error clash
      | .ok merged => mergeAll (last :: merged :: others)
    else
      match previous.merge last with
      | .error clash => .error clash
      | .ok merged => mergeAll (merged :: earlier :: others)
  | [last, previous] => (previous.merge last).map fun merged => [merged]
  | stretches => .ok stretches
termination_by stretches => stretches.length

/-- Adds the stretches that some values make to those before them, which are given from the last one
on. There are `count` values in all, of which the first one here has the given place. -/
def extend (count place : Nat) (before : List Stretch) :
    List Cell → Except Clash (List Stretch)
  | [] => .ok before
  | value :: values => do
    let size ← stretchSize (leastStretch count) (value :: values)
    let depth := (before.head?.map fun last => last.depthAfter size count).getD 0
    let before ← mergeDeeper depth before
    let least := (inOrder ((value :: values).take size)).headD value
    extend count (place + size) (⟨place, size, least, depth⟩ :: before) (values.drop (size - 1))
termination_by values => values.length

end Stretch

/-! ## Sorting -/

/-- The first two values that sorting compares in vain. There are none if all neighbours have an
order between them. -/
def clash? (values : List Cell) : Option Clash :=
  if (comparableStart values).length = values.length then none
  else
    match Stretch.extend values.length 0 [] values >>= Stretch.mergeAll with
    | .error clash => some clash
    | .ok _ => none

/-- The values in order, the smallest first. -/
def sorted (values : List Cell) : Except Failure (List Cell) :=
  match clash? values with
  | some clash => .error (.misfit (.unordered (lit "<") clash.value.kind clash.rival.kind))
  | none => .ok (inOrder values)

/-- Texts can always be put in order. -/
theorem sorted_map_ofText (texts : List Text) :
    sorted (texts.map ofText) = .ok (inOrder (texts.map ofText)) := by
  simp [sorted, clash?, comparableStart_map_ofText]

end Keyring.Cell
