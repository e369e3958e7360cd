/-!
# A lock with two sides

Many may hold the read side of a lock at once; one may hold its write side, and then nobody else
holds either. A writer that waits keeps new readers out, so that it gets in once the readers at work
have left.

`Lock` is what the lock remembers, with one function for each thing that happens to it without
interruption. `Crowd` adds those who are blocked. They look again only when a release wakes them,
and then all of them do, one after another: `Crowd.rouse` takes the order, and whoever leaves a side
has them look in the order in which they began to wait.

The lock knows no owners. Leaving a side that nobody holds is possible, and then the number of
readers may be below zero.
-/

namespace Keyring

/-- A way to hold a lock. -/
inductive Side where
  | read
  | write
  deriving DecidableEq, Repr

/-- What a lock remembers. -/
structure Lock where
  /-- How often the read side was entered more than left. -/
  readers : Int
  /-- The write side is held. -/
  writing : Bool
  /-- How many want the write side and do not hold it yet. -/
  writersWaiting : Nat
  deriving DecidableEq, Repr

namespace Lock

/-- The lock that nobody holds or wants. -/
def free : Lock := ⟨0, false, 0⟩

/-- A side may be entered now. -/
def admits (lock : Lock) : Side → Bool
  | .read => !lock.writing && lock.writersWaiting = 0
  | .write => !lock.writing && lock.readers = 0

/-- What an acquirer does before it looks for the first time: a writer says that it waits. -/
def announce (lock : Lock) : Side → Lock
  | .read => lock
  | .write => { lock with writersWaiting := lock.writersWaiting + 1 }

/-- What an acquirer does once it is admitted. -/
def enter (lock : Lock) : Side → Lock
  | .read => { lock with readers := lock.readers + 1 }
  | .write => { lock with writing := true, writersWaiting := lock.writersWaiting - 1 }

/-- What a release does. -/
def leave (lock : Lock) : Side → Lock
  | .read => { lock with readers := lock.readers - 1 }
  | .write => { lock with writing := false }

/-- What an acquirer does whose wait ends with a failure: a writer does not wait any more. -/
def abandon (lock : Lock) : Side → Lock
  | .read => lock
  | .write => { lock with writersWaiting := lock.writersWaiting - 1 }

/-- A release that left the lock like this wakes those who are blocked. -/
def wakes (lock : Lock) : Side → Bool
  | .read => lock.readers = 0
  | .write => true

/-- An acquirer that is admitted at once. -/
def take (lock : Lock) (side : Side) : Lock :=
  (lock.announce side).enter side

/-- Whoever takes a side of the free lock and leaves it again leaves the lock free. -/
@[simp]
theorem leave_take_free (side : Side) : (free.take side).leave side = free := by
  cases side <;> rfl

end Lock

/-- Somebody who wants a side. -/
structure Visitor where
  side : Side
  /-- Leaves the side as soon as it has entered, however the work in between ends. -/
  passing : Bool
  deriving DecidableEq, Repr

/-- A lock and those who are blocked at it. -/
structure Crowd where
  lock : Lock
  /-- Those who are blocked, in the order in which they began to wait. -/
  waiting : List Visitor
  deriving DecidableEq, Repr

namespace Crowd

/-- Nobody at the free lock. -/
def empty : Crowd := ⟨.free, []⟩

/-- How many are blocked at a side. -/
def blocked (crowd : Crowd) (side : Side) : Nat :=
  crowd.waiting.countP fun visitor => visitor.side = side

/-- Some visitors look one after another, while others wait. Whoever is not admitted waits behind
those. Whoever is only passing leaves at once, and if that wakes those who wait, they look again as
soon as the visitors before them have looked. -/
def rouse (lock : Lock) (waiting : List Visitor) : List Visitor → Crowd
  | [] => ⟨lock, waiting⟩
  | visitor :: others =>
    if lock.admits visitor.side then
      let inside := lock.enter visitor.side
      if visitor.passing then
        let left := inside.leave visitor.side
        if left.wakes visitor.side then rouse left [] (others ++ waiting)
        else rouse left waiting others
      else rouse inside waiting others
    else rouse lock (waiting ++ [visitor]) others
termination_by others => ((others ++ waiting).countP Visitor.passing, others.length)
decreasing_by
  · exact .left _ _ (by simp_all)
  · exact .left _ _ (by simp_all)
  · exact .right' _ (by simp_all) (by simp)
  · exact .right' _ (by simp [List.countP_cons]; omega) (by simp)

/-- Somebody comes, and enters or is blocked. -/
def arrive (crowd : Crowd) (visitor : Visitor) : Crowd :=
  rouse (crowd.lock.announce visitor.side) crowd.waiting [visitor]

/-- A side is left, and those who are woken by that look again. -/
def leave (crowd : Crowd) (side : Side) : Crowd :=
  let left := crowd.lock.leave side
  if left.wakes side then rouse left [] crowd.waiting else ⟨left, crowd.waiting⟩

end Crowd

end Keyring
