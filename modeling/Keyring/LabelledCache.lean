import Keyring.Order
import Keyring.Presented
import Keyring.VerdictCache

/-!
# A cache of anything

A cache of verdicts in which ids and verdicts may be values of any kind. Lists and dictionaries
cannot be ids, since they may change; a cache without verdicts does not even look at the id of which
it should forget them.
-/

namespace Keyring

/-- A cache whose ids and verdicts may be of any kind. -/
abbrev LabelledCache := VerdictCache Cell.Label Cell

namespace LabelledCache

/-- Remembers a verdict in place of any other under its key. -/
def put (cache : LabelledCache) (key : Bytes) (id allowed : Cell) : Except Failure LabelledCache :=
  id.soughtId.map fun id => VerdictCache.put cache key ⟨id⟩ allowed

/-- Forgets all verdicts for an id, and tells how many they were. -/
def invalidate (cache : LabelledCache) (id : Cell) : Except Failure (Nat × LabelledCache) :=
  if cache.tags.isEmpty then .ok (0, cache)
  else id.soughtId.map fun id => VerdictCache.invalidate cache ⟨id⟩

/-- The ids in order, each with the number of its verdicts. -/
def counts (cache : LabelledCache) : Except Failure (List (Cell × Nat)) :=
  (Cell.sorted (cache.tags.map fun (id, _) => id.value)).map fun ids =>
    ids.map fun id => (id, (cache.tags.keysOf ⟨id⟩).length)

end LabelledCache

end Keyring
