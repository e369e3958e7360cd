import Keyring.Cell

/-!
# Values under names

A table that remembers the order in which names were first put. Names are values of any kind, and
two of them are the same if their identities are. Putting a value under a name that is there already
replaces the value and moves nothing (`get?_put`, `names_put`).
-/

namespace Keyring

/-- Names with their values, in the order in which the names were first put. -/
abbrev Named (α : Type) := List (Cell × α)

namespace Named

variable {α : Type}

/-- The value under a name. -/
def get? (name : Cell) : Named α → Option α
  | [] => none
  | (stored, value) :: others =>
    if stored.identity = name.identity then some value else get? name others

/-- The names, in order. -/
def names (named : Named α) : List Cell :=
  named.map (·.1)

/-- There is a value under a name. -/
def contains (name : Cell) (named : Named α) : Bool :=
  (named.get? name).isSome

/-- The table with another value under a name, which comes last if it is new. -/
def put (name : Cell) (value : α) : Named α → Named α
  | [] => [(name, value)]
  | (stored, old) :: others =>
    if stored.identity = name.identity then (stored, value) :: others
    else (stored, old) :: put name value others

/-- The table without a name. -/
def erase (name : Cell) (named : Named α) : Named α :=
  named.filter fun (stored, _) => stored.identity ≠ name.identity

/-- The table that comes about by putting one value after another. -/
def ofList (pairs : List (Cell × α)) : Named α :=
  pairs.foldl (fun named (name, value) => named.put name value) []

/-- The name that is put has the value that is put, and every other name keeps its own. -/
theorem get?_put (name other : Cell) (value : α) (named : Named α) :
    (named.put name value).get? other =
      if other.identity = name.identity then some value else named.get? other := by
  induction named with
  | nil => simp [put, get?, eq_comm]
  | cons pair others ih =>
    obtain ⟨stored, old⟩ := pair
    by_cases same : stored.identity = name.identity
    · rw [put, if_pos same, get?, get?]
      by_cases equal : stored.identity = other.identity
      · rw [if_pos equal, if_pos (equal.symm.trans same)]
      · rw [if_neg equal, if_neg fun sought => equal (same.trans sought.symm), if_neg equal]
    · rw [put, if_neg same, get?, get?, ih]
      by_cases equal : stored.identity = other.identity
      · rw [if_pos equal, if_neg fun sought => same (equal.trans sought), if_pos equal]
      · rw [if_neg equal, if_neg equal]

/-- The name that is erased has no value any more, and every other name keeps its own. -/
theorem get?_erase (name other : Cell) (named : Named α) :
    (named.erase name).get? other =
      if other.identity = name.identity then none else named.get? other := by
  induction named with
  | nil => simp [erase, get?]
  | cons pair others ih =>
    obtain ⟨stored, old⟩ := pair
    by_cases same : stored.identity = name.identity
    · have skipped : erase name ((stored, old) :: others) = erase name others := by
        simp [erase, same]
      rw [skipped, ih, get?]
      by_cases equal : stored.identity = other.identity
      · rw [if_pos (equal.symm.trans same), if_pos (equal.symm.trans same)]
      · rw [if_neg equal]
    · have kept : erase name ((stored, old) :: others) = (stored, old) :: erase name others := by
        simp [erase, same]
      rw [kept, get?, get?, ih]
      by_cases equal : stored.identity = other.identity
      · rw [if_pos equal, if_neg fun sought => same (equal.trans sought), if_pos equal]
      · rw [if_neg equal, if_neg equal]

/-- A new name comes last, and an old one keeps its place. -/
theorem names_put (name : Cell) (value : α) (named : Named α) :
    (named.put name value).names =
      if named.contains name then named.names else named.names ++ [name] := by
  induction named with
  | nil => simp [put, names, contains, get?]
  | cons pair others ih =>
    obtain ⟨stored, old⟩ := pair
    by_cases same : stored.identity = name.identity
    · simp [put, names, contains, get?, same]
    · unfold names contains at ih ⊢
      simp only [put, get?, if_neg same, List.map_cons, ih]
      split <;> rfl

end Named

end Keyring
