import Keyring.Text.Basic

/-!
# A cache of verdicts

Verdicts on presented secrets, each remembered under a key and for the id that it is about. When the
cache is full, the verdict that was put or asked for longest ago makes room.

All verdicts for an id can be forgotten at once. So that this need not search, the cache keeps for
each id the keys of its verdicts; `discard`, `put` and `invalidate` keep these tags in step with the
verdicts themselves. What ids and verdicts are does not matter, as long as ids can be compared.
-/

namespace Keyring

/-- A verdict, what it is remembered under, and the id that it is about. -/
structure Verdict (ι ω : Type) where
  key : Bytes
  id : ι
  allowed : ω
  deriving DecidableEq, Repr

/-- The keys of the verdicts for each id. -/
abbrev Tags (ι : Type) := List (ι × List Bytes)

namespace Tags

variable {ι : Type} [BEq ι]

/-- The keys for an id. -/
def keysOf (id : ι) : Tags ι → List Bytes
  | [] => []
  | (tagged, keys) :: others => if tagged == id then keys else keysOf id others

/-- One more key for an id. -/
def insert (key : Bytes) (id : ι) : Tags ι → Tags ι
  | [] => [(id, [key])]
  | (tagged, keys) :: others =>
    if tagged == id then (tagged, if keys.contains key then keys else keys ++ [key]) :: others
    else (tagged, keys) :: insert key id others

/-- One key less for an id, and no id without keys. -/
def erase (key : Bytes) (id : ι) : Tags ι → Tags ι
  | [] => []
  | (tagged, keys) :: others =>
    if tagged == id then
      let left := keys.filter (· ≠ key)
      if left.isEmpty then others else (tagged, left) :: others
    else (tagged, keys) :: erase key id others

/-- No key for an id. -/
def forget (id : ι) (tags : Tags ι) : Tags ι :=
  tags.filter fun (tagged, _) => tagged != id

end Tags

/-- A bounded collection of verdicts. -/
structure VerdictCache (ι ω : Type) where
  /-- The most verdicts that are remembered. -/
  capacity : Nat
  /-- The verdicts, the one used longest ago first. -/
  verdicts : List (Verdict ι ω)
  tags : Tags ι
  /-- How often a verdict was found. -/
  hits : Nat
  /-- How often none was found. -/
  misses : Nat
  deriving DecidableEq, Repr

namespace VerdictCache

variable {ι ω : Type}

/-- The least capacity of a cache. -/
def minCapacity : Int := 8

/-- The capacity where nothing tells how many keys there are. -/
def defaultCapacity : Int := 128

/-- The cache of a wanted size without any verdict. -/
def empty (size : Int) : VerdictCache ι ω :=
  ⟨(max size minCapacity).toNat, [], [], 0, 0⟩

/-- How many verdicts are remembered. -/
def size (cache : VerdictCache ι ω) : Nat :=
  cache.verdicts.length

/-- The verdict under a key. -/
def find? (cache : VerdictCache ι ω) (key : Bytes) : Option (Verdict ι ω) :=
  cache.verdicts.find? (·.key = key)

/-- A verdict is remembered under the key. -/
def contains (cache : VerdictCache ι ω) (key : Bytes) : Bool :=
  (cache.find? key).isSome

/-- The verdict under a key, which is then the one used last. -/
def get (cache : VerdictCache ι ω) (key : Bytes) : Option ω × VerdictCache ι ω :=
  match cache.find? key with
  | none => (none, { cache with misses := cache.misses + 1 })
  | some verdict =>
    (some verdict.allowed,
      { cache with
        verdicts := cache.verdicts.filter (·.key ≠ key) ++ [verdict]
        hits := cache.hits + 1 })

variable [BEq ι]

/-- The cache without the verdict under a key. -/
def discard (cache : VerdictCache ι ω) (key : Bytes) : VerdictCache ι ω :=
  match cache.find? key with
  | none => cache
  | some verdict =>
    { cache with
      verdicts := cache.verdicts.filter (·.key ≠ key)
      tags := cache.tags.erase key verdict.id }

/-- The cache without its `count` verdicts used longest ago. -/
def discardOldest : Nat → VerdictCache ι ω → VerdictCache ι ω
  | 0, cache => cache
  | count + 1, cache =>
    match cache.verdicts with
    | [] => cache
    | verdict :: _ => discardOldest count (cache.discard verdict.key)

/-- Remembers a verdict in place of any other under its key. -/
def put (cache : VerdictCache ι ω) (key : Bytes) (id : ι) (allowed : ω) : VerdictCache ι ω :=
  let cleared := cache.discard key
  let stored :=
    { cleared with
      verdicts := cleared.verdicts ++ [⟨key, id, allowed⟩]
      tags := cleared.tags.insert key id }
  discardOldest (stored.verdicts.length - stored.capacity) stored

/-- Forgets all verdicts for an id, and tells how many they were. -/
def invalidate (cache : VerdictCache ι ω) (id : ι) : Nat × VerdictCache ι ω :=
  let keys := cache.tags.keysOf id
  (keys.length,
    { cache with
      verdicts := cache.verdicts.filter fun verdict => !keys.contains verdict.key
      tags := cache.tags.forget id })

/-- Forgets all verdicts, but not how often any were found. -/
def clear (cache : VerdictCache ι ω) : VerdictCache ι ω :=
  { cache with verdicts := [], tags := [] }

end VerdictCache

end Keyring
