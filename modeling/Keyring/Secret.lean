import Keyring.Entropy
import Keyring.Hash.Bcrypt
import Keyring.Hash.Sha512
import Keyring.Presented

/-!
# Secrets

A secret is kept as its bcrypt hash. Only its first 72 octets would count, so a longer one is not
hashed and matches no hash.

A verdict on a secret is remembered under `cacheKey`: the SHA-512 digest of id and secret with a
zero between them. No stored id holds a zero, so different pairs give different messages.
-/

namespace Keyring

namespace Secret

/-- The cost of new hashes. -/
def defaultCost : Int := 10

/-- The most octets of a secret. -/
def maxLength : Nat := 72

/-- The octets of a secret. -/
def octets : Given → Except Failure Bytes
  | .ofText text =>
    match Utf8.encode text with
    | .ok bytes => .ok bytes
    | .error run => .error (.unencodable run)
  | .ofBytes bytes => .ok bytes

/-- The first number that has no place among the integers of 64 bits. -/
def wordBound : Int := 0x8000000000000000

/-- A fresh setting of the given cost. A salt is used up only for a cost that hashes can have. -/
def freshSetting (cost : Int) (salts : Salts) : Except Failure Bytes × Salts :=
  if 4 ≤ cost && cost ≤ 31 then
    let (salt, salts) := salts.next
    (.ok (Bcrypt.Setting.render ⟨Bcrypt.currentVersion, cost.toNat, salt⟩), salts)
  else if 0 ≤ cost && cost ≤ 65535 then (.error (.hashing .invalidCost), salts)
  else if -wordBound ≤ cost && cost < wordBound then (.error .costOutOfRange, salts)
  else (.error .costTooLarge, salts)

/-- The hash of a secret, with a fresh salt. -/
def hash (secret : Given) (cost : Int) (salts : Salts) : Except Failure Bytes × Salts :=
  match octets secret with
  | .error failure => (.error failure, salts)
  | .ok password =>
    if password.length > maxLength then (.error (.hashing .tooLong), salts)
    else
      match freshSetting cost salts with
      | (.error failure, salts) => (.error failure, salts)
      | (.ok setting, salts) =>
        match Bcrypt.hash? password setting with
        | some hash => (.ok hash, salts)
        | none => (.error (.hashing .invalidSalt), salts)

/-- The octets that a value has as a secret. -/
def octetsFor (value : Cell) : Except Failure Bytes :=
  value.secret.bind octets

/-- The hash of a secret, where secret and cost may be of any kind. -/
def hashFor (secret cost : Cell) (salts : Salts) : Except Failure Bytes × Salts :=
  match secret.secret, cost.number? with
  | .error failure, _ => (.error failure, salts)
  | .ok secret, some cost => hash secret cost salts
  | .ok secret, none =>
    ((octets secret).bind fun password =>
      .error (.hashing (if password.length > maxLength then .tooLong else .costKind cost.kind)),
      salts)

/-- Octets are those that were hashed. What is stored may be anything: no hash matches nothing. -/
def matchesHash (password stored : Bytes) : Bool :=
  password.length ≤ maxLength && (Bcrypt.check? password stored).getD false

/-- A secret is the one that was hashed. -/
def check (secret : Given) (stored : Bytes) : Except Failure Bool :=
  (octets secret).map fun password => matchesHash password stored

/-- Octets are those that were hashed, where what is stored may be of any kind. Octets that are too
many match whatever is stored as little as they match a hash. -/
def verdict (password : Bytes) (stored : Cell) : Except Failure Bool :=
  if password.length > maxLength then .ok false
  else stored.storedHash.map (matchesHash password)

/-- On octets that are stored there is always a verdict. -/
@[simp]
theorem verdict_ofBytes (password stored : Bytes) :
    verdict password (.ofBytes stored) = .ok (matchesHash password stored) := by
  unfold verdict matchesHash
  split
  · rename_i long
    simp [Nat.not_le.mpr long]
  · rfl

/-- A secret is the one that was hashed, where both may be of any kind. -/
def checkFor (secret stored : Cell) : Except Failure Bool :=
  (octetsFor secret).bind fun password => verdict password stored

/-- The message that stands for an id and a secret. -/
def cacheMessage (id secret : Bytes) : Bytes :=
  id ++ 0 :: secret

/-- What a verdict on the octets of an id and a secret is remembered under. -/
def cacheDigest (id secret : Bytes) : Bytes :=
  Sha512.digest (cacheMessage id secret)

/-- What a verdict on an id and a secret is remembered under. -/
def cacheKey (id secret : Given) : Except Failure Bytes := do
  return cacheDigest (← octets id) (← octets secret)

/-- What a verdict on an id and a secret is remembered under, where both may be of any kind. -/
def cacheKeyFor (id secret : Cell) : Except Failure Bytes := do
  return cacheDigest (← octetsFor id) (← octetsFor secret)

end Secret

end Keyring
