import Keyring.Header
import Keyring.KeychainFile
import Keyring.Lock
import Keyring.Presented
import Keyring.Secret
import Keyring.VerdictCache

/-!
# Keychains

A keychain holds entries and says whether a presented secret is the one whose hash is stored for an
id. Verdicts are remembered, since checking a hash is slow on purpose; whatever changes the hash of
an id forgets the verdicts for it.

Every operation gives the keychain after it beside its result. It works under one side of the
keychain's lock: those that change entries or the file hold the write side, all others the read
side. An operation that fails leaves the entries and what is remembered as they were.

Ids, secrets and hashes may be values of any kind. Only entries of text and octets can be added
(`Cell.entryWith`), and only texts are verified.
-/

namespace Keyring

open Text (lit)

/-- The entries of a file and what is remembered about them. -/
structure Keychain where
  /-- The file of the keychain. -/
  name : Text
  entries : Entries
  /-- The verdicts on the texts that are ids. -/
  cache : VerdictCache Text Bool
  lock : Lock
  deriving DecidableEq, Repr

namespace Keychain

/-- The keychain of some entries, with a cache of the wanted size. Without a wanted size there is
room for one verdict on each entry. -/
def create (name : Text) (entries : Entries) (size : Option Int) : Keychain where
  name := name
  entries := entries
  cache := .empty (size.getD
    (if entries.isEmpty then VerdictCache.defaultCapacity else entries.length))
  lock := .free

/-- The keychain of a file that has been read, or of a missing one. -/
def ofFile (name : Text) : Option Entries → Keychain
  | none => create name [] (some VerdictCache.defaultCapacity)
  | some entries => create name entries (some entries.length)

/-- The keychain that the file of a name holds. -/
def load (name : Text) : Plan (Except Failure Keychain) :=
  (KeychainFile.read name).onSuccess fun entries => .done (.ok (ofFile name entries))

/-- How a keychain shows in diagnostics. -/
def render (keychain : Keychain) : Text :=
  lit "Keychain(name=" ++ Text.quoted keychain.name ++ lit ", keys=" ++
    Text.ofNat keychain.entries.length ++ lit ")"

/-- The keychain while somebody holds a side of its lock. -/
def take (keychain : Keychain) (side : Side) : Keychain :=
  { keychain with lock := keychain.lock.take side }

/-- The keychain after somebody left a side of its lock. -/
def leave (keychain : Keychain) (side : Side) : Keychain :=
  { keychain with lock := keychain.lock.leave side }

/-- Does some work while a side of the lock is held. -/
def holding {α : Type} (keychain : Keychain) (side : Side)
    (work : Keychain → α × Keychain) : α × Keychain :=
  let (value, after) := work (keychain.take side)
  (value, after.leave side)

/-! ## Entries -/

/-- How many entries there are. -/
def size (keychain : Keychain) : Nat :=
  keychain.entries.length

/-- The ids, in the order of the entries. -/
def ids (keychain : Keychain) : List Cell :=
  keychain.entries.ids

/-- The hash that is stored for an id, if there is one. -/
def hashOf (keychain : Keychain) (id : Cell) : Except Failure Cell :=
  id.soughtId.map fun id => (keychain.entries.get? id).getD .absent

/-- An id is stored. -/
def contains (keychain : Keychain) (id : Cell) : Except Failure Bool :=
  id.soughtId.map fun id => keychain.entries.contains id

/-- Forgets the verdicts for an id. Only texts have any. -/
def forget (keychain : Keychain) : Cell → Keychain
  | .ofText id => { keychain with cache := (keychain.cache.invalidate id).2 }
  | _ => keychain

/-- Stores a hash for an id in place of any other. -/
def put (keychain : Keychain) (id : Text) (hash : Bytes) : Keychain :=
  { keychain with entries := keychain.entries.put (.ofText id) (.ofBytes hash) }.forget id

/-- Stores a hash for an id, if a file can keep the two. -/
def add (keychain : Keychain) (id hash : Cell) : Except Failure Unit × Keychain :=
  match id.entryWith hash with
  | .error failure => (.error failure, keychain)
  | .ok (id, hash) => keychain.holding .write fun keychain => (.ok (), keychain.put id hash)

/-- Removes an id, and tells whether it was stored. -/
def remove (keychain : Keychain) (id : Cell) : Except Failure Bool × Keychain :=
  keychain.holding .write fun keychain =>
    match keychain.contains id with
    | .ok true =>
      (.ok true, { keychain with entries := keychain.entries.erase id }.forget id)
    | other => (other, keychain)

/-! ## Verdicts -/

/-- The verdict on the octets of an id and a secret against the hash that is stored for the id. A
verdict that is not remembered is worked out and remembered. -/
def judge (keychain : Keychain) (id : Text) (idOctets secret : Bytes) (hash : Cell) :
    Except Failure Bool × Keychain :=
  let key := Secret.cacheDigest idOctets secret
  match keychain.cache.get key with
  | (some allowed, cache) => (.ok allowed, { keychain with cache := cache })
  | (none, cache) =>
    match Secret.verdict secret hash with
    | .error failure => (.error failure, { keychain with cache := cache })
    | .ok allowed => (.ok allowed, { keychain with cache := cache.put key id allowed })

/-- A secret is the one whose hash is stored for the id. Nothing is remembered of ids that are not
stored, nor of text that has no octets. -/
def verifyText (keychain : Keychain) (id secret : Text) : Except Failure Bool × Keychain :=
  match Utf8.encode id, Utf8.encode secret with
  | .ok idOctets, .ok secretOctets =>
    keychain.holding .read fun keychain =>
      match (keychain.entries.get? (.ofText id)).getD .absent with
      | .absent => (.ok false, keychain)
      | hash => keychain.judge id idOctets secretOctets hash
  | _, _ => (.ok false, keychain)

/-- The verdict on values of any kind. Only texts can be id and secret. -/
def verify (keychain : Keychain) : Cell → Cell → Except Failure Bool × Keychain
  | .ofText id, .ofText secret => keychain.verifyText id secret
  | _, _ => (.ok false, keychain)

/-- The verdict on the id and the secret that a header presents. -/
def allow (keychain : Keychain) (header : Option Text) : Except Failure Bool × Keychain :=
  match Header.parse? header with
  | .error failure => (.error failure, keychain)
  | .ok none => (.ok false, keychain)
  | .ok (some (id, secret)) => keychain.verifyText id secret

/-! ## The file -/

/-- What the file of the keychain holds once it is saved. -/
def dumps (keychain : Keychain) : Except Failure Bytes :=
  Entries.render keychain.entries

/-- Does some work that makes calls while a side of the lock is held. -/
def holdingThrough {α : Type} (keychain : Keychain) (side : Side)
    (work : Keychain → Plan (α × Keychain)) : Plan (α × Keychain) := do
  let (value, after) ← work (keychain.take side)
  return (value, after.leave side)

/-- Writes the entries to the file. -/
def save (keychain : Keychain) : Plan (Except Failure Unit × Keychain) :=
  keychain.holdingThrough .write fun keychain =>
    match keychain.dumps with
    | .error failure => return (.error failure, keychain)
    | .ok content => return (← KeychainFile.write keychain.name content, keychain)

/-- Replaces the entries by those of the file and forgets all verdicts. -/
def reload (keychain : Keychain) : Plan (Except Failure Unit × Keychain) :=
  keychain.holdingThrough .write fun keychain => do
    match ← KeychainFile.read keychain.name with
    | .error failure => return (.error failure, keychain)
    | .ok entries =>
      return (.ok (),
        { keychain with entries := entries.getD [], cache := keychain.cache.clear })

end Keychain

end Keyring
