import Keyring.Audit.Event
import Keyring.Keychain
import Keyring.Order

/-!
# Custodians

A custodian looks after the keychain of a file. The keychain is loaded when it is needed for the
first time, every change is saved at once, and every event is recorded for the audit log. A change
that cannot be saved is undone.

What a custodian does is a `Duty`: work that makes calls, may fail, and changes the custodian even
if it fails. `perform` carries a duty out and hands over the events recorded meanwhile.
-/

namespace Keyring

open Audit (Event)

/-- Whoever looks after a keychain. -/
structure Custodian where
  /-- The file of the keychain. -/
  path : Text
  /-- The keychain, once it is loaded. -/
  keychain : Option Keychain
  /-- The events that have not been handed over, the earliest first. -/
  recorded : List Event
  deriving DecidableEq, Repr

/-- Work of a custodian. -/
abbrev Duty (α : Type) := ExceptT Failure (StateT Custodian Plan) α

namespace Duty

variable {α : Type}

/-- Records an event. -/
def record (event : Event) : Duty Unit :=
  modify fun custodian => { custodian with recorded := custodian.recorded ++ [event] }

/-- Makes calls. -/
def through (plan : Plan α) : Duty α :=
  ExceptT.lift (StateT.lift plan)

/-- Has a result, or fails with it. -/
def ofExcept : Except Failure α → Duty α
  | .ok value => pure value
  | .error failure => throw failure

/-- The result of a duty that a custodian carries out, the custodian after it, and the events that
were recorded meanwhile. -/
def perform (duty : Duty α) (custodian : Custodian) :
    Plan (Except Failure α × Custodian × List Event) := do
  let (result, after) ← duty.run { custodian with recorded := [] }
  return (result, { after with recorded := [] }, after.recorded)

end Duty

namespace Custodian

variable {α : Type}

/-- The custodian of a file that has not been looked at. -/
def ofPath (path : Text) : Custodian :=
  ⟨path, none, []⟩

/-- The keychain, which is loaded if it has not been. -/
def opened : Duty Keychain := do
  let custodian ← get
  match custodian.keychain with
  | some keychain => return keychain
  | none =>
    let keychain ← Duty.ofExcept (← Duty.through (Keychain.load custodian.path))
    modify fun custodian => { custodian with keychain := some keychain }
    Duty.record (.loaded custodian.path (.ofInt keychain.size))
    return keychain

/-- Puts a keychain in place of the one before. -/
def keep (keychain : Keychain) : Duty Unit :=
  modify fun custodian => { custodian with keychain := some keychain }

/-- Does something with the keychain. -/
def withKeychain (work : Keychain → Except Failure α × Keychain) : Duty α := do
  let (result, after) := work (← opened)
  keep after
  Duty.ofExcept result

/-- Does something with the keychain and its file. -/
def withKeychainThrough (work : Keychain → Plan (Except Failure α × Keychain)) : Duty α := do
  let (result, after) ← Duty.through (work (← opened))
  keep after
  Duty.ofExcept result

/-- Stores a hash for an id in memory alone. -/
def addUnsaved (id hash : Cell) : Duty Unit :=
  withKeychain fun keychain => keychain.add id hash

/-- Removes an id in memory alone, and tells whether it was stored. -/
def removeUnsaved (id : Cell) : Duty Bool :=
  withKeychain fun keychain => keychain.remove id

/-- The hash that is stored for an id, if there is one. -/
def hashOf (id : Cell) : Duty Cell := do
  Duty.ofExcept ((← opened).hashOf id)

/-- Writes the keychain to its file. -/
def save : Duty Unit := do
  withKeychainThrough Keychain.save
  Duty.record (.saved (← get).path (.ofInt (← opened).size))

/-- Reads the keychain from its file again. -/
def reload : Duty Unit :=
  withKeychainThrough Keychain.reload

/-- Saves the keychain. If the keychain is at fault that it cannot be saved, `undo` takes the change
back and `event` tells of it. -/
def saveOr (undo : Duty Unit) (event : Failure → Event) : Duty Unit :=
  tryCatch save fun failure => do
    if failure.isKeychainError then
      undo
      Duty.record (event failure)
    throw failure

/-- Stores for an id what was stored before. -/
def restore (id : Cell) : Cell → Duty Unit
  | .absent => do
    let _ ← removeUnsaved id
  | hash => addUnsaved id hash

/-- Stores a hash for an id and saves. -/
def putAndSave (id hash : Cell) : Duty Unit := do
  let previous ← hashOf id
  addUnsaved id hash
  saveOr (restore id previous) (.saveFailed id)

/-- Stores a new credential and saves. Nobody else knows its secret afterwards. -/
def create : Duty Credential := do
  let credential ← Duty.ofExcept (← Duty.through (Plan.request .issue))
  putAndSave (.ofText credential.id) (.ofBytes credential.hash)
  Duty.record (.created credential.id)
  return credential

/-- Stores a hash for an id and saves. -/
def add (id hash : Cell) : Duty Unit := do
  putAndSave id hash
  Duty.record (.added id)

/-- An id that should be removed is not stored. -/
def missing (id : Cell) : Duty Bool := do
  Duty.record (.removeMissing id)
  return false

/-- Removes an id and saves, and tells whether it was stored. -/
def remove (id : Cell) : Duty Bool := do
  match ← hashOf id with
  | .absent => missing id
  | previous =>
    if ← removeUnsaved id then
      saveOr (restore id previous) (.removeFailed id)
      Duty.record (.removed id)
      return true
    else missing id

/-- The ids in order. -/
def ids : Duty (List Cell) := do
  Duty.ofExcept (Cell.sorted (← opened).ids)

/-- The verdict on a secret for an id, which both may be of any kind. -/
def verify (id secret : Cell) : Duty Bool := do
  let allowed ← withKeychain fun keychain => keychain.verify id secret
  Duty.record (.authenticated id allowed)
  return allowed

end Custodian

/-- What is known about a keychain and its file. -/
structure Statistics where
  path : Text
  /-- The file is there. -/
  isThere : Bool
  keys : Nat
  /-- The most verdicts that are remembered. -/
  capacity : Nat
  /-- How many verdicts are remembered. -/
  remembered : Nat
  deriving DecidableEq, Repr

/-- What is known about the keychain of a custodian. -/
def Custodian.statistics : Duty Statistics := do
  let keychain ← opened
  let path := (← get).path
  return {
    path := path
    isThere := ← Duty.through (Plan.request (.isThere path))
    keys := keychain.size
    capacity := keychain.cache.capacity
    remembered := keychain.cache.size }

end Keyring
