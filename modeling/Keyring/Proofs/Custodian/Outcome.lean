import Keyring.Custodian
import Keyring.Proofs.Host.Upkeep
import Keyring.Proofs.Keychain.Storage

/-!
# What comes of a duty

A duty that a custodian carries out on a host has a result, and leaves a custodian and a host. One
equation for each way in which duties are put together gives this `outcome`, and from them come
those of the custodian's own duties with a keychain that is loaded.
-/

namespace Keyring

open Audit (Event)

/-- What comes of a duty. -/
structure Outcome (α : Type) where
  result : Except Failure α
  custodian : Custodian
  host : Host

namespace Duty

variable {α β : Type} (custodian : Custodian) (host : Host)

/-- What comes of a duty if this custodian carries it out on this host. -/
def outcome (duty : Duty α) : Outcome α :=
  ⟨((duty.run custodian).run host).1.1, ((duty.run custodian).run host).1.2,
    ((duty.run custodian).run host).2⟩

@[simp]
theorem outcome_pure (value : α) :
    (pure value : Duty α).outcome custodian host = ⟨.ok value, custodian, host⟩ := rfl

@[simp]
theorem outcome_throw (failure : Failure) :
    (throw failure : Duty α).outcome custodian host = ⟨.error failure, custodian, host⟩ := rfl

/-- A duty that goes on does so with what came of its first part, unless that failed. -/
theorem outcome_bind (duty : Duty α) (next : α → Duty β) :
    (duty >>= next).outcome custodian host =
      match duty.outcome custodian host with
      | ⟨.ok value, custodian, host⟩ => (next value).outcome custodian host
      | ⟨.error failure, custodian, host⟩ => ⟨.error failure, custodian, host⟩ := by
  have parts : (duty >>= next).run custodian = (duty.run custodian).bind fun
      | (.ok value, after) => (next value).run after
      | (.error failure, after) => .done (.error failure, after) := by
    show (duty.run custodian).bind _ = _
    congr 1
    funext ⟨result, after⟩
    cases result <;> rfl
  unfold outcome
  rw [parts, Plan.run_bind]
  rcases (duty.run custodian).run host with ⟨⟨failure | value, after⟩, later⟩ <;> rfl

/-- A failure is caught and handled where the duty left off. -/
theorem outcome_tryCatch (duty : Duty α) (handle : Failure → Duty α) :
    (tryCatch duty handle).outcome custodian host =
      match duty.outcome custodian host with
      | ⟨.ok value, custodian, host⟩ => ⟨.ok value, custodian, host⟩
      | ⟨.error failure, custodian, host⟩ => (handle failure).outcome custodian host := by
  have parts : (tryCatch duty handle).run custodian = (duty.run custodian).bind fun
      | (.ok value, after) => .done (.ok value, after)
      | (.error failure, after) => (handle failure).run after := by
    show (duty.run custodian).bind _ = _
    congr 1
    funext ⟨result, after⟩
    cases result <;> rfl
  unfold outcome
  rw [parts, Plan.run_bind]
  rcases (duty.run custodian).run host with ⟨⟨failure | value, after⟩, later⟩ <;> rfl

@[simp]
theorem outcome_get : (get : Duty Custodian).outcome custodian host =
    ⟨.ok custodian, custodian, host⟩ := rfl

@[simp]
theorem outcome_modify (change : Custodian → Custodian) :
    (modify change : Duty Unit).outcome custodian host = ⟨.ok (), change custodian, host⟩ := rfl

@[simp]
theorem outcome_record (event : Event) :
    (record event).outcome custodian host =
      ⟨.ok (), { custodian with recorded := custodian.recorded ++ [event] }, host⟩ := rfl

@[simp]
theorem outcome_through (plan : Plan α) :
    (through plan).outcome custodian host =
      ⟨.ok (plan.run host).1, custodian, (plan.run host).2⟩ := by
  have parts : (through plan).run custodian =
      (plan.bind fun value => .done (value, custodian)).bind fun pair =>
        .done (.ok pair.1, pair.2) := rfl
  unfold outcome
  rw [parts, Plan.run_bind, Plan.run_bind]
  rfl

@[simp]
theorem outcome_ofExcept (result : Except Failure α) :
    (ofExcept result).outcome custodian host = ⟨result, custodian, host⟩ := by
  cases result <;> rfl

/-- What comes of a duty that is performed does not depend on the events of earlier ones. -/
theorem run_perform (duty : Duty α) :
    (duty.perform custodian).run host =
      (((duty.outcome { custodian with recorded := [] } host).result,
        { (duty.outcome { custodian with recorded := [] } host).custodian with recorded := [] },
        (duty.outcome { custodian with recorded := [] } host).custodian.recorded),
        (duty.outcome { custodian with recorded := [] } host).host) := by
  unfold perform outcome
  simp

end Duty

namespace Custodian

open Duty

variable {α β : Type} (path : Text) (keychain : Keychain) (recorded : List Event) (host : Host)

/-! ## With a keychain that is loaded -/

@[simp]
theorem outcome_opened :
    opened.outcome ⟨path, some keychain, recorded⟩ host =
      ⟨.ok keychain, ⟨path, some keychain, recorded⟩, host⟩ := by
  unfold opened
  simp [outcome_bind]

@[simp]
theorem outcome_withKeychain (work : Keychain → Except Failure α × Keychain) :
    (withKeychain work).outcome ⟨path, some keychain, recorded⟩ host =
      ⟨(work keychain).1, ⟨path, some (work keychain).2, recorded⟩, host⟩ := by
  unfold withKeychain keep
  simp [outcome_bind]

@[simp]
theorem outcome_withKeychainThrough (work : Keychain → Plan (Except Failure α × Keychain)) :
    (withKeychainThrough work).outcome ⟨path, some keychain, recorded⟩ host =
      ⟨((work keychain).run host).1.1, ⟨path, some ((work keychain).run host).1.2, recorded⟩,
        ((work keychain).run host).2⟩ := by
  unfold withKeychainThrough keep
  simp [outcome_bind]

@[simp]
theorem outcome_hashOf (id : Cell) :
    (hashOf id).outcome ⟨path, some keychain, recorded⟩ host =
      ⟨keychain.hashOf id, ⟨path, some keychain, recorded⟩, host⟩ := by
  unfold hashOf
  simp [outcome_bind]

@[simp]
theorem outcome_addUnsaved (id hash : Cell) :
    (addUnsaved id hash).outcome ⟨path, some keychain, recorded⟩ host =
      ⟨(keychain.add id hash).1, ⟨path, some (keychain.add id hash).2, recorded⟩, host⟩ :=
  outcome_withKeychain ..

@[simp]
theorem outcome_removeUnsaved (id : Cell) :
    (removeUnsaved id).outcome ⟨path, some keychain, recorded⟩ host =
      ⟨(keychain.remove id).1, ⟨path, some (keychain.remove id).2, recorded⟩, host⟩ :=
  outcome_withKeychain ..

/-- A keychain is saved as it is. The event tells how many entries it has. -/
theorem outcome_save :
    save.outcome ⟨path, some keychain, recorded⟩ host =
      match keychain.save.run host with
      | ((.ok (), after), host) =>
        ⟨.ok (), ⟨path, some after, recorded ++ [.saved path (.ofInt after.size)]⟩, host⟩
      | ((.error failure, after), host) =>
        ⟨.error failure, ⟨path, some after, recorded⟩, host⟩ := by
  unfold save
  simp only [outcome_bind, outcome_withKeychainThrough]
  rcases keychain.save.run host with ⟨⟨failure | ⟨⟩, after⟩, later⟩
  · rfl
  · simp

/-- A change that cannot be saved is undone if the keychain is at fault. -/
theorem outcome_saveOr (undo : Duty Unit) (event : Failure → Event) :
    (saveOr undo event).outcome ⟨path, some keychain, recorded⟩ host =
      match keychain.save.run host with
      | ((.ok (), after), host) =>
        ⟨.ok (), ⟨path, some after, recorded ++ [.saved path (.ofInt after.size)]⟩, host⟩
      | ((.error failure, after), host) =>
        if failure.isKeychainError then
          (do undo; record (event failure); throw failure : Duty Unit).outcome
            ⟨path, some after, recorded⟩ host
        else ⟨.error failure, ⟨path, some after, recorded⟩, host⟩ := by
  unfold saveOr
  rw [outcome_tryCatch, outcome_save]
  rcases keychain.save.run host with ⟨⟨failure | ⟨⟩, after⟩, later⟩
  · dsimp only
    split
    · simp [outcome_bind]
    · rfl
  · rfl

/-- A hash is stored in memory and then saved. -/
theorem outcome_putAndSave (id hash : Cell) :
    (putAndSave id hash).outcome ⟨path, some keychain, recorded⟩ host =
      match keychain.hashOf id with
      | .error failure => ⟨.error failure, ⟨path, some keychain, recorded⟩, host⟩
      | .ok previous =>
        match keychain.add id hash with
        | (.error failure, after) => ⟨.error failure, ⟨path, some after, recorded⟩, host⟩
        | (.ok (), after) =>
          (saveOr (restore id previous) (.saveFailed id)).outcome ⟨path, some after, recorded⟩
            host := by
  unfold putAndSave
  simp only [outcome_bind, outcome_hashOf]
  cases keychain.hashOf id with
  | error failure => rfl
  | ok previous =>
    simp only [outcome_addUnsaved]
    rcases keychain.add id hash with ⟨failure | ⟨⟩, after⟩ <;> rfl

end Custodian

end Keyring
