import Keyring.Proofs.Custodian.Outcome
import Keyring.Proofs.Keychain.Changes

/-!
# Tasks

What a custodian can be asked for, one constructor for each duty that others see. A task that
changes entries first makes the change in memory (`change`) and then saves the keychain; `saving`
tells which keychain is saved and on what host, if one is. Whoever gave the task learns of the
change from its result (`receipt`).
-/

namespace Keyring

open Audit (Event)

/-- A change to entries, which are saved then. -/
inductive Change where
  | put (id hash : Cell)
  | erase (id : Cell)
  /-- The entries are only saved. -/
  | keep
  deriving DecidableEq, Repr

namespace Change

/-- The entries after a change. A hash that is refused is not put. -/
def apply (change : Change) (entries : Entries) : Entries :=
  match change with
  | .put id hash =>
    match id.entryWith hash with
    | .ok (id, hash) => Named.put (.ofText id) (.ofBytes hash) entries
    | .error _ => entries
  | .erase id => Named.erase id entries
  | .keep => entries

/-- The same change makes the same mapping of the same mapping. -/
theorem apply_agree {entries others : Entries} (agree : Entries.Agree entries others)
    (change : Change) : Entries.Agree (change.apply entries) (change.apply others) := by
  cases change with
  | put id hash =>
    unfold apply
    dsimp only
    split
    · exact agree.put _ _
    · exact agree
  | erase id => exact agree.erase id
  | keep => exact agree

/-- The entries after one change upon another. -/
def applyAll (changes : List Change) (entries : Entries) : Entries :=
  changes.foldl (fun entries change => change.apply entries) entries

theorem applyAll_append (changes more : List Change) (entries : Entries) :
    applyAll (changes ++ more) entries = applyAll more (applyAll changes entries) :=
  List.foldl_append

/-- The same changes make the same mapping of the same mapping. -/
theorem applyAll_agree {entries others : Entries} (agree : Entries.Agree entries others)
    (changes : List Change) :
    Entries.Agree (applyAll changes entries) (applyAll changes others) := by
  induction changes generalizing entries others with
  | nil => exact agree
  | cons change changes ih => exact ih (apply_agree agree change)

end Change

/-- What a custodian is asked for. Hashes are text or octets, all else may be of any kind. -/
inductive Task where
  | create
  | add (id : Cell) (hash : Given)
  | remove (id : Cell)
  | verify (id secret : Cell)
  | ids
  | save

/-- Adding an entry puts it. -/
theorem Keychain.entries_add {keychain : Keychain} {id hash : Cell}
    (added : (keychain.add id hash).1 = .ok ()) :
    (keychain.add id hash).2.entries = (Change.put id hash).apply keychain.entries := by
  unfold add at added ⊢
  unfold Change.apply
  dsimp only
  split at added
  · cases added
  · rename_i entry
    rw [entry]
    simp [holding, put, leave, take]

/-- A keychain can be saved; or that may fail, and the keychain is at fault itself. -/
def Keychain.Saves (keychain : Keychain) (mayFail : Prop) (host : Host) : Prop :=
  match (keychain.save.run host).1.1 with
  | .ok () => True
  | .error failure => mayFail ∧ failure.isKeychainError = true

instance (keychain : Keychain) (mayFail : Prop) [Decidable mayFail] (host : Host) :
    Decidable (keychain.Saves mayFail host) :=
  match result : (keychain.save.run host).1.1 with
  | .ok () => isTrue (by simp [Keychain.Saves, result])
  | .error failure =>
    decidable_of_iff (mayFail ∧ failure.isKeychainError = true)
      (by simp [Keychain.Saves, result])

namespace Task

/-- What a task that succeeds gives. -/
abbrev Result : Task → Type
  | .create => Credential
  | .add _ _ => Unit
  | .remove _ => Bool
  | .verify _ _ => Bool
  | .ids => List Cell
  | .save => Unit

/-- The duty of a custodian with a task. -/
def duty : (task : Task) → Duty task.Result
  | .create => Custodian.create
  | .add id hash => Custodian.add id hash.toCell
  | .remove id => Custodian.remove id
  | .verify id secret => Custodian.verify id secret
  | .ids => Custodian.ids
  | .save => Custodian.save

/-- What comes of a task. The events are handed over. -/
def perform (task : Task) (custodian : Custodian) (host : Host) : Outcome task.Result :=
  let ((result, after, _), later) := (task.duty.perform custodian).run host
  ⟨result, after, later⟩

/-- A task leaves the custodian that its duty leaves, without the events. -/
theorem perform_eq (task : Task) (custodian : Custodian) (host : Host) :
    task.perform custodian host =
      ⟨(task.duty.outcome { custodian with recorded := [] } host).result,
        { (task.duty.outcome { custodian with recorded := [] } host).custodian with recorded := [] },
        (task.duty.outcome { custodian with recorded := [] } host).host⟩ := by
  unfold perform
  rw [Duty.run_perform]

/-- The keychain that a task has to save, if it changes the keychain or only saves it. -/
def change (task : Task) (host : Host) (keychain : Keychain) : Option Keychain :=
  match task with
  | .create =>
    match (host.answer .issue).1 with
    | .ok credential => added (keychain.add (.ofText credential.id) (.ofBytes credential.hash))
    | .error _ => none
  | .add id hash => added (keychain.add id hash.toCell)
  | .remove id =>
    match keychain.remove id with
    | (.ok true, after) => some after
    | _ => none
  | .save => some keychain
  | .verify _ _ => none
  | .ids => none
where
  /-- The keychain after an entry was added, unless it was refused. -/
  added : Except Failure Unit × Keychain → Option Keychain
    | (.ok (), after) => some after
    | (.error _, _) => none

/-- The change that a task made, by its result. -/
def receipt : (task : Task) → task.Result → Option Change
  | .create, credential => some (.put (.ofText credential.id) (.ofBytes credential.hash))
  | .add id hash, () => some (.put id hash.toCell)
  | .remove id, removed => if removed then some (.erase id) else none
  | .save, () => some .keep
  | .verify _ _, _ => none
  | .ids, _ => none

/-- The id and the secret that a task has verified, if it has. -/
def presented : Task → Option (Text × Text)
  | .verify id secret => (Keychain.Action.verify id secret).presented
  | _ => none

/-- The host on which a task looks for the keychain. -/
def begun (task : Task) (host : Host) : Host :=
  match task with
  | .create => (host.answer .issue).2
  | _ => host

/-- The keychain that a task saves and the host on which it does so. -/
def saving (task : Task) (custodian : Custodian) (host : Host) : Option (Keychain × Host) :=
  match Custodian.opened.outcome custodian (task.begun host) with
  | ⟨.ok keychain, _, after⟩ => (task.change host keychain).map fun keychain => (keychain, after)
  | ⟨.error _, _, _⟩ => none

/-- If a task saves a keychain, this succeeds; or it may fail, and the keychain is at fault. -/
def Saves (task : Task) (mayFail : Prop) (custodian : Custodian) (host : Host) : Prop :=
  ∀ saved ∈ task.saving custodian host, saved.1.Saves mayFail saved.2

instance (task : Task) (mayFail : Prop) [Decidable mayFail] (custodian : Custodian)
    (host : Host) : Decidable (task.Saves mayFail custodian host) :=
  inferInstanceAs (Decidable (∀ saved ∈ task.saving custodian host, _))

/-- A task saves what it makes of the keychain that it finds. -/
theorem Saves.of_opened {task : Task} {mayFail : Prop} {custodian held : Custodian}
    {host after : Host} {keychain changed : Keychain}
    (saves : task.Saves mayFail custodian host)
    (opened : Custodian.opened.outcome custodian (task.begun host) = ⟨.ok keychain, held, after⟩)
    (change : task.change host keychain = some changed) : changed.Saves mayFail after := by
  refine saves (changed, after) ?_
  rw [saving, opened]
  simp [change]

/-- Why a task comes to nothing before anybody looks for the keychain. -/
def refusal? (task : Task) (host : Host) : Option Failure :=
  match task with
  | .create =>
    match (host.answer .issue).1 with
    | .error failure => some failure
    | .ok _ => none
  | _ => none

/-- What a task comes to on a host, once a new credential is there if there is to be one. -/
def rest (task : Task) (host : Host) : Duty task.Result :=
  match task with
  | .create => do
    let credential ← Duty.ofExcept (host.answer .issue).1
    Custodian.putAndSave (.ofText credential.id) (.ofBytes credential.hash)
    Duty.record (.created credential.id)
    return credential
  | .add id hash => (Task.add id hash).duty
  | .remove id => (Task.remove id).duty
  | .verify id secret => (Task.verify id secret).duty
  | .ids => Task.ids.duty
  | .save => Task.save.duty

/-- What comes of a task comes of the rest of it. -/
theorem outcome_duty (task : Task) (custodian : Custodian) (host : Host) :
    task.duty.outcome custodian host = (task.rest host).outcome custodian (task.begun host) := by
  cases task with
  | create =>
    unfold duty Custodian.create
    rw [Duty.outcome_bind, Duty.outcome_through, Plan.run_request]
    rfl
  | add id hash => rfl
  | remove id => rfl
  | verify id secret => rfl
  | ids => rfl
  | save => rfl

end Task

/-! ## Loading first -/

namespace Custodian

open Duty

variable {α β : Type}

/-- A keychain that is not loaded is loaded now. -/
theorem outcome_opened_none (path : Text) (recorded : List Event) (host : Host) :
    opened.outcome ⟨path, none, recorded⟩ host =
      match (Keychain.load path).run host with
      | (.ok keychain, after) =>
        ⟨.ok keychain,
          ⟨path, some keychain, recorded ++ [.loaded path (.ofInt keychain.size)]⟩, after⟩
      | (.error failure, after) => ⟨.error failure, ⟨path, none, recorded⟩, after⟩ := by
  unfold opened
  simp only [outcome_bind, outcome_get, outcome_through, outcome_ofExcept]
  rcases (Keychain.load path).run host with ⟨failure | keychain, after⟩
  · rfl
  · simp

/-- Whoever has loaded the keychain has it loaded. -/
theorem opened_eq_ok {custodian : Custodian} {host : Host} {keychain : Keychain}
    {after : Custodian} {later : Host}
    (loaded : opened.outcome custodian host = ⟨.ok keychain, after, later⟩) :
    after.path = custodian.path ∧ after.keychain = some keychain := by
  obtain ⟨path, _ | held, recorded⟩ := custodian
  · rw [outcome_opened_none] at loaded
    split at loaded <;> cases loaded
    exact ⟨rfl, rfl⟩
  · rw [outcome_opened] at loaded
    cases loaded
    exact ⟨rfl, rfl⟩

/-- A duty that begins with the keychain. -/
def Opens (duty : Duty α) : Prop :=
  ∃ next : Keychain → Duty α, duty = opened >>= next

theorem Opens.bind {duty : Duty α} (opens : Opens duty) (next : α → Duty β) :
    Opens (duty >>= next) := by
  obtain ⟨rest, rfl⟩ := opens
  exact ⟨fun keychain => rest keychain >>= next, bind_assoc ..⟩

/-- A duty that begins with the keychain might as well be carried out once that is loaded. -/
theorem Opens.outcome_eq {duty : Duty α} (opens : Opens duty) (custodian : Custodian)
    (host : Host) :
    duty.outcome custodian host =
      match opened.outcome custodian host with
      | ⟨.ok _, after, later⟩ => duty.outcome after later
      | ⟨.error failure, after, later⟩ => ⟨.error failure, after, later⟩ := by
  obtain ⟨next, rfl⟩ := opens
  rw [outcome_bind]
  rcases loaded : opened.outcome custodian host with ⟨failure | keychain, after, later⟩
  · rfl
  · obtain ⟨-, held⟩ := opened_eq_ok loaded
    obtain ⟨path, _, recorded⟩ := after
    cases held
    dsimp only
    rw [outcome_bind, outcome_opened]

theorem opens_withKeychain (work : Keychain → Except Failure α × Keychain) :
    Opens (withKeychain work) :=
  ⟨_, rfl⟩

theorem opens_putAndSave (id hash : Cell) : Opens (putAndSave id hash) :=
  Opens.bind ⟨_, rfl⟩ _

/-- A task that is refused does no more than fail. -/
theorem rest_of_refusal?_eq_some {task : Task} {host : Host} {failure : Failure}
    (refused : task.refusal? host = some failure) : task.rest host = throw failure := by
  cases task with
  | create =>
    unfold Task.refusal? at refused
    unfold Task.rest
    dsimp only at refused ⊢
    split at refused
    · rename_i issued
      cases refused
      rw [issued]
      rfl
    · cases refused
  | add id hash => cases refused
  | remove id => cases refused
  | verify id secret => cases refused
  | ids => cases refused
  | save => cases refused

/-- A task that is not refused begins with the keychain. -/
theorem opens_rest {task : Task} {host : Host} (ready : task.refusal? host = none) :
    Opens (task.rest host) := by
  cases task with
  | create =>
    unfold Task.refusal? at ready
    unfold Task.rest
    dsimp only at ready ⊢
    split at ready
    · cases ready
    · rename_i issued
      rw [issued]
      exact (opens_putAndSave _ _).bind _
  | add id hash => exact (opens_putAndSave id hash.toCell).bind _
  | remove id => exact Opens.bind ⟨_, rfl⟩ _
  | verify id secret => exact (opens_withKeychain _).bind _
  | ids => exact ⟨_, rfl⟩
  | save => exact Opens.bind ⟨_, rfl⟩ _

end Custodian

end Keyring
