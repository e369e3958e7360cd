import Keyring.Proofs.Custodian.Answer
import Keyring.Proofs.Entries.Listing
import Keyring.Proofs.KeychainFile.Reliable

/-!
# What a mapping tells

Nothing that a task gives depends on the order of the entries: keychains with one mapping answer
alike (`Task.answer_alike`). The system may say in its own words why a file could not be written, so
results are `Alike` if both say that it could not.
-/

namespace Keyring

open Entries (Agree)

/-- Two results that are one and the same, or that both say that the file of a path could not be
written. -/
def Alike {α : Type} (path : Text) (result other : Except Failure α) : Prop :=
  result = other ∨ ∃ error error', result = .error (.storage (.writing error) path) ∧
    other = .error (.storage (.writing error') path)

namespace Alike

variable {α β : Type} {path : Text} {result other : Except Failure α}

theorem refl (path : Text) (result : Except Failure α) : Alike path result result :=
  .inl rfl

theorem map (alike : Alike path result other) (change : α → β) :
    Alike path (result.map change) (other.map change) := by
  obtain rfl | ⟨error, error', rfl, rfl⟩ := alike
  · exact .refl path _
  · exact .inr ⟨error, error', rfl, rfl⟩

/-- What succeeds is the same. -/
theorem toOption_eq (alike : Alike path result other) : result.toOption = other.toOption := by
  obtain rfl | ⟨error, error', rfl, rfl⟩ := alike
  · rfl
  · rfl

end Alike

namespace Keychain

variable {messages : List Bytes} {path : Text} {keychain other : Keychain} {host host' : Host}
  {mayFail : Prop}

/-- The same ids are stored in the same mapping. -/
theorem contains_congr (agree : Agree keychain.entries other.entries) (id : Cell) :
    other.contains id = keychain.contains id := by
  unfold contains
  cases id.soughtId with
  | error failure => rfl
  | ok name => exact congrArg Except.ok (agree.contains_eq name).symm

/-- What is refused depends on the entry alone. -/
theorem fst_add (keychain : Keychain) (id hash : Cell) :
    (keychain.add id hash).1 = (id.entryWith hash).map fun _ => () := by
  unfold add
  cases id.entryWith hash <;> rfl

/-- A keychain that is at fault that it cannot be saved could not be written. -/
theorem Serves.save_eq_writing (serves : keychain.Serves path messages)
    (saves : keychain.Saves mayFail host) (failed : ¬ keychain.Saves False host) :
    ∃ error, (keychain.save.run host).1.1 = .error (.storage (.writing error) path) := by
  unfold Saves at saves failed
  cases saved : (keychain.save.run host).1.1 with
  | ok value => simp [saved] at failed
  | error failure =>
    rw [saved] at saves
    rcases save_eq_error serves.sound.storable saved with
      ⟨error, rfl⟩ | ⟨fault, rfl⟩ | ⟨error, rfl⟩
    · exact ⟨error, by rw [serves.named]⟩
    · cases saves.2
    · cases saves.2

/-- If one of two keychains can be saved exactly if the other can, then saving comes to the same. -/
theorem Serves.save_alike (serves : keychain.Serves path messages)
    (serves' : other.Serves path messages) (saves : keychain.Saves mayFail host)
    (saves' : other.Saves mayFail host')
    (same : keychain.Saves False host ↔ other.Saves False host') :
    Alike path (keychain.save.run host).1.1 (other.save.run host').1.1 := by
  have succeeds {keychain : Keychain} {host : Host} (saved : keychain.Saves False host) :
      (keychain.save.run host).1.1 = .ok () := by
    unfold Saves at saved
    split at saved
    · assumption
    · exact absurd saved.1 id
  by_cases saved : keychain.Saves False host
  · left
    rw [succeeds saved, succeeds (same.mp saved)]
  · obtain ⟨error, failed⟩ := serves.save_eq_writing saves saved
    obtain ⟨error', failed'⟩ := serves'.save_eq_writing saves' (mt same.mpr saved)
    exact .inr ⟨error, error', failed, failed'⟩

/-- What a task makes of a keychain can be saved like the keychain. -/
theorem Serves.change (serves : keychain.Serves path messages) {task : Task} {changed : Keychain}
    (change : task.change host keychain = some changed) : changed.Serves path messages := by
  have added {id : Cell} {hash : Given}
      (put : Task.change.added (keychain.add id hash.toCell) = some changed) :
      changed.Serves path messages := by
    have after := serves.add id hash
    generalize keychain.add id hash.toCell = outcome at put after
    obtain ⟨failure | ⟨⟩, later⟩ := outcome
    · cases put
    · cases put
      exact after
  unfold Task.change at change
  cases task with
  | create =>
    dsimp only at change
    split at change
    · rename_i credential _
      have given : Task.change.added
          (keychain.add (.ofText credential.id) (Given.ofBytes credential.hash).toCell) =
            some changed := change
      exact added given
    · cases change
  | add id hash => exact added change
  | remove id =>
    have after := serves.remove id
    dsimp only at change
    split at change
    · rename_i removed
      cases change
      rwa [removed] at after
    · cases change
  | verify id secret => cases change
  | ids => cases change
  | save =>
    cases change
    exact serves

end Keychain

namespace Task

variable {messages : List Bytes} {path : Text} {keychain other : Keychain} {host host' : Host}

/-- With the same mapping and the same entropy a task has something to save, or has not. -/
theorem isSome_change_congr (agree : Agree keychain.entries other.entries)
    (issued : (host'.answer .issue).1 = (host.answer .issue).1) (task : Task) :
    (task.change host' other).isSome = (task.change host keychain).isSome := by
  have added (id hash : Cell) :
      (change.added (other.add id hash)).isSome = (change.added (keychain.add id hash)).isSome := by
    have same : (other.add id hash).1 = (keychain.add id hash).1 := by
      rw [Keychain.fst_add, Keychain.fst_add]
    generalize other.add id hash = outcome at same
    generalize keychain.add id hash = outcome' at same
    obtain ⟨_ | _, _⟩ := outcome <;> obtain ⟨_ | _, _⟩ := outcome' <;> cases same <;> rfl
  unfold change
  cases task with
  | create =>
    dsimp only
    rw [issued]
    split
    · exact added _ _
    · rfl
  | add id hash => exact added id hash.toCell
  | remove id =>
    have same : (other.remove id).1 = (keychain.remove id).1 := by
      rw [Keychain.fst_remove, Keychain.fst_remove, Keychain.contains_congr agree]
    dsimp only
    generalize other.remove id = outcome at same
    generalize keychain.remove id = outcome' at same
    obtain ⟨_ | _ | _, _⟩ := outcome <;> obtain ⟨_ | _ | _, _⟩ := outcome' <;> cases same <;> rfl
  | verify id secret => rfl
  | ids => rfl
  | save => rfl

/-- Putting a hash comes to the same, whatever is stored. -/
theorem putting_alike (keychain other : Keychain) (id hash : Cell) {saved saved' : Except Failure Unit}
    (alike : Alike path saved saved') :
    Alike path (putting keychain id hash saved) (putting other id hash saved') := by
  unfold putting Keychain.hashOf
  rw [Keychain.fst_add, Keychain.fst_add]
  cases id.soughtId with
  | error failure => exact .refl path _
  | ok name =>
    cases id.entryWith hash with
    | error failure => exact .refl path _
    | ok entry => exact alike

/-- With the same mapping a task answers the same, if saving comes to the same. Verdicts are seen to
apart. -/
theorem answer_alike (serves : keychain.Serves path messages) (serves' : other.Serves path messages)
    (agree : Agree keychain.entries other.entries) (task : Task)
    (issued : Except Failure Credential) {saved saved' : Except Failure Unit}
    (alike : Alike path saved saved')
    (judged : ∀ id secret, task = .verify id secret →
      (other.verify id secret).1 = (keychain.verify id secret).1) :
    Alike path (task.answer issued keychain saved) (task.answer issued other saved') := by
  unfold answer
  cases task with
  | create =>
    cases issued with
    | error failure => exact .refl path _
    | ok credential => exact (putting_alike keychain other _ _ alike).map _
  | add id hash => exact putting_alike keychain other id hash.toCell alike
  | remove id =>
    dsimp only
    rw [Keychain.contains_congr agree]
    cases keychain.contains id with
    | error failure => exact .refl path _
    | ok stored =>
      cases stored with
      | true => exact alike.map _
      | false => exact .refl path _
  | verify id secret => exact .inl (judged id secret rfl).symm
  | ids =>
    have same := Agree.contains_eq agree
    exact .inl (serves.sound.storable.sorted_ids serves'.sound.storable same)
  | save => exact alike

end Task

end Keyring
