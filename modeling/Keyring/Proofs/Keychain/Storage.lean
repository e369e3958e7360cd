import Keyring.Keychain
import Keyring.Host.State
import Keyring.Proofs.Entries.RoundTrip

/-!
# A keychain and its file

What loading, saving and reloading come to when a host carries them out: one equation for each, in
which only the calls of `KeychainFile` are left. A keychain that is saved, or that cannot be
reloaded, is the same but for its lock.
-/

namespace Keyring

namespace KeychainFile

/-- Reading a file is one call. A file that is missing is no failure. -/
theorem run_read (name : Text) (host : Host) :
    (read name).run host =
      (match (host.answer (.readFile name)).1 with
        | .ok content => (Entries.parseFile name content).map some
        | .error (.badPath fault) => .error (.badPath fault)
        | .error (.system error) =>
          if error.isMissing then .ok none else .error (.storage (.reading error) name),
        (host.answer (.readFile name)).2) := by
  unfold read Plan.request
  simp only [Plan.bind_eq_bind, Plan.run_bind, Plan.run_call, Plan.run_done]
  rcases (host.answer (.readFile name)).1 with (error | fault) | content
  · dsimp only
    split <;> rfl
  · rfl
  · rfl

/-- What is read from a file can be stored. -/
theorem storable_of_read {name : Text} {host : Host} {entries : Entries}
    (done : ((read name).run host).1 = .ok (some entries)) : entries.Storable := by
  rw [run_read] at done
  dsimp only at done
  split at done
  · rename_i content _
    cases parsed : Entries.parseFile name content with
    | error failure => simp [parsed, Except.map] at done
    | ok found =>
      rw [parsed] at done
      cases done
      exact .of_parseFile parsed
  · cases done
  · split at done <;> cases done

end KeychainFile

namespace Keychain

/-- Holding a side of the lock leaves the result of the work and what it did as they are. -/
theorem run_holdingThrough {α : Type} (keychain : Keychain) (side : Side)
    (work : Keychain → Plan (α × Keychain)) (host : Host) :
    (keychain.holdingThrough side work).run host =
      ((((work (keychain.take side)).run host).1.1,
        ((work (keychain.take side)).run host).1.2.leave side),
        ((work (keychain.take side)).run host).2) := by
  simp [holdingThrough]

/-- The keychain after somebody held a side of its lock. -/
def released (keychain : Keychain) (side : Side) : Keychain :=
  (keychain.take side).leave side

@[simp]
theorem name_released (keychain : Keychain) (side : Side) :
    (keychain.released side).name = keychain.name := rfl

@[simp]
theorem entries_released (keychain : Keychain) (side : Side) :
    (keychain.released side).entries = keychain.entries := rfl

@[simp]
theorem cache_released (keychain : Keychain) (side : Side) :
    (keychain.released side).cache = keychain.cache := rfl

/-- Loading is reading. -/
theorem run_load (name : Text) (host : Host) :
    (load name).run host =
      match (KeychainFile.read name).run host with
      | (.error failure, after) => (.error failure, after)
      | (.ok entries, after) => (.ok (ofFile name entries), after) := by
  rw [load, Plan.run_onSuccess]
  rcases (KeychainFile.read name).run host with ⟨failure | entries, after⟩ <;> rfl

/-- Saving is writing what the keychain has to write. The keychain stays as it is. -/
theorem save_eq (keychain : Keychain) :
    keychain.save =
      match keychain.dumps with
      | .error failure => .done (.error failure, keychain.released .write)
      | .ok content =>
        (KeychainFile.write keychain.name content).bind fun result =>
          .done (result, keychain.released .write) := by
  have same : (keychain.take .write).dumps = keychain.dumps := rfl
  have named : (keychain.take .write).name = keychain.name := rfl
  simp only [save, holdingThrough, same, named]
  cases keychain.dumps with
  | error failure => rfl
  | ok content => exact Plan.bind_assoc _ _ _

/-- What saving comes to is what writing comes to. -/
theorem run_save (keychain : Keychain) (host : Host) :
    keychain.save.run host =
      match keychain.dumps with
      | .error failure => ((.error failure, keychain.released .write), host)
      | .ok content =>
        ((((KeychainFile.write keychain.name content).run host).1, keychain.released .write),
          ((KeychainFile.write keychain.name content).run host).2) := by
  rw [save_eq]
  cases keychain.dumps with
  | error failure => rfl
  | ok content => exact Plan.run_bind _ _ host

/-- Reloading is reading. If that fails, the keychain stays as it is. -/
theorem run_reload (keychain : Keychain) (host : Host) :
    keychain.reload.run host =
      match (KeychainFile.read keychain.name).run host with
      | (.error failure, after) => ((.error failure, keychain.released .write), after)
      | (.ok entries, after) =>
        ((.ok (), { keychain.released .write with
          entries := entries.getD []
          cache := keychain.cache.clear }), after) := by
  rw [reload, run_holdingThrough]
  have named : (keychain.take .write).name = keychain.name := rfl
  simp only [Plan.bind_eq_bind, Plan.run_bind, named]
  rcases (KeychainFile.read keychain.name).run host with ⟨failure | entries, after⟩ <;> rfl

end Keychain

end Keyring
