import Keyring.Proofs.Host.Routine
import Keyring.Proofs.Keychain.Saving
import Keyring.Proofs.KeychainFile.Cleanup

/-!
# What saves fail with

A save succeeds, or it says which file could not be written, or its failure is one of four that do not
(`Escapes`). Three of these lie in what is saved: an entry has no line, or the name is none that files
have, or it leads too far down. The fourth lies in the calls: if the temporary file is to be removed
since something else has gone wrong, and cannot be, this second error hides the first one. It does so
whenever it happens (`saves_or_tells`).
-/

namespace Keyring

/-! ## Writes -/

namespace KeychainFile

variable {name temporary : Text} {host : Host}

/-- A call that removes no file. -/
def IsKeeping (call : Call) : Prop :=
  ∀ path, call ≠ .unlink path

theorem isKeeping_createTemporary (name : Text) : (createTemporary name).Makes IsKeeping :=
  makes_createTemporary (fun _ => nofun) (fun _ => nofun) nofun (fun _ _ => nofun) name

theorem isKeeping_fillAndReplace (name temporary : Text) (content : Bytes) :
    (fillAndReplace name temporary content).Makes IsKeeping :=
  makes_fillAndReplace name temporary content nofun nofun nofun nofun

theorem not_litters_nil (error : SystemError) : ¬ Litters [] error := by
  rintro ⟨-, path, last⟩
  cases last

/-- Where no call removes a file, none is left behind for that reason. -/
theorem Litters.of_keeping {α β : Type} {plan : Plan α} {next : α → Plan β} {error : SystemError}
    (keeping : plan.Makes IsKeeping) (litters : Litters ((plan.bind next).trace host) error) :
    Litters ((next (plan.run host).1).trace (plan.run host).2) error := by
  obtain ⟨there, path, last⟩ := litters
  refine ⟨there, path, ?_⟩
  rw [Plan.trace_bind, List.getLast?_append] at last
  cases rest : ((next (plan.run host).1).trace (plan.run host).2).getLast? with
  | some made => rwa [rest] at last
  | none =>
    rw [rest] at last
    have member := List.mem_of_getLast? last
    exact absurd rfl (keeping.of_mem_trace member path)

/-- If a temporary file could not be removed, the failure is the error of that. -/
theorem Litters.removeTemporary_eq {first error : SystemError}
    (litters : Litters ((removeTemporary name temporary first).trace host) error) :
    ((removeTemporary name temporary first).run host).1 = .system error := by
  obtain ⟨there, path, last⟩ := litters
  rw [trace_removeTemporary, List.getLast?_singleton] at last
  rw [fst_run_removeTemporary]
  generalize (host.answer (.unlink temporary)).1 = reply at last ⊢
  cases last
  simp [there]

/-- A write that leaves the temporary file behind fails with the error of removing it. -/
theorem Litters.write_eq_error {content : Bytes} {error : SystemError}
    (litters : Litters ((write name content).trace host) error) :
    ((write name content).run host).1 = .error (.system error) := by
  -- No call before the last stage removes a file, so the last call is that of this stage.
  unfold write at litters ⊢
  rw [Plan.bind_eq_bind] at litters ⊢
  replace litters := litters.of_keeping (isKeeping_createTemporary name)
  rw [Plan.run_bind]
  rcases first : (createTemporary name).run host with ⟨fault | temporary, middle⟩
  · rw [first] at litters
    exact absurd litters (not_litters_nil error)
  · rw [first] at litters
    dsimp only at litters ⊢
    rw [Plan.bind_eq_bind] at litters ⊢
    replace litters := litters.of_keeping (isKeeping_fillAndReplace name temporary content)
    rw [Plan.run_bind]
    rcases second : (fillAndReplace name temporary content).run middle with
      ⟨(trouble | fault) | ⟨⟩, after⟩
    · rw [second] at litters
      simp only [Plan.bind_eq_bind, Plan.pure_eq_done] at litters ⊢
      rw [Plan.trace_bind_done] at litters
      rw [Plan.run_bind, Plan.run_done]
      exact congrArg _ litters.removeTemporary_eq
    all_goals
      rw [second] at litters
      exact absurd litters (not_litters_nil error)

end KeychainFile

/-! ## Saves -/

namespace Keychain

open KeychainFile (Litters)

/-- A failure of a save on a host that does not tell which file could not be written. -/
inductive Escapes (keychain : Keychain) (host : Host) : Failure → Prop
  /-- An entry has no line. -/
  | unwritable {failure : Failure} (dumped : keychain.dumps = .error failure) :
      Escapes keychain host failure
  /-- The name is none that files have. -/
  | improper {fault : PathFault} (improper : Path.fault? keychain.name ≠ none) :
      Escapes keychain host (.badPath fault)
  /-- The file is further down than directories are made. -/
  | tooDeep (deep : host.maxDepth ≤ (Path.ofText keychain.name).parent.names.length) :
      Escapes keychain host (.badPath .tooDeep)
  /-- The temporary file could not be removed. -/
  | littered {error : SystemError} (litters : Litters (keychain.save.trace host) error) :
      Escapes keychain host (.system error)

/-- Whatever calls fail, a save that fails says which file could not be written, unless an entry has
no line, the name is no name of a file that can be made, or the temporary file could not be removed.
And whenever it could not be removed, the failure is the error of that. -/
theorem saves_or_tells (keychain : Keychain) {host : Host} (settled : host.Settled)
    (plain : host.IsPlain) :
    (∀ failure, (keychain.save.run host).1.1 = .error failure →
      (∃ error, failure = .storage (.writing error) keychain.name) ∨
        keychain.Escapes host failure) ∧
    ∀ error, Litters (keychain.save.trace host) error →
      (keychain.save.run host).1.1 = .error (.system error) := by
  cases dumped : keychain.dumps with
  | error failure =>
    have save : keychain.save = .done (.error failure, keychain.released .write) := by
      rw [save_eq, dumped]
    rw [save]
    refine ⟨?_, fun error litters => absurd litters (KeychainFile.not_litters_nil error)⟩
    rintro _ ⟨⟩
    exact .inr (.unwritable dumped)
  | ok content =>
    have same : (keychain.save.run host).1.1 =
        ((KeychainFile.write keychain.name content).run host).1 := by
      rw [run_save, dumped]
    rw [trace_save dumped, same]
    refine ⟨fun failure failed => ?_, fun _ litters => litters.write_eq_error⟩
    rcases KeychainFile.write_stops settled plain content failed with
      ⟨fault, unmade, rfl⟩ | told | ⟨error, rfl, litters⟩
    · by_cases proper : Path.fault? keychain.name = none
      · rcases KeychainFile.createTemporary_fails settled plain proper unmade with
          ⟨error, rfl⟩ | ⟨rfl, deep⟩
        · exact .inl ⟨error, rfl⟩
        · exact .inr (.tooDeep deep)
      · cases fault with
        | system error => exact .inl ⟨error, rfl⟩
        | badPath fault => exact .inr (.improper proper)
    · exact .inl told
    · exact .inr (.littered (by rwa [trace_save dumped]))

/-- The disk takes nothing, and when the temporary file is to be removed it is gone already. -/
theorem saves_or_tells_gone :
    let unsynced : SystemError := ⟨5, Text.lit "Input/output error", []⟩
    let host := { Host.calm .empty with
      faults := fun _ call =>
        match call with
        | .sync _ => some unsynced
        | .unlink _ => some (.missing [])
        | _ => none }
    let keychain := ofFile (Text.lit "k") none
    host.Settled ∧ host.IsPlain ∧
      (keychain.save.run host).1.1 = .error (.storage (.writing unsynced) (Text.lit "k")) ∧
      ∀ error, ¬ Litters (keychain.save.trace host) error := by
  intro unsynced host keychain
  have settled : host.Settled := ⟨.empty, Tree.isDirectory_nil _⟩
  have plain : host.IsPlain := .of_root rfl rfl
  have failed : (keychain.save.run host).1.1 =
      .error (.storage (.writing unsynced) (Text.lit "k")) := by
    decide +kernel
  refine ⟨settled, plain, failed, fun error litters => ?_⟩
  cases failed.symm.trans ((saves_or_tells keychain settled plain).2 error litters)

/-- A file that cannot be replaced, by one that cannot be removed: the failure is none of a keychain. -/
theorem saves_or_tells_littered :
    let denied : SystemError := ⟨13, Text.lit "Permission denied", []⟩
    let host := { Host.calm .empty with
      faults := fun _ call =>
        match call with
        | .replace _ _ | .unlink _ => some denied
        | _ => none }
    let keychain := ofFile (Text.lit "k") none
    ((load (Text.lit "k")).run host).1 = .ok keychain ∧ (0 : CodePoint) ∉ keychain.name ∧
      (keychain.save.run host).1.1 = .error (.system denied) ∧
      (Failure.system denied).isKeychainError = false := by
  decide +kernel

end Keychain

end Keyring
