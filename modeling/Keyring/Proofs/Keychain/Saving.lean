import Keyring.Proofs.Host.Calm
import Keyring.Proofs.Keychain.Storage
import Keyring.Proofs.KeychainFile.Write

/-!
# Saving in one step

Whatever calls fail while a keychain is saved, and whenever somebody looks, the name of the file leads
to what it led to before or to a file with all that the keychain has to write
(`Keychain.saves_whole`). There is one exception: a name that leads back up behind a missing directory
leads to something else once that directory is made, also if the save then fails
(`Keychain.saves_whole_fails_through_parents`).
-/

namespace Keyring

namespace Keychain

open KeychainFile (IsSpare Unwritten Written Failed)

/-- What a keychain has to write is written. -/
def IsSaved (keychain : Keychain) (host later : Host) : Prop :=
  ∃ content place number, keychain.dumps = .ok content ∧
    Written keychain.name content host later place number

/-- A save goes from what was there to the new file in one step, whatever calls fail. -/
structure SavesWhole (keychain : Keychain) (host : Host) (spare? : Option Place) : Prop where
  /-- A spare file stands where nothing was. -/
  spare : ∀ place ∈ spare?, IsSpare keychain.name host place
  /-- Whenever somebody looks, all of the new file is there or nothing of it. -/
  between : ∀ later ∈ keychain.save.hosts host,
    Unwritten keychain.name spare? host later ∨ keychain.IsSaved host later
  success : (keychain.save.run host).1.1 = .ok () → keychain.IsSaved host (keychain.save.run host).2
  failure : ∀ failure, (keychain.save.run host).1.1 = .error failure →
    Failed keychain.name spare? (keychain.save.trace host) host (keychain.save.run host).2
  entries : (keychain.save.run host).1.2.entries = keychain.entries
  cache : (keychain.save.run host).1.2.cache = keychain.cache

variable {keychain : Keychain} {content : Bytes}

/-- A save goes the way of a write. -/
theorem hosts_save (dumped : keychain.dumps = .ok content) (host : Host) :
    keychain.save.hosts host = (KeychainFile.write keychain.name content).hosts host := by
  rw [save_eq, dumped]
  exact Plan.hosts_bind_done _ _ host

/-- A save makes the calls of a write. -/
theorem trace_save (dumped : keychain.dumps = .ok content) (host : Host) :
    keychain.save.trace host = (KeychainFile.write keychain.name content).trace host := by
  rw [save_eq, dumped]
  exact Plan.trace_bind_done _ _ host

/-- Saving a keychain that cannot be written down makes no call. -/
theorem saves_whole_of_not_dumped {host : Host} (settled : host.Settled) {failure : Failure}
    (dumped : keychain.dumps = .error failure) : keychain.SavesWhole host none := by
  have save : keychain.save = .done (.error failure, keychain.released .write) := by
    rw [save_eq, dumped]
  have before : Unwritten keychain.name none host host :=
    .of_extends settled (settled.follows_refl rfl rfl rfl rfl rfl) (by simp) (.refl ..)
  refine ⟨by simp, fun later member => ?_, fun done => ?_, fun _ _ => ?_, ?_, ?_⟩
  all_goals rw [save] at *
  · exact .inl (List.mem_singleton.mp member ▸ before)
  · cases done
  · exact .inl before
  · rfl
  · rfl

/-- Every keychain is saved in one step on every host. -/
theorem saves_whole (keychain : Keychain) {host : Host} (settled : host.Settled)
    (marks : ∀ index, Path.separator ∉ host.marks index ∧ Path.fault? (host.marks index) = none) :
    ∃ spare?, keychain.SavesWhole host spare? := by
  cases dumped : keychain.dumps with
  | error failure => exact ⟨none, saves_whole_of_not_dumped settled dumped⟩
  | ok content =>
    obtain ⟨spare?, spare, between, ends⟩ :=
      KeychainFile.isAtomic_write settled (fun index => (marks index).1) keychain.name content
    have between' : ∀ later ∈ keychain.save.hosts host,
        Unwritten keychain.name spare? host later ∨ keychain.IsSaved host later := by
      intro later member
      refine (between later (hosts_save dumped host ▸ member)).imp id ?_
      exact fun ⟨place, number, written⟩ => ⟨content, place, number, dumped, written⟩
    have run : keychain.save.run host =
        ((((KeychainFile.write keychain.name content).run host).1, keychain.released .write),
          ((KeychainFile.write keychain.name content).run host).2) := by
      rw [run_save, dumped]
    unfold Plan.Ends at ends
    rw [← trace_save dumped] at ends
    generalize (KeychainFile.write keychain.name content).run host = outcome at ends run
    obtain ⟨failure | done, after⟩ := outcome
    · have failed := ends.2 fun index => (marks index).2
      exact ⟨spare?, spare, between', run ▸ nofun, run ▸ fun _ _ => failed, run ▸ rfl, run ▸ rfl⟩
    · obtain ⟨place, number, written⟩ := ends
      have saved : keychain.IsSaved host after := ⟨content, place, number, dumped, written⟩
      exact ⟨spare?, spare, between', run ▸ fun _ => saved, run ▸ nofun, run ▸ rfl, run ▸ rfl⟩

/-- The disk takes nothing while a key is saved over another: whoever looks finds the old file. -/
theorem saves_whole_unsynced :
    let host := { Host.unsynced (.ofFile [107] [97, 58, 104, 10]) with
      marks := fun _ => Text.lit "m" }
    let keychain := ofFile (Text.lit "k") (some [(.ofText (Text.lit "b"), .ofBytes [103])])
    host.Settled ∧
      (∀ index, Path.separator ∉ host.marks index ∧ Path.fault? (host.marks index) = none) ∧
      (∃ spare?, keychain.SavesWhole host spare?) ∧
      (keychain.save.run host).1.1 =
        .error (.storage (.writing ⟨5, Text.lit "Input/output error", []⟩) (Text.lit "k")) ∧
      ((keychain.save.run host).2.tree.lookup host.current keychain.name).toOption =
        some ([[107]], .file 0 0o644 [97, 58, 104, 10]) := by
  intro host keychain
  have settled : host.Settled := ⟨.ofFile _ _, Tree.isDirectory_nil _⟩
  have marks : ∀ index, Path.separator ∉ host.marks index ∧
      Path.fault? (host.marks index) = none := by
    have mark : Path.separator ∉ Text.lit "m" ∧ Path.fault? (Text.lit "m") = none := by decide
    exact fun _ => mark
  have failed : (keychain.save.run host).1.1 =
      .error (.storage (.writing ⟨5, Text.lit "Input/output error", []⟩) (Text.lit "k")) := by
    decide +kernel
  obtain ⟨spare?, whole⟩ := keychain.saves_whole settled marks
  have before : (host.tree.lookup host.current keychain.name).toOption =
      some ([[107]], .file 0 0o644 [97, 58, 104, 10]) := by
    decide +kernel
  refine ⟨settled, marks, ⟨spare?, whole⟩, failed, before ▸ ?_⟩
  have down : host.tree.goesDown (Tree.startOf host.current keychain.name)
      (Tree.namesOf keychain.name) = true := by
    decide +kernel
  rcases whole.failure _ failed with unwritten | ⟨spare, -, abandoned⟩
  · exact unwritten.target down
  · exact abandoned.unwritten.target down

/-- A name that leads up from a directory which is made for it comes to lead to another file. -/
theorem saves_whole_fails_through_parents :
    let path := Text.lit "a/../b"
    let host := Host.unsynced (.ofFile [98] [120, 58, 104, 10])
    let keychain := ofFile path none
    (Tree.namesOf path).getLast? ≠ some Name.dots ∧
      (keychain.save.run host).1.1 =
        .error (.storage (.writing ⟨5, Text.lit "Input/output error", []⟩) path) ∧
      host.tree.lookup host.current path = .error .missing ∧
      (keychain.save.run host).2.tree.lookup host.current path =
        .ok ([[98]], .file 0 0o644 [120, 58, 104, 10]) := by
  intro path host keychain
  refine ⟨by decide +kernel, by decide +kernel, by decide +kernel, by decide +kernel⟩

end Keychain

end Keyring
