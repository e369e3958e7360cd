import Keyring.Proofs.KeychainFile.Read

/-!
# Where a file can be read

On a host on which reading a file never fails by itself it makes no difference which other calls do
(`Host.Reads`). And whatever fails in reading or writing a file, it is not called a malformed entry
unless there is one in the file.
-/

namespace Keyring

namespace Host

/-- No call to read the file of a path fails by itself. -/
def Reads (host : Host) (path : Text) : Prop :=
  ∀ count, host.faults count (.readFile path) = none

variable {host : Host} {path : Text}

theorem reads_calmed (host : Host) (path : Text) : host.calmed.Reads path :=
  fun _ => rfl

/-- A file is read as if no other call could fail either. -/
theorem Reads.fst_answer (reads : host.Reads path) :
    (host.answer (.readFile path)).1 = (host.calmed.answer (.readFile path)).1 := by
  unfold answer attempt calmed
  dsimp only
  rw [reads]
  cases List.findSome? Path.fault? [path] with
  | some fault => rfl
  | none => cases host.tree.read host.current path <;> rfl

/-- Where files can be read nothing is missing by mistake. -/
theorem Reads.isHonest (reads : host.Reads path) : host.IsHonest path :=
  fun count _ fails => by cases (reads count).symm.trans fails

end Host

namespace Keychain

variable {name : Text} {host : Host}

/-- A keychain is loaded as if no other call could fail either. -/
theorem fst_load_of_reads (reads : host.Reads name) :
    ((load name).run host).1 = ((load name).run host.calmed).1 :=
  fst_load_congr reads.fst_answer

/-- A file without malformed entries is never said to have any. -/
theorem load_eq_error {content? : Option Bytes} {entries : Entries} {failure : Failure}
    (finds : host.tree.Finds host.current name content?)
    (valid : KeychainFile.entriesOf content? = .ok entries)
    (failed : ((load name).run host).1 = .error failure) (fault : EntryFault) (path line : Cell) :
    failure ≠ .invalidEntry fault path line := by
  rw [run_load, KeychainFile.run_read] at failed
  split at failed
  · rename_i other after read
    cases failed
    replace read := congrArg Prod.fst read
    dsimp only at read
    split at read
    · rename_i content done
      obtain ⟨-, shown⟩ := Host.answer_readFile_ok done
      obtain rfl : some content = content? := finds.content_eq shown
      have parsed : Entries.parseFile name content = .ok entries :=
        Entries.parseFile_eq_ok_iff.mpr valid
      simp [parsed, Except.map] at read
    · cases read
      simp
    · split at read
      · cases read
      · cases read
        simp
  · cases failed

end Keychain

namespace KeychainFile

/-- A write fails as a call does, or says which file it could not write. -/
theorem write_eq_error {name : Text} {content : Bytes} {host : Host} {failure : Failure}
    (failed : ((write name content).run host).1 = .error failure) :
    (∃ error, failure = .storage (.writing error) name) ∨
      (∃ fault, failure = .badPath fault) ∨ ∃ error, failure = .system error := by
  unfold write at failed
  rw [Plan.bind_eq_bind, Plan.run_bind] at failed
  split at failed
  · rename_i fault _
    cases failed
    cases fault with
    | system error => exact .inl ⟨error, rfl⟩
    | badPath fault => exact .inr (.inl ⟨fault, rfl⟩)
  · rename_i temporary _
    rw [Plan.bind_eq_bind, Plan.run_bind] at failed
    split at failed
    · cases failed
    · cases failed
      exact .inr (.inl ⟨_, rfl⟩)
    · rename_i error _
      unfold removeTemporary at failed
      simp only [Plan.bind_eq_bind, Plan.run_bind, Plan.pure_eq_done, Plan.run_done] at failed
      cases failed
      split
      · exact .inl ⟨error, rfl⟩
      · exact .inr (.inl ⟨_, rfl⟩)
      · rename_i trouble _
        split
        · exact .inl ⟨error, rfl⟩
        · exact .inr (.inr ⟨trouble, rfl⟩)

end KeychainFile

/-- A keychain that can be stored fails to be saved because of its file alone. -/
theorem Keychain.save_eq_error {keychain : Keychain} (storable : keychain.entries.Storable)
    {host : Host} {failure : Failure} (failed : (keychain.save.run host).1.1 = .error failure) :
    (∃ error, failure = .storage (.writing error) keychain.name) ∨
      (∃ fault, failure = .badPath fault) ∨ ∃ error, failure = .system error := by
  obtain ⟨content, written, -⟩ := storable.parse_render
  have dumped : keychain.dumps = .ok content := written
  rw [run_save, dumped] at failed
  exact KeychainFile.write_eq_error failed

end Keyring
