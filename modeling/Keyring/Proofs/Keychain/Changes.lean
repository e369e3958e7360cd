import Keyring.Proofs.Keychain.Run

/-!
# What becomes of entries

What adding, removing and verifying do to the entries of a keychain, all else aside, and that what
was stored can be stored again.
-/

namespace Keyring.Keychain

open Entries (Agree)

variable {keychain : Keychain}

/-- What is added are texts with acceptable hashes. -/
theorem add_eq_ok {id : Cell} {hash : Given} (added : (keychain.add id hash.toCell).1 = .ok ()) :
    ∃ text bytes, id = .ofText text ∧ Entries.isAcceptable text bytes = true ∧
      (keychain.add id hash.toCell).2.entries =
        Named.put (.ofText text) (.ofBytes bytes) keychain.entries := by
  unfold add at added ⊢
  split at added
  · cases added
  · rename_i text bytes entry
    obtain ⟨named, acceptable⟩ := Cell.entryWith_eq_ok entry
    exact ⟨text, bytes, named, acceptable, rfl⟩

/-- Adding an acceptable entry puts it. -/
theorem add_of_isAcceptable (keychain : Keychain) {id : Text} {hash : Bytes}
    (acceptable : Entries.isAcceptable id hash = true) :
    (keychain.add (.ofText id) (.ofBytes hash)).1 = .ok () ∧
      (keychain.add (.ofText id) (.ofBytes hash)).2.entries =
        Named.put (.ofText id) (.ofBytes hash) keychain.entries := by
  refine ⟨(keychain.add_ok_iff id hash).mpr acceptable, ?_⟩
  unfold add
  rw [Cell.entryWith_ofText_ofBytes, Entries.refusal?_eq_none_iff.mpr acceptable]
  rfl

/-- An entry that cannot be added changes nothing. -/
theorem add_eq_error {id hash : Cell} {failure : Failure}
    (refused : (keychain.add id hash).1 = .error failure) : (keychain.add id hash).2 = keychain := by
  unfold add at refused ⊢
  split
  · rfl
  · rename_i entry
    rw [entry] at refused
    cases refused

@[simp]
theorem name_add (keychain : Keychain) (id hash : Cell) :
    (keychain.add id hash).2.name = keychain.name := by
  unfold add
  split
  · rfl
  · rfl

@[simp]
theorem entries_forget (keychain : Keychain) (id : Cell) :
    (keychain.forget id).entries = keychain.entries := by
  cases id <;> rfl

@[simp]
theorem name_forget (keychain : Keychain) (id : Cell) :
    (keychain.forget id).name = keychain.name := by
  cases id <;> rfl

@[simp]
theorem name_remove (keychain : Keychain) (id : Cell) :
    (keychain.remove id).2.name = keychain.name := by
  unfold remove
  rw [snd_holding]
  split <;> simp [leave, take]

/-- Removing an id tells whether it was stored. -/
theorem fst_remove (keychain : Keychain) (id : Cell) :
    (keychain.remove id).1 = keychain.contains id := by
  have same : (keychain.take .write).contains id = keychain.contains id := rfl
  unfold remove
  rw [fst_holding, same]
  split
  · rename_i there
    rw [there]
  · rfl

/-- An id that is stored is removed. -/
theorem remove_of_contains {id : Cell} (stored : keychain.contains id = .ok true) :
    (keychain.remove id).1 = .ok true ∧
      (keychain.remove id).2.entries = Named.erase id keychain.entries := by
  have taken : (keychain.take .write).contains id = .ok true := stored
  unfold remove
  rw [fst_holding, snd_holding, taken]
  simp [leave, take]

/-- An id is stored if it has a hash. -/
theorem contains_of_get? {id : Text} {hash : Cell}
    (stored : keychain.entries.get? (.ofText id) = some hash) :
    keychain.contains (.ofText id) = .ok true := by
  simp [contains, Cell.soughtId, Except.map, Named.contains, stored]

/-- An id that is stored is a text, and has a hash that can be stored again. -/
theorem hashOf_of_contains {id : Cell} (storable : keychain.entries.Storable)
    (stored : keychain.contains id = .ok true) :
    ∃ text hash, id = .ofText text ∧ Entries.isAcceptable text hash = true ∧
      keychain.entries.get? (.ofText text) = some (.ofBytes hash) ∧
      keychain.hashOf id = .ok (.ofBytes hash) := by
  obtain ⟨text, rfl⟩ := eq_ofText_of_contains storable stored
  obtain ⟨value, found⟩ : ∃ value, keychain.entries.get? (.ofText text) = some value := by
    simpa [contains, Cell.soughtId, Except.map, Named.contains, Option.isSome_iff_exists]
      using stored
  obtain ⟨_, hash, equal, rfl, acceptable⟩ := storable.get?_eq_some found
  cases equal
  exact ⟨text, hash, rfl, acceptable, found, by simp [hashOf, Cell.soughtId, Except.map, found]⟩

/-- An id that is not stored has no hash, or is none that anything can be stored for. -/
theorem hashOf_of_not_contains {id : Cell} (missing : keychain.contains id ≠ .ok true) :
    (∃ failure, keychain.hashOf id = .error failure) ∨ keychain.hashOf id = .ok .absent := by
  unfold contains at missing
  unfold hashOf
  cases sought : id.soughtId with
  | error failure => exact .inl ⟨failure, rfl⟩
  | ok name =>
    right
    simp_all [Except.map, Named.contains]

/-- A text that is not stored has no hash. -/
theorem hashOf_of_not_contains_ofText {id : Text}
    (missing : keychain.contains (.ofText id) ≠ .ok true) :
    keychain.entries.get? (.ofText id) = none ∧ keychain.hashOf (.ofText id) = .ok .absent := by
  have fresh : keychain.entries.get? (.ofText id) = none := by
    simpa [contains, Cell.soughtId, Except.map, Named.contains] using missing
  exact ⟨fresh, by simp [hashOf, Cell.soughtId, Except.map, fresh]⟩

/-! ## Verifying -/

@[simp]
theorem entries_judge (keychain : Keychain) (id : Text) (idOctets secret : Bytes) (hash : Cell) :
    (keychain.judge id idOctets secret hash).2.entries = keychain.entries := by
  unfold judge
  dsimp only
  split
  · rfl
  · split <;> rfl

@[simp]
theorem name_judge (keychain : Keychain) (id : Text) (idOctets secret : Bytes) (hash : Cell) :
    (keychain.judge id idOctets secret hash).2.name = keychain.name := by
  unfold judge
  dsimp only
  split
  · rfl
  · split <;> rfl

/-- Verifying leaves the file and the entries as they are. -/
theorem verifyText_keeps (keychain : Keychain) (id secret : Text) :
    (keychain.verifyText id secret).2.name = keychain.name ∧
      (keychain.verifyText id secret).2.entries = keychain.entries := by
  unfold verifyText
  split
  · rw [snd_holding]
    split <;> simp [leave, take]
  · exact ⟨rfl, rfl⟩

/-- Verifying values of any kind leaves the file and the entries as they are. -/
theorem verify_keeps (keychain : Keychain) (id secret : Cell) :
    (keychain.verify id secret).2.name = keychain.name ∧
      (keychain.verify id secret).2.entries = keychain.entries := by
  unfold verify
  split
  · exact verifyText_keeps keychain _ _
  · exact ⟨rfl, rfl⟩

end Keyring.Keychain
