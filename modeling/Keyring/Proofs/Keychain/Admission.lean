import Keyring.Keychain
import Keyring.Proofs.Entries.Storable

/-!
# What can be added

Ids and hashes may be values of any kind, but only texts come to be ids (`Cell.entryWith_eq_ok`), and
what comes to be an entry is acceptable. Of texts and octets exactly the acceptable ones can be
added (`Keychain.add_ok_iff`).
-/

namespace Keyring

/-- Text or octets as a value of any kind. -/
def Given.toCell : Given → Cell
  | .ofText text => .ofText text
  | .ofBytes bytes => .ofBytes bytes

namespace Cell

/-- Only a text can be the id of an entry, and it is the id as it is. -/
theorem entryId_eq_ok {id : Cell} {text : Text} (read : id.entryId = .ok text) :
    id = .ofText text := by
  unfold entryId at read
  simp only [bind, Except.bind, throw, throwThe, MonadExceptOf.throw, pure, Except.pure] at read
  cases id <;> grind

/-- A hash that is a text stands for its octets. -/
theorem entryWith_ofText (id : Cell) (hash : Text) :
    id.entryWith (.ofText hash) =
      match Entries.hashOfText hash with
      | .ok bytes => id.entryWith (.ofBytes bytes)
      | .error fault => .error (.invalidEntry fault .absent .absent) := by
  unfold entryWith
  simp only [meantHash]
  cases Entries.hashOfText hash <;> rfl

/-- Only under a text there is an entry, and the text is its id. -/
theorem id_of_entryWith {id hash : Cell} {text : Text} {bytes : Bytes}
    (entry : id.entryWith hash = .ok (text, bytes)) : id = .ofText text := by
  unfold entryWith at entry
  simp only [bind, Except.bind, throw, throwThe, MonadExceptOf.throw, pure, Except.pure] at entry
  split at entry
  · cases entry
  · split at entry
    · cases entry
    · split at entry
      · cases entry
      · rename_i read
        split at entry
        · cases entry
        · cases entry
          exact entryId_eq_ok read

/-- Octets make an acceptable entry with a text, or none. -/
theorem entryWith_ofBytes_eq_ok {id : Cell} {bytes hash : Bytes} {text : Text}
    (entry : id.entryWith (.ofBytes bytes) = .ok (text, hash)) :
    id = .ofText text ∧ Entries.isAcceptable text hash = true := by
  obtain rfl := id_of_entryWith entry
  rw [entryWith_ofText_ofBytes] at entry
  split at entry
  · rename_i accepted
    cases entry
    exact ⟨rfl, Entries.refusal?_eq_none_iff.mp accepted⟩
  · cases entry

/-- What is an entry is acceptable, and its id is the text that it is stored under. -/
theorem entryWith_eq_ok {id : Cell} {given : Given} {text : Text} {hash : Bytes}
    (entry : id.entryWith given.toCell = .ok (text, hash)) :
    id = .ofText text ∧ Entries.isAcceptable text hash = true := by
  cases given with
  | ofBytes bytes => exact entryWith_ofBytes_eq_ok entry
  | ofText hash =>
    rw [Given.toCell, entryWith_ofText] at entry
    split at entry
    · exact entryWith_ofBytes_eq_ok entry
    · cases entry

end Cell

namespace Keychain

/-- Holding a side of the lock leaves the result of the work as it is. -/
@[simp]
theorem fst_holding {α : Type} (keychain : Keychain) (side : Side)
    (work : Keychain → α × Keychain) :
    (keychain.holding side work).1 = (work (keychain.take side)).1 := rfl

@[simp]
theorem snd_holding {α : Type} (keychain : Keychain) (side : Side)
    (work : Keychain → α × Keychain) :
    (keychain.holding side work).2 = (work (keychain.take side)).2.leave side := rfl

/-- Exactly the acceptable entries can be added. -/
theorem add_ok_iff (keychain : Keychain) (id : Text) (hash : Bytes) :
    (keychain.add (.ofText id) (.ofBytes hash)).1 = .ok () ↔
      Entries.isAcceptable id hash = true := by
  rw [add, Cell.entryWith_ofText_ofBytes, ← Entries.refusal?_eq_none_iff]
  cases Entries.refusal? id hash <;> simp

end Keychain

end Keyring
