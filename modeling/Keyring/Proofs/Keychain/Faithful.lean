import Keyring.Proofs.Host.Calm
import Keyring.Proofs.Keychain.Run

/-!
# Files keep keychains

What can be added and what a file keeps are the same entries, although two different places see to
it: adding refuses the others, and reading finds them malformed. So the entries of a keychain are
always such that its file brings them back, in order (`file_faithful`).
-/

namespace Keyring.Keychain

open Entries (ofPairs)

/-- Storable entries are those that every keychain takes. -/
theorem add_ok_of_mem {entries : Entries} (storable : entries.Storable) {entry : Cell × Cell}
    (member : entry ∈ entries) :
    ∃ id hash, entry = (.ofText id, .ofBytes hash) ∧
      ∀ keychain : Keychain, (keychain.add (.ofText id) (.ofBytes hash)).1 = .ok () := by
  obtain ⟨id, hash, rfl, acceptable⟩ := storable.each entry member
  exact ⟨id, hash, rfl, fun keychain => (keychain.add_ok_iff id hash).mpr acceptable⟩

/-- A file keeps texts with octets and their hashes exactly if every one of these entries can be
added. A keychain never has other entries, so it can always be written, and its file brings back its
entries as they are. -/
theorem file_faithful :
    (∀ (pairs : List (Text × Bytes)) (name : Cell) (keychain : Keychain),
      (pairs.map (·.1)).Nodup → (∀ pair ∈ pairs, Utf8.isEncodable pair.1 = true) →
      ∃ file, Entries.render (ofPairs pairs) = .ok file ∧
        (Entries.parseFile name file = .ok (ofPairs pairs) ↔
          ∀ pair ∈ pairs, (keychain.add (.ofText pair.1) (.ofBytes pair.2)).1 = .ok ())) ∧
    ∀ (start : Keychain) (run : List Occasion), start.IsInitial →
      (∀ entry ∈ (start.through run).entries,
        ∃ id hash, entry = (.ofText id, .ofBytes hash) ∧
          ∀ keychain : Keychain, (keychain.add (.ofText id) (.ofBytes hash)).1 = .ok ()) ∧
      ∃ file, (start.through run).dumps = .ok file ∧
        ∀ name, Entries.parseFile name file = .ok (start.through run).entries := by
  constructor
  · intro pairs name keychain distinct encodable
    refine ⟨Entries.file pairs, Entries.render_ofPairs encodable, ?_⟩
    simp only [add_ok_iff]
    rw [← Entries.parse_file_iff distinct, Entries.parseFile_eq_ok_iff]
  · intro start run initial
    have storable := (initial.sound_through run).storable
    refine ⟨fun entry => add_ok_of_mem storable, ?_⟩
    obtain ⟨file, written, read⟩ := storable.parse_render
    exact ⟨file, written, fun name => Entries.parseFile_eq_ok_iff.mpr read⟩

/-- Of two entries one holds a newline in its hash, and the file brings back something else. A
keychain that is given octets which are no text, colons and a carriage return keeps them. -/
theorem file_faithful_newline :
    (∃ file, Entries.render (ofPairs [(Text.lit "a", [10]), (Text.lit "b", [255, 58, 13, 0])]) =
        .ok file ∧
      Entries.parseFile .absent file ≠
        .ok (ofPairs [(Text.lit "a", [10]), (Text.lit "b", [255, 58, 13, 0])])) ∧
    ∃ file, ((create [] [] none).through
        [(.calm .empty, .add (Text.lit "b") (.ofBytes [255, 58, 13, 0]))]).dumps = .ok file ∧
      Entries.parseFile .absent file = .ok (ofPairs [(Text.lit "b", [255, 58, 13, 0])]) := by
  constructor
  · obtain ⟨file, written, kept⟩ := file_faithful.1
      [(Text.lit "a", [10]), (Text.lit "b", [255, 58, 13, 0])] .absent (create [] [] none)
      (by decide) (by decide)
    refine ⟨file, written, fun read => ?_⟩
    exact absurd (kept.mp read _ (List.mem_cons_self ..)) (by decide)
  · obtain ⟨-, file, written, read⟩ := file_faithful.2 (create [] [] none)
      [(.calm .empty, .add (Text.lit "b") (.ofBytes [255, 58, 13, 0]))] (.created _ _ .nil)
    exact ⟨file, written, read .absent⟩

end Keyring.Keychain
