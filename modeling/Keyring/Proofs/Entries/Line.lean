import Keyring.Proofs.Entries.Storable
import Keyring.Proofs.Text.Octets
import Keyring.Proofs.Text.Strict

/-!
# Lines of a file

What a line of a keychain file has to be, said without reading it: `IsLine`. The octets before its
first colon are those of a text and hold no zero, and neither they nor the octets after it are
missing. Exactly such lines are read as entries (`entry?_eq_some_iff`), and a line without a newline
in it is one exactly if its entry is acceptable (`isLine_iff`).
-/

namespace Keyring.Entries

/-- A line that is the entry of an id and a hash. -/
structure IsLine (line : Bytes) (id : Text) (hash : Bytes) : Prop where
  whole : line = Utf8.octets id ++ separator :: hash
  /-- The octets before the colon are UTF-8. -/
  encodable : Utf8.isEncodable id = true
  /-- The colon is the first one. -/
  first : separator ∉ Utf8.octets id
  zero : 0 ∉ Utf8.octets id
  named : Utf8.octets id ≠ []
  hashed : hash ≠ []

variable {line : Bytes} {id : Text} {hash : Bytes}

/-- No line of an acceptable entry holds a newline. -/
theorem newline_not_mem_line (acceptable : isAcceptable id hash = true) :
    newline ∉ Utf8.octets id ++ separator :: hash := by
  obtain ⟨-, storable, -, single⟩ := isAcceptable_iff.mp acceptable
  obtain ⟨⟨-, ended, -⟩, -⟩ := isStorableId_iff.mp storable
  have unended : newline ∉ Utf8.octets id :=
    (Utf8.not_mem_octets_iff (by decide) (by decide)).mpr ended
  intro member
  rcases List.mem_append.mp member with inId | inHash
  · exact unended inId
  · rcases List.mem_cons.mp inHash with colon | inHash
    · exact absurd colon (by decide)
    · exact single inHash

/-- Of lines without newlines, those that are entries are the lines of acceptable entries. -/
theorem isLine_iff (single : newline ∉ line) :
    IsLine line id hash ↔
      line = Utf8.octets id ++ separator :: hash ∧ isAcceptable id hash = true := by
  have colon : separator ∉ Utf8.octets id ↔ (58 : CodePoint) ∉ id :=
    Utf8.not_mem_octets_iff (by decide) (by decide)
  have ended : newline ∉ Utf8.octets id ↔ (10 : CodePoint) ∉ id :=
    Utf8.not_mem_octets_iff (by decide) (by decide)
  have zero : 0 ∉ Utf8.octets id ↔ (0 : CodePoint) ∉ id :=
    Utf8.not_mem_octets_iff (by decide) (by decide)
  rw [isAcceptable_iff, isStorableId_iff, ← colon, ← ended, ← zero, ← Utf8.octets_ne_nil_iff]
  constructor
  · intro isLine
    refine ⟨isLine.whole, isLine.named, ⟨⟨isLine.first, ?_, isLine.zero⟩, isLine.encodable⟩,
      isLine.hashed, ?_⟩
    all_goals
      intro member
      refine single (isLine.whole ▸ ?_)
    · exact List.mem_append_left _ member
    · exact List.mem_append_right _ (.tail _ member)
  · rintro ⟨whole, named, ⟨⟨first, -, zero⟩, encodable⟩, hashed, -⟩
    exact ⟨whole, encodable, first, zero, named, hashed⟩

/-- A line is read as an entry exactly if it is one. -/
theorem entry?_eq_some_iff (single : newline ∉ line) :
    entry? line = some (id, hash) ↔ IsLine line id hash := by
  constructor
  · intro read
    unfold entry? at read
    split at read
    · cases read
    · rename_i before after cut
      obtain ⟨rfl, first⟩ := splitFirst_eq_some_iff.mp cut
      split at read
      · cases read
      · rename_i filled
        simp only [Bool.or_eq_true, List.isEmpty_iff, not_or] at filled
        split at read
        · cases read
        · rename_i text decoded
          obtain ⟨encodable, rfl⟩ := Utf8.octets_of_decode decoded
          split at read
          · rename_i storable
            cases read
            obtain ⟨⟨-, -, zero⟩, -⟩ := isStorableId_iff.mp storable
            have free : 0 ∉ Utf8.octets id :=
              (Utf8.not_mem_octets_iff (by decide) (by decide)).mpr zero
            exact ⟨rfl, encodable, first, free, filled.1, filled.2⟩
          · cases read
  · intro isLine
    obtain ⟨rfl, acceptable⟩ := (isLine_iff single).mp isLine
    obtain ⟨-, storable, -⟩ := isAcceptable_iff.mp acceptable
    have filled : ¬ ((Utf8.octets id).isEmpty || hash.isEmpty) = true := by
      simp [isLine.named, isLine.hashed]
    unfold entry?
    rw [splitFirst_eq_some_iff.mpr ⟨rfl, isLine.first⟩]
    dsimp only
    rw [if_neg filled, Utf8.decode_octets isLine.encodable]
    exact if_pos storable

end Keyring.Entries
