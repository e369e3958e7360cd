import Mathlib.Data.List.Nodup
import Keyring.Entries

/-!
# Entries that a file keeps

`Storable` holds of entries that are all acceptable and name no id twice. Putting an acceptable
entry and erasing an id keep it, and so does whatever a file is read as (`RoundTrip`).

Entries are a mapping in the first place, and their order comes second. `Agree` compares two of them
as mappings; putting and erasing respect it.
-/

namespace Keyring

namespace Cell

/-- Only a text is the same name as a text. -/
theorem identity_eq_ofText_iff {name : Cell} {text : Text} :
    name.identity = .ofText text ↔ name = .ofText text := by
  cases name <;> simp [identity, number?]

end Cell

namespace Named

variable {α : Type} {named : Named α} {name : Cell} {value : α}

/-- A name is looked up by its identity alone. -/
theorem get?_congr {other : Cell} (same : name.identity = other.identity) :
    named.get? name = named.get? other := by
  induction named with
  | nil => rfl
  | cons pair others ih => rw [get?, get?, same, ih]

/-- A value that is found stands under the same name. -/
theorem mem_of_get?_eq_some (found : named.get? name = some value) :
    ∃ stored, (stored, value) ∈ named ∧ stored.identity = name.identity := by
  induction named with
  | nil => simp [get?] at found
  | cons pair others ih =>
    obtain ⟨stored, old⟩ := pair
    rw [get?] at found
    split at found
    · rename_i same
      cases found
      exact ⟨stored, List.mem_cons_self .., same⟩
    · obtain ⟨other, member, same⟩ := ih found
      exact ⟨other, .tail _ member, same⟩

/-- A name without a value is none of the names. -/
theorem get?_eq_none_iff :
    named.get? name = none ↔ ∀ pair ∈ named, pair.1.identity ≠ name.identity := by
  induction named with
  | nil => simp [get?]
  | cons pair others ih =>
    obtain ⟨stored, old⟩ := pair
    rw [get?]
    by_cases same : stored.identity = name.identity
    · simp [same]
    · simp [same, ih]

/-- A pair after a value was put is an old one, or has the value under the same name. -/
theorem mem_put {pair : Cell × α} (member : pair ∈ named.put name value) :
    pair ∈ named ∨ (pair.1.identity = name.identity ∧ pair.2 = value) := by
  induction named with
  | nil => exact .inr (by simp_all [put])
  | cons first others ih =>
    obtain ⟨stored, old⟩ := first
    rw [put] at member
    split at member
    · rename_i same
      rcases List.mem_cons.mp member with rfl | member
      · exact .inr ⟨same, rfl⟩
      · exact .inl (.tail _ member)
    · rcases List.mem_cons.mp member with rfl | member
      · exact .inl (List.mem_cons_self ..)
      · exact (ih member).imp (.tail _) id

/-- Erasing a name leaves the others in order. -/
theorem mem_erase {pair : Cell × α} (member : pair ∈ named.erase name) : pair ∈ named :=
  (List.mem_filter.mp member).1

end Named

namespace Entries

/-- An entry that a file keeps. -/
def IsStorable (entry : Cell × Cell) : Prop :=
  ∃ id hash, entry = (.ofText id, .ofBytes hash) ∧ isAcceptable id hash = true

/-- Entries that a file keeps, all of them and no id twice. -/
structure Storable (entries : Entries) : Prop where
  each : ∀ entry ∈ entries, IsStorable entry
  ids : entries.names.Nodup

/-- Two entries are the same mapping. -/
def Agree (entries others : Entries) : Prop :=
  ∀ id, entries.get? id = others.get? id

/-- What makes an id one that a line can hold. -/
theorem isStorableId_iff {id : Text} :
    isStorableId id = true ↔
      ((58 : CodePoint) ∉ id ∧ (10 : CodePoint) ∉ id ∧ (0 : CodePoint) ∉ id) ∧
        Utf8.isEncodable id = true := by
  simp [isStorableId, reserved]

/-- What makes an entry acceptable. -/
theorem isAcceptable_iff {id : Text} {hash : Bytes} :
    isAcceptable id hash = true ↔
      id ≠ [] ∧ isStorableId id = true ∧ hash ≠ [] ∧ newline ∉ hash := by
  simp [isAcceptable, and_assoc]

/-- Exactly the acceptable entries are not refused. -/
theorem refusal?_eq_none_iff {id : Text} {hash : Bytes} :
    refusal? id hash = none ↔ isAcceptable id hash = true := by
  unfold refusal? isAcceptable
  split
  · rename_i blank
    rcases Bool.or_eq_true_iff.mp blank with empty | empty <;> simp [empty]
  · split <;> simp_all

namespace Storable

variable {entries : Entries} {id : Text} {hash : Bytes}

theorem nil : Storable ([] : Entries) :=
  ⟨by simp, .nil⟩

/-- Whatever is found is a hash that is acceptable for the id that was sought. -/
theorem get?_eq_some (storable : entries.Storable) {name value : Cell}
    (found : entries.get? name = some value) :
    ∃ id hash, name = .ofText id ∧ value = .ofBytes hash ∧ isAcceptable id hash = true := by
  obtain ⟨stored, member, same⟩ := Named.mem_of_get?_eq_some found
  obtain ⟨id, hash, equal, acceptable⟩ := storable.each _ member
  cases equal
  exact ⟨id, hash, Cell.identity_eq_ofText_iff.mp same.symm, rfl, acceptable⟩

/-- An acceptable entry can be put. -/
theorem put (storable : entries.Storable) (acceptable : isAcceptable id hash = true) :
    Storable (Named.put (.ofText id) (.ofBytes hash) entries) where
  each := by
    rintro ⟨name, value⟩ member
    rcases Named.mem_put member with old | ⟨same, rfl⟩
    · exact storable.each _ old
    · exact ⟨id, hash, by simpa using Cell.identity_eq_ofText_iff.mp same, acceptable⟩
  ids := by
    rw [Named.names_put]
    split
    · exact storable.ids
    · rename_i absent
      have fresh : entries.get? (.ofText id) = none := by
        simpa [Named.contains] using absent
      refine List.nodup_append.mpr ⟨storable.ids, by simp, ?_⟩
      intro name member other last equal
      obtain ⟨pair, stored, rfl⟩ := List.mem_map.mp member
      apply Named.get?_eq_none_iff.mp fresh pair stored
      rw [equal, List.mem_singleton.mp last]

/-- Any id can be erased. -/
theorem erase (storable : entries.Storable) (name : Cell) :
    Storable (Named.erase name entries) where
  each := fun entry member => storable.each entry (Named.mem_erase member)
  ids := storable.ids.sublist (List.filter_sublist.map _)

end Storable

namespace Agree

variable {entries others : Entries}

theorem refl (entries : Entries) : Agree entries entries :=
  fun _ => rfl

theorem symm (agree : Agree entries others) : Agree others entries :=
  fun id => (agree id).symm

theorem trans {third : Entries} (agree : Agree entries others) (next : Agree others third) :
    Agree entries third :=
  fun id => (agree id).trans (next id)

/-- One mapping has one set of ids. -/
theorem contains_eq (agree : Agree entries others) (id : Cell) :
    entries.contains id = others.contains id := by
  unfold Named.contains
  rw [agree]

/-- The same value is put into the same mapping. -/
theorem put (agree : Agree entries others) (name value : Cell) :
    Agree (Named.put name value entries) (Named.put name value others) := by
  intro id
  rw [Named.get?_put, Named.get?_put, agree]

/-- The same name is erased from the same mapping. -/
theorem erase (agree : Agree entries others) (name : Cell) :
    Agree (Named.erase name entries) (Named.erase name others) := by
  intro id
  rw [Named.get?_erase, Named.get?_erase, agree]

/-- A new name that is erased again leaves the mapping as it was. -/
theorem erase_put {name : Cell} (value : Cell) (fresh : entries.get? name = none) :
    Agree (Named.erase name (Named.put name value entries)) entries := by
  intro id
  rw [Named.get?_erase, Named.get?_put]
  split
  · rename_i same
    rw [Named.get?_congr same, fresh]
  · rfl

/-- A value that is put back leaves the mapping as it was, whatever took its place meanwhile. -/
theorem put_put {name old : Cell} (value : Cell) (found : entries.get? name = some old) :
    Agree (Named.put name old (Named.put name value entries)) entries := by
  intro id
  rw [Named.get?_put, Named.get?_put]
  split
  · rename_i same
    rw [Named.get?_congr same, found]
  · rfl

/-- A value that was erased and is put back leaves the mapping as it was. It now comes last. -/
theorem put_erase {name old : Cell} (found : entries.get? name = some old) :
    Agree (Named.put name old (Named.erase name entries)) entries := by
  intro id
  rw [Named.get?_put, Named.get?_erase]
  split
  · rename_i same
    rw [Named.get?_congr same, found]
  · rfl

end Agree

end Entries

end Keyring
