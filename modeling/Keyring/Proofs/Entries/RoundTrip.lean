import Keyring.Proofs.Entries.Grammar

/-!
# What a file keeps

The format of a keychain file has no escapes. It loses nothing all the same, because an entry that
might be cut elsewhere than it was joined is never stored: the lines of a file list the entries that
it was written from (`lists_file`), so storable entries are read back from their file, in order
(`parse_file`). Since whatever is read can be stored, exactly the storable entries survive
(`parse_file_iff`).
-/

namespace Keyring.Entries

/-- The lines of texts and their hashes, one after another. -/
def file (pairs : List (Text × Bytes)) : Bytes :=
  pairs.flatMap fun (id, hash) => renderEntry (Utf8.octets id) hash

variable {pairs : List (Text × Bytes)}

/-- Storable entries are texts with their hashes. -/
theorem Storable.eq_ofPairs {entries : Entries} (storable : entries.Storable) :
    ∃ pairs, entries = ofPairs pairs ∧ ∀ pair ∈ pairs, isAcceptable pair.1 pair.2 = true := by
  have each := storable.each
  clear storable
  induction entries with
  | nil => exact ⟨[], rfl, by simp⟩
  | cons entry others ih =>
    obtain ⟨id, hash, rfl, acceptable⟩ := each entry (List.mem_cons_self ..)
    obtain ⟨pairs, rfl, rest⟩ := ih fun other member => each other (.tail _ member)
    refine ⟨(id, hash) :: pairs, rfl, ?_⟩
    simpa using ⟨acceptable, fun a b member => rest (a, b) member⟩

/-- The names of texts with hashes are the texts. -/
theorem names_ofPairs (pairs : List (Text × Bytes)) :
    (ofPairs pairs).names = pairs.map fun pair => .ofText pair.1 := by
  simp [ofPairs, Named.names]

/-- Texts with octets can be written, whether their entries are acceptable or not. -/
theorem render_ofPairs (encodable : ∀ pair ∈ pairs, Utf8.isEncodable pair.1 = true) :
    render (ofPairs pairs) = .ok (file pairs) := by
  induction pairs with
  | nil => rfl
  | cons pair others ih =>
    obtain ⟨id, hash⟩ := pair
    have written := Utf8.encode_eq_ok_iff.mpr ⟨encodable _ (List.mem_cons_self ..), rfl⟩
    have rest := ih fun other member => encodable other (.tail _ member)
    unfold ofPairs at rest ⊢
    simp only [List.map_cons, render, idOctets, written, hashOctets, rest]
    rfl

/-- The first line of a file is that of the first entry. -/
theorem splitAll_renderEntry {id : Text} {hash : Bytes} (rest : Bytes)
    (acceptable : isAcceptable id hash = true) :
    splitAll newline (renderEntry (Utf8.octets id) hash ++ rest) =
      (Utf8.octets id ++ separator :: hash) :: splitAll newline rest := by
  rw [renderEntry, List.append_assoc]
  exact splitAll_append rest (newline_not_mem_line acceptable)

/-- The lines of a written file are those of its entries, and nothing behind them. -/
theorem splitAll_file (acceptable : ∀ pair ∈ pairs, isAcceptable pair.1 pair.2 = true) :
    splitAll newline (file pairs) =
      pairs.map (fun pair => Utf8.octets pair.1 ++ separator :: pair.2) ++ [[]] := by
  induction pairs with
  | nil => rfl
  | cons pair pairs ih =>
    obtain ⟨first, rest⟩ := List.forall_mem_cons.mp acceptable
    rw [file, List.flatMap_cons, splitAll_renderEntry _ first, ← file, ih rest]
    rfl

/-- A written file lists what was written. -/
theorem lists_file (acceptable : ∀ pair ∈ pairs, isAcceptable pair.1 pair.2 = true) :
    Lists (splitAll newline (file pairs)) pairs := by
  rw [splitAll_file acceptable]
  induction pairs with
  | nil => exact .empty .nil
  | cons pair pairs ih =>
    obtain ⟨first, rest⟩ := List.forall_mem_cons.mp acceptable
    exact .entry ((isLine_iff (newline_not_mem_line first)).mpr ⟨rfl, first⟩) (ih rest)

/-- Acceptable entries with different ids are read back from their file, in order. -/
theorem parse_file (acceptable : ∀ pair ∈ pairs, isAcceptable pair.1 pair.2 = true)
    (distinct : (pairs.map (·.1)).Nodup) : parse (file pairs) = .ok (ofPairs pairs) :=
  parse_eq_ok_iff.mpr ⟨pairs, lists_file acceptable, by rw [gathered_of_nodup distinct]⟩

/-- Of texts with octets and their hashes, exactly the acceptable ones are read back. -/
theorem parse_file_iff (distinct : (pairs.map (·.1)).Nodup) :
    parse (file pairs) = .ok (ofPairs pairs) ↔
      ∀ pair ∈ pairs, isAcceptable pair.1 pair.2 = true := by
  constructor
  · intro read pair member
    obtain ⟨id, hash, same, acceptable⟩ :=
      (Storable.of_parse read).each (.ofText pair.1, .ofBytes pair.2) (List.mem_map_of_mem member)
    cases same
    exact acceptable
  · exact fun acceptable => parse_file acceptable distinct

/-- Storable entries have a file, and are read back from it in order. -/
theorem Storable.parse_render {entries : Entries} (storable : entries.Storable) :
    ∃ content, render entries = .ok content ∧ parse content = .ok entries := by
  obtain ⟨pairs, rfl, acceptable⟩ := storable.eq_ofPairs
  refine ⟨file pairs, render_ofPairs fun pair member => ?_, parse_file acceptable ?_⟩
  · obtain ⟨-, storable, -⟩ := isAcceptable_iff.mp (acceptable pair member)
    exact (isStorableId_iff.mp storable).2
  · have ids := storable.ids
    rw [names_ofPairs] at ids
    exact List.Nodup.of_map _ (by simpa [List.map_map, Function.comp_def] using ids)

end Keyring.Entries
