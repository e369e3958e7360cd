import Keyring.Proofs.Entries.Gathering
import Keyring.Proofs.Entries.Line

/-!
# What is read from a file

The grammar of a keychain file, beside the reader. Its lines are what stands between newlines, each
of them empty or an entry (`IsFine`), and the entries that they list one after another (`Lists`) make
a mapping: every id stands where it was listed first, with the hash that it was listed with last
(`gathered`). Reading gives exactly this mapping, or the number of the first line that is not fine
(`parseFile_reads`).
-/

namespace Keyring.Entries

/-- A line that is empty or an entry. -/
def IsFine (line : Bytes) : Prop :=
  line = [] ∨ ∃ id hash, IsLine line id hash

/-- What lines list: an entry each, if they are not empty. -/
inductive Lists : List Bytes → List (Text × Bytes) → Prop
  | nil : Lists [] []
  | empty {lines : List Bytes} {pairs : List (Text × Bytes)} (rest : Lists lines pairs) :
      Lists ([] :: lines) pairs
  | entry {line : Bytes} {id : Text} {hash : Bytes} {lines : List Bytes}
      {pairs : List (Text × Bytes)} (isLine : IsLine line id hash) (rest : Lists lines pairs) :
      Lists (line :: lines) ((id, hash) :: pairs)

section Lines

variable {line : Bytes} {lines : List Bytes} {id : Text} {hash : Bytes}
  {pairs : List (Text × Bytes)}

/-! ## What lines list -/

/-- A line is the entry of one id with one hash. -/
theorem IsLine.unique {other : Text} {other' : Bytes} (isLine : IsLine line id hash)
    (again : IsLine line other other') : id = other ∧ hash = other' := by
  have same := isLine.whole.symm.trans again.whole
  obtain ⟨ids, hashes⟩ := append_cons_inj isLine.first again.first same
  exact ⟨Utf8.octets_inj isLine.encodable again.encodable ids, hashes⟩

/-- An empty line lists nothing. -/
theorem lists_empty_iff : Lists ([] :: lines) pairs ↔ Lists lines pairs := by
  refine ⟨?_, .empty⟩
  rintro (_ | rest | ⟨isLine, -⟩)
  · exact rest
  · simpa using isLine.whole

/-- A line that is an entry lists it. -/
theorem lists_entry_iff (isLine : IsLine line id hash) :
    Lists (line :: lines) pairs ↔ ∃ others, pairs = (id, hash) :: others ∧ Lists lines others := by
  constructor
  · rintro (_ | - | ⟨again, rest⟩)
    · simpa using isLine.whole
    · obtain ⟨rfl, rfl⟩ := isLine.unique again
      exact ⟨_, rfl, rest⟩
  · rintro ⟨others, rfl, rest⟩
    exact .entry isLine rest

/-- Empty lines alone list no entry. -/
theorem lists_nil_iff : Lists lines [] ↔ ∀ line ∈ lines, line = [] := by
  induction lines with
  | nil => simp [Lists.nil]
  | cons line lines ih =>
    rw [List.forall_mem_cons, ← ih]
    constructor
    · rintro (_ | rest)
      exact ⟨rfl, rest⟩
    · rintro ⟨rfl, rest⟩
      exact .empty rest

/-- Lines list something exactly if all of them are fine. -/
theorem exists_lists_iff : (∃ pairs, Lists lines pairs) ↔ ∀ line ∈ lines, IsFine line := by
  constructor
  · rintro ⟨pairs, lists⟩
    induction lists with
    | nil => simp
    | empty _ ih => exact List.forall_mem_cons.mpr ⟨.inl rfl, ih⟩
    | entry isLine _ ih => exact List.forall_mem_cons.mpr ⟨.inr ⟨_, _, isLine⟩, ih⟩
  · intro fine
    induction lines with
    | nil => exact ⟨[], .nil⟩
    | cons line lines ih =>
      obtain ⟨first, rest⟩ := List.forall_mem_cons.mp fine
      obtain ⟨pairs, lists⟩ := ih rest
      rcases first with rfl | ⟨id, hash, isLine⟩
      · exact ⟨pairs, .empty lists⟩
      · exact ⟨(id, hash) :: pairs, .entry isLine lists⟩

/-- Lines list one thing only. -/
theorem Lists.unique {others : List (Text × Bytes)} (lists : Lists lines pairs)
    (again : Lists lines others) : pairs = others := by
  induction lists generalizing others with
  | nil => cases again; rfl
  | empty _ ih => exact ih (lists_empty_iff.mp again)
  | entry isLine _ ih =>
    obtain ⟨rest, rfl, others⟩ := (lists_entry_iff isLine).mp again
    rw [ih others]

/-- What lines without newlines list is acceptable. -/
theorem Lists.isAcceptable (lists : Lists lines pairs) (single : ∀ line ∈ lines, newline ∉ line) :
    ∀ pair ∈ pairs, isAcceptable pair.1 pair.2 = true := by
  induction lists with
  | nil => simp
  | empty _ ih => exact ih (List.forall_mem_cons.mp single).2
  | entry isLine _ ih =>
    obtain ⟨first, rest⟩ := List.forall_mem_cons.mp single
    exact List.forall_mem_cons.mpr ⟨((isLine_iff first).mp isLine).2, ih rest⟩

/-! ## Reading line by line -/

variable {before after : Entries} {number bad : Nat}

/-- A line that is an entry is put. -/
theorem putLines_of_isLine (single : newline ∉ line) (isLine : IsLine line id hash) :
    putLines before number (line :: lines) =
      putLines (Named.put (.ofText id) (.ofBytes hash) before) (number + 1) lines := by
  have filled : ¬ line.isEmpty = true := by simp [isLine.whole]
  rw [putLines, if_neg filled, (entry?_eq_some_iff single).mpr isLine]

/-- At a line that is not fine reading stops. -/
theorem putLines_of_not_isFine (single : newline ∉ line) (malformed : ¬ IsFine line) :
    putLines before number (line :: lines) = .error number := by
  obtain ⟨filled, unread⟩ := not_or.mp malformed
  have none : entry? line = none := by
    refine Option.eq_none_iff_forall_ne_some.mpr fun pair read => ?_
    exact unread ⟨pair.1, pair.2, (entry?_eq_some_iff single).mp read⟩
  rw [putLines, if_neg (by simpa using filled), none]

/-- Lines are read as what they list, put into what there was before. -/
theorem putLines_eq_ok_iff (single : ∀ line ∈ lines, newline ∉ line) :
    putLines before number lines = .ok after ↔
      ∃ pairs, Lists lines pairs ∧ after = putAll before pairs := by
  induction lines generalizing before number with
  | nil =>
    constructor
    · rintro ⟨⟩
      exact ⟨[], .nil, rfl⟩
    · rintro ⟨pairs, ⟨⟩, rfl⟩
      rfl
  | cons line lines ih =>
    obtain ⟨first, rest⟩ := List.forall_mem_cons.mp single
    by_cases fine : IsFine line
    · rcases fine with rfl | ⟨id, hash, isLine⟩
      · simp only [lists_empty_iff]
        exact ih rest
      · rw [putLines_of_isLine first isLine, ih rest]
        simp only [lists_entry_iff isLine]
        constructor
        · rintro ⟨pairs, lists, rfl⟩
          exact ⟨_, ⟨pairs, rfl, lists⟩, rfl⟩
        · rintro ⟨_, ⟨pairs, rfl, lists⟩, rfl⟩
          exact ⟨pairs, lists, rfl⟩
    · rw [putLines_of_not_isFine first fine]
      refine ⟨nofun, ?_⟩
      rintro ⟨pairs, lists, -⟩
      exact absurd (exists_lists_iff.mp ⟨pairs, lists⟩ line (List.mem_cons_self ..)) fine

/-- The number of a bad line counts the lines before it, all of which are fine. -/
theorem putLines_eq_error_iff (single : ∀ line ∈ lines, newline ∉ line) :
    putLines before number lines = .error bad ↔
      ∃ earlier line later, lines = earlier ++ line :: later ∧
        (∀ other ∈ earlier, IsFine other) ∧ ¬ IsFine line ∧ bad = number + earlier.length := by
  induction lines generalizing before number with
  | nil => simp [putLines]
  | cons line lines ih =>
    obtain ⟨first, rest⟩ := List.forall_mem_cons.mp single
    by_cases fine : IsFine line
    · obtain ⟨next, same⟩ : ∃ next, putLines before number (line :: lines) =
          putLines next (number + 1) lines := by
        rcases fine with rfl | ⟨id, hash, isLine⟩
        · exact ⟨before, rfl⟩
        · exact ⟨_, putLines_of_isLine first isLine⟩
      rw [same, ih rest]
      constructor
      · rintro ⟨earlier, other, later, rfl, each, malformed, rfl⟩
        refine ⟨line :: earlier, other, later, rfl, List.forall_mem_cons.mpr ⟨fine, each⟩,
          malformed, ?_⟩
        rw [List.length_cons]
        omega
      · rintro ⟨_ | ⟨head, earlier⟩, other, later, whole, each, malformed, rfl⟩
        · cases whole
          exact absurd fine malformed
        · cases whole
          refine ⟨earlier, other, later, rfl, (List.forall_mem_cons.mp each).2, malformed, ?_⟩
          rw [List.length_cons]
          omega
    · rw [putLines_of_not_isFine first fine]
      constructor
      · rintro ⟨⟩
        exact ⟨[], line, lines, rfl, by simp, fine, rfl⟩
      · rintro ⟨_ | ⟨head, earlier⟩, other, later, whole, each, malformed, rfl⟩
        · rfl
        · cases whole
          exact absurd (each _ (List.mem_cons_self ..)) fine

end Lines

/-! ## Reading a file -/

variable {name : Cell} {file : Bytes} {entries : Entries}

/-- A file is read as the mapping that its lines list. -/
theorem parse_eq_ok_iff :
    parse file = .ok entries ↔
      ∃ pairs, Lists (splitAll newline file) pairs ∧ entries = ofPairs (gathered pairs) := by
  rw [parse, putLines_eq_ok_iff fun _ => not_mem_of_mem_splitAll]
  simp only [putAll_nil]

/-- A file has no entries if all its lines are empty, and only then. -/
theorem parse_eq_ok_nil_iff : parse file = .ok [] ↔ ∀ octet ∈ file, octet = newline := by
  rw [parse_eq_ok_iff, ← forall_splitAll_eq_nil_iff, ← lists_nil_iff]
  constructor
  · rintro ⟨pairs, lists, empty⟩
    rw [← putAll_nil] at empty
    rwa [putAll_nil_eq_nil_iff.mp empty.symm] at lists
  · intro lists
    exact ⟨[], lists, rfl⟩

/-- A name tells only where entries were not read. -/
theorem parseFile_eq_ok_iff : parseFile name file = .ok entries ↔ parse file = .ok entries := by
  unfold parseFile
  split <;> simp_all

/-- Whatever a file is read as can be stored again. -/
theorem Storable.of_parse (read : parse file = .ok entries) : entries.Storable := by
  obtain ⟨pairs, lists, rfl⟩ := parse_eq_ok_iff.mp read
  rw [← putAll_nil]
  exact Storable.nil.after_putAll (lists.isAcceptable fun _ => not_mem_of_mem_splitAll)

/-- Whatever a named file is read as can be stored again. -/
theorem Storable.of_parseFile (read : parseFile name file = .ok entries) : entries.Storable :=
  .of_parse (parseFile_eq_ok_iff.mp read)

/-- A file is read exactly if all of its lines are fine, and then as the mapping that they list. Else
the failure tells the file and the number of the first line that is not fine. -/
theorem parseFile_reads (name : Cell) (file : Bytes) :
    ((∃ entries, parseFile name file = .ok entries) ↔
      ∀ line ∈ splitAll newline file, IsFine line) ∧
    (∀ entries, parseFile name file = .ok entries ↔
      ∃ pairs, Lists (splitAll newline file) pairs ∧ entries = ofPairs (gathered pairs)) ∧
    ∀ failure, parseFile name file = .error failure ↔
      ∃ earlier line later, splitAll newline file = earlier ++ line :: later ∧
        (∀ other ∈ earlier, IsFine other) ∧ ¬ IsFine line ∧
        failure = .invalidEntry .malformed name (.ofInt (earlier.length + 1)) := by
  have single : ∀ line ∈ splitAll newline file, newline ∉ line := fun _ => not_mem_of_mem_splitAll
  have success (entries : Entries) : parseFile name file = .ok entries ↔
      ∃ pairs, Lists (splitAll newline file) pairs ∧ entries = ofPairs (gathered pairs) :=
    parseFile_eq_ok_iff.trans parse_eq_ok_iff
  refine ⟨?_, success, fun failure => ?_⟩
  · simp only [success, ← exists_lists_iff]
    exact ⟨fun ⟨_, pairs, lists, _⟩ => ⟨pairs, lists⟩, fun ⟨pairs, lists⟩ => ⟨_, pairs, lists, rfl⟩⟩
  · have failed : parseFile name file = .error failure ↔
        ∃ bad, parse file = .error bad ∧
          failure = .invalidEntry .malformed name (.ofInt (bad : Int)) := by
      unfold parseFile
      cases parse file <;> simp [eq_comm]
    rw [failed]
    simp only [parse, putLines_eq_error_iff single]
    constructor
    · rintro ⟨_, ⟨earlier, line, later, whole, each, malformed, rfl⟩, rfl⟩
      refine ⟨earlier, line, later, whole, each, malformed, ?_⟩
      rw [Nat.add_comm]
      rfl
    · rintro ⟨earlier, line, later, whole, each, malformed, rfl⟩
      refine ⟨_, ⟨earlier, line, later, whole, each, malformed, rfl⟩, ?_⟩
      rw [Nat.add_comm]
      rfl

/-- Of the two hashes of the id `b` the second stands in the place of the first, and the third line
keeps its return. -/
example : parseFile .absent [98, 58, 49, 10, 10, 97, 58, 50, 58, 13, 10, 98, 58, 51] =
    .ok (ofPairs [(Text.lit "b", [51]), (Text.lit "a", [50, 58, 13])]) := by
  decide

end Keyring.Entries
