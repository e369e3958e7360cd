import Keyring.Proofs.Entries.RoundTrip

/-!
# Files as they are written

A file may be read in a form in which no keychain writes it: the last line may lack its newline,
lines may be empty, and an id may stand on several of them. Writing what was read mends all this at
once. `render_parseFile` says so: what is written is read alike and written alike from then on, and
it is the file that was there exactly if that file was normal (`IsNormal`).
-/

namespace Keyring.Entries

/-- A file with nothing in it that writing leaves out. -/
structure IsNormal (file : Bytes) : Prop where
  ended : file = [] ∨ file.getLast? = some newline
  /-- No line is empty. Behind the last newline stands none. -/
  filled : [] ∉ (splitAll newline file).dropLast
  /-- No id is listed twice. -/
  once : ∀ pairs, Lists (splitAll newline file) pairs → (pairs.map Prod.fst).Nodup

variable {file : Bytes} {lines : List Bytes} {pairs : List (Text × Bytes)}

/-! ## The lines of a written file -/

/-- A written file ends with a newline, if it holds anything. -/
theorem ended_file (pairs : List (Text × Bytes)) :
    Entries.file pairs = [] ∨ (Entries.file pairs).getLast? = some newline := by
  induction pairs using List.reverseRecOn with
  | nil => exact .inl rfl
  | append_singleton pairs pair _ =>
    have last : Entries.file (pairs ++ [pair]) =
        (Entries.file pairs ++ (Utf8.octets pair.1 ++ separator :: pair.2)) ++ [newline] := by
      simp [Entries.file, renderEntry]
    rw [last, List.getLast?_concat]
    exact .inr rfl

/-- A file is normal if acceptable entries of different ids are written to it. -/
theorem isNormal_file (acceptable : ∀ pair ∈ pairs, isAcceptable pair.1 pair.2 = true)
    (once : (pairs.map Prod.fst).Nodup) : IsNormal (Entries.file pairs) where
  ended := ended_file pairs
  filled := by
    rw [splitAll_file acceptable, List.dropLast_concat]
    simp
  once := fun _ lists => (lists_file acceptable).unique lists ▸ once

/-! ## The file of what is listed -/

/-- A file in which the last line is ended is its lines with a newline after each. -/
theorem exists_lines (ended : file = [] ∨ file.getLast? = some newline) :
    ∃ lines, splitAll newline file = lines ++ [[]] ∧ file = lines.flatMap (· ++ [newline]) := by
  rcases ended with rfl | ended
  · exact ⟨[], rfl, rfl⟩
  · obtain ⟨front, rfl⟩ := List.getLast?_eq_some_iff.mp ended
    exact ⟨splitAll newline front, splitAll_append_cons newline front [],
      (flatMap_splitAll newline front).symm⟩

/-- Lines of which none is empty are written as what they list. -/
theorem file_of_lists (filled : [] ∉ lines) (lists : Lists (lines ++ [[]]) pairs) :
    Entries.file pairs = lines.flatMap (· ++ [newline]) := by
  induction lines generalizing pairs with
  | nil =>
    obtain _ | ⟨⟨⟩⟩ | ⟨isLine, -⟩ := lists
    · rfl
    · simpa using isLine.whole
  | cons line lines ih =>
    obtain ⟨first, rest⟩ := not_or.mp (mt List.mem_cons.mpr filled)
    obtain _ | - | ⟨isLine, lists⟩ := lists
    · exact absurd rfl first
    · rw [Entries.file, List.flatMap_cons, ← Entries.file, ih rest lists, List.flatMap_cons,
        isLine.whole]
      rfl

/-- A normal file is the file of what it lists. -/
theorem IsNormal.file_eq (normal : IsNormal file) (lists : Lists (splitAll newline file) pairs) :
    Entries.file pairs = file := by
  obtain ⟨lines, cut, whole⟩ := exists_lines normal.ended
  have filled := normal.filled
  rw [cut, List.dropLast_concat] at filled
  rw [cut] at lists
  rw [file_of_lists filled lists, ← whole]

/-- Whatever a file was read as is written as a file that is read as the same and is written as it
stands. It is the file that was there exactly if that was normal. -/
theorem render_parseFile {name : Cell} {entries : Entries}
    (read : parseFile name file = .ok entries) :
    ∃ content, render entries = .ok content ∧
      (∀ other, parseFile other content = .ok entries ∧
        (parseFile other content >>= render) = .ok content) ∧
      (content = file ↔ IsNormal file) := by
  obtain ⟨pairs, lists, rfl⟩ := (parseFile_reads name file).2.1 entries |>.mp read
  have listed := lists.isAcceptable fun _ => not_mem_of_mem_splitAll
  have acceptable : ∀ pair ∈ gathered pairs, isAcceptable pair.1 pair.2 = true :=
    fun pair member => listed pair (mem_of_mem_gathered member)
  have rendered : render (ofPairs (gathered pairs)) = .ok (Entries.file (gathered pairs)) := by
    refine render_ofPairs fun pair member => ?_
    obtain ⟨-, storable, -⟩ := isAcceptable_iff.mp (acceptable pair member)
    exact (isStorableId_iff.mp storable).2
  refine ⟨_, rendered, fun other => ?_, ?_, fun normal => ?_⟩
  · have again : parseFile other (Entries.file (gathered pairs)) = .ok (ofPairs (gathered pairs)) :=
      parseFile_eq_ok_iff.mpr (parse_file acceptable (nodup_gathered pairs))
    rw [again]
    exact ⟨rfl, rendered⟩
  · intro same
    exact same ▸ isNormal_file acceptable (nodup_gathered pairs)
  · rw [gathered_of_nodup (normal.once pairs lists)]
    exact normal.file_eq lists

/-- A file with an empty line, an id on two lines and no newline at its end is mended. -/
theorem render_parseFile_mended :
    let file : Bytes := [98, 58, 49, 10, 10, 97, 58, 50, 10, 98, 58, 51]
    let mended : Bytes := [98, 58, 51, 10, 97, 58, 50, 10]
    let entries := ofPairs [(Text.lit "b", [51]), (Text.lit "a", [50])]
    parseFile .absent file = .ok entries ∧ render entries = .ok mended ∧
      parseFile .absent mended = .ok entries ∧ ¬ IsNormal file := by
  intro file mended entries
  have read : parseFile .absent file = .ok entries := by decide
  obtain ⟨content, written, again, unchanged⟩ := render_parseFile read
  have same : content = mended := Except.ok.inj (written.symm.trans (by decide))
  rw [same] at written again unchanged
  exact ⟨read, written, (again .absent).1, mt unchanged.mpr (by decide)⟩

end Keyring.Entries
