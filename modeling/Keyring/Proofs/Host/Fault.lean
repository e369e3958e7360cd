import Keyring.Proofs.Host.Directory

/-!
# Texts that are paths

A text is a path if every point of it may stand in one (`fault?_eq_none_iff`). So there is nothing
wrong with a path if there is nothing wrong with its directory and its last name, and nothing is
wrong with a directory that somebody has made sure of.
-/

namespace Keyring

namespace Path

/-- A point that may stand in a path. -/
def mayHold (point : CodePoint) : Bool :=
  !(point.isSurrogate && !Name.isEscape point) && point ≠ 0

variable {text path : Text}

/-- Every point of a text has octets if none is found that has not. -/
theorem firstUnencodable_eq_none_iff {start : Nat} :
    firstUnencodable start text = none ↔
      ∀ point ∈ text, (point.isSurrogate && !Name.isEscape point) = false := by
  induction text generalizing start with
  | nil => simp [firstUnencodable]
  | cons point rest ih =>
    rw [firstUnencodable, List.forall_mem_cons]
    split
    · rename_i unencodable
      simp [unencodable]
    · rename_i encodable
      rw [ih]
      simp [encodable]

/-- A text is a path if all points may stand in one. -/
theorem fault?_eq_none_iff : fault? text = none ↔ ∀ point ∈ text, mayHold point = true := by
  have zero : text.contains 0 = false ↔ ∀ point ∈ text, point ≠ 0 := by
    rw [List.contains_eq_mem, decide_eq_false_iff_not]
    exact ⟨fun missing point member same => missing (same ▸ member),
      fun each member => each 0 member rfl⟩
  have both : fault? text = none ↔ firstUnencodable 0 text = none ∧ text.contains 0 = false := by
    unfold fault?
    cases firstUnencodable 0 text with
    | some run => simp
    | none => cases text.contains 0 <;> simp
  rw [both, firstUnencodable_eq_none_iff, zero, ← forall₂_and]
  refine forall₂_congr fun point _ => ?_
  rw [mayHold, Bool.and_eq_true, Bool.not_eq_true', decide_eq_true_iff]

/-- Texts are one path together if each of them is. -/
theorem fault?_append (text more : Text) :
    fault? (text ++ more) = none ↔ fault? text = none ∧ fault? more = none := by
  simp only [fault?_eq_none_iff, List.mem_append, or_imp, forall_and]

/-- What stands between separators stands in the whole. -/
theorem mem_join {separator name : Text} {names : List Text} {point : CodePoint}
    (member : name ∈ names) (inside : point ∈ name) : point ∈ Text.join separator names := by
  unfold Text.join
  induction names with
  | nil => cases member
  | cons first others ih =>
    cases others with
    | nil =>
      rw [List.intercalate_singleton]
      exact List.mem_singleton.mp member ▸ inside
    | cons second others =>
      rw [List.intercalate_cons_cons, List.mem_append, List.mem_append]
      rcases List.mem_cons.mp member with rfl | member
      · exact .inl (.inl inside)
      · exact .inr (ih member)

/-- What is no slash stands in a part. -/
theorem mem_parts {point : CodePoint} (member : point ∈ path) (other : point ≠ separator) :
    ∃ part ∈ parts path, point ∈ part := by
  rw [← intercalate_splitAll separator path] at member
  obtain slash | ⟨part, listed, inside⟩ := mem_or_of_mem_intercalate member
  · exact absurd (List.mem_singleton.mp slash) other
  · refine ⟨part, List.mem_filter.mpr ⟨listed, ?_⟩, inside⟩
    simpa using List.ne_nil_of_mem inside

/-- There is nothing wrong with a path if there is nothing wrong with the directory that it ends in
and with its last name. -/
theorem fault?_of_parent (parent : fault? (ofText path).parent.toText = none)
    (name : fault? (ofText path).name = none) : fault? path = none := by
  rw [fault?_eq_none_iff] at parent name ⊢
  intro point member
  by_cases slash : point = separator
  · subst slash
    decide
  obtain ⟨part, listed, inside⟩ := mem_parts member slash
  by_cases single : part = dot
  · rw [single] at inside
    obtain rfl : point = 46 := List.mem_singleton.mp inside
    decide
  have kept : part ∈ (ofText path).names := by
    rw [names_ofText]
    exact List.mem_filter.mpr ⟨listed, by simpa using single⟩
  have some : (ofText path).names ≠ [] := List.ne_nil_of_mem kept
  rw [← List.dropLast_append_getLast some, List.mem_append, List.mem_singleton] at kept
  rcases kept with before | rfl
  · refine parent point ?_
    have filled : (ofText path).names.dropLast ≠ [] := List.ne_nil_of_mem before
    unfold toText Path.parent
    dsimp only
    rw [if_neg (by simp [filled])]
    exact List.mem_append_right _ (mem_join before inside)
  · refine name point ?_
    unfold Path.name
    rw [List.getLast?_eq_getLast_of_ne_nil some]
    exact inside

end Path

/-- An attempt that succeeds was about paths. -/
theorem Host.fault?_of_attempt_ok {α : Type} {host : Host} {call : Call} {paths : List Text}
    {effect : Tree → Except Trouble (α × Tree)} {reply : α}
    (done : (host.attempt call paths effect).1 = .ok reply) :
    ∀ path ∈ paths, Path.fault? path = none := by
  unfold attempt at done
  dsimp only at done
  split at done
  · cases done
  · split at done
    · cases done
    · rename_i proper
      exact List.findSome?_eq_none_iff.mp proper

/-- An attempt that is about paths fails as the system does. -/
theorem Host.attempt_eq_error {α : Type} {host : Host} {call : Call} {paths : List Text}
    {effect : Tree → Except Trouble (α × Tree)} {fault : CallError}
    (proper : ∀ path ∈ paths, Path.fault? path = none)
    (failed : (host.attempt call paths effect).1 = .error fault) :
    ∃ error, fault = .system error := by
  unfold attempt at failed
  rw [List.findSome?_eq_none_iff.mpr proper] at failed
  dsimp only at failed
  split at failed
  · cases failed
    exact ⟨_, rfl⟩
  · split at failed
    · cases failed
      exact ⟨_, rfl⟩
    · cases failed

/-- The path of a temporary file is a path if the mark in its name is one. -/
theorem Host.fault?_of_answer_createTemporary {host : Host} {directory stem temporary : Text}
    (made : (host.answer (.createTemporary directory stem)).1 = .ok temporary)
    (marks : ∀ index, Path.fault? (host.marks index) = none) :
    Path.fault? temporary = none ∧ Path.fault? stem = none := by
  obtain ⟨index, rfl, -⟩ := answer_createTemporary_ok made
  have unmarked : Path.fault? (host.temporaryPath directory stem []) = none := by
    unfold answer at made
    dsimp only at made
    split at made
    · cases made
    · split at made
      · cases made
      · assumption
  unfold temporaryPath at unmarked ⊢
  simp only [Path.fault?_append] at unmarked ⊢
  obtain ⟨⟨before, -⟩, after⟩ := unmarked
  exact ⟨⟨⟨before, marks index⟩, after⟩, before.1.2⟩

/-- There is nothing wrong with the path of a directory that was made or found. -/
theorem Directory.Ensured.fault? {path : Text} {host : Host} (ensured : Ensured path host) :
    Path.fault? path = none := by
  rcases ensured with ⟨before, made⟩ | found
  · exact Host.fault?_of_attempt_ok (Prod.ext_iff.mp made).1 path (List.mem_singleton.mpr rfl)
  · unfold Host.answer at found
    dsimp only at found
    cases proper : Path.fault? path with
    | none => rfl
    | some fault =>
      rw [proper] at found
      cases found

end Keyring
