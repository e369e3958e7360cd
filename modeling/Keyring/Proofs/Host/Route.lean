import Mathlib.Tactic.ByContra
import Keyring.Proofs.Host.Tree
import Keyring.Proofs.Text.Octets

/-!
# The names that a path writes

A path is a text, and a tree goes by names. `parts` are the texts of the names, and `namesOf` their
octets. What is done to paths as texts, to find the directory of a file or to name a file beside it,
is told here in terms of names.
-/

namespace Keyring

namespace Name

/-- An octet of ASCII stands in a name where its code point stands in the text. -/
theorem mem_octetsOf_iff {octet : UInt8} {point : CodePoint} (ascii : octet.toNat < 0x80) :
    octet ∈ octetsOf point ↔ octet.toNat = point.val := by
  unfold octetsOf
  split
  · rename_i escape
    simp only [isEscape, Bool.and_eq_true, decide_eq_true_eq] at escape
    rw [List.mem_singleton, ← UInt8.toNat_inj, Utf8.toNat_octet (by omega)]
    omega
  · exact Utf8.mem_encodePoint_iff ascii

/-- Every code point stands for octets. -/
theorem octetsOf_ne_nil (point : CodePoint) : octetsOf point ≠ [] := by
  unfold octetsOf
  split
  · simp
  · simpa [Utf8.octets] using Utf8.octets_isEmpty [point]

/-- Only the empty text writes the empty name. -/
theorem ofText_eq_nil {text : Text} : ofText text = [] ↔ text = [] := by
  cases text with
  | nil => simp [ofText]
  | cons point rest => simp [ofText, octetsOf_ne_nil]

@[simp]
theorem ofText_append (text more : Text) : ofText (text ++ more) = ofText text ++ ofText more :=
  List.flatMap_append

/-- Only a dot writes the name of a dot. -/
theorem ofText_eq_dot {text : Text} : ofText text = dot ↔ text = Path.dot := by
  constructor
  · intro same
    cases text with
    | nil => cases same
    | cons point rest =>
      have cut : octetsOf point ++ ofText rest = [46] := same
      rcases List.append_eq_singleton_iff.mp cut with ⟨none, -⟩ | ⟨single, none⟩
      · exact absurd none (octetsOf_ne_nil point)
      · have value : (46 : UInt8).toNat = point.val :=
          (mem_octetsOf_iff (by decide)).mp (single ▸ List.mem_cons_self ..)
        obtain rfl : point = 46 := Fin.ext value.symm
        rw [ofText_eq_nil.mp none]
        rfl
  · rintro rfl
    rfl

end Name

namespace Path

/-- The texts between the slashes of a path, as far as there are any. -/
def parts (path : Text) : List Text :=
  (splitAll separator path).filter fun name => !name.isEmpty

/-- Parts are names that may stand between slashes. -/
theorem of_mem_parts {path name : Text} (member : name ∈ parts path) :
    name ≠ [] ∧ separator ∉ name := by
  obtain ⟨cut, filled⟩ := List.mem_filter.mp member
  exact ⟨by simpa using filled, not_mem_of_mem_splitAll cut⟩

/-- The parts before a slash come before those after it. -/
theorem parts_append_cons (before after : Text) :
    parts (before ++ separator :: after) = parts before ++ parts after := by
  rw [parts, splitAll_append_cons, List.filter_append]
  rfl

@[simp]
theorem parts_nil : parts [] = [] := rfl

/-- A slash at the start makes no part. -/
@[simp]
theorem parts_cons_separator (path : Text) : parts (separator :: path) = parts path :=
  parts_append_cons [] path

/-- A name without slashes is a part. -/
theorem parts_name {name : Text} (filled : name ≠ []) (single : separator ∉ name) :
    parts name = [name] := by
  rw [parts, splitAll_of_not_mem single]
  simpa using filled

/-- Names between slashes are the parts. -/
theorem parts_join {names : List Text} (each : ∀ name ∈ names, name ≠ [] ∧ separator ∉ name) :
    parts (Text.join [separator] names) = names := by
  cases names with
  | nil => rfl
  | cons name others =>
    rw [parts, Text.join, splitAll_intercalate (List.cons_ne_nil _ _) fun name member =>
      (each name member).2]
    refine List.filter_eq_self.mpr fun name member => ?_
    simpa using (each name member).1

/-- A path passes over single dots. -/
theorem names_ofText (path : Text) : (ofText path).names = (parts path).filter (· ≠ dot) := by
  simp [ofText, parts, List.filter_filter, Bool.and_comm]

/-- A root has no parts. -/
theorem parts_rootOf (path rest : Text) : parts (rootOf path ++ rest) = parts rest := by
  unfold rootOf
  split <;> simp

/-- A path starts with a slash exactly if it has a root. -/
theorem rootOf_eq_nil_iff {path : Text} : rootOf path = [] ↔ path.head? ≠ some separator := by
  unfold rootOf
  cases path with
  | nil => simp
  | cons first rest =>
    by_cases slash : first = separator
    · subst slash
      simp only [List.takeWhile_cons]
      split <;> simp_all
    · simp [slash]

/-- What comes after the root of a path is no root. -/
theorem head?_rootOf_append (path : Text) {rest : Text} (other : rest.head? ≠ some separator) :
    (rootOf path ++ rest).head? = some separator ↔ path.head? = some separator := by
  by_cases root : rootOf path = []
  · rw [root]
    simp [other, rootOf_eq_nil_iff.mp root]
  · have rooted : path.head? = some separator := by
      by_contra unrooted
      exact root (rootOf_eq_nil_iff.mpr unrooted)
    simp only [rooted, iff_true]
    unfold rootOf at root ⊢
    split <;> simp_all

/-- Names between slashes do not start with one. -/
theorem head?_join {names : List Text} (each : ∀ name ∈ names, name ≠ [] ∧ separator ∉ name) :
    (Text.join [separator] names).head? ≠ some separator := by
  cases names with
  | nil => simp [Text.join]
  | cons name others =>
    obtain ⟨filled, single⟩ := each name (List.mem_cons_self ..)
    cases name with
    | nil => exact absurd rfl filled
    | cons first rest =>
      have different : first ≠ separator := fun same => single (same ▸ List.mem_cons_self ..)
      cases others <;> simp [Text.join, List.intercalate_cons_cons, different]

/-- A path that is put together from a root and names has these names. The current directory is a
dot. -/
theorem parts_toText (path : Text) {names : List Text}
    (each : ∀ name ∈ names, name ≠ [] ∧ separator ∉ name) :
    parts (toText ⟨rootOf path, names⟩) = names ∨
      (names = [] ∧ parts (toText ⟨rootOf path, names⟩) = [dot]) := by
  unfold toText
  split
  · rename_i blank
    simp only [Bool.and_eq_true, List.isEmpty_iff] at blank
    exact .inr ⟨blank.2, rfl⟩
  · exact .inl (by rw [parts_rootOf, parts_join each])

/-- A path that is put together from the root of another starts where that one does. -/
theorem head?_toText (path : Text) {names : List Text}
    (each : ∀ name ∈ names, name ≠ [] ∧ separator ∉ name) :
    (toText ⟨rootOf path, names⟩).head? = some separator ↔ path.head? = some separator := by
  unfold toText
  split
  · rename_i blank
    simp only [Bool.and_eq_true, List.isEmpty_iff] at blank
    exact iff_of_false (by decide) (rootOf_eq_nil_iff.mp blank.1)
  · exact head?_rootOf_append path (head?_join each)

end Path

namespace Tree

/-- The names of a path are those of its parts. -/
theorem namesOf_eq (path : Text) : namesOf path = (Path.parts path).map Name.ofText := rfl

/-- The names of a path without single dots. -/
theorem map_names_ofText (path : Text) :
    (Path.ofText path).names.map Name.ofText = (namesOf path).filter (· ≠ Name.dot) := by
  rw [Path.names_ofText, namesOf_eq, List.filter_map]
  congr 2
  funext name
  simp [Name.ofText_eq_dot]

/-- A path that is put together from the root of another starts where that one does. -/
theorem startOf_toText (current : Place) (path : Text) {names : List Text}
    (each : ∀ name ∈ names, name ≠ [] ∧ Path.separator ∉ name) :
    startOf current (Path.toText ⟨Path.rootOf path, names⟩) = startOf current path := by
  simp only [startOf, Path.head?_toText path each]

/-- A path that is put together from a root and names leads where the names lead. -/
theorem walk_toText (tree : Tree) (here : Place) (path : Text) {names : List Text}
    (each : ∀ name ∈ names, name ≠ [] ∧ Path.separator ∉ name) :
    tree.walk here (namesOf (Path.toText ⟨Path.rootOf path, names⟩)) =
      tree.walk here (names.map Name.ofText) := by
  rw [namesOf_eq]
  rcases Path.parts_toText path each with same | ⟨rfl, same⟩
  · rw [same]
  · rw [same]
    rfl

/-- The last name of a path that is put together is the last one of its names, or a dot. -/
theorem map_ofText_of_getLast? {path : Text} {names : List Text} {last : Name}
    (each : ∀ name ∈ names, name ≠ [] ∧ Path.separator ∉ name)
    (found : (namesOf (Path.toText ⟨Path.rootOf path, names⟩)).getLast? = some last)
    (notDot : last ≠ Name.dot) :
    names.map Name.ofText =
      (namesOf (Path.toText ⟨Path.rootOf path, names⟩)).dropLast ++ [last] := by
  rw [List.dropLast_append_getLast? last found, namesOf_eq]
  rcases Path.parts_toText path each with same | ⟨rfl, same⟩
  · rw [same]
  · rw [namesOf_eq, same] at found
    exact absurd (Option.some.inj found).symm notDot

end Tree

end Keyring
