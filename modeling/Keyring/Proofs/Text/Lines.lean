import Mathlib.Data.List.Basic
import Keyring.Text.Lines
import Keyring.Text.Utf8

/-!
# The lines of a text that grows

Where a text ends a line, the lines of what comes after are lines of their own (`lines_append`). What
has no line end stands before the first line of what comes after it (`lines_append_of_isUnbroken`). So
whether something makes one line or more is told from the line ends in it, and a text has at least as
many lines as line feeds (`count_le_length_lines`).
-/

namespace Keyring.Text

variable {text more before line : Text} {point : CodePoint}

/-- A text holds neither line feeds nor carriage returns. -/
def IsUnbroken (text : Text) : Prop :=
  10 ∉ text ∧ 13 ∉ text

instance (text : Text) : Decidable text.IsUnbroken :=
  inferInstanceAs (Decidable (_ ∧ _))

theorem isUnbroken_append : (text ++ more).IsUnbroken ↔ text.IsUnbroken ∧ more.IsUnbroken := by
  simp only [IsUnbroken, List.mem_append, not_or]
  tauto

/-- A text of printable characters of ASCII. -/
def isPlain (text : Text) : Bool :=
  text.all fun point => 32 ≤ point.val && point.val ≤ 126

theorem isPlain_iff :
    text.isPlain = true ↔ ∀ point ∈ text, 32 ≤ point.val ∧ point.val ≤ 126 := by
  simp [isPlain]

theorem isPlain_append (text more : Text) :
    (text ++ more).isPlain = (text.isPlain && more.isPlain) :=
  List.all_append

/-- There are no line ends in plain text. -/
theorem isUnbroken_of_isPlain (plain : text.isPlain = true) : text.IsUnbroken := by
  have bounds := isPlain_iff.mp plain
  exact ⟨fun feed => absurd (bounds 10 feed).1 (by decide),
    fun mark => absurd (bounds 13 mark).1 (by decide)⟩

/-- Plain text can be encoded. -/
theorem isEncodable_of_isPlain (plain : text.isPlain = true) : Utf8.isEncodable text = true := by
  refine List.all_eq_true.mpr fun point member => ?_
  have := (isPlain_iff.mp plain point member).2
  simp only [CodePoint.isSurrogate, Bool.not_eq_true', Bool.and_eq_false_iff,
    decide_eq_false_iff_not]
  exact .inl (by omega)

/-- A text ends where a line ends, if it is not empty. -/
def IsEnded (text : Text) : Prop :=
  text = [] ∨ text.getLast? = some 10 ∨ text.getLast? = some 13

instance (text : Text) : Decidable text.IsEnded :=
  inferInstanceAs (Decidable (_ ∨ _))

/-! ## Line ends -/

theorem normalizeLineEnds_cons (single : ¬ (point = 13 ∧ text.head? = some 10)) :
    normalizeLineEnds (point :: text) =
      (if point = 13 then 10 else point) :: normalizeLineEnds text := by
  rw [normalizeLineEnds]
  rintro rest rfl rfl
  exact single ⟨rfl, rfl⟩

/-- Line ends are told one by one, unless one of two points is cut in two. -/
theorem normalizeLineEnds_append
    (whole : ¬ (text.getLast? = some 13 ∧ more.head? = some 10)) :
    normalizeLineEnds (text ++ more) = normalizeLineEnds text ++ normalizeLineEnds more := by
  fun_induction normalizeLineEnds text with
  | case1 => rfl
  | case2 rest ih =>
    rw [List.cons_append, List.cons_append, normalizeLineEnds, ih, List.cons_append]
    rintro ⟨last, first⟩
    exact whole ⟨by simp [List.getLast?_cons, last], first⟩
  | case3 point rest single ih =>
    have later : ¬ (rest.getLast? = some 13 ∧ more.head? = some 10) := by
      rintro ⟨last, first⟩
      exact whole ⟨by simp [List.getLast?_cons, last], first⟩
    rw [List.cons_append, normalizeLineEnds_cons, ih later, List.cons_append]
    rintro ⟨rfl, first⟩
    cases rest with
    | nil => exact whole ⟨rfl, first⟩
    | cons second others =>
      obtain rfl : second = 10 := Option.some.inj first
      exact single others rfl rfl

/-- No carriage return is left. -/
theorem not_mem_normalizeLineEnds (text : Text) : 13 ∉ normalizeLineEnds text := by
  fun_induction normalizeLineEnds text with
  | case1 => simp
  | case2 rest ih => simpa using ih
  | case3 point rest single ih =>
    simp only [List.mem_cons, not_or]
    refine ⟨?_, ih⟩
    split
    · decide
    · rename_i other
      exact Ne.symm other

/-- A text without line ends stays as it is. -/
theorem IsUnbroken.normalizeLineEnds_eq (unbroken : text.IsUnbroken) :
    normalizeLineEnds text = text := by
  fun_induction normalizeLineEnds text with
  | case1 => rfl
  | case2 rest ih => exact absurd (List.mem_cons_self ..) unbroken.2
  | case3 point rest single ih =>
    have other : point ≠ 13 := fun same => unbroken.2 (same ▸ List.mem_cons_self ..)
    rw [if_neg other, ih ⟨fun member => unbroken.1 (.tail _ member),
      fun member => unbroken.2 (.tail _ member)⟩]

/-- No line feed is lost. -/
theorem count_le_count_normalizeLineEnds (text : Text) :
    text.count 10 ≤ (normalizeLineEnds text).count 10 := by
  fun_induction normalizeLineEnds text with
  | case1 => exact Nat.le_refl _
  | case2 rest ih =>
    have differs : (13 : CodePoint) ≠ 10 := by decide
    rw [List.count_cons_of_ne differs, List.count_cons_self, List.count_cons_self]
    exact Nat.succ_le_succ ih
  | case3 point rest single ih =>
    rw [List.count_cons, List.count_cons]
    refine Nat.add_le_add ih ?_
    split <;> split <;> simp_all

/-- A text that ends a line ends it with a line feed once its line ends are told. -/
theorem IsEnded.normalizeLineEnds (ended : text.IsEnded) :
    normalizeLineEnds text = [] ∨ (normalizeLineEnds text).getLast? = some 10 := by
  rcases ended with rfl | feed | mark
  · exact .inl rfl
  · right
    obtain ⟨before, rfl⟩ := List.getLast?_eq_some_iff.mp feed
    by_cases cut : before.getLast? = some 13
    · obtain ⟨first, rfl⟩ := List.getLast?_eq_some_iff.mp cut
      rw [List.append_assoc, normalizeLineEnds_append (by simp)]
      exact List.getLast?_concat
    · rw [normalizeLineEnds_append fun both => cut both.1]
      exact List.getLast?_concat
  · right
    obtain ⟨before, rfl⟩ := List.getLast?_eq_some_iff.mp mark
    rw [normalizeLineEnds_append (by simp)]
    exact List.getLast?_concat

/-! ## Lines -/

theorem splitLines_ne_nil (filled : text ≠ []) : splitLines text ≠ [] := by
  cases text with
  | nil => exact absurd rfl filled
  | cons point rest =>
    rw [splitLines]
    split
    · simp
    · split <;> simp

/-- Lines that are put together are the text. -/
theorem flatten_splitLines (text : Text) : (splitLines text).flatten = text := by
  induction text with
  | nil => rfl
  | cons point rest ih =>
    rw [splitLines]
    split
    · rw [List.flatten_cons, ih]
      rfl
    · cases cut : splitLines rest with
      | nil => simpa [cut] using ih
      | cons line others => simpa [cut] using ih

/-- What comes after a line feed is on other lines. -/
theorem splitLines_append (ended : text = [] ∨ text.getLast? = some 10) (more : Text) :
    splitLines (text ++ more) = splitLines text ++ splitLines more := by
  induction text with
  | nil => rfl
  | cons point rest ih =>
    rw [List.cons_append, splitLines, splitLines]
    by_cases feed : point = 10
    · have later : rest = [] ∨ rest.getLast? = some 10 := by
        cases rest with
        | nil => exact .inl rfl
        | cons second others => simpa [List.getLast?_cons] using ended
      rw [if_pos feed, if_pos feed, ih later, List.cons_append]
    · have filled : rest ≠ [] := by
        rintro rfl
        simp [feed] at ended
      have later : rest.getLast? = some 10 := by
        obtain ⟨second, others, rfl⟩ := List.exists_cons_of_ne_nil filled
        simpa [List.getLast?_cons] using ended
      rw [if_neg feed, if_neg feed, ih (.inr later)]
      obtain ⟨line, others, cut⟩ := List.exists_cons_of_ne_nil (splitLines_ne_nil filled)
      rw [cut]
      rfl

/-- What comes after the end of a line is on other lines. -/
theorem lines_append (ended : text.IsEnded) (other : more.head? ≠ some 10) :
    lines (text ++ more) = lines text ++ lines more := by
  unfold lines
  rw [normalizeLineEnds_append fun both => other both.2,
    splitLines_append ended.normalizeLineEnds]

/-- What has no line feed stands before the first of the lines after it. -/
theorem splitLines_append_of_not_mem (unbroken : 10 ∉ before) {others : List Text}
    (cut : splitLines text = line :: others) :
    splitLines (before ++ text) = (before ++ line) :: others := by
  induction before with
  | nil => exact cut
  | cons point rest ih =>
    have other : point ≠ 10 := fun same => unbroken (same ▸ List.mem_cons_self ..)
    rw [List.cons_append, splitLines, if_neg other, ih fun member => unbroken (.tail _ member)]
    rfl

theorem lines_append_of_isUnbroken (unbroken : before.IsUnbroken) {others : List Text}
    (cut : lines text = line :: others) : lines (before ++ text) = (before ++ line) :: others := by
  have last : before.getLast? ≠ some 13 := fun last =>
    unbroken.2 (List.mem_of_getLast? last)
  unfold lines
  rw [normalizeLineEnds_append fun both => last both.1, unbroken.normalizeLineEnds_eq]
  exact splitLines_append_of_not_mem unbroken.1 cut

/-- A text without line ends that gets one is one line. -/
theorem IsUnbroken.lines_concat (unbroken : text.IsUnbroken) :
    lines (text ++ [10]) = [text ++ [10]] :=
  lines_append_of_isUnbroken unbroken rfl

/-- There is a line for each line feed. -/
theorem count_le_length_splitLines (text : Text) : text.count 10 ≤ (splitLines text).length := by
  induction text with
  | nil => exact Nat.le_refl _
  | cons point rest ih =>
    rw [splitLines]
    by_cases feed : point = 10
    · subst feed
      simpa using ih
    · rw [if_neg feed, List.count_cons_of_ne feed]
      split
      · rename_i none
        simpa [none] using Nat.le_succ_of_le ih
      · rename_i line others cut
        simpa [cut] using ih

theorem count_le_length_lines (text : Text) : text.count 10 ≤ (lines text).length :=
  Nat.le_trans (count_le_count_normalizeLineEnds text) (count_le_length_splitLines _)

/-- No line holds a carriage return. -/
theorem not_mem_of_mem_lines (member : line ∈ lines text) : 13 ∉ line := by
  intro inside
  refine not_mem_normalizeLineEnds text ?_
  rw [← flatten_splitLines (normalizeLineEnds text)]
  exact List.mem_flatten.mpr ⟨line, member, inside⟩

end Keyring.Text
