/-!
# Text and bytes

Text is a list of code points. A code point is any number below `0x110000`, so text may hold a
surrogate on its own: such text is a value like any other and only fails when it has to be encoded.
Bytes are a list of octets.

Every part of the library that cuts a list at a separator uses the two functions of this module:
`splitFirst` cuts once, at the first separator, and `splitAll` cuts at each. Cutting loses nothing
(`splitFirst_eq_some_iff`, `intercalate_splitAll`).
-/

namespace Keyring

/-- A number of the code space, surrogates included. -/
abbrev CodePoint := Fin 0x110000

/-- There are code points. Which instance says so is settled here, since numbers are read as code
points by it: they are the same terms then whatever else a module imports. -/
instance codeSpace_neZero : @NeZero Nat Zero.ofOfNat0 0x110000 := ⟨Nat.succ_ne_zero 0x10FFFF⟩

/-- A sequence of code points. -/
abbrev Text := List CodePoint

/-- A sequence of octets. -/
abbrev Bytes := List UInt8

/-- What a caller may give as text or as octets. -/
inductive Given where
  | ofText (text : Text)
  | ofBytes (bytes : Bytes)
  deriving DecidableEq, Repr

namespace CodePoint

/-- The code point of a number, which counts from zero again above the greatest. -/
def ofNat (value : Nat) : CodePoint :=
  Fin.ofNat 0x110000 value

/-- The code point of a character. -/
def ofChar (character : Char) : CodePoint :=
  ⟨character.toNat, by
    have valid := character.valid
    unfold UInt32.isValidChar Nat.isValidChar at valid
    simp only [Char.toNat]
    omega⟩

instance : Coe Char CodePoint := ⟨ofChar⟩

/-- The code points that stand for no character on their own. -/
def isSurrogate (point : CodePoint) : Bool :=
  0xD800 ≤ point.val && point.val ≤ 0xDFFF

/-- The code points below 128. -/
def isAscii (point : CodePoint) : Bool :=
  point.val < 128

/-- The ten digits of ASCII. -/
def isAsciiDigit (point : CodePoint) : Bool :=
  48 ≤ point.val && point.val ≤ 57

/-- The character of a code point, a replacement character for a surrogate. -/
def toChar (point : CodePoint) : Char :=
  if point.isSurrogate then Char.ofNat 0xFFFD else Char.ofNat point.val

/-- Lower case for the letters of ASCII, and every other code point as it is. -/
def toLowerAscii (point : CodePoint) : CodePoint :=
  if 65 ≤ point.val && point.val ≤ 90 then CodePoint.ofNat (point.val + 32) else point

end CodePoint

namespace Text

/-- The text of a string. -/
def lit (string : String) : Text :=
  string.toList.map CodePoint.ofChar

/-- The string of a text, with replacement characters for surrogates. -/
def toString (text : Text) : String :=
  String.ofList (text.map CodePoint.toChar)

/-- The order of texts by their code points, the shorter first of two that agree. -/
def le : Text → Text → Bool
  | [], _ => true
  | _ :: _, [] => false
  | first :: rest, second :: others =>
    first < second || (first == second && le rest others)

/-- The text with `filler` on the right up to `width` code points. -/
def padRight (width : Nat) (filler : CodePoint) (text : Text) : Text :=
  text ++ List.replicate (width - text.length) filler

/-- The texts one after another with `separator` between any two. -/
def join (separator : Text) (texts : List Text) : Text :=
  separator.intercalate texts

end Text

/-- The parts before and after the first separator, if there is one. -/
def splitFirst {α : Type} [DecidableEq α] (separator : α) : List α → Option (List α × List α)
  | [] => none
  | first :: rest =>
    if first = separator then some ([], rest)
    else (splitFirst separator rest).map fun (before, after) => (first :: before, after)

/-- The parts between the separators: always one part more than there are separators. -/
def splitAll {α : Type} [DecidableEq α] (separator : α) : List α → List (List α)
  | [] => [[]]
  | first :: rest =>
    if first = separator then [] :: splitAll separator rest
    else
      match splitAll separator rest with
      | [] => [[first]]
      | part :: parts => (first :: part) :: parts

/-- A list is cut at the first separator: there is none before the cut, and nothing is lost. -/
theorem splitFirst_eq_some_iff {α : Type} [DecidableEq α] {separator : α}
    {list before after : List α} :
    splitFirst separator list = some (before, after) ↔
      list = before ++ separator :: after ∧ separator ∉ before := by
  induction list generalizing before with
  | nil => simp [splitFirst]
  | cons first rest ih =>
    by_cases same : first = separator
    · subst same
      cases before with
      | nil => simp [splitFirst]
      | cons head tail =>
        simp only [splitFirst, if_pos, Option.some.injEq, Prod.mk.injEq, List.cons_append,
          List.cons.injEq, List.mem_cons, not_or]
        constructor
        · rintro ⟨absurd, -⟩
          cases absurd
        · rintro ⟨⟨absurd, -⟩, other, -⟩
          exact (other absurd).elim
    · cases before with
      | nil => simp [splitFirst, same]
      | cons head tail =>
        simp only [splitFirst, if_neg same, Option.map_eq_some_iff, Prod.exists, Prod.mk.injEq,
          List.cons.injEq, List.cons_append, List.mem_cons, not_or]
        constructor
        · rintro ⟨start, stop, found, ⟨rfl, rfl⟩, rfl⟩
          obtain ⟨whole, fresh⟩ := ih.mp found
          exact ⟨⟨rfl, whole⟩, fun equal => same equal.symm, fresh⟩
        · rintro ⟨⟨rfl, whole⟩, -, fresh⟩
          exact ⟨tail, after, ih.mpr ⟨whole, fresh⟩, ⟨rfl, rfl⟩, rfl⟩

/-- A list without the separator is not cut, and only such a list is not. -/
theorem splitFirst_eq_none_iff {α : Type} [DecidableEq α] {separator : α} {list : List α} :
    splitFirst separator list = none ↔ separator ∉ list := by
  induction list with
  | nil => simp [splitFirst]
  | cons first rest ih =>
    by_cases same : first = separator
    · simp [splitFirst, same]
    · simp [splitFirst, same, ih, Ne.symm same]

/-- There is always a first part. -/
theorem splitAll_ne_nil {α : Type} [DecidableEq α] (separator : α) (list : List α) :
    splitAll separator list ≠ [] := by
  cases list with
  | nil => simp [splitAll]
  | cons first rest =>
    unfold splitAll
    split
    · simp
    · split <;> simp

/-- Cutting loses nothing but the separators. -/
theorem intercalate_splitAll {α : Type} [DecidableEq α] (separator : α) (list : List α) :
    [separator].intercalate (splitAll separator list) = list := by
  induction list with
  | nil => simp [splitAll, List.intercalate]
  | cons first rest ih =>
    unfold splitAll
    cases parts : splitAll separator rest with
    | nil => exact absurd parts (splitAll_ne_nil separator rest)
    | cons part others =>
      rw [parts] at ih
      split
      · rename_i same
        rw [← ih, same]
        simp [List.intercalate]
      · rw [← ih]
        cases others <;> simp [List.intercalate]

/-- No part holds a separator. -/
theorem not_mem_of_mem_splitAll {α : Type} [DecidableEq α] {separator : α} {list part : List α}
    (member : part ∈ splitAll separator list) : separator ∉ part := by
  induction list generalizing part with
  | nil => simp_all [splitAll]
  | cons first rest ih =>
    unfold splitAll at member
    split at member
    · rcases List.mem_cons.mp member with rfl | member
      · simp
      · exact ih member
    · rename_i different
      split at member
      · simp_all [Ne.symm different]
      · rename_i start others parts
        rcases List.mem_cons.mp member with rfl | member
        · have fresh := @ih start (by simp [parts])
          simp [Ne.symm different, fresh]
        · exact ih (by simp [parts, member])

end Keyring
