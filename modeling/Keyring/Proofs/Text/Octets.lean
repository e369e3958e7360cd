import Keyring.Text.Utf8.RoundTrip

/-!
# Octets of ASCII in UTF-8

An octet below 128 stands in the octets of a text only where the code point of the same number
stands in the text (`mem_octets_iff`). So whatever is cut at such an octet is cut between two
characters. Different texts have different octets (`octets_inj`).
-/

namespace Keyring

namespace Utf8

/-- No octet of a code point beyond ASCII is one of ASCII. -/
theorem le_of_mem_encodePoint {octet : UInt8} {point : CodePoint} (beyond : 0x80 ≤ point.val)
    (member : octet ∈ encodePoint point) : 0x80 ≤ octet.toNat := by
  have bound := point.isLt
  have high : ∀ value, 0x80 ≤ value → value < 256 → 0x80 ≤ (UInt8.ofNat value).toNat :=
    fun value least most => by rwa [toNat_octet most]
  unfold encodePoint at member
  dsimp only at member
  rw [if_neg (by omega)] at member
  split at member
  · rcases List.mem_cons.mp member with rfl | member
    · exact high _ (by omega) (by omega)
    · rw [List.mem_singleton.mp member]
      exact high _ (by omega) (by omega)
  · split at member
    · simp only [List.mem_cons, List.not_mem_nil, or_false] at member
      rcases member with rfl | rfl | rfl <;> exact high _ (by omega) (by omega)
    · simp only [List.mem_cons, List.not_mem_nil, or_false] at member
      rcases member with rfl | rfl | rfl | rfl <;> exact high _ (by omega) (by omega)

/-- The octets of a code point hold an octet of ASCII exactly if it is the code point. -/
theorem mem_encodePoint_iff {octet : UInt8} {point : CodePoint} (ascii : octet.toNat < 0x80) :
    octet ∈ encodePoint point ↔ octet.toNat = point.val := by
  by_cases low : point.val < 0x80
  · have single : encodePoint point = [UInt8.ofNat point.val] := if_pos low
    rw [single, List.mem_singleton, ← UInt8.toNat_inj, toNat_octet (by omega)]
  · constructor
    · intro member
      have := le_of_mem_encodePoint (by omega) member
      omega
    · omega

/-- The octets of a text hold an octet of ASCII exactly if the text holds its code point. -/
theorem mem_octets_iff {octet : UInt8} {text : Text} (ascii : octet.toNat < 0x80) :
    octet ∈ octets text ↔ ∃ point ∈ text, point.val = octet.toNat := by
  simp only [octets, List.mem_flatMap, mem_encodePoint_iff ascii, eq_comm]

/-- An octet of ASCII is none of a text exactly if its code point is not in the text. -/
theorem not_mem_octets_iff {octet : UInt8} {point : CodePoint} {text : Text}
    (ascii : octet.toNat < 0x80) (same : point.val = octet.toNat) :
    octet ∉ octets text ↔ point ∉ text := by
  rw [mem_octets_iff ascii, ← same]
  simp only [Fin.val_inj, exists_eq_right]

/-- Text without surrogates is told from any other by its octets. -/
theorem octets_inj {text other : Text} (encodable : isEncodable text = true)
    (encodable' : isEncodable other = true) (same : octets text = octets other) : text = other := by
  have read := decode_octets encodable
  rw [same, decode_octets encodable'] at read
  exact (Except.ok.inj read).symm

/-- Only the empty text has no octets. -/
theorem octets_isEmpty (text : Text) : (octets text).isEmpty = text.isEmpty := by
  cases text with
  | nil => rfl
  | cons point rest =>
    have octets_of : encodePoint point ≠ [] := by
      unfold encodePoint
      dsimp only
      split
      · simp
      · split
        · simp
        · split <;> simp
    simp [octets, octets_of]

/-- Every text but the empty one has octets. -/
theorem octets_ne_nil_iff {text : Text} : octets text ≠ [] ↔ text ≠ [] := by
  rw [← List.isEmpty_eq_false_iff, ← List.isEmpty_eq_false_iff, octets_isEmpty]

end Utf8

/-! ## Cutting and joining -/

/-- What stands on both sides of a separator is cut by itself. -/
theorem splitAll_append_cons {α : Type} [DecidableEq α] (separator : α) (before after : List α) :
    splitAll separator (before ++ separator :: after) =
      splitAll separator before ++ splitAll separator after := by
  induction before with
  | nil => simp [splitAll]
  | cons first rest ih =>
    rw [List.cons_append, splitAll, splitAll]
    split
    · rw [ih, List.cons_append]
    · rw [ih]
      cases cut : splitAll separator rest with
      | nil => exact absurd cut (splitAll_ne_nil separator rest)
      | cons part parts => rfl

/-- A list without separators is the only part. -/
theorem splitAll_of_not_mem {α : Type} [DecidableEq α] {separator : α} {part : List α}
    (fresh : separator ∉ part) : splitAll separator part = [part] := by
  induction part with
  | nil => rfl
  | cons first others ih =>
    obtain ⟨different, fresh⟩ := not_or.mp (mt List.mem_cons.mpr fresh)
    rw [splitAll, if_neg (Ne.symm different), ih fresh]

/-- A part without separators that ends with one is the first part. -/
theorem splitAll_append {α : Type} [DecidableEq α] {separator : α} {part : List α}
    (rest : List α) (fresh : separator ∉ part) :
    splitAll separator (part ++ separator :: rest) = part :: splitAll separator rest := by
  rw [splitAll_append_cons, splitAll_of_not_mem fresh, List.singleton_append]

/-- Parts without separators are cut again where they were put together. -/
theorem splitAll_intercalate {α : Type} [DecidableEq α] {separator : α} {parts : List (List α)}
    (filled : parts ≠ []) (fresh : ∀ part ∈ parts, separator ∉ part) :
    splitAll separator ([separator].intercalate parts) = parts := by
  induction parts with
  | nil => contradiction
  | cons part others ih =>
    obtain ⟨here, later⟩ := List.forall_mem_cons.mp fresh
    cases others with
    | nil => rw [List.intercalate_singleton, splitAll_of_not_mem here]
    | cons second others =>
      rw [List.intercalate_cons_cons, List.append_assoc, List.singleton_append,
        splitAll_append _ here, ih (List.cons_ne_nil _ _) later]

/-- What stands in the whole stands in a separator or in a part. -/
theorem mem_or_of_mem_intercalate {α : Type} {separator : List α} {parts : List (List α)}
    {value : α} (member : value ∈ separator.intercalate parts) :
    value ∈ separator ∨ ∃ part ∈ parts, value ∈ part := by
  induction parts with
  | nil => cases member
  | cons part others ih =>
    cases others with
    | nil =>
      rw [List.intercalate_singleton] at member
      exact .inr ⟨part, List.mem_cons_self .., member⟩
    | cons second others =>
      rw [List.intercalate_cons_cons, List.mem_append, List.mem_append] at member
      rcases member with (inside | between) | later
      · exact .inr ⟨part, List.mem_cons_self .., inside⟩
      · exact .inl between
      · obtain between | ⟨other, listed, inside⟩ := ih later
        · exact .inl between
        · exact .inr ⟨other, .tail _ listed, inside⟩

/-- With a separator after each, the parts are the list with a separator after it. -/
theorem flatMap_splitAll {α : Type} [DecidableEq α] (separator : α) (list : List α) :
    (splitAll separator list).flatMap (· ++ [separator]) = list ++ [separator] := by
  induction list with
  | nil => simp [splitAll]
  | cons first rest ih =>
    rw [splitAll]
    split
    · rename_i same
      rw [List.flatMap_cons, ih, same]
      rfl
    · cases cut : splitAll separator rest with
      | nil => exact absurd cut (splitAll_ne_nil separator rest)
      | cons part parts =>
        rw [cut, List.flatMap_cons] at ih
        rw [List.flatMap_cons, List.cons_append, List.cons_append, ih, List.cons_append]

/-- Only between separators alone every part is empty. -/
theorem forall_splitAll_eq_nil_iff {α : Type} [DecidableEq α] {separator : α} {list : List α} :
    (∀ part ∈ splitAll separator list, part = []) ↔ ∀ value ∈ list, value = separator := by
  induction list with
  | nil => simp [splitAll]
  | cons first rest ih =>
    rw [List.forall_mem_cons, splitAll]
    by_cases same : first = separator
    · rw [if_pos same, List.forall_mem_cons, ih]
      simp [same]
    · rw [if_neg same]
      split <;> simp [same]

/-- What stands on both sides of the first separator is told from the whole. -/
theorem append_cons_inj {α : Type} [DecidableEq α] {separator : α} {before other after rest : List α}
    (fresh : separator ∉ before) (fresh' : separator ∉ other)
    (same : before ++ separator :: after = other ++ separator :: rest) :
    before = other ∧ after = rest := by
  have cut := splitFirst_eq_some_iff.mpr ⟨same, fresh'⟩
  rw [splitFirst_eq_some_iff.mpr ⟨rfl, fresh⟩] at cut
  simpa using cut

end Keyring
