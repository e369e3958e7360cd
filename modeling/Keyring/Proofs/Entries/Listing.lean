import Mathlib.Data.List.Lex
import Mathlib.Data.List.Sort
import Mathlib.Data.Set.List
import Mathlib.Order.Fin.Basic
import Keyring.Order
import Keyring.Proofs.Entries.Storable

/-!
# Ids in order

Entries with the same ids may stand in another order, as they do after a removal that was undone.
Their ids, put in order, are the same list (`Storable.sorted_ids`), since all of them are texts and
the order of texts is a total one.
-/

namespace Keyring

/-- Texts have the order of their code points, one after another. -/
theorem Text.le_iff {text other : Text} : Text.le text other = true ↔ text ≤ other := by
  refine Iff.trans ?_ not_lt
  change _ ↔ ¬ List.Lex (· < ·) other text
  induction text generalizing other with
  | nil => simp [Text.le]
  | cons first rest ih =>
    cases other with
    | nil => simp [Text.le]
    | cons second others =>
      rw [List.cons_lex_cons_iff, not_or, not_and, not_lt, ← ih]
      rcases eq_or_ne first second with rfl | different
      · simp [Text.le]
      · simp [Text.le, different, different.symm, different.le_iff_lt]

namespace Cell

/-- Texts are put in order as texts. -/
theorem inOrder_map_ofText (texts : List Text) :
    inOrder (texts.map ofText) = (texts.mergeSort (· ≤ ·)).map ofText := by
  unfold inOrder
  refine (List.map_mergeSort fun first _ second _ => ?_).symm
  rw [le?, Option.getD_some, Bool.eq_iff_iff, Text.le_iff, decide_eq_true_iff]

/-- The same texts are the same in order. -/
theorem inOrder_map_ofText_of_perm {texts others : List Text} (same : texts.Perm others) :
    inOrder (texts.map ofText) = inOrder (others.map ofText) := by
  have perm := (List.mergeSort_perm texts (· ≤ ·)).trans
    (same.trans (List.mergeSort_perm others (· ≤ ·)).symm)
  have ordered (texts : List Text) := List.pairwise_mergeSort' (· ≤ ·) texts
  rw [inOrder_map_ofText, inOrder_map_ofText,
    perm.eq_of_pairwise' (ordered texts) (ordered others)]

end Cell

namespace Entries

variable {entries others : Entries}

/-- All ids of a file are texts, and no two of them are the same. -/
theorem Storable.ids_eq (storable : entries.Storable) :
    ∃ texts : List Text, entries.ids = texts.map .ofText ∧ texts.Nodup ∧
      ∀ text, text ∈ texts ↔ ∃ hash, entries.get? (.ofText text) = some hash := by
  obtain ⟨texts, same⟩ : entries.ids ∈ Set.range (List.map Cell.ofText) := by
    rw [Set.range_list_map]
    intro name member
    obtain ⟨entry, stored, rfl⟩ := List.mem_map.mp member
    obtain ⟨id, hash, rfl, -⟩ := storable.each entry stored
    exact ⟨id, rfl⟩
  have once : (texts.map Cell.ofText).Nodup := same ▸ storable.ids
  refine ⟨texts, same.symm, once.of_map _, fun text => ?_⟩
  have listed : text ∈ texts ↔ Cell.ofText text ∈ entries.ids := by
    rw [← same]
    simp
  rw [listed, ← Option.isSome_iff_exists, ← not_iff_not, Option.not_isSome_iff_eq_none,
    Named.get?_eq_none_iff]
  unfold Entries.ids Named.names
  simp only [List.mem_map, not_exists, not_and]
  exact forall₂_congr fun entry stored => by rw [Cell.identity_ofText, Ne, Cell.identity_eq_ofText_iff]

/-- The ids in order are texts, and each has a hash. -/
theorem Storable.sorted_eq (storable : entries.Storable) :
    ∃ texts : List Text, Cell.sorted entries.ids = .ok (texts.map .ofText) ∧
      ∀ text ∈ texts, ∃ hash, entries.get? (.ofText text) = some (.ofBytes hash) := by
  obtain ⟨texts, listed, -, stored⟩ := storable.ids_eq
  refine ⟨texts.mergeSort (· ≤ ·), ?_, fun text member => ?_⟩
  · rw [listed, Cell.sorted_map_ofText, Cell.inOrder_map_ofText]
  · obtain ⟨value, found⟩ := (stored text).mp (List.mem_mergeSort.mp member)
    obtain ⟨_, hash, -, rfl, -⟩ := storable.get?_eq_some found
    exact ⟨hash, found⟩

/-- Entries with the same ids list the same texts, each as often as the other. -/
theorem Storable.ids_perm (storable : entries.Storable) (storable' : others.Storable)
    (same : ∀ id, entries.contains id = others.contains id) :
    ∃ texts texts' : List Text, entries.ids = texts.map .ofText ∧ others.ids = texts'.map .ofText ∧
      texts.Perm texts' := by
  obtain ⟨texts, listed, once, stored⟩ := storable.ids_eq
  obtain ⟨texts', listed', once', stored'⟩ := storable'.ids_eq
  refine ⟨texts, texts', listed, listed', (List.perm_ext_iff_of_nodup once once').mpr fun text => ?_⟩
  rw [stored, stored', ← Option.isSome_iff_exists, ← Option.isSome_iff_exists]
  exact (same (.ofText text)).congr_left

/-- The same ids are the same in order. -/
theorem Storable.sorted_ids (storable : entries.Storable) (storable' : others.Storable)
    (same : ∀ id, entries.contains id = others.contains id) :
    Cell.sorted entries.ids = Cell.sorted others.ids := by
  obtain ⟨texts, texts', listed, listed', perm⟩ := storable.ids_perm storable' same
  rw [listed, listed', Cell.sorted_map_ofText, Cell.sorted_map_ofText,
    Cell.inOrder_map_ofText_of_perm perm]

/-- The same ids are equally many. -/
theorem Storable.length_eq (storable : entries.Storable) (storable' : others.Storable)
    (same : ∀ id, entries.contains id = others.contains id) : entries.length = others.length := by
  obtain ⟨texts, texts', listed, listed', perm⟩ := storable.ids_perm storable' same
  have many := congrArg List.length listed
  have many' := congrArg List.length listed'
  unfold Entries.ids Named.names at many many'
  rw [List.length_map, List.length_map] at many many'
  rw [many, many', perm.length_eq]

end Entries

end Keyring
