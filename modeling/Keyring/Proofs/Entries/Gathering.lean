import Mathlib.Data.List.Induction
import Keyring.Proofs.Entries.Storable

/-!
# Entries put one after another

Whoever puts one entry after another ends up with each id once, where it was put first, with the hash
that it was put with last (`putAll_nil`). If no id is put twice, that is everything that was put
(`gathered_of_nodup`).
-/

namespace Keyring.Entries

/-- Texts and their hashes as entries. -/
def ofPairs (pairs : List (Text × Bytes)) : Entries :=
  pairs.map fun (id, hash) => (.ofText id, .ofBytes hash)

/-- Each id once, in the order in which they are listed first, with the hash that is listed last. -/
def gathered (pairs : List (Text × Bytes)) : List (Text × Bytes) :=
  (pairs.map Prod.fst).eraseDups.filterMap fun id => pairs.reverse.find? (·.1 = id)

/-- Puts one entry after another. -/
def putAll (entries : Entries) (pairs : List (Text × Bytes)) : Entries :=
  pairs.foldl (fun entries pair => Named.put (.ofText pair.1) (.ofBytes pair.2) entries) entries

variable {pairs : List (Text × Bytes)}

/-! ## Values that come twice -/

/-- A value that was there before comes no second time. -/
theorem eraseDups_concat {α : Type} [BEq α] [LawfulBEq α] (list : List α) (last : α) :
    (list ++ [last]).eraseDups =
      if last ∈ list then list.eraseDups else list.eraseDups ++ [last] := by
  rw [List.eraseDups_append, List.removeAll]
  by_cases member : last ∈ list <;> simp [member, List.eraseDups_cons]

theorem nodup_eraseDups {α : Type} [BEq α] [LawfulBEq α] (list : List α) :
    list.eraseDups.Nodup := by
  induction list using List.reverseRecOn with
  | nil => simp
  | append_singleton list last ih =>
    rw [eraseDups_concat]
    split
    · exact ih
    · rename_i fresh
      rw [List.nodup_append]
      refine ⟨ih, by simp, ?_⟩
      rintro other member _ (⟨⟩ | ⟨_, ⟨⟩⟩) rfl
      exact fresh (List.mem_eraseDups.mp member)

theorem eraseDups_of_nodup {α : Type} [BEq α] [LawfulBEq α] {list : List α} (once : list.Nodup) :
    list.eraseDups = list := by
  induction list using List.reverseRecOn with
  | nil => rfl
  | append_singleton list last ih =>
    obtain ⟨once, -, apart⟩ := List.nodup_append.mp once
    have fresh : last ∉ list := fun member => apart last member last (List.mem_singleton.mpr rfl) rfl
    rw [eraseDups_concat, if_neg fresh, ih once]

/-! ## What is put -/

/-- A table without a name twice is what is found under its names. -/
theorem filterMap_get?_names {α : Type} {named : Named α}
    (once : (named.names.map Cell.identity).Nodup) :
    named.names.filterMap (fun name => (named.get? name).map (name, ·)) = named := by
  induction named with
  | nil => rfl
  | cons pair others ih =>
    obtain ⟨name, value⟩ := pair
    obtain ⟨fresh, once⟩ := List.nodup_cons.mp once
    have first : Named.get? name ((name, value) :: others) = some value := by
      rw [Named.get?, if_pos rfl]
    have rest : ∀ other ∈ Named.names others,
        (Named.get? other ((name, value) :: others)).map (other, ·) =
          (Named.get? other others).map (other, ·) := by
      intro other member
      have different : name.identity ≠ other.identity :=
        fun same => fresh (same ▸ List.mem_map_of_mem member)
      rw [Named.get?, if_neg different]
    show List.filterMap _ (name :: Named.names others) = _
    rw [List.filterMap_cons, first, List.filterMap_congr rest, ih once]
    rfl

/-- The hash of an id is the one that is put last. -/
theorem get?_putAll (pairs : List (Text × Bytes)) (id : Text) :
    (putAll [] pairs).get? (.ofText id) =
      (pairs.reverse.find? (·.1 = id)).map fun pair => .ofBytes pair.2 := by
  induction pairs using List.reverseRecOn with
  | nil => rfl
  | append_singleton pairs pair ih =>
    rw [putAll, List.foldl_concat, ← putAll, Named.get?_put, ih, List.reverse_concat,
      List.find?_cons]
    by_cases same : pair.1 = id
    · simp [same]
    · simp [same, Ne.symm same]

/-- Ids stand in the order in which they are put first. -/
theorem names_putAll (pairs : List (Text × Bytes)) :
    (putAll [] pairs).names = (pairs.map Prod.fst).eraseDups.map .ofText := by
  induction pairs using List.reverseRecOn with
  | nil => rfl
  | append_singleton pairs pair ih =>
    have known : (putAll [] pairs).contains (.ofText pair.1) = true ↔ pair.1 ∈ pairs.map Prod.fst := by
      rw [Named.contains, get?_putAll, Option.isSome_map, List.find?_isSome]
      simp
    rw [putAll, List.foldl_concat, ← putAll, Named.names_put, ih, List.map_append, List.map_singleton,
      eraseDups_concat]
    by_cases member : pair.1 ∈ pairs.map Prod.fst
    · rw [if_pos (known.mpr member), if_pos member]
    · rw [if_neg (mt known.mp member), if_neg member, List.map_append, List.map_singleton]

/-- What is put one after another is what is gathered of it. -/
theorem putAll_nil (pairs : List (Text × Bytes)) : putAll [] pairs = ofPairs (gathered pairs) := by
  have once : ((putAll [] pairs).names.map Cell.identity).Nodup := by
    rw [names_putAll, List.map_map]
    refine (nodup_eraseDups (pairs.map Prod.fst)).map ?_
    intro id other same
    simpa using same
  have found (id : Text) :
      (((putAll [] pairs).get? (.ofText id)).map (Prod.mk (Cell.ofText id))) =
        (pairs.reverse.find? (·.1 = id)).map fun pair => (.ofText pair.1, .ofBytes pair.2) := by
    rw [get?_putAll, Option.map_map]
    cases sought : pairs.reverse.find? (·.1 = id) with
    | none => rfl
    | some pair =>
      have same : pair.1 = id := by simpa using List.find?_some sought
      rw [← same]
      rfl
  rw [← filterMap_get?_names once, names_putAll, List.filterMap_map, ofPairs, gathered,
    List.map_filterMap]
  exact List.filterMap_congr fun id _ => found id

/-- Whoever puts anything has entries. -/
theorem putAll_nil_eq_nil_iff : putAll [] pairs = [] ↔ pairs = [] := by
  refine ⟨fun empty => ?_, fun empty => empty ▸ rfl⟩
  have unnamed : ((pairs.map Prod.fst).eraseDups.map .ofText : List Cell) = [] := by
    rw [← names_putAll, empty]
    rfl
  refine List.eq_nil_iff_forall_not_mem.mpr fun pair member => ?_
  have named : pair.1 ∈ (pairs.map Prod.fst).eraseDups :=
    List.mem_eraseDups.mpr (List.mem_map_of_mem member)
  rw [List.map_eq_nil_iff.mp unnamed] at named
  exact List.not_mem_nil named

/-- Acceptable entries can be put one after another. -/
theorem Storable.after_putAll {entries : Entries} (storable : entries.Storable)
    (acceptable : ∀ pair ∈ pairs, isAcceptable pair.1 pair.2 = true) :
    (putAll entries pairs).Storable := by
  induction pairs generalizing entries with
  | nil => exact storable
  | cons pair pairs ih =>
    obtain ⟨first, rest⟩ := List.forall_mem_cons.mp acceptable
    exact ih (storable.put first) rest

/-! ## What is gathered -/

/-- Nothing is gathered that was not listed. -/
theorem mem_of_mem_gathered {pair : Text × Bytes} (member : pair ∈ gathered pairs) :
    pair ∈ pairs := by
  obtain ⟨id, -, found⟩ := List.mem_filterMap.mp member
  exact List.mem_reverse.mp (List.mem_of_find?_eq_some found)

/-- An id that is listed is found from behind. -/
theorem exists_find?_reverse {pair : Text × Bytes} (listed : pair ∈ pairs) :
    ∃ last ∈ pairs, pairs.reverse.find? (·.1 = pair.1) = some last ∧ last.1 = pair.1 := by
  cases sought : pairs.reverse.find? (·.1 = pair.1) with
  | none => simpa using List.find?_eq_none.mp sought pair (List.mem_reverse.mpr listed)
  | some last =>
    exact ⟨last, List.mem_reverse.mp (List.mem_of_find?_eq_some sought), rfl,
      by simpa using List.find?_some sought⟩

/-- Of every id that is listed, an entry is gathered. -/
theorem map_fst_gathered (pairs : List (Text × Bytes)) :
    (gathered pairs).map Prod.fst = (pairs.map Prod.fst).eraseDups := by
  have found : ∀ id ∈ (pairs.map Prod.fst).eraseDups,
      (pairs.reverse.find? (·.1 = id)).map Prod.fst = some id := by
    intro id member
    obtain ⟨pair, listed, rfl⟩ := List.mem_map.mp (List.mem_eraseDups.mp member)
    obtain ⟨last, -, found, same⟩ := exists_find?_reverse listed
    rw [found, Option.map_some, same]
  rw [gathered, List.map_filterMap, List.filterMap_congr found, List.filterMap_some]

/-- No id is gathered twice. -/
theorem nodup_gathered (pairs : List (Text × Bytes)) :
    ((gathered pairs).map Prod.fst).Nodup := by
  rw [map_fst_gathered]
  exact nodup_eraseDups _

/-- If no id is listed twice, all that is listed is gathered. -/
theorem gathered_of_nodup (once : (pairs.map Prod.fst).Nodup) : gathered pairs = pairs := by
  have found : ∀ pair ∈ pairs, pairs.reverse.find? (·.1 = pair.1) = some pair := by
    intro pair listed
    obtain ⟨last, known, found, same⟩ := exists_find?_reverse listed
    rw [found, List.inj_on_of_nodup_map once known listed same]
  rw [gathered, eraseDups_of_nodup once, List.filterMap_map]
  exact (List.filterMap_congr found).trans List.filterMap_some

end Keyring.Entries
