import Mathlib.Data.List.Nodup
import Keyring.VerdictCache

/-!
# The tags of a cache are those of its verdicts

`Tags` lets a cache forget all verdicts for an id without a search. That is right only as long as
the tags list exactly the keys under which verdicts for the id are remembered. `Tagged` says so, and
every operation of the cache keeps it: `Tagged.get`, `Tagged.put`, `Tagged.invalidate` and
`Tagged.clear`, from the cache without verdicts on.

From that follows what the operations do to the verdicts alone. `mem_invalidate` is the one that
matters most: no verdict for a forgotten id is left.
-/

namespace Keyring

/-! ## Tags by themselves -/

namespace Tags

variable {ι : Type} [BEq ι]

/-- Tags without waste: no id comes twice, and every id has keys, each once. -/
structure Tidy (tags : Tags ι) : Prop where
  ids : tags.Pairwise fun first second => (first.1 == second.1) = false
  keys : ∀ tag ∈ tags, tag.2 ≠ [] ∧ tag.2.Nodup

/-- No tags are tidy. -/
theorem Tidy.nil : Tidy ([] : Tags ι) :=
  ⟨.nil, by simp⟩

theorem Tidy.tail {tag : ι × List Bytes} {tags : Tags ι} (tidy : Tidy (tag :: tags)) :
    Tidy tags :=
  ⟨(List.pairwise_cons.mp tidy.ids).2, fun other member => tidy.keys other (.tail _ member)⟩

/-- Ids with keys that come later are different from the first one. -/
theorem Tidy.head_ne {tag other : ι × List Bytes} {tags : Tags ι} (tidy : Tidy (tag :: tags))
    (member : other ∈ tags) : (tag.1 == other.1) = false :=
  (List.pairwise_cons.mp tidy.ids).1 other member

/-- One more tag in front, for an id that has none. -/
theorem Tidy.cons {tag : ι × List Bytes} {tags : Tags ι} (tidy : Tidy tags)
    (fresh : ∀ other ∈ tags, (tag.1 == other.1) = false) (keys : tag.2 ≠ [] ∧ tag.2.Nodup) :
    Tidy (tag :: tags) where
  ids := List.pairwise_cons.mpr ⟨fresh, tidy.ids⟩
  keys := by
    intro other member
    rcases List.mem_cons.mp member with rfl | member
    · exact keys
    · exact tidy.keys other member

/-- An id that no tag carries has no keys. -/
theorem keysOf_eq_nil {id : ι} {tags : Tags ι} (absent : ∀ tag ∈ tags, (tag.1 == id) = false) :
    tags.keysOf id = [] := by
  induction tags with
  | nil => rfl
  | cons tag others ih =>
    have other := absent tag (List.mem_cons_self ..)
    rw [keysOf, if_neg (by simp [other])]
    exact ih fun tag member => absent tag (.tail _ member)

/-- Tagging an id adds no id but that one. -/
theorem fst_insert {key : Bytes} {id : ι} {tags : Tags ι} {tag : ι × List Bytes}
    (member : tag ∈ Tags.insert key id tags) : tag.1 = id ∨ ∃ old ∈ tags, old.1 = tag.1 := by
  induction tags with
  | nil => exact .inl (by simp_all [insert])
  | cons first others ih =>
    rw [insert] at member
    split at member
    · rcases List.mem_cons.mp member with rfl | member
      · exact .inr ⟨first, List.mem_cons_self .., rfl⟩
      · exact .inr ⟨tag, .tail _ member, rfl⟩
    · rcases List.mem_cons.mp member with rfl | member
      · exact .inr ⟨_, List.mem_cons_self .., rfl⟩
      · rcases ih member with same | ⟨old, stored, same⟩
        · exact .inl same
        · exact .inr ⟨old, .tail _ stored, same⟩

/-- Dropping a key adds no id. -/
theorem fst_erase {key : Bytes} {id : ι} {tags : Tags ι} {tag : ι × List Bytes}
    (member : tag ∈ Tags.erase key id tags) : ∃ old ∈ tags, old.1 = tag.1 := by
  induction tags with
  | nil => simp [erase] at member
  | cons first others ih =>
    rw [erase] at member
    dsimp only at member
    split at member
    · split at member
      · exact ⟨tag, .tail _ member, rfl⟩
      · rcases List.mem_cons.mp member with rfl | member
        · exact ⟨first, List.mem_cons_self .., rfl⟩
        · exact ⟨tag, .tail _ member, rfl⟩
    · rcases List.mem_cons.mp member with rfl | member
      · exact ⟨_, List.mem_cons_self .., rfl⟩
      · obtain ⟨old, stored, same⟩ := ih member
        exact ⟨old, .tail _ stored, same⟩

theorem Tidy.insert {key : Bytes} {id : ι} {tags : Tags ι} (tidy : Tidy tags) :
    Tidy (tags.insert key id) := by
  induction tags with
  | nil => exact Tidy.nil.cons (by simp) (by simp)
  | cons tag others ih =>
    obtain ⟨tagged, keys⟩ := tag
    have kept := tidy.keys (tagged, keys) (List.mem_cons_self ..)
    rw [Tags.insert]
    split
    · refine tidy.tail.cons (fun other member => tidy.head_ne member) ?_
      by_cases known : keys.contains key = true
      · simpa only [if_pos known] using kept
      · rw [if_neg known]
        refine ⟨by simp, List.nodup_append.mpr ⟨kept.2, by simp, ?_⟩⟩
        simp_all
        grind
    · rename_i different
      refine (ih tidy.tail).cons (fun other member => ?_) kept
      rcases fst_insert member with same | ⟨old, stored, same⟩
      · simpa [same] using different
      · rw [← same]
        exact tidy.head_ne stored

theorem Tidy.erase {key : Bytes} {id : ι} {tags : Tags ι} (tidy : Tidy tags) :
    Tidy (tags.erase key id) := by
  induction tags with
  | nil => exact .nil
  | cons tag others ih =>
    obtain ⟨tagged, keys⟩ := tag
    have kept := tidy.keys (tagged, keys) (List.mem_cons_self ..)
    rw [Tags.erase]
    dsimp only
    split
    · split
      · exact tidy.tail
      · rename_i left
        refine tidy.tail.cons (fun other member => tidy.head_ne member) ⟨?_, kept.2.filter _⟩
        simpa using left
    · refine (ih tidy.tail).cons (fun other member => ?_) kept
      obtain ⟨old, stored, same⟩ := fst_erase member
      rw [← same]
      exact tidy.head_ne stored

theorem Tidy.forget {id : ι} {tags : Tags ι} (tidy : Tidy tags) : Tidy (tags.forget id) where
  ids := tidy.ids.filter _
  keys := fun tag member => tidy.keys tag (List.mem_filter.mp member).1

variable [EquivBEq ι]

/-- What is equal to the one of two equal ids is equal to the other. -/
theorem beq_congr {first second other : ι} (same : (first == second) = true) :
    (first == other) = (second == other) :=
  Bool.eq_iff_iff.mpr
    ⟨fun equal => PartialEquivBEq.trans (PartialEquivBEq.symm same) equal,
      fun equal => PartialEquivBEq.trans same equal⟩

/-- Two ids are different if only one of them is equal to a third. -/
theorem beq_eq_false_of_beq {first second other : ι} (different : ¬ (first == second) = true)
    (same : (first == other) = true) : (second == other) = false := by
  rw [Bool.eq_false_iff]
  intro equal
  exact different (PartialEquivBEq.trans same (PartialEquivBEq.symm equal))

/-- Tagging adds the key for the id, and nothing else. -/
theorem mem_keysOf_insert {key candidate : Bytes} {id other : ι} (tags : Tags ι) :
    candidate ∈ (tags.insert key id).keysOf other ↔
      candidate ∈ tags.keysOf other ∨ (candidate = key ∧ (id == other) = true) := by
  induction tags with
  | nil => by_cases same : (id == other) = true <;> simp [insert, keysOf, same]
  | cons tag others ih =>
    obtain ⟨tagged, keys⟩ := tag
    by_cases here : (tagged == id) = true
    · rw [insert, if_pos here, keysOf, keysOf, beq_congr here]
      by_cases same : (id == other) = true
      · by_cases known : keys.contains key = true <;> simp_all
      · simp [same]
    · rw [insert, if_neg here, keysOf, keysOf]
      by_cases sought : (tagged == other) = true
      · simp [sought, beq_eq_false_of_beq here sought]
      · simpa [sought] using ih

/-- Dropping a key drops it for the id, and nothing else. -/
theorem mem_keysOf_erase {key candidate : Bytes} {id other : ι} {tags : Tags ι}
    (tidy : Tidy tags) :
    candidate ∈ (tags.erase key id).keysOf other ↔
      candidate ∈ tags.keysOf other ∧ ¬ (candidate = key ∧ (id == other) = true) := by
  induction tags with
  | nil => simp [erase, keysOf]
  | cons tag others ih =>
    obtain ⟨tagged, keys⟩ := tag
    by_cases here : (tagged == id) = true
    · have gone : (id == other) = true → keysOf other others = [] := fun same =>
        keysOf_eq_nil fun tag member => by
          have apart := tidy.head_ne member
          rw [beq_congr here, beq_congr same] at apart
          rwa [BEq.comm]
      rw [erase, if_pos here, keysOf, beq_congr here]
      by_cases same : (id == other) = true
      · have none_left := gone same
        dsimp only
        by_cases left : (keys.filter (· ≠ key)).isEmpty = true
        · have only : candidate ∈ keys → candidate = key := by
            simpa using List.filter_eq_nil_iff.mp (List.isEmpty_iff.mp left) candidate
          rw [if_pos left, none_left, if_pos same]
          simpa [same] using only
        · rw [if_neg left, keysOf, beq_congr here, if_pos same, if_pos same]
          simp_all
      · dsimp only
        split
        · simp [same]
        · simp [keysOf, beq_congr here, same]
    · rw [erase, if_neg here, keysOf, keysOf]
      by_cases sought : (tagged == other) = true
      · simp [sought, beq_eq_false_of_beq here sought]
      · simpa [sought] using ih tidy.tail

/-- Forgetting an id drops its keys, and nothing else. -/
theorem mem_keysOf_forget {candidate : Bytes} {id other : ι} (tags : Tags ι) :
    candidate ∈ (tags.forget id).keysOf other ↔
      candidate ∈ tags.keysOf other ∧ (id == other) = false := by
  induction tags with
  | nil => simp [forget, keysOf]
  | cons tag others ih =>
    obtain ⟨tagged, keys⟩ := tag
    unfold forget at ih ⊢
    by_cases here : (tagged == id) = true
    · rw [List.filter_cons_of_neg (by simp [bne, here]), ih, keysOf, beq_congr here]
      by_cases same : (id == other) = true <;> simp [same]
    · rw [List.filter_cons_of_pos (by simpa [bne] using here), keysOf, keysOf]
      by_cases sought : (tagged == other) = true
      · simp [sought, beq_eq_false_of_beq here sought]
      · simpa [sought] using ih

end Tags

/-! ## Tags and verdicts -/

namespace VerdictCache

variable {ι ω : Type}

/-- Without the verdict under a key nothing is found under it, and all other verdicts are. -/
theorem find?_eq_none_iff {cache : VerdictCache ι ω} {key : Bytes} :
    cache.find? key = none ↔ ∀ verdict ∈ cache.verdicts, verdict.key ≠ key := by
  simp [find?]

/-- What is found under a key is remembered under it. -/
theorem mem_of_find?_eq_some {cache : VerdictCache ι ω} {key : Bytes} {verdict : Verdict ι ω}
    (found : cache.find? key = some verdict) : verdict ∈ cache.verdicts ∧ verdict.key = key :=
  ⟨List.mem_of_find?_eq_some found, by simpa using List.find?_some found⟩

/-- A verdict that is found has been remembered under the key. -/
theorem get_eq_some {cache : VerdictCache ι ω} {key : Bytes} {allowed : ω}
    (hit : (cache.get key).1 = some allowed) :
    ∃ verdict ∈ cache.verdicts, verdict.key = key ∧ verdict.allowed = allowed := by
  unfold get at hit
  split at hit
  · simp at hit
  · rename_i verdict found
    obtain ⟨member, under⟩ := mem_of_find?_eq_some found
    exact ⟨verdict, member, under, by simpa using hit⟩

/-- Looking up a key at most moves a verdict. -/
theorem mem_get {cache : VerdictCache ι ω} {key : Bytes} {verdict : Verdict ι ω}
    (member : verdict ∈ (cache.get key).2.verdicts) : verdict ∈ cache.verdicts := by
  unfold get at member
  split at member
  · exact member
  · rename_i found
    rcases List.mem_append.mp member with kept | moved
    · exact (List.mem_filter.mp kept).1
    · rw [List.mem_singleton.mp moved]
      exact (mem_of_find?_eq_some found).1

variable [BEq ι]

/-- The tags list the keys of the verdicts for each id, and no key has two verdicts. -/
structure Tagged (cache : VerdictCache ι ω) : Prop where
  keys : (cache.verdicts.map (·.key)).Nodup
  tidy : cache.tags.Tidy
  tagged : ∀ key id, key ∈ cache.tags.keysOf id ↔
    ∃ verdict ∈ cache.verdicts, verdict.key = key ∧ (verdict.id == id) = true

/-- Discarding a key leaves the verdicts under other keys, in their order. -/
@[simp]
theorem verdicts_discard (cache : VerdictCache ι ω) (key : Bytes) :
    (cache.discard key).verdicts = cache.verdicts.filter (·.key ≠ key) := by
  unfold discard
  split
  · rename_i missing
    symm
    simpa using find?_eq_none_iff.mp missing
  · rfl

/-- Nothing is left under a discarded key. -/
theorem key_ne_of_mem_discard {cache : VerdictCache ι ω} {key : Bytes} {verdict : Verdict ι ω}
    (member : verdict ∈ (cache.discard key).verdicts) : verdict.key ≠ key := by
  rw [verdicts_discard] at member
  simpa using (List.mem_filter.mp member).2

@[simp]
theorem capacity_discard (cache : VerdictCache ι ω) (key : Bytes) :
    (cache.discard key).capacity = cache.capacity := by
  unfold discard
  split <;> rfl

namespace Tagged

variable {cache : VerdictCache ι ω}

/-- No two verdicts are remembered under one key. -/
theorem unique (tagged : cache.Tagged) {first second : Verdict ι ω}
    (left : first ∈ cache.verdicts) (right : second ∈ cache.verdicts)
    (same : first.key = second.key) : first = second :=
  List.inj_on_of_nodup_map tagged.keys left right same

/-- A cache without verdicts has no tags to be wrong. -/
theorem empty (size : Int) : (VerdictCache.empty size : VerdictCache ι ω).Tagged :=
  ⟨.nil, .nil, by simp [VerdictCache.empty, Tags.keysOf]⟩

/-- Forgetting all verdicts forgets all tags. -/
theorem clear : cache.clear.Tagged :=
  ⟨.nil, .nil, by simp [VerdictCache.clear, Tags.keysOf]⟩

/-- A look-up changes no tag, and moves a verdict at most. -/
theorem get (tagged : cache.Tagged) (key : Bytes) : (cache.get key).2.Tagged := by
  unfold VerdictCache.get
  split
  · exact ⟨tagged.keys, tagged.tidy, tagged.tagged⟩
  · rename_i verdict found
    obtain ⟨member, under⟩ := mem_of_find?_eq_some found
    have moved : ∀ other : Verdict ι ω,
        other ∈ cache.verdicts.filter (·.key ≠ key) ++ [verdict] ↔ other ∈ cache.verdicts := by
      intro other
      by_cases same : other.key = key
      · have : other ∈ cache.verdicts ↔ other = verdict :=
          ⟨fun stored => tagged.unique stored member (same.trans under.symm), fun e => e ▸ member⟩
        simp [same, this]
      · have : other ≠ verdict := fun equal => same (equal ▸ under)
        simp [same, this]
    refine ⟨?_, tagged.tidy, fun key id => ?_⟩
    · rw [List.map_append, List.nodup_append]
      refine ⟨tagged.keys.sublist (List.filter_sublist.map _), by simp, ?_⟩
      grind
    · simp only [tagged.tagged, moved]

/-- After an id is forgotten, exactly the verdicts for other ids are left. -/
theorem mem_invalidate (tagged : cache.Tagged) (id : ι) (verdict : Verdict ι ω) :
    verdict ∈ (cache.invalidate id).2.verdicts ↔
      verdict ∈ cache.verdicts ∧ (verdict.id == id) = false := by
  simp only [VerdictCache.invalidate, List.mem_filter, Bool.not_eq_true', List.contains_eq_mem,
    decide_eq_false_iff_not, tagged.tagged]
  constructor
  · rintro ⟨member, untagged⟩
    refine ⟨member, Bool.eq_false_iff.mpr fun about => ?_⟩
    exact untagged ⟨verdict, member, rfl, about⟩
  · rintro ⟨member, different⟩
    refine ⟨member, ?_⟩
    rintro ⟨other, stored, same, about⟩
    rw [tagged.unique stored member same] at about
    exact Bool.false_ne_true (different.symm.trans about)

variable [EquivBEq ι]

/-- With the verdict under a key goes its tag. -/
theorem discard (tagged : cache.Tagged) (key : Bytes) : (cache.discard key).Tagged := by
  refine ⟨?_, ?_, fun sought id => ?_⟩
  · rw [verdicts_discard]
    exact tagged.keys.sublist (List.filter_sublist.map _)
  · unfold VerdictCache.discard
    split
    · exact tagged.tidy
    · exact tagged.tidy.erase
  · rw [verdicts_discard]
    unfold VerdictCache.discard
    split
    · rename_i missing
      have absent := find?_eq_none_iff.mp missing
      rw [tagged.tagged]
      constructor
      · rintro ⟨verdict, member, rest⟩
        exact ⟨verdict, List.mem_filter.mpr ⟨member, by simpa using absent verdict member⟩, rest⟩
      · rintro ⟨verdict, member, rest⟩
        exact ⟨verdict, (List.mem_filter.mp member).1, rest⟩
    · rename_i old found
      obtain ⟨member, under⟩ := mem_of_find?_eq_some found
      rw [Tags.mem_keysOf_erase tagged.tidy, tagged.tagged]
      constructor
      · rintro ⟨⟨verdict, stored, named, about⟩, other⟩
        refine ⟨verdict, List.mem_filter.mpr ⟨stored, ?_⟩, named, about⟩
        -- The verdict under the key is the old one, which is about the id of the dropped tag.
        by_cases same : verdict.key = key
        · rw [tagged.unique stored member (same.trans under.symm)] at about
          exact absurd ⟨named.symm.trans same, about⟩ other
        · simpa using same
      · rintro ⟨verdict, stored, named, about⟩
        obtain ⟨stored, different⟩ := List.mem_filter.mp stored
        refine ⟨⟨verdict, stored, named, about⟩, fun both => ?_⟩
        simp [named, both.1] at different

/-- A verdict that is remembered under a new key is tagged with it. -/
theorem remember (tagged : cache.Tagged) {key : Bytes} (id : ι) (allowed : ω)
    (fresh : ∀ verdict ∈ cache.verdicts, verdict.key ≠ key) :
    Tagged { cache with
      verdicts := cache.verdicts ++ [⟨key, id, allowed⟩]
      tags := cache.tags.insert key id } := by
  refine ⟨?_, tagged.tidy.insert, fun sought other => ?_⟩
  · rw [List.map_append, List.nodup_append]
    refine ⟨tagged.keys, by simp, ?_⟩
    grind
  · rw [Tags.mem_keysOf_insert, tagged.tagged]
    constructor
    · rintro (⟨verdict, stored, both⟩ | ⟨rfl, same⟩)
      · exact ⟨verdict, List.mem_append_left _ stored, both⟩
      · exact ⟨⟨sought, id, allowed⟩, by simp, rfl, same⟩
    · rintro ⟨verdict, stored, named, about⟩
      rcases List.mem_append.mp stored with stored | last
      · exact .inl ⟨verdict, stored, named, about⟩
      · rw [List.mem_singleton.mp last] at named about
        exact .inr ⟨named.symm, about⟩

/-- Making room keeps tags and verdicts in step. -/
theorem discardOldest (tagged : cache.Tagged) (count : Nat) :
    (VerdictCache.discardOldest count cache).Tagged := by
  induction count generalizing cache with
  | zero => exact tagged
  | succ count ih =>
    rw [VerdictCache.discardOldest]
    split
    · exact tagged
    · exact ih (tagged.discard _)

/-- What makes room are the verdicts at the front. -/
theorem verdicts_discardOldest (tagged : cache.Tagged) (count : Nat) :
    (VerdictCache.discardOldest count cache).verdicts = cache.verdicts.drop count := by
  induction count generalizing cache with
  | zero => rfl
  | succ count ih =>
    rw [VerdictCache.discardOldest]
    split
    · rename_i none_left
      rw [none_left, List.drop_nil]
    · rename_i verdict others first
      rw [ih (tagged.discard _), verdicts_discard, first, List.drop_succ_cons,
        List.filter_cons_of_neg (by simp)]
      -- The other verdicts have other keys, so that none of them goes with the first.
      have keys := tagged.keys
      rw [first, List.map_cons, List.nodup_cons] at keys
      rw [List.filter_eq_self.mpr]
      intro other member
      have different : other.key ≠ verdict.key := fun same =>
        keys.1 (same ▸ List.mem_map_of_mem member)
      simpa using different

/-- Remembering a verdict keeps tags and verdicts in step. -/
theorem put (tagged : cache.Tagged) (key : Bytes) (id : ι) (allowed : ω) :
    (cache.put key id allowed).Tagged :=
  ((tagged.discard key).remember id allowed fun _ => key_ne_of_mem_discard).discardOldest _

/-- What a cache remembers after a verdict was put: the verdicts under other keys and then the new
one, less as many at the front as are too many. -/
theorem verdicts_put (tagged : cache.Tagged) (key : Bytes) (id : ι) (allowed : ω) :
    (cache.put key id allowed).verdicts =
      List.drop ((cache.discard key).verdicts.length + 1 - cache.capacity)
        ((cache.discard key).verdicts ++ [⟨key, id, allowed⟩]) := by
  unfold VerdictCache.put
  dsimp only
  rw [((tagged.discard key).remember id allowed fun _ =>
    key_ne_of_mem_discard).verdicts_discardOldest]
  simp

/-- A verdict that is put takes the place of the one under its key. -/
theorem mem_put (tagged : cache.Tagged) {key : Bytes} {id : ι} {allowed : ω}
    {verdict : Verdict ι ω} (member : verdict ∈ (cache.put key id allowed).verdicts) :
    verdict ∈ cache.verdicts ∨ verdict = ⟨key, id, allowed⟩ := by
  rw [tagged.verdicts_put] at member
  rcases List.mem_append.mp (List.mem_of_mem_drop member) with kept | last
  · rw [verdicts_discard] at kept
    exact .inl (List.mem_filter.mp kept).1
  · exact .inr (List.mem_singleton.mp last)

/-- Forgetting an id forgets its tag. -/
theorem invalidate (tagged : cache.Tagged) (id : ι) : (cache.invalidate id).2.Tagged := by
  refine ⟨tagged.keys.sublist (List.filter_sublist.map _), tagged.tidy.forget, fun key other => ?_⟩
  simp only [tagged.mem_invalidate]
  rw [VerdictCache.invalidate, Tags.mem_keysOf_forget, tagged.tagged]
  constructor
  · rintro ⟨⟨verdict, member, named, about⟩, different⟩
    refine ⟨verdict, ⟨member, ?_⟩, named, about⟩
    rw [Tags.beq_congr about, BEq.comm]
    exact different
  · rintro ⟨verdict, ⟨member, different⟩, named, about⟩
    refine ⟨⟨verdict, member, named, about⟩, ?_⟩
    rw [BEq.comm, ← Tags.beq_congr about]
    exact different

end Tagged

end VerdictCache

end Keyring
