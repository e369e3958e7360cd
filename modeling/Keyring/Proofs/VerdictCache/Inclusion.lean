import Keyring.Proofs.VerdictCache.Recency

/-!
# More room never makes a cache worse

Two caches that begin without verdicts are asked for the same things, and one of them has room for at
least as much as the other. Whatever the smaller one remembers the larger one remembers too, in the
same order (`larger_through`).

A key that only the larger one knows may be hit there and come to be used last, so the verdicts of the
smaller one need not be the last ones of the larger one. What counts is how many more the larger one
has: never more than its additional room (`Within.room`). So whenever it has to make room, the smaller
one has to as well.
-/

namespace Keyring.VerdictCache

variable {ι ω : Type} [BEq ι]

/-- A cache remembers everything that another one does, and not more besides than it has more room. -/
structure Within (smaller larger : VerdictCache ι ω) : Prop where
  tagged : smaller.Tagged
  tagged' : larger.Tagged
  verdicts : smaller.verdicts.Sublist larger.verdicts
  room : larger.size + smaller.capacity ≤ smaller.size + larger.capacity
  hits : smaller.hits ≤ larger.hits

/-- No more is dropped from a part of a list than from the whole. -/
theorem length_filter_le {α : Type} {part whole : List α} (inside : part.Sublist whole)
    (keep : α → Bool) :
    (whole.filter keep).length + part.length ≤ (part.filter keep).length + whole.length := by
  have dropped := (inside.filter fun item => !keep item).length_le
  have cut := List.length_eq_length_filter_add (l := part) keep
  have cutWhole := List.length_eq_length_filter_add (l := whole) keep
  omega

/-- Of a part of a list as much is left behind the front as of the whole, if no more is dropped. -/
theorem sublist_drop {α : Type} {part whole : List α} (inside : part.Sublist whole)
    {count fewer : Nat} (less : fewer ≤ count) : (part.drop count).Sublist (whole.drop fewer) := by
  obtain ⟨rest, rfl⟩ := Nat.exists_eq_add_of_le less
  rw [← List.drop_drop]
  exact (List.drop_sublist ..).trans (inside.drop fewer)

namespace Within

variable {smaller larger : VerdictCache ι ω}

/-- What the smaller cache finds the larger one finds. -/
theorem find?_eq_some (within : smaller.Within larger) {key : Bytes} {verdict : Verdict ι ω}
    (found : smaller.find? key = some verdict) : larger.find? key = some verdict := by
  obtain ⟨member, rfl⟩ := mem_of_find?_eq_some found
  exact within.tagged'.find?_of_mem (within.verdicts.subset member)

/-- What hits in the smaller cache hits in the larger one, with the same verdict. -/
theorem get_eq_some (within : smaller.Within larger) {key : Bytes} {allowed : ω}
    (hit : (smaller.get key).1 = some allowed) : (larger.get key).1 = some allowed := by
  unfold VerdictCache.get at hit ⊢
  split at hit
  · cases hit
  · rename_i verdict found
    rw [within.find?_eq_some found]
    exact hit

/-- Without the verdict under a key, and with the same verdict at the end, the larger cache still has
no more besides. -/
theorem replaced (within : smaller.Within larger) (key : Bytes) (verdict : Verdict ι ω) :
    (smaller.verdicts.filter (·.key ≠ key) ++ [verdict]).Sublist
        (larger.verdicts.filter (·.key ≠ key) ++ [verdict]) ∧
      (larger.verdicts.filter (·.key ≠ key) ++ [verdict]).length + smaller.capacity ≤
        (smaller.verdicts.filter (·.key ≠ key) ++ [verdict]).length + larger.capacity := by
  refine ⟨(within.verdicts.filter _).append (.refl _), ?_⟩
  have dropped := length_filter_le within.verdicts (·.key ≠ key)
  have room := within.room
  unfold size at room
  rw [List.length_append, List.length_append]
  omega

/-- A verdict that only the larger cache finds moves in there alone. -/
theorem get (within : smaller.Within larger) (key : Bytes) :
    (smaller.get key).2.Within (larger.get key).2 := by
  have tagged := within.tagged.get key
  have tagged' := within.tagged'.get key
  have fewer := size_get_le larger key
  cases found : smaller.find? key with
  | some verdict =>
    have found' := within.find?_eq_some found
    obtain ⟨part, room⟩ := within.replaced key verdict
    unfold VerdictCache.get at tagged tagged' ⊢
    rw [found] at tagged ⊢
    rw [found'] at tagged' ⊢
    exact ⟨tagged, tagged', part, room, Nat.succ_le_succ within.hits⟩
  | none =>
    have absent : smaller.verdicts.filter (·.key ≠ key) = smaller.verdicts := by
      simpa using find?_eq_none_iff.mp found
    have part := within.verdicts.filter (·.key ≠ key)
    rw [absent] at part
    unfold VerdictCache.get at tagged tagged' fewer ⊢
    rw [found] at tagged ⊢
    cases found' : larger.find? key with
    | none =>
      rw [found'] at tagged'
      exact ⟨tagged, tagged', within.verdicts, within.room, within.hits⟩
    | some verdict =>
      rw [found'] at tagged' fewer
      exact ⟨tagged, tagged', part.trans (List.sublist_append_left ..),
        Nat.le_trans (Nat.add_le_add_right fewer _) within.room, Nat.le_succ_of_le within.hits⟩

/-- An id is forgotten by both caches, and not by the larger one alone. -/
theorem invalidate [EquivBEq ι] (within : smaller.Within larger) (id : ι) :
    (smaller.invalidate id).2.Within (larger.invalidate id).2 where
  tagged := within.tagged.invalidate id
  tagged' := within.tagged'.invalidate id
  verdicts := by
    rw [within.tagged.verdicts_invalidate, within.tagged'.verdicts_invalidate]
    exact within.verdicts.filter _
  room := by
    have dropped := length_filter_le within.verdicts fun verdict => !(verdict.id == id)
    have room := within.room
    unfold size at room ⊢
    rw [within.tagged.verdicts_invalidate, within.tagged'.verdicts_invalidate]
    show _ + smaller.capacity ≤ _ + larger.capacity
    omega
  hits := within.hits

/-- Where the larger cache has to make room the smaller one has to make at least as much. -/
theorem put [EquivBEq ι] (within : smaller.Within larger) (key : Bytes) (id : ι) (allowed : ω) :
    (smaller.put key id allowed).Within (larger.put key id allowed) := by
  obtain ⟨part, room⟩ := within.replaced key ⟨key, id, allowed⟩
  have stored := within.tagged.verdicts_put key id allowed
  have stored' := within.tagged'.verdicts_put key id allowed
  rw [verdicts_discard] at stored stored'
  refine ⟨within.tagged.put key id allowed, within.tagged'.put key id allowed, ?_, ?_, ?_⟩
  · rw [stored, stored']
    refine sublist_drop part ?_
    rw [List.length_append, List.length_append] at room
    dsimp only [List.length_singleton] at room
    omega
  · unfold size
    rw [stored, stored', List.length_drop, List.length_drop, put_eq smaller, put_eq larger]
    rw [List.length_append, List.length_append] at room ⊢
    dsimp only [List.length_singleton] at room ⊢
    omega
  · rw [put_eq smaller, put_eq larger]
    exact within.hits

/-- Whatever both caches are asked for, the smaller one knows nothing that the larger one does not. -/
theorem serve [EquivBEq ι] (within : smaller.Within larger) (request : Request ι ω) :
    (smaller.serve request).Within (larger.serve request) := by
  cases request with
  | get key => exact within.get key
  | put key id allowed => exact within.put key id allowed
  | invalidate id => exact within.invalidate id
  | clear =>
    have fewer : smaller.size ≤ larger.size := within.verdicts.length_le
    have room := within.room
    refine ⟨.clear, .clear, .refl _, ?_, within.hits⟩
    show 0 + smaller.capacity ≤ 0 + larger.capacity
    omega
  | contains key => exact within
  | size => exact within

end Within

/-- After any history the cache with more room remembers what the other one does, in the same order; it
has every hit of the other one with the same verdict, and has had no fewer. -/
theorem larger_through [EquivBEq ι] (size larger : Int)
    (more : (empty size : VerdictCache ι ω).capacity ≤ (empty larger : VerdictCache ι ω).capacity)
    (requests : List (Request ι ω)) :
    let few := (empty size).through requests
    let many := (empty larger).through requests
    few.verdicts.Sublist many.verdicts ∧
      (∀ key allowed, (few.get key).1 = some allowed → (many.get key).1 = some allowed) ∧
      few.hits ≤ many.hits := by
  have within : ((empty size).through requests).Within ((empty larger).through requests) := by
    induction requests using List.reverseRecOn with
    | nil => exact ⟨.empty size, .empty larger, .refl _, Nat.add_le_add_left more 0, .refl⟩
    | append_singleton requests request ih =>
      rw [through_concat, through_concat]
      exact ih.serve request
  exact ⟨within.verdicts, fun _ _ => within.get_eq_some, within.hits⟩

/-- Room for eight and for nine: the first key is hit in the larger cache alone, and then comes to stand
among those that both remember. -/
theorem larger_through_reordered :
    let requests : List (Request Text Bool) :=
      (List.range 9).map (fun number =>
        .put [UInt8.ofNat number] (Text.lit (if number < 5 then "a" else "b")) true) ++
        [.get [0], .invalidate (Text.lit "b"), .get [1]]
    let few := (empty 8).through requests
    let many := (empty 9).through requests
    (empty 8 : VerdictCache Text Bool).capacity ≤ (empty 9 : VerdictCache Text Bool).capacity ∧
      few.verdicts.Sublist many.verdicts ∧ few.hits ≤ many.hits ∧
      few.verdicts.map (·.key) = [[2], [3], [4], [1]] ∧
      many.verdicts.map (·.key) = [[2], [3], [4], [0], [1]] := by
  intro requests few many
  have more : (empty 8 : VerdictCache Text Bool).capacity ≤
      (empty 9 : VerdictCache Text Bool).capacity := by decide
  obtain ⟨part, -, hits⟩ := larger_through 8 9 more requests
  exact ⟨more, part, hits, by decide +kernel, by decide +kernel⟩

end Keyring.VerdictCache
