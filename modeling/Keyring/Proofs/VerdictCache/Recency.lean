import Mathlib.Data.List.Dedup
import Mathlib.Data.List.Perm.Subperm
import Keyring.Proofs.VerdictCache.History

/-!
# What a cache still knows

What a cache answers is told by its history alone. It gives a verdict only if that is the last one put
under the key and nothing has forgotten it since (`Stands`). Such a verdict is given as long as fewer
other keys than there is room for have been put or hit since the key was put or hit last (`since`).

Both are in `answers_through`. What carries the second half is that a verdict which comes later in the
cache has been used later, too (`Recalls.ordered`), so that whatever is behind a verdict when it makes
room counts among the keys used since.
-/

namespace Keyring.VerdictCache

variable {ι ω : Type} [BEq ι]

/-! ## Histories and their verdicts -/

/-- A request ends what is remembered for an id under a key. -/
def Request.ends (key : Bytes) (id : ι) : Request ι ω → Bool
  | .put other _ _ => other = key
  | .invalidate other => id == other
  | .clear => true
  | _ => false

/-- A verdict was put, and nothing has ended it since. -/
def Stands (requests : List (Request ι ω)) (verdict : Verdict ι ω) : Prop :=
  ∃ earlier later,
    requests = earlier ++ .put verdict.key verdict.id verdict.allowed :: later ∧
      ∀ request ∈ later, request.ends verdict.key verdict.id = false

/-- The key that a request puts or hits. -/
def Request.used? (cache : VerdictCache ι ω) : Request ι ω → Option Bytes
  | .get key => if cache.contains key then some key else none
  | .put key _ _ => some key
  | _ => none

/-- The keys that are put or hit, one after another. -/
def used (cache : VerdictCache ι ω) : List (Request ι ω) → List Bytes
  | [] => []
  | request :: requests => (request.used? cache).toList ++ (cache.serve request).used requests

/-- The keys used since a key was used last, each once. -/
def since (key : Bytes) (keys : List Bytes) : List Bytes :=
  (keys.reverse.takeWhile (· ≠ key)).dedup

theorem used_append (cache : VerdictCache ι ω) (requests more : List (Request ι ω)) :
    cache.used (requests ++ more) = cache.used requests ++ (cache.through requests).used more := by
  induction requests generalizing cache with
  | nil => simp [used, through]
  | cons first requests ih =>
    have same : cache.through (first :: requests) = (cache.serve first).through requests := rfl
    rw [List.cons_append, used, used, ih, same, List.append_assoc]

theorem used_concat (cache : VerdictCache ι ω) (requests : List (Request ι ω))
    (request : Request ι ω) :
    cache.used (requests ++ [request]) =
      cache.used requests ++ (request.used? (cache.through requests)).toList := by
  rw [used_append, used, used, List.append_nil]

/-- Another key is used after all others. -/
theorem mem_since_concat {key other candidate : Bytes} {keys : List Bytes}
    (different : other ≠ key) :
    candidate ∈ since key (keys ++ [other]) ↔ candidate = other ∨ candidate ∈ since key keys := by
  simp [since, different]

/-- As many keys were used since as are known to be among them. -/
theorem length_le_since {key : Bytes} {keys some : List Bytes} (distinct : some.Nodup)
    (among : ∀ candidate ∈ some, candidate ∈ since key keys) :
    some.length ≤ (since key keys).length :=
  (List.subperm_of_subset distinct among).length_le

/-- No fewer keys were used since once another key is used. -/
theorem length_since_concat {key other : Bytes} (keys : List Bytes) (different : other ≠ key) :
    (since key keys).length ≤ (since key (keys ++ [other])).length :=
  length_le_since (List.nodup_dedup _) fun _ member => (mem_since_concat different).mpr (.inr member)

/-- A verdict that stands was put just now, or it stood and is not ended. -/
theorem stands_concat {requests : List (Request ι ω)} {request : Request ι ω}
    {verdict : Verdict ι ω} :
    Stands (requests ++ [request]) verdict ↔
      request = .put verdict.key verdict.id verdict.allowed ∨
        (Stands requests verdict ∧ request.ends verdict.key verdict.id = false) := by
  constructor
  · rintro ⟨earlier, later, cut, kept⟩
    cases later using List.reverseRecOn with
    | nil => exact .inl (List.singleton_inj.mp (List.append_inj' cut rfl).2)
    | append_singleton later last _ =>
      rw [← List.cons_append, ← List.append_assoc] at cut
      obtain ⟨rfl, same⟩ := List.append_inj' cut rfl
      obtain rfl : request = last := by simpa using same
      exact .inr ⟨⟨earlier, later, rfl, fun other member => kept other (by simp [member])⟩,
        kept request (by simp)⟩
  · rintro (rfl | ⟨⟨earlier, later, rfl, kept⟩, lasts⟩)
    · exact ⟨requests, [], rfl, by simp⟩
    · refine ⟨earlier, later ++ [request], by simp, fun other member => ?_⟩
      rcases List.mem_append.mp member with member | member
      · exact kept other member
      · rwa [List.mem_singleton.mp member]

/-- A verdict stands for an id under a key as long as nothing but another verdict for the id takes its
place. -/
theorem Stands.append {requests more : List (Request ι ω)} {key : Bytes} {id : ι} {allowed : ω}
    (stands : Stands requests ⟨key, id, allowed⟩)
    (kept : ∀ request ∈ more, request.ends key id = true → ∃ other, request = .put key id other) :
    ∃ other, Stands (requests ++ more) ⟨key, id, other⟩ := by
  induction more using List.reverseRecOn with
  | nil => exact ⟨allowed, by simpa using stands⟩
  | append_singleton more request ih =>
    obtain ⟨old, stood⟩ := ih fun other member => kept other (List.mem_append_left _ member)
    rw [← List.append_assoc]
    cases ended : request.ends key id with
    | true =>
      obtain ⟨other, rfl⟩ := kept request (by simp) ended
      exact ⟨other, stands_concat.mpr (.inl rfl)⟩
    | false => exact ⟨old, stands_concat.mpr (.inr ⟨stood, ended⟩)⟩

/-- At most one verdict stands under a key. -/
theorem Stands.unique {requests : List (Request ι ω)} {first second : Verdict ι ω}
    (left : Stands requests first) (right : Stands requests second)
    (same : first.key = second.key) : first = second := by
  induction requests using List.reverseRecOn with
  | nil =>
    obtain ⟨earlier, later, cut, -⟩ := left
    cases earlier <;> cases cut
  | append_singleton requests request ih =>
    rcases stands_concat.mp left with rfl | ⟨old, kept⟩
    · rcases stands_concat.mp right with equal | ⟨-, kept⟩
      · cases first
        cases second
        simpa using equal
      · simp [Request.ends, same] at kept
    · rcases stands_concat.mp right with rfl | ⟨old', -⟩
      · simp [Request.ends, same] at kept
      · exact ih old old'

/-! ## Order and room -/

section Order

variable {cache : VerdictCache ι ω} {keys : List Bytes}

omit [BEq ι] in
theorem verdicts_get_of_hit {key : Bytes} {verdict : Verdict ι ω}
    (hit : cache.find? key = some verdict) :
    (cache.get key).2.verdicts = cache.verdicts.filter (·.key ≠ key) ++ [verdict] := by
  unfold get
  rw [hit]

omit [BEq ι] in
theorem verdicts_get_of_miss {key : Bytes} (missed : cache.find? key = none) :
    (cache.get key).2.verdicts = cache.verdicts := by
  unfold get
  rw [missed]

/-- What is remembered under a key is found under it. -/
theorem Tagged.find?_of_mem (tagged : cache.Tagged) {verdict : Verdict ι ω}
    (member : verdict ∈ cache.verdicts) : cache.find? verdict.key = some verdict := by
  cases found : cache.find? verdict.key with
  | none => exact absurd rfl (find?_eq_none_iff.mp found verdict member)
  | some other =>
    obtain ⟨stored, same⟩ := mem_of_find?_eq_some found
    rw [tagged.unique stored member same]

/-- No verdict goes when one is looked up. -/
theorem Tagged.mem_get_of_mem (tagged : cache.Tagged) (key : Bytes) {verdict : Verdict ι ω}
    (member : verdict ∈ cache.verdicts) : verdict ∈ (cache.get key).2.verdicts := by
  cases found : cache.find? key with
  | none => rwa [verdicts_get_of_miss found]
  | some hit =>
    rw [verdicts_get_of_hit found, List.mem_append, List.mem_singleton, List.mem_filter]
    by_cases same : verdict.key = key
    · rw [← same, tagged.find?_of_mem member] at found
      exact .inr (Option.some.inj found)
    · exact .inl ⟨member, by simpa using same⟩

omit [BEq ι] in
/-- A verdict that goes to the end is used after all others. -/
theorem ordered_used {verdicts : List (Verdict ι ω)} (verdict : Verdict ι ω)
    (ordered : verdicts.Pairwise fun first second => second.key ∈ since first.key keys) :
    (verdicts.filter (·.key ≠ verdict.key) ++ [verdict]).Pairwise fun first second =>
      second.key ∈ since first.key (keys ++ [verdict.key]) := by
  have different {first : Verdict ι ω} (member : first ∈ verdicts.filter (·.key ≠ verdict.key)) :
      verdict.key ≠ first.key := by
    have other : first.key ≠ verdict.key := by simpa using (List.mem_filter.mp member).2
    exact other.symm
  refine List.pairwise_append.mpr ⟨?_, List.pairwise_singleton .., fun first member last same => ?_⟩
  · refine (ordered.sublist List.filter_sublist).imp_of_mem fun member _ later => ?_
    exact (mem_since_concat (different member)).mpr (.inr later)
  · rw [List.mem_singleton.mp same]
    exact (mem_since_concat (different member)).mpr (.inl rfl)

/-- Whatever does not fit at the end of a list has as much behind it as fits. -/
theorem mem_drop_or_le {α : Type} {items : List α} {item : α} (member : item ∈ items) (room : Nat) :
    item ∈ items.drop (items.length - room) ∨
      ∃ before after, items = before ++ item :: after ∧ room ≤ after.length := by
  obtain ⟨before, after, rfl⟩ := List.append_of_mem member
  by_cases crowded : room ≤ after.length
  · exact .inr ⟨before, after, rfl, crowded⟩
  · left
    rw [List.drop_append_of_le_length (by simp; omega)]
    exact List.mem_append_right _ (List.mem_cons_self ..)

end Order

/-! ## What every history keeps -/

/-- A cache after a history in which these keys were used. -/
structure Recalls (requests : List (Request ι ω)) (keys : List Bytes) (cache : VerdictCache ι ω) :
    Prop where
  tagged : cache.Tagged
  stands : ∀ verdict ∈ cache.verdicts, Stands requests verdict
  /-- What comes later was used later. -/
  ordered : cache.verdicts.Pairwise fun first second => second.key ∈ since first.key keys
  known : ∀ verdict, Stands requests verdict →
    verdict ∈ cache.verdicts ∨ cache.capacity ≤ (since verdict.key keys).length

namespace Recalls

variable {requests : List (Request ι ω)} {keys : List Bytes} {cache : VerdictCache ι ω}

/-- A request that uses nothing leaves exactly the verdicts that it does not end. -/
theorem losing (recalls : cache.Recalls requests keys) {after : VerdictCache ι ω}
    {request : Request ι ω} (unused : request.used? cache = none) (tagged : after.Tagged)
    (capacity : after.capacity = cache.capacity) (fewer : after.verdicts.Sublist cache.verdicts)
    (left : ∀ verdict ∈ cache.verdicts,
      verdict ∈ after.verdicts ↔ request.ends verdict.key verdict.id = false) :
    after.Recalls (requests ++ [request]) (keys ++ (request.used? cache).toList) where
  tagged := tagged
  stands := fun verdict member =>
    have stored := fewer.subset member
    stands_concat.mpr (.inr ⟨recalls.stands verdict stored, (left verdict stored).mp member⟩)
  ordered := by
    rw [unused, Option.toList_none, List.append_nil]
    exact recalls.ordered.sublist fewer
  known := by
    intro verdict now
    obtain ⟨stood, lasts⟩ := (stands_concat.mp now).resolve_left (by rintro rfl; cases unused)
    rw [unused, Option.toList_none, List.append_nil, capacity]
    exact (recalls.known verdict stood).imp_left fun stored => (left verdict stored).mpr lasts

/-- A look-up leaves everything where it is, or uses the verdict that it finds. -/
theorem get (recalls : cache.Recalls requests keys) (key : Bytes) :
    (cache.get key).2.Recalls (requests ++ [.get key])
      (keys ++ (Request.used? cache (.get key : Request ι ω)).toList) := by
  have capacity : (cache.get key).2.capacity = cache.capacity := capacity_serve cache (.get key)
  have stood {verdict : Verdict ι ω} (stands : Stands (requests ++ [.get key]) verdict) :
      Stands requests verdict :=
    (stands_concat.mp stands).resolve_left (by simp) |>.1
  have stays {verdict : Verdict ι ω} (member : verdict ∈ (cache.get key).2.verdicts) :
      Stands (requests ++ [.get key]) verdict :=
    stands_concat.mpr (.inr ⟨recalls.stands verdict (mem_get member), rfl⟩)
  refine ⟨recalls.tagged.get key, fun _ => stays, ?_, fun verdict now => ?_⟩
  · cases found : cache.find? key with
    | none =>
      simpa [Request.used?, contains, found, verdicts_get_of_miss found] using recalls.ordered
    | some hit =>
      obtain ⟨-, rfl⟩ := mem_of_find?_eq_some found
      simpa [Request.used?, contains, found, verdicts_get_of_hit found]
        using ordered_used hit recalls.ordered
  · rw [capacity]
    rcases recalls.known verdict (stood now) with member | crowded
    · exact .inl (recalls.tagged.mem_get_of_mem key member)
    cases found : cache.find? key with
    | none => exact .inr (by simpa [Request.used?, contains, found] using crowded)
    | some hit =>
      obtain ⟨member, rfl⟩ := mem_of_find?_eq_some found
      by_cases same : hit.key = verdict.key
      · -- What is found under the key is the one verdict that stands under it.
        rw [← (recalls.stands hit member).unique (stood now) same]
        exact .inl (recalls.tagged.mem_get_of_mem hit.key member)
      · have longer := length_since_concat keys same
        refine .inr (Nat.le_trans crowded ?_)
        simpa [Request.used?, contains, found] using longer

variable [EquivBEq ι]

/-- A verdict that is put is used, and what makes room for it has more than enough behind it. -/
theorem put (recalls : cache.Recalls requests keys) (key : Bytes) (id : ι) (allowed : ω) :
    (cache.put key id allowed).Recalls (requests ++ [.put key id allowed]) (keys ++ [key]) := by
  have capacity : (cache.put key id allowed).capacity = cache.capacity :=
    capacity_serve cache (.put key id allowed)
  have ordered := ordered_used ⟨key, id, allowed⟩ recalls.ordered
  have remembered := recalls.tagged.verdicts_put key id allowed
  have distinct := ((recalls.tagged.discard key).remember id allowed
    fun _ => key_ne_of_mem_discard).keys
  rw [verdicts_discard] at remembered distinct
  dsimp only at ordered distinct
  generalize stored : cache.verdicts.filter (·.key ≠ key) ++ [⟨key, id, allowed⟩] = verdicts
    at ordered remembered distinct
  have length : (cache.verdicts.filter (·.key ≠ key)).length + 1 = verdicts.length := by
    rw [← stored, List.length_append, List.length_singleton]
  rw [length] at remembered
  have kept {verdict : Verdict ι ω} (member : verdict ∈ verdicts) :
      verdict ∈ (cache.put key id allowed).verdicts ∨
        cache.capacity ≤ (since verdict.key (keys ++ [key])).length := by
    rw [remembered]
    refine (mem_drop_or_le member cache.capacity).imp_right ?_
    rintro ⟨before, after, rfl, room⟩
    have behind := (List.pairwise_cons.mp (List.pairwise_append.mp ordered).2.1).1
    rw [List.map_append, List.map_cons] at distinct
    have fewer := length_le_since ((List.nodup_cons.mp (List.nodup_append.mp distinct).2.1).2)
      (List.forall_mem_map.mpr behind)
    rw [List.length_map] at fewer
    exact Nat.le_trans room fewer
  refine ⟨recalls.tagged.put key id allowed, fun verdict member => ?_, ?_, fun verdict now => ?_⟩
  · rw [remembered] at member
    replace member := List.mem_of_mem_drop member
    rw [← stored, List.mem_append, List.mem_filter, List.mem_singleton] at member
    rcases member with ⟨member, other⟩ | rfl
    · have different : verdict.key ≠ key := by simpa using other
      refine stands_concat.mpr (.inr ⟨recalls.stands verdict member, ?_⟩)
      simpa [Request.ends] using different.symm
    · exact stands_concat.mpr (.inl rfl)
  · rw [remembered]
    exact ordered.sublist (List.drop_sublist ..)
  · rw [capacity]
    rcases stands_concat.mp now with same | ⟨stood, lasts⟩
    · obtain ⟨rfl, rfl, rfl⟩ := Request.put.inj same
      exact kept (stored ▸ List.mem_append_right _ (List.mem_singleton.mpr rfl))
    · have other : key ≠ verdict.key := by simpa [Request.ends] using lasts
      rcases recalls.known verdict stood with member | crowded
      · have left : verdict ∈ cache.verdicts.filter (·.key ≠ key) :=
          List.mem_filter.mpr ⟨member, by simpa using other.symm⟩
        exact kept (stored ▸ List.mem_append_left _ left)
      · exact .inr (Nat.le_trans crowded (length_since_concat keys other))

/-- Whatever a cache is asked for, it recalls what the history tells. -/
theorem serve (recalls : cache.Recalls requests keys) (request : Request ι ω) :
    (cache.serve request).Recalls (requests ++ [request])
      (keys ++ (request.used? cache).toList) := by
  have tagged := recalls.tagged.serve request
  have capacity := capacity_serve cache request
  cases request with
  | get key => exact recalls.get key
  | put key id allowed => exact recalls.put key id allowed
  | invalidate id =>
    refine recalls.losing rfl tagged capacity List.filter_sublist fun verdict member => ?_
    exact (recalls.tagged.mem_invalidate id verdict).trans (and_iff_right member)
  | clear =>
    refine recalls.losing rfl tagged capacity (List.nil_sublist _) fun verdict _ => ?_
    simp [VerdictCache.serve, clear, Request.ends]
  | contains key =>
    exact recalls.losing rfl tagged capacity (.refl _) fun _ member => iff_of_true member rfl
  | size => exact recalls.losing rfl tagged capacity (.refl _) fun _ member => iff_of_true member rfl

end Recalls

variable [EquivBEq ι]

/-- After any history a cache recalls what the history tells. -/
theorem recalls_through (size : Int) (requests : List (Request ι ω)) :
    ((empty size).through requests).Recalls requests ((empty size).used requests) := by
  induction requests using List.reverseRecOn with
  | nil =>
    refine ⟨.empty size, by simp [through, empty], .nil, ?_⟩
    rintro verdict ⟨earlier, later, cut, -⟩
    cases earlier <;> cases cut
  | append_singleton requests request ih =>
    rw [through_concat, used_concat]
    exact ih.serve request

/-- A verdict is given only if it stands, and one that stands is given as long as fewer other keys than
there is room for were put or hit since its own was. -/
theorem answers_through (size : Int) (requests : List (Request ι ω)) (key : Bytes) (allowed : ω) :
    let cache := (empty size).through requests
    ((cache.get key).1 = some allowed → ∃ id, Stands requests ⟨key, id, allowed⟩) ∧
      ∀ id, Stands requests ⟨key, id, allowed⟩ →
        (since key ((empty size).used requests)).length < cache.capacity →
        (cache.get key).1 = some allowed := by
  intro cache
  have recalls := recalls_through size requests
  refine ⟨fun hit => ?_, fun id stands room => ?_⟩
  · obtain ⟨verdict, member, rfl, rfl⟩ := get_eq_some hit
    exact ⟨verdict.id, recalls.stands verdict member⟩
  · have member := (recalls.known _ stands).resolve_right (Nat.not_le.mpr room)
    unfold get
    rw [recalls.tagged.find?_of_mem member]

/-- There is room for eight. The first key has been hit again and is known; since the second one was
put, eight others have been used, and it is gone. -/
theorem answers_through_full :
    let requests : List (Request Text Bool) :=
      (List.range 8).map (fun number => .put [UInt8.ofNat number] (Text.lit "a") true) ++
        [.get [0], .put [8] (Text.lit "b") false]
    let cache := (empty 0).through requests
    Stands requests ⟨[0], Text.lit "a", true⟩ ∧
      (since [0] ((empty 0).used requests)).length < cache.capacity ∧
      (cache.get [0]).1 = some true ∧
      Stands requests ⟨[1], Text.lit "a", true⟩ ∧
      (since [1] ((empty 0).used requests)).length = cache.capacity ∧
      (cache.get [1]).1 = none := by
  intro requests cache
  have first : Stands requests ⟨[0], Text.lit "a", true⟩ := ⟨[], _, rfl, by decide⟩
  have second : Stands requests ⟨[1], Text.lit "a", true⟩ := ⟨requests.take 1, _, rfl, by decide⟩
  have room : (since [0] ((empty 0).used requests)).length < cache.capacity := by decide
  exact ⟨first, room, (answers_through 0 requests [0] true).2 _ first room, second, by decide,
    by decide⟩

end Keyring.VerdictCache
