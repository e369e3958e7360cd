import Mathlib.Data.List.TakeWhile
import Keyring.Proofs.Keychain.Checks

/-!
# No secret is checked twice

A keychain leaves no trace of ids that are not stored, and does not check a secret for which it
remembers a verdict (`IsInitial.isEconomical`). A verdict is remembered from when the pair of id and
secret is judged until the id gets another hash or none, the file is read again, or too many other
pairs are judged in between.

That the verdict stands in the history of the cache is shown from one action to the next
(`exists_stands_of_undisturbed`). How many keys were used since is how many pairs were judged since, so
that the room in the cache can be told without a word about keys (`length_since_map_le`).
-/

namespace Keyring

open VerdictCache (Request Stands since)

namespace Keychain

variable {start keychain : Keychain} {pair : Text × Text} {host : Host} {action : Action}

/-! ## Since a pair was judged -/

/-- Nothing in a run renews an id. -/
def Undisturbed (id : Text) (keychain : Keychain) : List Occasion → Prop
  | [] => True
  | (host, action) :: run =>
    ¬ keychain.Renews host id action ∧ (keychain.act host action).Undisturbed id run

/-- The pairs that were judged since one of them was judged last, each once. -/
def othersSince (pair : Text × Text) (pairs : List (Text × Text)) : List (Text × Text) :=
  (pairs.reverse.takeWhile (· ≠ pair)).dedup

/-- There are no more keys than pairs since the last time. -/
theorem length_since_map_le (pair : Text × Text) (pairs : List (Text × Text)) :
    (since (keyOf pair) (pairs.map keyOf)).length ≤ (othersSince pair pairs).length := by
  have among : since (keyOf pair) (pairs.map keyOf) ⊆ (othersSince pair pairs).map keyOf := by
    intro key member
    rw [since, List.mem_dedup, ← List.map_reverse, List.takeWhile_map] at member
    obtain ⟨other, taken, rfl⟩ := List.mem_map.mp member
    -- Whatever comes before the key comes before the pair, too.
    have later : pairs.reverse.takeWhile ((fun key => decide (key ≠ keyOf pair)) ∘ keyOf) =
        (pairs.reverse.takeWhile (· ≠ pair)).takeWhile
          ((fun key => decide (key ≠ keyOf pair)) ∘ keyOf) := by
      rw [List.takeWhile_takeWhile]
      refine congrArg (List.takeWhile · pairs.reverse) (funext fun other => ?_)
      by_cases same : other = pair <;> simp [same]
    rw [later] at taken
    exact List.mem_map_of_mem (List.mem_dedup.mpr ((List.takeWhile_sublist _).subset taken))
  calc (since (keyOf pair) (pairs.map keyOf)).length
    _ ≤ ((othersSince pair pairs).map keyOf).length :=
      (List.subperm_of_subset (List.nodup_dedup _) among).length_le
    _ = (othersSince pair pairs).length := List.length_map _

/-- What ends the verdict on an id that is left alone is another verdict on the pair. -/
theorem exists_put_of_ends {run : List Occasion} {request : Request Text Bool}
    (undisturbed : keychain.Undisturbed pair.1 run)
    (apart : ∀ other ∈ keychain.judged run, keyOf other = keyOf pair → other = pair)
    (member : request ∈ keychain.history run)
    (ends : request.ends (keyOf pair) pair.1 = true) :
    ∃ allowed, request = .put (keyOf pair) pair.1 allowed := by
  induction run generalizing keychain with
  | nil => cases member
  | cons occasion run ih =>
    obtain ⟨host, action⟩ := occasion
    obtain ⟨spared, undisturbed⟩ := undisturbed
    rcases List.mem_append.mp member with now | later
    · rcases List.mem_append.mp now with forgotten | consulted
      · rcases forgets?_eq_some (Option.mem_toList.mp forgotten) with ⟨id, rfl, renews⟩ | ⟨rfl, renews⟩
        · obtain rfl : pair.1 = id := by simpa [Request.ends] using ends
          exact absurd renews spared
        · exact absurd (renews pair.1) spared
      · obtain ⟨other, judged, consulted⟩ := List.mem_flatMap.mp consulted
        rcases eq_of_mem_consults consulted with rfl | ⟨allowed, rfl⟩
        · cases ends
        · have same : keyOf other = keyOf pair := by simpa [Request.ends] using ends
          obtain rfl := apart other (List.mem_append_left _ judged) same
          exact ⟨allowed, rfl⟩
    · exact ih undisturbed (fun other member => apart other (List.mem_append_right _ member)) later

/-- Once a pair is judged, a verdict on it stands. -/
theorem IsInitial.exists_stands (initial : start.IsInitial) {run : List Occasion}
    (apart : ∀ other ∈ start.judged run, keyOf other = keyOf pair → other = pair)
    (judged : (start.through run).judgedBy action = some pair) :
    ∃ allowed, Stands (start.history run ++ (start.through run).requests host action)
      ⟨keyOf pair, pair.1, allowed⟩ := by
  have recalls := initial.recalls_through run
  obtain ⟨hash, stored, -⟩ :=
    act_of_judged (initial.sound_through run).storable host judged
  rw [requests_of_judged host judged, consults, ruling_of_stored stored]
  cases known : (start.through run).cache.contains (keyOf pair) with
  | false =>
    refine ⟨Secret.matchesHash (Utf8.octets pair.2) hash, ?_⟩
    rw [if_neg (by decide), List.append_cons]
    exact VerdictCache.stands_concat.mpr (.inl rfl)
  | true =>
    -- The verdict that is found was put for a pair with this key, which is this pair.
    obtain ⟨verdict, found⟩ := Option.isSome_iff_exists.mp known
    obtain ⟨member, under⟩ := VerdictCache.mem_of_find?_eq_some found
    have stands := recalls.stands verdict member
    obtain ⟨earlier, later, cut, -⟩ := recalls.stands verdict member
    obtain ⟨other, before, key, about⟩ : ∃ other ∈ start.judged run,
        verdict.key = keyOf other ∧ verdict.id = other.1 :=
      exists_of_put_mem_history (cut ▸ List.mem_append_right _ (List.mem_cons_self ..))
    obtain rfl := apart other before (key.symm.trans under)
    rw [← key, ← about]
    exact ⟨verdict.allowed, VerdictCache.stands_concat.mpr (.inr ⟨stands, rfl⟩)⟩

/-- As long as an id is left alone, a verdict on a pair that was judged stands. -/
theorem IsInitial.exists_stands_of_undisturbed (initial : start.IsInitial)
    {earlier later : List Occasion}
    (apart : ∀ other ∈ start.judged (earlier ++ (host, action) :: later),
      keyOf other = keyOf pair → other = pair)
    (judged : (start.through earlier).judgedBy action = some pair)
    (undisturbed : ((start.through earlier).act host action).Undisturbed pair.1 later) :
    ∃ allowed, Stands (start.history (earlier ++ (host, action) :: later))
      ⟨keyOf pair, pair.1, allowed⟩ := by
  rw [judged_append] at apart
  rw [history_append, history, ← List.append_assoc]
  obtain ⟨allowed, stands⟩ := initial.exists_stands
    (fun other member => apart other (List.mem_append_left _ member)) judged
  refine stands.append fun request member ends => exists_put_of_ends undisturbed ?_ member ends
  exact fun other member =>
    apart other (List.mem_append_right _ (List.mem_append_right _ member))

/-- A pair that was judged is found, unless its id was renewed since or the cache has no room. -/
theorem IsInitial.contains_of_judged (initial : start.IsInitial) {earlier later : List Occasion}
    (separates : Sha512.Separates (start.hashed (earlier ++ (host, action) :: later)))
    (judged : (start.through earlier).judgedBy action = some pair)
    (undisturbed : ((start.through earlier).act host action).Undisturbed pair.1 later)
    (room : (othersSince pair (start.judged (earlier ++ (host, action) :: later))).length <
      start.cache.capacity) :
    (start.through (earlier ++ (host, action) :: later)).cache.contains (keyOf pair) = true ∧
      (start.through (earlier ++ (host, action) :: later)).judges pair = true := by
  have among : pair ∈ start.judged (earlier ++ (host, action) :: later) := by
    rw [judged_append, Keychain.judged, judged]
    simp
  obtain ⟨allowed, stands⟩ := initial.exists_stands_of_undisturbed
    (fun other member same => initial.sound.eq_of_keyOf separates member among same) judged
    undisturbed
  have recalls := initial.recalls_through (earlier ++ (host, action) :: later)
  have capacity : (start.through (earlier ++ (host, action) :: later)).cache.capacity =
      start.cache.capacity := by
    rw [initial.sound.cache_through, VerdictCache.capacity_through]
  have member := (recalls.known _ stands).resolve_right
    (Nat.not_le.mpr (capacity ▸ Nat.lt_of_le_of_lt (length_since_map_le ..) room))
  obtain ⟨_, hash, stored, -⟩ :=
    (initial.sound_through (earlier ++ (host, action) :: later)).current _ member
  obtain ⟨idEncodable, secretEncodable, -⟩ :=
    judges_iff.mp (judgedBy_eq_some_iff.mp judged).2
  refine ⟨?_, judges_iff.mpr ⟨idEncodable, secretEncodable, _, stored⟩⟩
  rw [VerdictCache.contains, recalls.tagged.find?_of_mem member]
  rfl

/-! ## Economy -/

/-- What a run of a keychain does not spend. -/
structure IsEconomical (start : Keychain) (run : List Occasion) : Prop where
  /-- Unless id and secret are texts with octets and the id is stored, verifying them leaves no trace. -/
  traceless : ∀ id secret : Cell,
    (∀ text guess, id = .ofText text → secret = .ofText guess →
      ¬ (start.through run).judges (text, guess) = true) →
    (start.through run).verify id secret = (.ok false, start.through run)
  /-- The same goes for what headers present. -/
  traceless_header : ∀ header, (start.through run).judgedBy (.allow header) = none →
    ((start.through run).allow header).2 = start.through run ∧
      ∀ realm, (Gate.decide (start.through run) header realm).2 = start.through run
  /-- Every pair that was judged was a hit or a miss, and there was one check for each miss. -/
  counted : ∃ notes, (start.throughBy noted run).run [] = (start.through run, notes) ∧
    notes.length = (start.through run).cache.misses ∧
    (start.through run).cache.hits + (start.through run).cache.misses = (start.judged run).length
  /-- Whatever is done next, a hit has no secret checked, and a miss has the secret of the pair checked
  once against the hash that is stored. -/
  tallied : ∀ host action before, ∃ notes,
    ((start.through run).actBy noted host action).run before =
        ((start.through run).act host action, before ++ notes) ∧
      Tally (start.through run) ((start.through run).act host action)
        ((start.through run).judgedBy action) notes
  /-- A pair that was judged is a hit, as long as its id is left alone and fewer other pairs were judged
  since the last time than there is room for. -/
  remembers : ∀ {earlier host action later pair}, run = earlier ++ (host, action) :: later →
    (start.through earlier).judgedBy action = some pair →
    ((start.through earlier).act host action).Undisturbed pair.1 later →
    (othersSince pair (start.judged run)).length < start.cache.capacity →
    ∀ host again before, again.presented = some pair →
      ((start.through run).act host again).cache.hits = (start.through run).cache.hits + 1 ∧
      ((start.through run).act host again).cache.misses = (start.through run).cache.misses ∧
      ((start.through run).actBy noted host again).run before =
        ((start.through run).act host again, before)

/-- A keychain begins with counters at zero. -/
theorem IsInitial.counters (initial : start.IsInitial) :
    start.cache.hits = 0 ∧ start.cache.misses = 0 := by
  obtain ⟨size, empty⟩ := initial.cache_eq
  rw [empty]
  exact ⟨rfl, rfl⟩

/-- No run of a keychain checks a secret in vain, unless two of the messages that are hashed in it have
one digest. -/
theorem IsInitial.isEconomical (initial : start.IsInitial) (run : List Occasion)
    (separates : Sha512.Separates (start.hashed run)) : IsEconomical start run := by
  have sound := initial.sound_through run
  refine ⟨fun id secret nothing => ?_, fun header nothing => ?_, ?_, fun host action before => ?_, ?_⟩
  · unfold verify
    split
    · exact verifyText_of_not_judges (nothing _ _ rfl rfl)
    · rfl
  · have same : (start.through run).act (.calm .empty) (.allow header) = start.through run :=
      act_of_not_judged _ rfl nothing
    exact ⟨same, fun realm => (Gate.snd_decide ..).trans same⟩
  · obtain ⟨hits, misses⟩ := initial.counters
    obtain ⟨missed, looked⟩ := initial.sound.counted_through run
    refine ⟨start.checks run, initial.sound.run_throughBy_noted run [], ?_, ?_⟩
    · omega
    · omega
  · exact ⟨_, run_actBy_noted sound.storable host action before,
      tally_act sound.storable host action⟩
  · rintro earlier host action later pair rfl judged undisturbed room there again before presented
    obtain ⟨known, judges⟩ := initial.contains_of_judged separates judged undisturbed room
    have asked := judgedBy_eq_some_iff.mpr ⟨presented, judges⟩
    exact hit_of_contains sound.storable there asked known before

/-- The right secret is presented and another id added. Whoever presents it again is let in without a
check, and an id that is not stored leaves no trace. -/
theorem isEconomical_recognized :
    let id := Text.lit "a"
    let secret := Text.lit "s"
    let salts : Salts := ⟨[], Utf8.octets (Text.lit "abcdefghijklmnopqrstuu")⟩
    ∃ hash, (Secret.hash (.ofText secret) 4 salts).1 = .ok hash ∧
      let start := create (Text.lit "k") [(.ofText id, .ofBytes hash)] none
      let run : List Occasion :=
        [(.calm .empty, .verify id secret), (.calm .empty, .add (Text.lit "b") (.ofBytes hash))]
      start.IsInitial ∧ Sha512.Separates (start.hashed run) ∧
        (start.through run).cache.hits + (start.through run).cache.misses = 1 ∧
        ((start.through run).act (.calm .empty) (.verify id secret)).cache.hits =
          (start.through run).cache.hits + 1 ∧
        ((start.through run).verify id secret).1 = .ok true ∧
        (start.through run).verify (Text.lit "c") secret = (.ok false, start.through run) := by
  intro id secret salts
  obtain ⟨hash, hashed, right, kept⟩ :=
    Secret.exists_hash secret 4 salts (by decide) (by decide) (by decide) (by decide)
  refine ⟨hash, hashed, ?_⟩
  intro start run
  have acceptable : ∀ id ∈ [Text.lit "a", Text.lit "b"], Entries.isAcceptable id hash = true := by
    simp only [List.forall_mem_cons, Entries.isAcceptable_iff]
    exact ⟨⟨by decide, by decide, kept⟩, ⟨by decide, by decide, kept⟩, nofun⟩
  have initial : start.IsInitial := .created _ none
    (Entries.Storable.nil.put (acceptable _ (by decide)) : Entries.Storable (Named.put _ _ []))
  have judged : start.judged run = [(id, secret)] := rfl
  have asked : start.hashed run = start.messages (some (id, secret)) := List.append_nil _
  have separates : Sha512.Separates
      (start.hashed run ++ (start.through run).messages (some (id, secret))) := by
    refine .of_eq (Secret.cacheMessage (Utf8.octets id) (Utf8.octets secret)) fun _ member => ?_
    rw [asked] at member
    exact (List.mem_append.mp member).elim eq_of_mem_messages eq_of_mem_messages
  have economical := initial.isEconomical run separates.left
  obtain ⟨notes, -, -, looked⟩ := economical.counted
  rw [judged, List.length_singleton] at looked
  have undisturbed : Undisturbed id (start.act (.calm .empty) (.verify id secret)) run.tail := by
    refine ⟨?_, trivial⟩
    rintro ⟨same, -⟩
    exact absurd same (by decide)
  have cut : run = [] ++ (.calm .empty, .verify id secret) :: run.tail := rfl
  have first : (start.through []).judgedBy (.verify id secret) = some (id, secret) := rfl
  have room : (othersSince (id, secret) (start.judged run)).length < start.cache.capacity := by
    have alone : othersSince (id, secret) [(id, secret)] = [] := by decide
    have capacity : start.cache.capacity = 8 := rfl
    rw [judged, alone, capacity]
    exact Nat.zero_lt_succ 7
  obtain ⟨hits, -, -⟩ := economical.remembers cut first undisturbed room (.calm .empty)
    (.verify id secret) [] rfl
  have entries : (start.through run).entries =
      Named.put (.ofText (Text.lit "b")) (.ofBytes hash) start.entries := by
    have added := ((start.verify id secret).2.add_of_isAcceptable
      (acceptable (Text.lit "b") (by decide))).2
    rw [(start.verify_keeps id secret).2] at added
    exact added
  have stored : (start.through run).entries.get? (.ofText id) = some (.ofBytes hash) := by
    rw [entries]
    rfl
  have verdict := (initial.sound_through run).fst_verifyText_of_stored (by decide) (by decide) stored
    separates
  rw [right] at verdict
  refine ⟨initial, separates.left, looked, hits, verdict, economical.traceless _ _ ?_⟩
  rintro _ _ ⟨⟩ ⟨⟩
  rw [judges_iff]
  rintro ⟨-, -, value, found⟩
  rw [entries] at found
  cases found

end Keychain

end Keyring
