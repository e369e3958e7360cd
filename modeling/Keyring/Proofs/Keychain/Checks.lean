import Keyring.Proofs.Keychain.Consultation

/-!
# How often secrets are checked

A check that takes notes (`noted`) tells what was checked in a run. A verdict that is found is given by
no check at all, whatever it says, and one that is not found by exactly one (`Tally`). So over a run
there are as many checks as the cache has counted misses, and as many look-ups as there were pairs to
judge (`Sound.counted_through`).
-/

namespace Keyring

namespace Keychain

variable {keychain : Keychain} {pair : Text × Text}

/-! ## The check that takes notes -/

/-- The secrets that were checked, and the hashes that they were checked against. -/
abbrev Notes := List (Bytes × Cell)

/-- The check that there is, with a note of each secret that is checked. -/
def noted (secret : Bytes) (hash : Cell) : StateM Notes (Except Failure Bool) := do
  modify (· ++ [(secret, hash)])
  return Secret.verdict secret hash

/-- What is checked when a pair is judged: its secret, if no verdict is remembered. -/
def checked (keychain : Keychain) (pair : Text × Text) : Notes :=
  if keychain.cache.contains (keyOf pair) then []
  else [(Utf8.octets pair.2, (keychain.entries.get? (.ofText pair.1)).getD .absent)]

/-- A verdict that is found is not checked, and one that is not is checked once. -/
theorem run_judgeBy_noted (keychain : Keychain) (id : Text) (idOctets secret : Bytes) (hash : Cell)
    (notes : Notes) :
    (keychain.judgeBy noted id idOctets secret hash).run notes =
      (keychain.judge id idOctets secret hash,
        notes ++ if keychain.cache.contains (Secret.cacheDigest idOctets secret) then []
          else [(secret, hash)]) := by
  rw [← VerdictCache.isSome_get]
  unfold judgeBy judge noted
  dsimp only
  generalize keychain.cache.get (Secret.cacheDigest idOctets secret) = found
  obtain ⟨_ | allowed, cache⟩ := found
  · cases Secret.verdict secret hash <;> rfl
  · rw [Option.isSome_some, if_pos rfl, List.append_nil]
    rfl

/-- Texts are verified as they are, and noted if they are judged. -/
theorem run_verifyTextBy_noted (storable : keychain.entries.Storable) (id secret : Text)
    (notes : Notes) :
    (keychain.verifyTextBy noted id secret).run notes =
      (keychain.verifyText id secret,
        notes ++ ((some (id, secret)).filter keychain.judges).toList.flatMap keychain.checked) := by
  by_cases judged : keychain.judges (id, secret) = true
  · obtain ⟨idEncodable, secretEncodable, value, stored⟩ := judges_iff.mp judged
    obtain ⟨-, hash, -, rfl, -⟩ := storable.get?_eq_some stored
    have noting := run_judgeBy_noted (keychain.take .read) id (Utf8.octets id) (Utf8.octets secret)
      (.ofBytes hash) notes
    rw [verifyText_of_stored idEncodable secretEncodable stored, Option.filter_some_pos judged]
    unfold verifyTextBy
    rw [Utf8.encode_eq_ok_iff.mpr ⟨idEncodable, rfl⟩,
      Utf8.encode_eq_ok_iff.mpr ⟨secretEncodable, rfl⟩]
    dsimp only
    rw [entries_take, stored, Option.getD_some]
    dsimp only
    rw [StateT.run_bind, noting]
    simp [holding, checked, stored, keyOf]
    rfl
  · rw [verifyText_of_not_judges judged, verifyTextBy_of_not_judges noted judged,
      Option.filter_some_neg (Bool.eq_false_iff.mpr judged), Option.toList_none, List.flatMap_nil,
      List.append_nil]
    rfl

/-- What any action notes is what is checked for the pair that it has judged. -/
theorem run_actBy_noted (storable : keychain.entries.Storable) (host : Host) (action : Action)
    (notes : Notes) :
    (keychain.actBy noted host action).run notes =
      (keychain.act host action,
        notes ++ (keychain.judgedBy action).toList.flatMap keychain.checked) := by
  cases calls : action.calls with
  | false =>
    rw [judgedBy, Action.presented_of_not_calls calls, Option.filter_none, Option.toList_none,
      List.flatMap_nil, List.append_nil]
    cases action <;> first | rfl | cases calls
  | true =>
    rw [actBy_of_calls noted keychain host calls, act_of_calls keychain host calls, judgedBy]
    rcases action.presented with _ | ⟨id, secret⟩
    · simp
      rfl
    · dsimp only
      rw [StateT.run_map, run_verifyTextBy_noted storable]
      rfl

/-! ## Checks and counters -/

/-- What an action adds to the counters of the cache, and to the notes, if it has a pair judged or not.
A verdict that was found is a hit whatever it says. -/
inductive Tally (keychain after : Keychain) : Option (Text × Text) → Notes → Prop
  | idle (hits : after.cache.hits = keychain.cache.hits)
      (misses : after.cache.misses = keychain.cache.misses) : Tally keychain after none []
  | hit {pair : Text × Text} (hits : after.cache.hits = keychain.cache.hits + 1)
      (misses : after.cache.misses = keychain.cache.misses) : Tally keychain after (some pair) []
  | miss {pair : Text × Text} {hash : Bytes}
      (stored : keychain.entries.get? (.ofText pair.1) = some (.ofBytes hash))
      (hits : after.cache.hits = keychain.cache.hits)
      (misses : after.cache.misses = keychain.cache.misses + 1) :
      Tally keychain after (some pair) [(Utf8.octets pair.2, .ofBytes hash)]

/-- Every action is tallied. -/
theorem tally_act (storable : keychain.entries.Storable) (host : Host) (action : Action) :
    Tally keychain (keychain.act host action) (keychain.judgedBy action)
      ((keychain.judgedBy action).toList.flatMap keychain.checked) := by
  have cache := cache_act storable host action
  -- Whatever is forgotten leaves the counters alone, and what is judged is looked up once.
  cases judged : keychain.judgedBy action with
  | none =>
    rw [requests, judged, Option.toList_none, List.flatMap_nil, List.append_nil] at cache
    rw [Option.toList_none, List.flatMap_nil]
    cases forgotten : keychain.forgets? host action with
    | none =>
      rw [forgotten] at cache
      exact .idle (by rw [cache]; rfl) (by rw [cache]; rfl)
    | some request =>
      rw [forgotten] at cache
      rcases forgets?_eq_some forgotten with ⟨id, rfl, -⟩ | ⟨rfl, -⟩
      · exact .idle (by rw [cache]; rfl) (by rw [cache]; rfl)
      · exact .idle (by rw [cache]; rfl) (by rw [cache]; rfl)
  | some pair =>
    obtain ⟨hash, stored, -⟩ := act_of_judged storable host judged
    rw [requests_of_judged host judged] at cache
    unfold consults at cache
    rw [ruling_of_stored stored] at cache
    rw [Option.toList_some, List.flatMap_singleton, checked, stored, Option.getD_some]
    cases known : keychain.cache.contains (keyOf pair) with
    | true =>
      rw [known, if_pos rfl] at cache
      rw [if_pos rfl]
      obtain ⟨hits, misses⟩ := VerdictCache.counters_get_of_contains known
      exact .hit (cache ▸ hits) (cache ▸ misses)
    | false =>
      rw [known, if_neg (by decide)] at cache
      rw [if_neg (by decide)]
      obtain ⟨hits, misses⟩ := VerdictCache.counters_put_of_not_contains pair.1
        (Secret.matchesHash (Utf8.octets pair.2) hash) known
      exact .miss stored (cache ▸ hits) (cache ▸ misses)

/-- A pair whose verdict is remembered is a hit, and no secret is checked. -/
theorem hit_of_contains (storable : keychain.entries.Storable) (host : Host) {action : Action}
    (judged : keychain.judgedBy action = some pair)
    (known : keychain.cache.contains (keyOf pair) = true) (notes : Notes) :
    (keychain.act host action).cache.hits = keychain.cache.hits + 1 ∧
      (keychain.act host action).cache.misses = keychain.cache.misses ∧
      (keychain.actBy noted host action).run notes = (keychain.act host action, notes) := by
  have nothing : (keychain.judgedBy action).toList.flatMap keychain.checked = [] := by
    rw [judged, Option.toList_some, List.flatMap_singleton, checked, if_pos known]
  have noting := run_actBy_noted storable host action notes
  have tally := tally_act storable host action
  rw [nothing] at noting tally
  rw [judged] at tally
  cases tally with
  | hit hits misses => exact ⟨hits, misses, by simpa using noting⟩

/-- There are as many misses as checks, and as many look-ups as pairs to judge. -/
theorem Tally.counted {after : Keychain} {judged : Option (Text × Text)} {notes : Notes}
    (tally : Tally keychain after judged notes) :
    after.cache.misses = keychain.cache.misses + notes.length ∧
      after.cache.hits + after.cache.misses =
        keychain.cache.hits + keychain.cache.misses + judged.toList.length := by
  cases tally with
  | idle hits misses => simp [hits, misses]
  | hit hits misses => simp [hits, misses, Nat.add_right_comm]
  | miss stored hits misses => simp [hits, misses, Nat.add_assoc]

/-- What is checked in a run, one secret after another. -/
def checks (keychain : Keychain) : List Occasion → Notes
  | [] => []
  | (host, action) :: run =>
    (keychain.judgedBy action).toList.flatMap keychain.checked ++
      (keychain.act host action).checks run

/-- Over a run there are as many misses as checks, and as many look-ups as pairs to judge. -/
theorem Sound.counted_through {messages : List Bytes} (sound : Sound messages keychain)
    (run : List Occasion) :
    (keychain.through run).cache.misses =
        keychain.cache.misses + (keychain.checks run).length ∧
      (keychain.through run).cache.hits + (keychain.through run).cache.misses =
        keychain.cache.hits + keychain.cache.misses + (keychain.judged run).length := by
  induction run generalizing messages keychain with
  | nil => exact ⟨rfl, rfl⟩
  | cons occasion run ih =>
    obtain ⟨host, action⟩ := occasion
    have now := (tally_act sound.storable host action).counted
    have later := ih (sound.act host action)
    have same : keychain.through ((host, action) :: run) =
        (keychain.act host action).through run := rfl
    rw [same, checks, judged, List.length_append, List.length_append]
    omega

/-- With notes a run is what it is, and the notes are what is checked in it. -/
theorem Sound.run_throughBy_noted {messages : List Bytes} (sound : Sound messages keychain)
    (run : List Occasion) (notes : Notes) :
    (keychain.throughBy noted run).run notes =
      (keychain.through run, notes ++ keychain.checks run) := by
  induction run generalizing messages keychain notes with
  | nil =>
    rw [checks, List.append_nil]
    rfl
  | cons occasion run ih =>
    obtain ⟨host, action⟩ := occasion
    rw [throughBy_cons, StateT.run_bind, run_actBy_noted sound.storable]
    rw [checks, ← List.append_assoc]
    exact ih (sound.act host action) _

end Keychain

end Keyring
