import Keyring.Gate
import Keyring.Host.State
import Keyring.Proofs.Entries.RoundTrip
import Keyring.Proofs.Keychain.Admission
import Keyring.Proofs.Keychain.Storage
import Keyring.Proofs.VerdictCache.Tagging

/-!
# Keychains at work

A keychain begins with the entries of a file or with given ones (`IsInitial`), and goes through a
run of actions, some of which may fail. Every action meets surroundings of its own, since between
two of them others may do anything to the files.

`Sound` is what every run keeps (`IsInitial.sound_through`): the entries can be stored, the tags of
the cache are right, and every remembered verdict is the one that would be given now. It names the
messages that were hashed so far, for what is remembered about two messages is told apart only if
their digests differ.
-/

namespace Keyring

namespace Gate

/-- The gate does nothing to the keychain but ask for the verdict. -/
theorem snd_decide (keychain : Keychain) (header : Option Text) (realm : Cell) :
    (Gate.decide keychain header realm).2 = (keychain.allow header).2 := by
  unfold Gate.decide
  split <;> simp_all

end Gate

namespace Keychain

/-! ## Runs -/

/-- What is asked of a keychain. Hashes are text or octets; ids, secrets and realms may be of any
kind. -/
inductive Action where
  | add (id : Cell) (hash : Given)
  | remove (id : Cell)
  | reload
  | save
  | verify (id secret : Cell)
  | allow (header : Option Text)
  | guard (header : Option Text) (realm : Cell)

/-- An action and the surroundings that it meets. -/
abbrev Occasion := Host × Action

/-- The keychain after an action, whether that fails or not. -/
def act (keychain : Keychain) (host : Host) : Action → Keychain
  | .add id hash => (keychain.add id hash.toCell).2
  | .remove id => (keychain.remove id).2
  | .reload => (keychain.reload.run host).1.2
  | .save => (keychain.save.run host).1.2
  | .verify id secret => (keychain.verify id secret).2
  | .allow header => (keychain.allow header).2
  | .guard header realm => (Gate.decide keychain header realm).2

/-- The keychain after one action upon another. -/
def through (keychain : Keychain) (run : List Occasion) : Keychain :=
  run.foldl (fun keychain occasion => keychain.act occasion.1 occasion.2) keychain

/-- A keychain as it begins: with the entries of a file, or with entries that could be added. -/
inductive IsInitial : Keychain → Prop
  | loaded {name : Text} {host : Host} {keychain : Keychain}
      (read : ((load name).run host).1 = .ok keychain) : IsInitial keychain
  | created (name : Text) {entries : Entries} (size : Option Int) (storable : entries.Storable) :
      IsInitial (create name entries size)

/-! ## What is hashed -/

/-- The id and the secret that a header presents, none if the header is a failure. -/
def presentedBy (header : Option Text) : Option (Text × Text) :=
  match Header.parse? header with
  | .ok presented => presented
  | .error _ => none

/-- The id and the secret that an action has verified, if it has. -/
def Action.presented : Action → Option (Text × Text)
  | .verify (.ofText id) (.ofText secret) => some (id, secret)
  | .allow header => presentedBy header
  | .guard header _ => presentedBy header
  | _ => none

/-- The message that is hashed to verify what is presented. Nothing is hashed for an id that is not
stored, or for text without octets. -/
def messages (keychain : Keychain) : Option (Text × Text) → List Bytes
  | none => []
  | some (id, secret) =>
    match Utf8.encode id, Utf8.encode secret with
    | .ok idOctets, .ok secretOctets =>
      if keychain.entries.contains (.ofText id) then
        [Secret.cacheMessage idOctets secretOctets]
      else []
    | _, _ => []

/-- The messages that are hashed in a run, the first one first. -/
def hashed (keychain : Keychain) : List Occasion → List Bytes
  | [] => []
  | (host, action) :: run =>
    keychain.messages action.presented ++ (keychain.act host action).hashed run

/-! ## What the lock leaves alone -/

@[simp]
theorem entries_take (keychain : Keychain) (side : Side) :
    (keychain.take side).entries = keychain.entries := rfl

@[simp]
theorem cache_take (keychain : Keychain) (side : Side) :
    (keychain.take side).cache = keychain.cache := rfl

@[simp]
theorem entries_leave (keychain : Keychain) (side : Side) :
    (keychain.leave side).entries = keychain.entries := rfl

@[simp]
theorem cache_leave (keychain : Keychain) (side : Side) :
    (keychain.leave side).cache = keychain.cache := rfl

/-- Only a text can be the id of a storable entry. -/
theorem eq_ofText_of_contains {keychain : Keychain} (storable : keychain.entries.Storable)
    {id : Cell} (stored : keychain.contains id = .ok true) : ∃ text, id = .ofText text := by
  unfold contains Named.contains at stored
  cases sought : id.soughtId with
  | error failure => simp [sought, Except.map] at stored
  | ok same =>
    obtain rfl : same = id := by
      cases id <;> simp_all [Cell.soughtId]
    simp only [sought, Except.map, Except.ok.injEq, Option.isSome_iff_exists] at stored
    obtain ⟨hash, found⟩ := stored
    obtain ⟨text, -, named, -⟩ := storable.get?_eq_some found
    exact ⟨text, named⟩

/-- A verdict that is remembered is given again. -/
theorem judge_of_hit {keychain : Keychain} {idOctets secret : Bytes} {allowed : Bool} (id : Text)
    (hash : Cell)
    (hit : (keychain.cache.get (Secret.cacheDigest idOctets secret)).1 = some allowed) :
    keychain.judge id idOctets secret hash =
      (.ok allowed,
        { keychain with
          cache := (keychain.cache.get (Secret.cacheDigest idOctets secret)).2 }) := by
  unfold judge
  dsimp only
  generalize keychain.cache.get (Secret.cacheDigest idOctets secret) = found at hit ⊢
  obtain ⟨_, cache⟩ := found
  cases hit
  rfl

/-- A verdict that is not remembered is worked out, and is remembered then. -/
theorem judge_of_miss {keychain : Keychain} {idOctets secret : Bytes} (id : Text) (hash : Bytes)
    (missed : (keychain.cache.get (Secret.cacheDigest idOctets secret)).1 = none) :
    keychain.judge id idOctets secret (.ofBytes hash) =
      (.ok (Secret.matchesHash secret hash),
        { keychain with
          cache := (keychain.cache.get (Secret.cacheDigest idOctets secret)).2.put
            (Secret.cacheDigest idOctets secret) id (Secret.matchesHash secret hash) }) := by
  unfold judge
  dsimp only
  generalize keychain.cache.get (Secret.cacheDigest idOctets secret) = found at missed ⊢
  obtain ⟨_, cache⟩ := found
  cases missed
  rw [Secret.verdict_ofBytes]

/-- Nothing is hashed for an id that is not stored, or for text without octets. -/
theorem verifyText_of_unjudged {keychain : Keychain} {id secret : Text}
    (unjudged : Utf8.isEncodable id = true → Utf8.isEncodable secret = true →
      keychain.entries.get? (.ofText id) = none) :
    keychain.verifyText id secret = (.ok false, keychain) ∨
      keychain.verifyText id secret = (.ok false, keychain.released .read) := by
  unfold verifyText
  split
  · rename_i idOctets secretOctets idEncoded secretEncoded
    have missing := unjudged (Utf8.encode_eq_ok_iff.mp idEncoded).1
      (Utf8.encode_eq_ok_iff.mp secretEncoded).1
    right
    simp [holding, missing, released]
  · exact .inl rfl

/-- Texts with octets are judged by the hash that is stored. -/
theorem verifyText_of_stored {keychain : Keychain} {id secret : Text} {hash : Bytes}
    (idEncodable : Utf8.isEncodable id = true) (secretEncodable : Utf8.isEncodable secret = true)
    (stored : keychain.entries.get? (.ofText id) = some (.ofBytes hash)) :
    keychain.verifyText id secret = keychain.holding .read fun keychain =>
      keychain.judge id (Utf8.octets id) (Utf8.octets secret) (.ofBytes hash) := by
  unfold verifyText
  rw [Utf8.encode_eq_ok_iff.mpr ⟨idEncodable, rfl⟩, Utf8.encode_eq_ok_iff.mpr ⟨secretEncodable, rfl⟩]
  simp [holding, stored]

/-- One message is hashed for texts with octets, if the id is stored. -/
theorem messages_of_stored {keychain : Keychain} {id secret : Text} {hash : Cell}
    (idEncodable : Utf8.isEncodable id = true) (secretEncodable : Utf8.isEncodable secret = true)
    (stored : keychain.entries.get? (.ofText id) = some hash) :
    keychain.messages (some (id, secret)) =
      [Secret.cacheMessage (Utf8.octets id) (Utf8.octets secret)] := by
  unfold messages
  dsimp only
  rw [Utf8.encode_eq_ok_iff.mpr ⟨idEncodable, rfl⟩, Utf8.encode_eq_ok_iff.mpr ⟨secretEncodable, rfl⟩]
  simp [Named.contains, stored]

/-! ## What a run keeps -/

/-- A verdict is right by the entries as they are: the hash of its id is stored, it stands under the
digest of one of the messages, and it says whether the secret in there matches the hash. -/
def IsCurrent (entries : Entries) (messages : List Bytes) (verdict : Verdict Text Bool) : Prop :=
  ∃ secret hash, entries.get? (.ofText verdict.id) = some (.ofBytes hash) ∧
    verdict.key = Secret.cacheDigest (Utf8.octets verdict.id) secret ∧
    Secret.cacheMessage (Utf8.octets verdict.id) secret ∈ messages ∧
    verdict.allowed = Secret.matchesHash secret hash

/-- What is true of a keychain at any time, if these messages were hashed before. -/
structure Sound (messages : List Bytes) (keychain : Keychain) : Prop where
  storable : keychain.entries.Storable
  tagged : keychain.cache.Tagged
  current : ∀ verdict ∈ keychain.cache.verdicts, IsCurrent keychain.entries messages verdict

/-- A verdict stays right while the hash of its id stays, however much more is hashed. -/
theorem IsCurrent.mono {entries others : Entries} {messages more : List Bytes}
    {verdict : Verdict Text Bool} (current : IsCurrent entries messages verdict)
    (same : others.get? (.ofText verdict.id) = entries.get? (.ofText verdict.id)) :
    IsCurrent others (messages ++ more) verdict := by
  obtain ⟨secret, hash, stored, key, member, allowed⟩ := current
  exact ⟨secret, hash, same.trans stored, key, List.mem_append_left _ member, allowed⟩

namespace Sound

variable {messages more : List Bytes} {keychain : Keychain}

/-- A sound keychain stays sound if it only remembers less, and more is hashed. -/
theorem of_subset (sound : Sound messages keychain) {after : Keychain}
    (entries : after.entries = keychain.entries) (tagged : after.cache.Tagged)
    (verdicts : ∀ verdict ∈ after.cache.verdicts, verdict ∈ keychain.cache.verdicts) :
    Sound (messages ++ more) after where
  storable := entries ▸ sound.storable
  tagged := tagged
  current := fun verdict member =>
    (sound.current verdict (verdicts verdict member)).mono (by rw [entries])

/-- Another state of the lock makes no difference. -/
theorem of_same (sound : Sound messages keychain) {after : Keychain}
    (entries : after.entries = keychain.entries) (cache : after.cache = keychain.cache) :
    Sound (messages ++ more) after :=
  sound.of_subset entries (cache ▸ sound.tagged) fun verdict member => by rwa [cache] at member

/-- Whatever the lock was in, an id with a new hash or none has no verdicts left, and the verdicts
for the other ids stay right. -/
theorem of_forgotten (sound : Sound messages keychain) {after : Keychain} (id : Text)
    (storable : after.entries.Storable)
    (same : ∀ other, other ≠ id →
      after.entries.get? (.ofText other) = keychain.entries.get? (.ofText other))
    (cache : after.cache = (keychain.cache.invalidate id).2) : Sound (messages ++ more) after where
  storable := storable
  tagged := cache ▸ sound.tagged.invalidate id
  current := by
    intro verdict member
    rw [cache, sound.tagged.mem_invalidate] at member
    exact (sound.current verdict member.1).mono (same verdict.id (by simpa using member.2))

/-- Adding an entry keeps a keychain sound. -/
theorem add (sound : Sound messages keychain) (id : Cell) (hash : Given) :
    Sound (messages ++ more) (keychain.add id hash.toCell).2 := by
  unfold Keychain.add
  split
  · exact sound.of_same rfl rfl
  · rename_i text octets entry
    obtain ⟨-, acceptable⟩ := Cell.entryWith_eq_ok entry
    refine sound.of_forgotten text (sound.storable.put acceptable) ?_ rfl
    intro other different
    simp [Keychain.put, Keychain.forget, Named.get?_put, different]

/-- Removing an id keeps a keychain sound. -/
theorem remove (sound : Sound messages keychain) (id : Cell) :
    Sound (messages ++ more) (keychain.remove id).2 := by
  unfold Keychain.remove
  rw [snd_holding]
  split
  · rename_i stored
    obtain ⟨text, rfl⟩ := eq_ofText_of_contains sound.storable stored
    refine sound.of_forgotten text (sound.storable.erase _) ?_ rfl
    intro other different
    simp [forget, Named.get?_erase, different]
  · exact sound.of_same rfl rfl

/-- Saving changes nothing that matters here. -/
theorem save (sound : Sound messages keychain) (host : Host) :
    Sound (messages ++ more) (keychain.save.run host).1.2 := by
  rw [run_save]
  split <;> exact sound.of_same rfl rfl

/-- Reloading forgets all verdicts, unless it fails and leaves everything as it was. -/
theorem reload (sound : Sound messages keychain) (host : Host) :
    Sound (messages ++ more) (keychain.reload.run host).1.2 := by
  rw [run_reload]
  split
  · exact sound.of_same rfl rfl
  · rename_i entries after read
    refine ⟨?_, .clear, by simp [VerdictCache.clear]⟩
    cases entries with
    | none => exact .nil
    | some entries => exact KeychainFile.storable_of_read (congrArg Prod.fst read)

/-- Whoever holds a side of the lock works with the same entries and verdicts. -/
theorem take (sound : Sound messages keychain) (side : Side) :
    Sound messages (keychain.take side) :=
  ⟨sound.storable, sound.tagged, sound.current⟩

/-- Whoever leaves a side of the lock leaves the entries and verdicts. -/
theorem leave (sound : Sound messages keychain) (side : Side) :
    Sound messages (keychain.leave side) :=
  ⟨sound.storable, sound.tagged, sound.current⟩

/-- Whoever has held a side of the lock leaves the entries and verdicts. -/
theorem released (sound : Sound messages keychain) (side : Side) :
    Sound messages (keychain.released side) :=
  (sound.take side).leave side

/-- Whether the verdict was remembered or is worked out, what is remembered after it is right. -/
theorem judge (sound : Sound messages keychain) {id : Text} {hash : Bytes} (secret : Bytes)
    (stored : keychain.entries.get? (.ofText id) = some (.ofBytes hash)) :
    Sound (messages ++ [Secret.cacheMessage (Utf8.octets id) secret])
      (keychain.judge id (Utf8.octets id) secret (.ofBytes hash)).2 := by
  have looked := sound.tagged.get (Secret.cacheDigest (Utf8.octets id) secret)
  cases found : (keychain.cache.get (Secret.cacheDigest (Utf8.octets id) secret)).1 with
  | some allowed =>
    rw [judge_of_hit id _ found]
    exact sound.of_subset rfl looked fun _ => VerdictCache.mem_get
  | none =>
    rw [judge_of_miss id hash found]
    refine ⟨sound.storable, looked.put _ _ _, fun verdict member => ?_⟩
    rcases looked.mem_put member with old | rfl
    · exact (sound.current verdict (VerdictCache.mem_get old)).mono rfl
    · exact ⟨secret, hash, stored, rfl, by simp, rfl⟩

/-- Verifying texts keeps a keychain sound. -/
theorem verifyText (sound : Sound messages keychain) (id secret : Text) :
    Sound (messages ++ keychain.messages (some (id, secret)))
      (keychain.verifyText id secret).2 := by
  by_cases judged : Utf8.isEncodable id = true ∧ Utf8.isEncodable secret = true ∧
      ∃ hash, keychain.entries.get? (.ofText id) = some hash
  · obtain ⟨idEncodable, secretEncodable, value, stored⟩ := judged
    obtain ⟨-, hash, -, rfl, -⟩ := sound.storable.get?_eq_some stored
    rw [verifyText_of_stored idEncodable secretEncodable stored, snd_holding,
      messages_of_stored idEncodable secretEncodable stored]
    exact ((sound.take .read).judge (Utf8.octets secret) stored).leave .read
  · rcases verifyText_of_unjudged fun idEncodable secretEncodable =>
      Option.eq_none_iff_forall_ne_some.mpr fun hash stored =>
        judged ⟨idEncodable, secretEncodable, hash, stored⟩ with same | same
    all_goals
      rw [same]
      exact sound.of_same rfl rfl

/-- Values of other kinds than text are not even hashed. -/
theorem verify (sound : Sound messages keychain) (id secret : Cell) :
    Sound (messages ++ keychain.messages (Action.verify id secret).presented)
      (keychain.verify id secret).2 := by
  unfold Keychain.verify
  split
  · exact sound.verifyText _ _
  · exact sound.of_same rfl rfl

/-- A header presents texts to be verified, or nothing. -/
theorem allow (sound : Sound messages keychain) (header : Option Text) :
    Sound (messages ++ keychain.messages (presentedBy header)) (keychain.allow header).2 := by
  unfold Keychain.allow presentedBy
  rcases Header.parse? header with failure | _ | ⟨id, secret⟩
  · exact sound.of_same rfl rfl
  · exact sound.of_same rfl rfl
  · exact sound.verifyText id secret

/-- Every action keeps a keychain sound. -/
theorem act (sound : Sound messages keychain) (host : Host) (action : Action) :
    Sound (messages ++ keychain.messages action.presented) (keychain.act host action) := by
  cases action with
  | add id hash => exact sound.add id hash
  | remove id => exact sound.remove id
  | reload => exact sound.reload host
  | save => exact sound.save host
  | verify id secret => exact sound.verify id secret
  | allow header => exact sound.allow header
  | guard header realm =>
    rw [Keychain.act, Gate.snd_decide]
    exact sound.allow header

/-- Every run keeps a keychain sound. -/
theorem through (sound : Sound messages keychain) (run : List Occasion) :
    Sound (messages ++ keychain.hashed run) (keychain.through run) := by
  induction run generalizing messages keychain with
  | nil => simpa [hashed, Keychain.through] using sound
  | cons occasion run ih =>
    obtain ⟨host, action⟩ := occasion
    simpa [hashed, Keychain.through] using ih (sound.act host action)

end Sound

/-- A keychain begins with entries that can be stored, and remembers nothing. -/
theorem IsInitial.sound {keychain : Keychain} (initial : keychain.IsInitial) :
    Sound [] keychain := by
  cases initial with
  | created name size storable => exact ⟨storable, .empty _, by simp [create, VerdictCache.empty]⟩
  | loaded read =>
    rw [run_load] at read
    split at read
    · cases read
    · rename_i entries after done
      cases read
      cases entries with
      | none => exact ⟨.nil, .empty _, by simp [ofFile, create, VerdictCache.empty]⟩
      | some entries =>
        exact ⟨KeychainFile.storable_of_read (congrArg Prod.fst done), .empty _,
          by simp [ofFile, create, VerdictCache.empty]⟩

/-- A keychain is sound at any time. -/
theorem IsInitial.sound_through {start : Keychain} (initial : start.IsInitial)
    (run : List Occasion) : Sound (start.hashed run) (start.through run) := by
  simpa using initial.sound.through run

end Keychain

end Keyring
