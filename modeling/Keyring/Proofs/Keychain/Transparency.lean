import Keyring.Proofs.Host.Calm
import Keyring.Proofs.Keychain.Changes
import Keyring.Proofs.Secret.Message
import Keyring.Proofs.Secret.Outcome

/-!
# Remembered verdicts are the true ones

Whether a verdict is remembered or worked out makes no difference to whoever asks for it
(`IsInitial.verdict_through`). What is remembered under the digest of a message is right for the id
and the secret that the message was made of (`IsCurrent`), so all that remains is to find these in
the digest: messages that were hashed have different digests by assumption (`Separates`), and the
zero after the id shows where the id ends, since no stored id holds one (`Secret.cacheMessage_inj`).
-/

namespace Keyring

/-- The digests of some messages tell them apart. -/
def Sha512.Separates (messages : List Bytes) : Prop :=
  ∀ first ∈ messages, ∀ second ∈ messages,
    Sha512.digest first = Sha512.digest second → first = second

/-- Fewer messages are told apart as well. -/
theorem Sha512.Separates.left {messages more : List Bytes} (separates : Separates (messages ++ more)) :
    Separates messages := fun first member second member' =>
  separates first (List.mem_append_left more member) second (List.mem_append_left more member')

/-- One message is told apart from itself, however often it was hashed. -/
theorem Sha512.Separates.of_eq {messages : List Bytes} (message : Bytes)
    (same : ∀ other ∈ messages, other = message) : Separates messages :=
  fun first member second member' _ => (same first member).trans (same second member').symm

/-- The gate goes by the verdict. -/
theorem Gate.fst_decide (keychain : Keychain) (header : Option Text) (realm : Cell) :
    (Gate.decide keychain header realm).1 =
      (keychain.allow header).1.map fun allowed => if allowed then .granted else .refused realm := by
  unfold Gate.decide
  rcases keychain.allow header with ⟨failure | _ | _, after⟩ <;> rfl

namespace Keychain

/-- By the hash that is stored for an id, a secret is the right one. Nothing is remembered here. -/
def Vouches (keychain : Keychain) (id secret : Text) : Prop :=
  Utf8.isEncodable id = true ∧ Utf8.isEncodable secret = true ∧
    ∃ hash, keychain.hashOf (.ofText id) = .ok (.ofBytes hash) ∧
      Secret.check (.ofText secret) hash = .ok true

/-- The keychain vouches by the entries that it has. -/
theorem vouches_iff {keychain : Keychain} {id secret : Text} :
    keychain.Vouches id secret ↔
      Utf8.isEncodable id = true ∧ Utf8.isEncodable secret = true ∧
        ∃ hash, keychain.entries.get? (.ofText id) = some (.ofBytes hash) ∧
          Secret.matchesHash (Utf8.octets secret) hash = true := by
  unfold Vouches hashOf Secret.check Secret.octets
  refine and_congr_right fun _ => and_congr_right fun encodable => exists_congr fun hash => ?_
  dsimp only
  rw [Utf8.encode_eq_ok_iff.mpr ⟨encodable, rfl⟩]
  refine and_congr ?_ (by simp [Except.map])
  cases stored : keychain.entries.get? (.ofText id) <;> simp [Cell.soughtId, Except.map, stored]

/-- What is hashed for an id and a secret is the message of the two. -/
theorem eq_of_mem_messages {keychain : Keychain} {id secret : Text} {message : Bytes}
    (member : message ∈ keychain.messages (some (id, secret))) :
    message = Secret.cacheMessage (Utf8.octets id) (Utf8.octets secret) := by
  unfold messages at member
  dsimp only at member
  split at member
  · rename_i idEncoded secretEncoded
    rw [(Utf8.encode_eq_ok_iff.mp idEncoded).2, (Utf8.encode_eq_ok_iff.mp secretEncoded).2]
    split at member
    · exact List.mem_singleton.mp member
    · cases member
  · cases member

/-- Nothing that is hashed at one time has to be told apart. -/
theorem separates_messages (keychain : Keychain) (presented : Option (Text × Text)) :
    Sha512.Separates (keychain.messages presented) := by
  cases presented with
  | none => exact nofun
  | some pair => exact .of_eq _ fun _ => eq_of_mem_messages

/-- Keychains with one mapping hash the same messages. -/
theorem messages_congr {keychain other : Keychain}
    (agree : Entries.Agree keychain.entries other.entries)
    (presented : Option (Text × Text)) : keychain.messages presented = other.messages presented := by
  cases presented with
  | none => rfl
  | some pair =>
    unfold messages Named.contains
    simp only [agree (.ofText pair.1)]

namespace Sound

variable {messages : List Bytes} {keychain : Keychain}

/-- The verdict by a stored hash is whether the secret matches it, remembered or not. -/
theorem fst_judge (sound : Sound messages keychain) {id : Text} {secret hash : Bytes}
    (separates : Sha512.Separates (messages ++ [Secret.cacheMessage (Utf8.octets id) secret]))
    (stored : keychain.entries.get? (.ofText id) = some (.ofBytes hash)) :
    (keychain.judge id (Utf8.octets id) secret (.ofBytes hash)).1 =
      .ok (Secret.matchesHash secret hash) := by
  have storable : ∀ other value, keychain.entries.get? (.ofText other) = some value →
      Entries.isStorableId other = true := by
    intro other value found
    obtain ⟨text, bytes, equal, -, acceptable⟩ := sound.storable.get?_eq_some found
    cases equal
    exact (Entries.isAcceptable_iff.mp acceptable).2.1
  cases found : (keychain.cache.get (Secret.cacheDigest (Utf8.octets id) secret)).1 with
  | none => rw [judge_of_miss id hash found]
  | some allowed =>
    rw [judge_of_hit id _ found]
    obtain ⟨verdict, member, key, rfl⟩ := VerdictCache.get_eq_some found
    obtain ⟨guess, old, stored', key', hashed, right⟩ := sound.current verdict member
    have message : Secret.cacheMessage (Utf8.octets verdict.id) guess =
        Secret.cacheMessage (Utf8.octets id) secret :=
      separates _ (List.mem_append_left _ hashed) _ (by simp) (key'.symm.trans key)
    obtain ⟨same, rfl⟩ := Secret.cacheMessage_inj (storable _ _ stored') (storable _ _ stored) message
    rw [same, stored] at stored'
    cases stored'
    exact congrArg Except.ok right

/-- Texts with octets are verified by the hash that is stored for the id. -/
theorem fst_verifyText_of_stored (sound : Sound messages keychain) {id secret : Text} {hash : Bytes}
    (idEncodable : Utf8.isEncodable id = true) (secretEncodable : Utf8.isEncodable secret = true)
    (stored : keychain.entries.get? (.ofText id) = some (.ofBytes hash))
    (separates : Sha512.Separates (messages ++ keychain.messages (some (id, secret)))) :
    (keychain.verifyText id secret).1 = .ok (Secret.matchesHash (Utf8.octets secret) hash) := by
  rw [messages_of_stored idEncodable secretEncodable stored] at separates
  rw [verifyText_of_stored idEncodable secretEncodable stored, fst_holding]
  exact (sound.take .read).fst_judge separates stored

/-- Texts are verified by the hash that is stored now, and nothing else. -/
theorem fst_verifyText (sound : Sound messages keychain) {id secret : Text}
    (separates : Sha512.Separates (messages ++ keychain.messages (some (id, secret)))) :
    ∃ allowed, (keychain.verifyText id secret).1 = .ok allowed ∧
      (allowed = true ↔ keychain.Vouches id secret) := by
  rw [vouches_iff]
  by_cases judged : Utf8.isEncodable id = true ∧ Utf8.isEncodable secret = true ∧
      ∃ hash, keychain.entries.get? (.ofText id) = some hash
  · obtain ⟨idEncodable, secretEncodable, value, stored⟩ := judged
    obtain ⟨-, hash, -, rfl, -⟩ := sound.storable.get?_eq_some stored
    refine ⟨Secret.matchesHash (Utf8.octets secret) hash,
      sound.fst_verifyText_of_stored idEncodable secretEncodable stored separates, ?_⟩
    simp [idEncodable, secretEncodable, stored]
  · refine ⟨false, ?_, ?_⟩
    · rcases verifyText_of_unjudged fun idEncodable secretEncodable =>
        Option.eq_none_iff_forall_ne_some.mpr fun hash stored =>
          judged ⟨idEncodable, secretEncodable, hash, stored⟩ with same | same
      all_goals rw [same]
    · simp only [Bool.false_eq_true, false_iff]
      rintro ⟨idEncodable, secretEncodable, hash, stored, -⟩
      exact judged ⟨idEncodable, secretEncodable, _, stored⟩

/-- Keychains with one mapping give the same verdicts, whatever either of them remembers. -/
theorem fst_verify_congr {other : Keychain} (sound : Sound messages keychain)
    (sound' : Sound messages other) (agree : Entries.Agree keychain.entries other.entries)
    (id secret : Cell)
    (separates : Sha512.Separates
      (messages ++ keychain.messages (Action.verify id secret).presented)) :
    (other.verify id secret).1 = (keychain.verify id secret).1 := by
  unfold Keychain.verify
  split
  · rename_i id secret
    obtain ⟨allowed, given, vouches⟩ := sound.fst_verifyText separates
    rw [messages_congr agree] at separates
    obtain ⟨allowed', given', vouches'⟩ := sound'.fst_verifyText separates
    have same : allowed' = allowed := by
      rw [Bool.eq_iff_iff, vouches, vouches', vouches_iff, vouches_iff, agree]
    rw [given, given', same]
  · rfl

end Sound

/-- After any run the verdict on what somebody presents is whether the keychain vouches for it now,
through `verify`, `allow` and the gate alike, and no verdict is an error. All that is remembered is
about the hashes that are stored now. -/
theorem IsInitial.verdict_through {start : Keychain} (initial : start.IsInitial)
    (run : List Occasion) (presented : Option (Text × Text))
    (separates : Sha512.Separates
      (start.hashed run ++ (start.through run).messages presented)) :
    (∃ allowed,
      (allowed = true ↔
        ∃ id secret, presented = some (id, secret) ∧ (start.through run).Vouches id secret) ∧
      (∀ id secret, presented = some (id, secret) →
        ((start.through run).verify (.ofText id) (.ofText secret)).1 = .ok allowed) ∧
      ∀ header, Header.parse? header = .ok presented →
        ((start.through run).allow header).1 = .ok allowed ∧
        ∀ realm, (Gate.decide (start.through run) header realm).1 =
          .ok (if allowed then .granted else .refused realm)) ∧
    ∀ verdict ∈ (start.through run).cache.verdicts,
      IsCurrent (start.through run).entries (start.hashed run) verdict := by
  have sound := initial.sound_through run
  refine ⟨?_, sound.current⟩
  cases presented with
  | none =>
    refine ⟨false, by simp, by simp, fun header parsed => ?_⟩
    have verdict : ((start.through run).allow header).1 = .ok false := by
      rw [allow, parsed]
    exact ⟨verdict, fun realm => by rw [Gate.fst_decide, verdict]; rfl⟩
  | some pair =>
    obtain ⟨id, secret⟩ := pair
    obtain ⟨allowed, given, vouches⟩ := sound.fst_verifyText separates
    refine ⟨allowed, by simp [vouches], ?_, fun header parsed => ?_⟩
    · rintro _ _ ⟨⟩
      exact given
    · have verdict : ((start.through run).allow header).1 = .ok allowed := by
        rw [allow, parsed]
        exact given
      exact ⟨verdict, fun realm => by rw [Gate.fst_decide, verdict]; rfl⟩

/-- Somebody is refused, the id gets the hash of what they presented, and they ask again. -/
theorem verdict_through_rekeyed :
    let id := Text.lit "a"
    let secret := Text.lit "s"
    let salts : Salts := ⟨[], Utf8.octets (Text.lit "abcdefghijklmnopqrstuu")⟩
    let start := create (Text.lit "k") [(.ofText id, .ofBytes [120])] none
    ∃ hash, (Secret.hash (.ofText secret) 4 salts).1 = .ok hash ∧
      let run : List Occasion :=
        [(.calm .empty, .verify id secret), (.calm .empty, .add id (.ofBytes hash))]
      start.IsInitial ∧
        Sha512.Separates (start.hashed run ++ (start.through run).messages (some (id, secret))) ∧
        (start.verify id secret).1 = .ok false ∧
        ((start.through run).verify id secret).1 = .ok true := by
  intro id secret salts start
  -- The hash is never worked out here: it is stored and compared as it stands.
  obtain ⟨hash, hashed, right, kept⟩ :=
    Secret.exists_hash secret 4 salts (by decide) (by decide) (by decide) (by decide)
  refine ⟨hash, hashed, ?_⟩
  intro run
  have initial : start.IsInitial :=
    .created _ none (Entries.Storable.nil.put (by decide) : Entries.Storable (Named.put _ _ []))
  have separates : Sha512.Separates
      (start.hashed run ++ (start.through run).messages (some (id, secret))) := by
    refine .of_eq (Secret.cacheMessage (Utf8.octets id) (Utf8.octets secret)) fun _ member => ?_
    have earlier : start.hashed run = start.messages (some (id, secret)) := List.append_nil _
    rw [earlier] at member
    rcases List.mem_append.mp member with before | now
    · exact eq_of_mem_messages before
    · exact eq_of_mem_messages now
  have stored : (start.through run).entries.get? (.ofText id) = some (.ofBytes hash) := by
    have acceptable : Entries.isAcceptable id hash = true :=
      Entries.isAcceptable_iff.mpr ⟨by decide, by decide, kept⟩
    have added := ((start.verify id secret).2.add_of_isAcceptable acceptable).2
    exact (congrArg _ added).trans (by simp [Named.get?_put])
  obtain ⟨⟨allowed, vouches, verify, -⟩, -⟩ :=
    initial.verdict_through run (some (id, secret)) separates
  have accepted : allowed = true :=
    vouches.mpr ⟨id, secret, rfl, vouches_iff.mpr ⟨by decide, by decide, hash, stored, right⟩⟩
  exact ⟨initial, separates, by decide, by rw [verify id _ rfl, accepted]⟩

end Keychain

end Keyring
