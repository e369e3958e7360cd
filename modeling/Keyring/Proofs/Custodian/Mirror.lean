import Keyring.Proofs.Custodian.Alike
import Keyring.Proofs.Custodian.Performance
import Keyring.Proofs.Host.Entropy
import Keyring.Proofs.Keychain.Transparency

/-!
# What cannot be seen from outside

Two keychains of one file may remember different verdicts and yet hold the same entries
(`Keychain.Mirrors`). Two custodians with such keychains carry out their duties on two hosts; of the
second host a veil is drawn, which may hide what entropy it has, or nothing (`Host.IsVeil`). Then the
results, the events and the calls are the same, and afterwards the custodians and the hosts are as
before (`Duty.Mirrors`).

One rule for each way in which duties are put together gives this for the custodian's own duties. Only
`verify` asks what is remembered. Two secrets mirror each other if the hash that is stored for the id
does not tell them apart (`mirrors_verify`).
-/

namespace Keyring

open Audit (Event)

/-! ## Hosts -/

/-- Something that hides no more than what only new credentials need. -/
def Host.IsVeil (veil : Host → Host) : Prop :=
  ∀ (α : Type) (plan : Plan α), plan.IsFrugal → ∀ host,
    plan.run (veil host) = ((plan.run host).1, veil (plan.run host).2)

theorem Host.isVeil_id : Host.IsVeil id :=
  fun _ _ _ _ => rfl

theorem Host.isVeil_reseeded (source : Source) (salts : Salts) :
    Host.IsVeil fun host => host.reseeded source salts :=
  fun _ _ frugal host => frugal.run_reseeded host source salts

/-! ## Keychains -/

namespace Keychain

theorem Sound.of_append_nil {messages : List Bytes} {keychain : Keychain}
    (sound : Sound (messages ++ []) keychain) : Sound messages keychain := by
  rwa [List.append_nil] at sound

/-- Keychains of one file with the same entries. What each of them remembers is right, if it is the one
to have hashed these messages. -/
structure Mirrors (messages messages' : List Bytes) (keychain other : Keychain) : Prop where
  name : other.name = keychain.name
  entries : other.entries = keychain.entries
  sound : keychain.Sound messages
  sound' : other.Sound messages'

namespace Mirrors

variable {messages messages' : List Bytes} {keychain other : Keychain}

theorem refl (sound : keychain.Sound messages) (sound' : keychain.Sound messages') :
    Mirrors messages messages' keychain keychain :=
  ⟨rfl, rfl, sound, sound'⟩

theorem released (mirrors : Mirrors messages messages' keychain other) (side : Side) :
    Mirrors messages messages' (keychain.released side) (other.released side) :=
  ⟨mirrors.name, mirrors.entries, mirrors.sound.released side, mirrors.sound'.released side⟩

theorem hashOf (mirrors : Mirrors messages messages' keychain other) (id : Cell) :
    other.hashOf id = keychain.hashOf id := by
  unfold Keychain.hashOf
  rw [mirrors.entries]

theorem contains (mirrors : Mirrors messages messages' keychain other) (id : Cell) :
    other.contains id = keychain.contains id := by
  unfold Keychain.contains
  rw [mirrors.entries]

/-- What is added is the same, and so is what is refused. -/
theorem add (mirrors : Mirrors messages messages' keychain other) (id : Cell) (hash : Given) :
    (other.add id hash.toCell).1 = (keychain.add id hash.toCell).1 ∧
      Mirrors messages messages' (keychain.add id hash.toCell).2 (other.add id hash.toCell).2 := by
  refine ⟨by rw [fst_add, fst_add], ⟨by simp [mirrors.name], ?_,
    .of_append_nil (mirrors.sound.add id hash), .of_append_nil (mirrors.sound'.add id hash)⟩⟩
  unfold Keychain.add
  cases id.entryWith hash.toCell with
  | error failure => exact mirrors.entries
  | ok entry => simp [holding, put, leave, take, mirrors.entries]

/-- What is removed is the same. -/
theorem remove (mirrors : Mirrors messages messages' keychain other) (id : Cell) :
    (other.remove id).1 = (keychain.remove id).1 ∧
      Mirrors messages messages' (keychain.remove id).2 (other.remove id).2 := by
  refine ⟨by rw [fst_remove, fst_remove, mirrors.contains], ⟨by simp [mirrors.name], ?_,
    .of_append_nil (mirrors.sound.remove id), .of_append_nil (mirrors.sound'.remove id)⟩⟩
  have stored : (other.take .write).contains id = (keychain.take .write).contains id :=
    mirrors.contains id
  unfold Keychain.remove
  rw [snd_holding, snd_holding, stored]
  split <;> simp [leave, take, mirrors.entries]

/-- What is written is the same. -/
theorem dumps (mirrors : Mirrors messages messages' keychain other) :
    other.dumps = keychain.dumps := by
  unfold Keychain.dumps
  rw [mirrors.entries]

/-- Saving comes to the same, and leaves both as they were. -/
theorem save {veil : Host → Host} (isVeil : Host.IsVeil veil)
    (mirrors : Mirrors messages messages' keychain other) (host : Host) :
    (other.save.run (veil host)).1.1 = (keychain.save.run host).1.1 ∧
      Mirrors messages messages' (keychain.save.run host).1.2 (other.save.run (veil host)).1.2 ∧
      (other.save.run (veil host)).2 = veil (keychain.save.run host).2 := by
  rw [run_save, run_save, mirrors.dumps, mirrors.name]
  cases keychain.dumps with
  | error failure => exact ⟨rfl, mirrors.released .write, rfl⟩
  | ok content =>
    dsimp only
    rw [isVeil _ _ (KeychainFile.isFrugal_write keychain.name content) host]
    exact ⟨rfl, mirrors.released .write, rfl⟩

end Mirrors

end Keychain

/-! ## Secrets -/

/-- A secret is the one that was hashed. Text without octets is none that was. -/
def Secret.opens (secret : Text) (hash : Bytes) : Bool :=
  (Secret.check (.ofText secret) hash).toOption.getD false

theorem Secret.opens_iff {secret : Text} {hash : Bytes} :
    opens secret hash = true ↔ Utf8.isEncodable secret = true ∧
      matchesHash (Utf8.octets secret) hash = true := by
  unfold opens check octets
  dsimp only
  cases encoded : Utf8.encode secret with
  | ok bytes =>
    obtain ⟨encodable, rfl⟩ := Utf8.encode_eq_ok_iff.mp encoded
    simp [Except.map, Except.toOption, encodable]
  | error run =>
    have unencodable : ¬ Utf8.isEncodable secret = true := fun encodable => by
      cases encoded.symm.trans (Utf8.encode_eq_ok_iff.mpr ⟨encodable, rfl⟩)
    simp [Except.map, Except.toOption, unencodable]

namespace Keychain

variable {messages messages' : List Bytes} {keychain other : Keychain}

/-- The hash that is stored for an id, if there is one, does not tell two secrets apart. -/
inductive SameVerdict (keychain : Keychain) (id : Cell) : Cell → Cell → Prop
  | same (secret : Cell) : SameVerdict keychain id secret secret
  | texts {secret secret' : Text}
      (agree : ∀ hash, keychain.entries.get? id = some (.ofBytes hash) →
        Secret.opens secret' hash = Secret.opens secret hash) :
      SameVerdict keychain id (.ofText secret) (.ofText secret')

/-- A keychain vouches for secrets that open what is stored. -/
theorem vouches_iff_opens {id secret : Text} :
    keychain.Vouches id secret ↔ Utf8.isEncodable id = true ∧
      ∃ hash, keychain.entries.get? (.ofText id) = some (.ofBytes hash) ∧
        Secret.opens secret hash = true := by
  simp only [vouches_iff, Secret.opens_iff]
  constructor
  · rintro ⟨id, secret, hash, stored, right⟩
    exact ⟨id, hash, stored, secret, right⟩
  · rintro ⟨id, hash, stored, secret, right⟩
    exact ⟨id, secret, hash, stored, right⟩

/-- Whatever either of two keychains remembers, neither tells two secrets apart that the hash does not
tell apart. -/
theorem Mirrors.verify (mirrors : Mirrors messages messages' keychain other)
    {id secret secret' : Cell}
    (separates : Sha512.Separates
      (messages ++ keychain.messages (Action.verify id secret).presented))
    (separates' : Sha512.Separates
      (messages' ++ other.messages (Action.verify id secret').presented))
    (same : keychain.SameVerdict id secret secret') :
    (other.verify id secret').1 = (keychain.verify id secret).1 ∧
      Mirrors (messages ++ keychain.messages (Action.verify id secret).presented)
        (messages' ++ other.messages (Action.verify id secret').presented)
        (keychain.verify id secret).2 (other.verify id secret').2 := by
  have kept := keychain.verify_keeps id secret
  have kept' := other.verify_keeps id secret'
  refine ⟨?_, by rw [kept'.1, kept.1, mirrors.name], by rw [kept'.2, kept.2, mirrors.entries],
    mirrors.sound.verify id secret, mirrors.sound'.verify id secret'⟩
  have texts {id secret secret' : Text}
      (separates : Sha512.Separates (messages ++ keychain.messages (some (id, secret))))
      (separates' : Sha512.Separates (messages' ++ other.messages (some (id, secret'))))
      (agree : ∀ hash, keychain.entries.get? (.ofText id) = some (.ofBytes hash) →
        Secret.opens secret' hash = Secret.opens secret hash) :
      (other.verifyText id secret').1 = (keychain.verifyText id secret).1 := by
    obtain ⟨allowed, given, vouches⟩ := mirrors.sound.fst_verifyText separates
    obtain ⟨allowed', given', vouches'⟩ := mirrors.sound'.fst_verifyText separates'
    have same : allowed' = allowed := by
      rw [Bool.eq_iff_iff, vouches, vouches', vouches_iff_opens, vouches_iff_opens, mirrors.entries]
      refine and_congr_right fun _ => exists_congr fun hash => and_congr_right fun stored => ?_
      rw [agree hash stored]
    rw [given, given', same]
  cases same with
  | same secret =>
    unfold Keychain.verify
    split
    · exact texts separates separates' fun _ _ => rfl
    · rfl
  | texts agree =>
    cases id with
    | ofText id => exact texts separates separates' agree
    | _ => rfl

end Keychain

/-! ## Duties -/

/-- Results that are the same failure, or values that are alike. -/
def Matches {α β : Type} (alike : α → β → Prop) : Except Failure α → Except Failure β → Prop
  | .ok value, .ok value' => alike value value'
  | .error failure, .error failure' => failure' = failure
  | _, _ => False

/-- The same results match. -/
theorem Matches.of_eq {α : Type} {result result' : Except Failure α} (same : result' = result) :
    Matches Eq result result' := by
  subst same
  cases result' <;> rfl

theorem Matches.mono {α β : Type} {alike wider : α → β → Prop} {first : Except Failure α}
    {second : Except Failure β} (same : Matches alike first second)
    (wide : ∀ value value', alike value value' → wider value value') :
    Matches wider first second := by
  cases first <;> cases second
  · exact same
  · exact same
  · exact same
  · exact wide _ _ same

/-- Custodians of one file with the same events, whose keychains mirror each other. -/
structure Custodian.Mirrors (messages messages' : List Bytes) (custodian other : Custodian) :
    Prop where
  path : other.path = custodian.path
  recorded : other.recorded = custodian.recorded
  keychain : Option.Rel (Keychain.Mirrors messages messages') custodian.keychain other.keychain

/-- What comes of two duties whose results match: custodians who mirror each other, on hosts of which
one is the other under a veil. -/
structure Outcome.Mirrors {α β : Type} (veil : Host → Host) (messages messages' : List Bytes)
    (alike : α → β → Prop) (outcome : Outcome α) (other : Outcome β) : Prop where
  result : Matches alike outcome.result other.result
  custodian : outcome.custodian.Mirrors messages messages' other.custodian
  host : other.host = veil outcome.host

namespace Duty

variable {α β γ δ : Type} {veil : Host → Host} {messages messages' : List Bytes}
  {alike : α → β → Prop} {alike' : γ → δ → Prop}

/-- Custodians who mirror each other before two duties mirror each other after them, if the one host
is the other under a veil. -/
def Mirrors (veil : Host → Host) (messages messages' : List Bytes) (alike : α → β → Prop)
    (duty : Duty α) (other : Duty β) : Prop :=
  ∀ custodian custodian' host, custodian.Mirrors messages messages' custodian' →
    (duty.outcome custodian host).Mirrors veil messages messages' alike
      (other.outcome custodian' (veil host))

theorem mirrors_pure {value : α} {value' : β} (same : alike value value') :
    Mirrors veil messages messages' alike (pure value) (pure value') :=
  fun _ _ _ mirrors => ⟨same, mirrors, rfl⟩

theorem mirrors_throw (failure : Failure) :
    Mirrors veil messages messages' alike (throw failure) (throw failure) :=
  fun _ _ _ mirrors => ⟨rfl, mirrors, rfl⟩

theorem mirrors_get :
    Mirrors veil messages messages' (Custodian.Mirrors messages messages') get get :=
  fun _ _ _ mirrors => ⟨mirrors, mirrors, rfl⟩

theorem mirrors_record (event : Event) :
    Mirrors veil messages messages' Eq (record event) (record event) :=
  fun _ _ _ mirrors =>
    ⟨rfl, ⟨mirrors.path, congrArg (· ++ [event]) mirrors.recorded, mirrors.keychain⟩, rfl⟩

theorem mirrors_through (isVeil : Host.IsVeil veil) {plan : Plan α} (frugal : plan.IsFrugal) :
    Mirrors veil messages messages' Eq (through plan) (through plan) := by
  intro custodian custodian' host mirrors
  rw [outcome_through, outcome_through, isVeil _ plan frugal host]
  exact ⟨rfl, mirrors, rfl⟩

theorem mirrors_ofExcept {result : Except Failure α} {result' : Except Failure β}
    (same : Matches alike result result') :
    Mirrors veil messages messages' alike (ofExcept result) (ofExcept result') := by
  intro custodian custodian' host mirrors
  rw [outcome_ofExcept, outcome_ofExcept]
  exact ⟨same, mirrors, rfl⟩

/-- Less may be said of the values. -/
theorem Mirrors.mono {duty : Duty α} {other : Duty β}
    (mirrors : Mirrors veil messages messages' alike duty other) {wider : α → β → Prop}
    (wide : ∀ value value', alike value value' → wider value value') :
    Mirrors veil messages messages' wider duty other := by
  intro custodian custodian' host before
  obtain ⟨result, custodian, there⟩ := mirrors custodian custodian' host before
  exact ⟨result.mono wide, custodian, there⟩

/-- Duties that go on mirror each other if their parts do. -/
theorem Mirrors.bind {duty : Duty α} {other : Duty β}
    (first : Mirrors veil messages messages' alike duty other)
    {next : α → Duty γ} {next' : β → Duty δ}
    (rest : ∀ value value', alike value value' →
      Mirrors veil messages messages' alike' (next value) (next' value')) :
    Mirrors veil messages messages' alike' (duty >>= next) (other >>= next') := by
  intro custodian custodian' host mirrors
  obtain ⟨result, mirrors, host⟩ := first custodian custodian' host mirrors
  rw [outcome_bind, outcome_bind]
  generalize duty.outcome custodian _ = outcome at result mirrors host ⊢
  generalize other.outcome custodian' _ = outcome' at result mirrors host ⊢
  obtain ⟨failure | value, after, later⟩ := outcome <;>
    obtain ⟨failure' | value', after', later'⟩ := outcome'
  · exact ⟨result, mirrors, host⟩
  · exact result.elim
  · exact result.elim
  · obtain rfl : later' = veil later := host
    exact rest value value' result after after' later mirrors

/-- Duties that go on with the same value mirror each other if their parts do. -/
theorem Mirrors.bind_eq {duty : Duty α} {other : Duty α}
    (first : Mirrors veil messages messages' Eq duty other) {next : α → Duty γ} {next' : α → Duty δ}
    (rest : ∀ value, Mirrors veil messages messages' alike' (next value) (next' value)) :
    Mirrors veil messages messages' alike' (duty >>= next) (other >>= next') :=
  first.bind fun value _ same => same ▸ rest value

/-- Duties mirror each other if they do and so does what is done when they fail. -/
theorem Mirrors.tryCatch {duty : Duty α} {other : Duty β}
    (first : Mirrors veil messages messages' alike duty other) {handle : Failure → Duty α}
    {handle' : Failure → Duty β}
    (rest : ∀ failure, Mirrors veil messages messages' alike (handle failure) (handle' failure)) :
    Mirrors veil messages messages' alike (tryCatch duty handle) (tryCatch other handle') := by
  intro custodian custodian' host mirrors
  obtain ⟨result, mirrors, host⟩ := first custodian custodian' host mirrors
  rw [outcome_tryCatch, outcome_tryCatch]
  generalize duty.outcome custodian _ = outcome at result mirrors host ⊢
  generalize other.outcome custodian' _ = outcome' at result mirrors host ⊢
  obtain ⟨failure | value, after, later⟩ := outcome <;>
    obtain ⟨failure' | value', after', later'⟩ := outcome'
  · obtain rfl : later' = veil later := host
    obtain rfl : failure' = failure := result
    exact rest failure' after after' later mirrors
  · exact result.elim
  · exact result.elim
  · exact ⟨result, mirrors, host⟩

end Duty

namespace Custodian

open Duty

variable {α : Type} {veil : Host → Host} {messages messages' : List Bytes}

/-- Whoever has to load the keychain loads the same one. -/
theorem mirrors_opened (isVeil : Host.IsVeil veil) :
    Duty.Mirrors veil messages messages' (Keychain.Mirrors messages messages') opened opened := by
  rintro ⟨path, keychain?, recorded⟩ ⟨_, keychain?', _⟩ host ⟨rfl, rfl, mirrors⟩
  cases mirrors with
  | some mirrors =>
    rw [outcome_opened, outcome_opened]
    exact ⟨mirrors, ⟨rfl, rfl, .some mirrors⟩, rfl⟩
  | none =>
    rw [outcome_opened_none, outcome_opened_none, isVeil _ _ (Keychain.isFrugal_load _) host]
    rcases loaded : (Keychain.load _).run host with ⟨failure | keychain, later⟩
    · exact ⟨rfl, ⟨rfl, rfl, .none⟩, rfl⟩
    · have sound (messages : List Bytes) : keychain.Sound messages :=
        (Keychain.IsInitial.loaded (congrArg Prod.fst loaded)).sound.of_same rfl rfl
      have mirrors := Keychain.Mirrors.refl (sound messages) (sound messages')
      exact ⟨mirrors, ⟨rfl, rfl, .some mirrors⟩, rfl⟩

/-- Keychains that some work has left mirror each other, and so do its results. -/
theorem mirrors_kept {made made' : Except Failure α × Keychain} (same : made'.1 = made.1)
    (mirrors : made.2.Mirrors messages messages' made'.2) :
    Duty.Mirrors veil messages messages' Eq (do keep made.2; Duty.ofExcept made.1)
      (do keep made'.2; Duty.ofExcept made'.1) := by
  have kept : Duty.Mirrors veil messages messages' Eq (keep made.2) (keep made'.2) :=
    fun _ _ _ before => ⟨rfl, ⟨before.path, before.recorded, .some mirrors⟩, rfl⟩
  exact kept.bind_eq fun _ => mirrors_ofExcept (.of_eq same)

theorem mirrors_withKeychain (isVeil : Host.IsVeil veil)
    {work : Keychain → Except Failure α × Keychain}
    (mirrors : ∀ keychain other, keychain.Mirrors messages messages' other →
      (work other).1 = (work keychain).1 ∧
        (work keychain).2.Mirrors messages messages' (work other).2) :
    Duty.Mirrors veil messages messages' Eq (withKeychain work) (withKeychain work) :=
  (mirrors_opened isVeil).bind fun keychain other same =>
    mirrors_kept (mirrors keychain other same).1 (mirrors keychain other same).2

/-- What is stored for an id is the same, and can be stored again. -/
theorem mirrors_hashOf (isVeil : Host.IsVeil veil) (id : Cell) :
    Duty.Mirrors veil messages messages'
      (fun hash hash' => hash' = hash ∧ (hash = .absent ∨ ∃ bytes, hash = .ofBytes bytes))
      (hashOf id) (hashOf id) := by
  refine (mirrors_opened isVeil).bind fun keychain other same => mirrors_ofExcept ?_
  rw [same.hashOf]
  unfold Keychain.hashOf
  cases id.soughtId with
  | error failure => rfl
  | ok id =>
    refine ⟨rfl, ?_⟩
    dsimp only
    cases found : keychain.entries.get? id with
    | none => exact .inl rfl
    | some value =>
      obtain ⟨-, bytes, -, rfl, -⟩ := same.sound.storable.get?_eq_some found
      exact .inr ⟨bytes, rfl⟩

theorem mirrors_addUnsaved (isVeil : Host.IsVeil veil) (id : Cell) (hash : Given) :
    Duty.Mirrors veil messages messages' Eq (addUnsaved id hash.toCell)
      (addUnsaved id hash.toCell) :=
  mirrors_withKeychain isVeil fun _ _ same => same.add id hash

theorem mirrors_removeUnsaved (isVeil : Host.IsVeil veil) (id : Cell) :
    Duty.Mirrors veil messages messages' Eq (removeUnsaved id) (removeUnsaved id) :=
  mirrors_withKeychain isVeil fun _ _ same => same.remove id

/-- The same is written, and the event tells of as many entries. -/
theorem mirrors_save (isVeil : Host.IsVeil veil) :
    Duty.Mirrors veil messages messages' Eq save save := by
  have written : Duty.Mirrors veil messages messages' Eq (withKeychainThrough Keychain.save)
      (withKeychainThrough Keychain.save) := by
    refine (mirrors_opened isVeil).bind fun keychain other same => ?_
    have made : Duty.Mirrors veil messages messages'
        (fun made made' => made'.1 = made.1 ∧ made.2.Mirrors messages messages' made'.2)
        (through keychain.save) (through other.save) := by
      intro custodian custodian' host mirrors
      obtain ⟨result, kept, after⟩ := same.save isVeil host
      rw [outcome_through, outcome_through]
      exact ⟨⟨result, kept⟩, mirrors, after⟩
    exact made.bind fun _ _ made => mirrors_kept made.1 made.2
  refine written.bind_eq fun _ => mirrors_get.bind fun custodian other here => ?_
  refine (mirrors_opened isVeil).bind fun keychain other same => ?_
  unfold Keychain.size
  rw [here.path, same.entries]
  exact mirrors_record _

theorem mirrors_restore (isVeil : Host.IsVeil veil) (id : Cell) {hash : Cell}
    (stored : hash = .absent ∨ ∃ bytes, hash = .ofBytes bytes) :
    Duty.Mirrors veil messages messages' Eq (restore id hash) (restore id hash) := by
  obtain rfl | ⟨bytes, rfl⟩ := stored
  · exact (mirrors_removeUnsaved isVeil id).bind_eq fun _ => mirrors_pure rfl
  · exact mirrors_addUnsaved isVeil id (.ofBytes bytes)

theorem mirrors_saveOr (isVeil : Host.IsVeil veil) {undo : Duty Unit}
    (undoes : Duty.Mirrors veil messages messages' Eq undo undo) (event : Failure → Event) :
    Duty.Mirrors veil messages messages' Eq (saveOr undo event) (saveOr undo event) := by
  refine (mirrors_save isVeil).tryCatch fun failure => ?_
  split
  · exact undoes.bind_eq fun _ => (mirrors_record _).bind_eq fun _ => mirrors_throw failure
  · exact mirrors_throw failure

theorem mirrors_putAndSave (isVeil : Host.IsVeil veil) (id : Cell) (hash : Given) :
    Duty.Mirrors veil messages messages' Eq (putAndSave id hash.toCell)
      (putAndSave id hash.toCell) := by
  refine (mirrors_hashOf isVeil id).bind fun previous _ stored => ?_
  obtain ⟨rfl, stored⟩ := stored
  exact (mirrors_addUnsaved isVeil id hash).bind_eq fun _ =>
    mirrors_saveOr isVeil (mirrors_restore isVeil id stored) _

/-! ## Tasks -/

/-- What is done with a new credential. -/
def createFrom (issued : Except Failure Credential) : Duty Credential := do
  let credential ← Duty.ofExcept issued
  putAndSave (.ofText credential.id) (.ofBytes credential.hash)
  Duty.record (.created credential.id)
  return credential

/-- Only the secret of a new credential is neither written nor told of. -/
theorem mirrors_createFrom (isVeil : Host.IsVeil veil) {issued issued' : Except Failure Credential}
    (same : Matches (fun credential credential' =>
      credential'.id = credential.id ∧ credential'.hash = credential.hash) issued issued') :
    Duty.Mirrors veil messages messages' (fun _ _ => True) (createFrom issued)
      (createFrom issued') := by
  refine (mirrors_ofExcept same).bind fun credential credential' same => ?_
  rw [same.1, same.2]
  exact (mirrors_putAndSave isVeil _ (.ofBytes credential.hash)).bind_eq fun _ =>
    (mirrors_record _).bind_eq fun _ => mirrors_pure trivial

theorem mirrors_missing (id : Cell) :
    Duty.Mirrors veil messages messages' Eq (missing id) (missing id) :=
  (mirrors_record _).bind_eq fun _ => mirrors_pure rfl

/-- What is removed is the same, and so is what is put back. -/
theorem mirrors_remove (isVeil : Host.IsVeil veil) (id : Cell) :
    Duty.Mirrors veil messages messages' Eq (remove id) (remove id) := by
  refine (mirrors_hashOf isVeil id).bind fun previous _ stored => ?_
  obtain ⟨rfl, stored⟩ := stored
  split
  · exact mirrors_missing id
  · refine (mirrors_removeUnsaved isVeil id).bind_eq fun removed => ?_
    split
    · exact (mirrors_saveOr isVeil (mirrors_restore isVeil id stored) _).bind_eq fun _ =>
        (mirrors_record _).bind_eq fun _ => mirrors_pure rfl
    · exact mirrors_missing id

theorem mirrors_ids (isVeil : Host.IsVeil veil) :
    Duty.Mirrors veil messages messages' Eq ids ids := by
  refine (mirrors_opened isVeil).bind fun keychain other same => mirrors_ofExcept (.of_eq ?_)
  unfold Keychain.ids
  rw [same.entries]

theorem mirrors_statistics (isVeil : Host.IsVeil veil) :
    Duty.Mirrors veil messages messages' (fun _ _ => True) statistics statistics := by
  refine (mirrors_opened isVeil).bind fun keychain other same => ?_
  refine mirrors_get.bind fun custodian custodian' here => ?_
  rw [here.path]
  exact (mirrors_through isVeil (Plan.isFrugal_request (by simp))).bind_eq fun _ =>
    mirrors_pure trivial

/-- Verifying comes to the same for secrets that are not told apart. -/
theorem mirrors_verify (isVeil : Host.IsVeil veil) {custodian custodian' : Custodian} {host : Host}
    (mirrors : custodian.Mirrors messages messages' custodian') {id secret secret' : Cell}
    (separates : Sha512.Separates (messages ++ (Task.verify id secret).hashed custodian host))
    (separates' : Sha512.Separates
      (messages' ++ (Task.verify id secret').hashed custodian' (veil host)))
    (same : ∀ keychain, (opened.outcome custodian host).result = .ok keychain →
      keychain.SameVerdict id secret secret') :
    ((verify id secret).outcome custodian host).Mirrors veil
      (messages ++ (Task.verify id secret).hashed custodian host)
      (messages' ++ (Task.verify id secret').hashed custodian' (veil host)) Eq
      ((verify id secret').outcome custodian' (veil host)) := by
  have opens (secret : Cell) : Opens (verify id secret) := (opens_withKeychain _).bind _
  have begun (secret : Cell) (host : Host) : (Task.verify id secret).begun host = host := rfl
  obtain ⟨result, mirrors, there⟩ := mirrors_opened isVeil custodian custodian' host mirrors
  unfold Task.hashed at separates separates' ⊢
  rw [begun] at separates separates'
  rw [begun, begun, (opens secret).outcome_eq, (opens secret').outcome_eq]
  rcases found : opened.outcome custodian host with ⟨failure | keychain, after, later⟩ <;>
    rcases found' : opened.outcome custodian' (veil host) with
      ⟨failure' | keychain', after', later'⟩
  all_goals rw [found, found'] at result mirrors there
  · refine ⟨result, ?_, there⟩
    rw [List.append_nil, List.append_nil]
    exact mirrors
  · exact result.elim
  · exact result.elim
  · rw [found] at separates same
    rw [found'] at separates'
    obtain ⟨-, held⟩ := opened_eq_ok found
    obtain ⟨-, held'⟩ := opened_eq_ok found'
    obtain ⟨path, _, recorded⟩ := after
    obtain ⟨path', _, recorded'⟩ := after'
    cases held
    cases held'
    obtain ⟨answer, left⟩ := Keychain.Mirrors.verify result separates separates' (same keychain rfl)
    unfold verify
    dsimp only
    rw [outcome_bind, outcome_bind, outcome_withKeychain, outcome_withKeychain, answer]
    cases (keychain.verify id secret).1 with
    | error failure => exact ⟨rfl, ⟨mirrors.path, mirrors.recorded, .some left⟩, there⟩
    | ok allowed =>
      exact ⟨rfl, ⟨mirrors.path, congrArg (· ++ _) mirrors.recorded, .some left⟩, there⟩

end Custodian

end Keyring
