import Keyring.Proofs.Entries.Storable
import Keyring.Proofs.Text.Octets
import Keyring.Secret

/-!
# What a verdict is remembered under

A key is the digest of a message that is made of an id and a secret. No id that a line can hold has a
zero in it, so the first zero of the message stands between the two, however many the secret holds
(`splitFirst_cacheMessage`). Different pairs therefore have different messages
(`cacheKey_tells_apart`), and only the digest itself could give them one key.
-/

namespace Keyring.Secret

variable {id other : Text}

/-- The first zero of a message ends the id. -/
theorem splitFirst_cacheMessage (storable : Entries.isStorableId id = true) (secret : Bytes) :
    splitFirst 0 (cacheMessage (Utf8.octets id) secret) = some (Utf8.octets id, secret) := by
  obtain ⟨⟨-, -, zero⟩, -⟩ := Entries.isStorableId_iff.mp storable
  have free : (0 : UInt8) ∉ Utf8.octets id :=
    (Utf8.not_mem_octets_iff (by decide) (by decide)).mpr zero
  exact splitFirst_eq_some_iff.mpr ⟨rfl, free⟩

/-- An id that a line can hold is told from the secret after it. -/
theorem cacheMessage_inj {secret guess : Bytes} (storable : Entries.isStorableId id = true)
    (storable' : Entries.isStorableId other = true)
    (same : cacheMessage (Utf8.octets id) secret = cacheMessage (Utf8.octets other) guess) :
    id = other ∧ secret = guess := by
  have cut := splitFirst_cacheMessage storable secret
  rw [same, splitFirst_cacheMessage storable' guess] at cut
  obtain ⟨ids, secrets⟩ := Prod.mk.inj (Option.some.inj cut)
  exact ⟨(Utf8.octets_inj (Entries.isStorableId_iff.mp storable').2
    (Entries.isStorableId_iff.mp storable).2 ids).symm, secrets.symm⟩

/-- Texts that have octets have a key, the digest of the message of the two. -/
theorem cacheKey_ofText {secret : Text} (encodable : Utf8.isEncodable id = true)
    (encodable' : Utf8.isEncodable secret = true) :
    cacheKey (.ofText id) (.ofText secret) =
      .ok (Sha512.digest (cacheMessage (Utf8.octets id) (Utf8.octets secret))) := by
  have idOctets : octets (.ofText id) = .ok (Utf8.octets id) := by
    rw [octets, Utf8.encode_eq_ok_iff.mpr ⟨encodable, rfl⟩]
  have secretOctets : octets (.ofText secret) = .ok (Utf8.octets secret) := by
    rw [octets, Utf8.encode_eq_ok_iff.mpr ⟨encodable', rfl⟩]
  rw [cacheKey, idOctets, secretOctets]
  rfl

/-- Ids that a line can hold and secrets that have octets have keys. Each is the digest of a message
that the id and the secret are read from again, the secret behind the first zero; and the messages of
two pairs are the same only if the pairs are. -/
theorem cacheKey_tells_apart {secret guess : Text} (storable : Entries.isStorableId id = true)
    (storable' : Entries.isStorableId other = true)
    (encodable : Utf8.isEncodable secret = true) (encodable' : Utf8.isEncodable guess = true) :
    let message := cacheMessage (Utf8.octets id) (Utf8.octets secret)
    let message' := cacheMessage (Utf8.octets other) (Utf8.octets guess)
    cacheKey (.ofText id) (.ofText secret) = .ok (Sha512.digest message) ∧
      cacheKey (.ofText other) (.ofText guess) = .ok (Sha512.digest message') ∧
      splitFirst 0 message = some (Utf8.octets id, Utf8.octets secret) ∧
      (message = message' ↔ id = other ∧ secret = guess) := by
  intro message message'
  have named := (Entries.isStorableId_iff.mp storable).2
  have named' := (Entries.isStorableId_iff.mp storable').2
  refine ⟨cacheKey_ofText named encodable, cacheKey_ofText named' encodable',
    splitFirst_cacheMessage storable _, ?_⟩
  constructor
  · intro same
    obtain ⟨ids, secrets⟩ := cacheMessage_inj storable storable' same
    exact ⟨ids, Utf8.octets_inj encodable encodable' secrets⟩
  · rintro ⟨rfl, rfl⟩
    rfl

/-- Two pairs whose ids and secrets make one text, with a zero among the second secret. -/
theorem cacheKey_tells_apart_joined :
    let first := Text.lit "ab"
    let second := Text.lit "a"
    let secret := Text.lit "c"
    let guess : Text := [98, 0, 99]
    Entries.isStorableId first = true ∧ Entries.isStorableId second = true ∧
      Utf8.isEncodable secret = true ∧ Utf8.isEncodable guess = true ∧
      cacheMessage (Utf8.octets first) (Utf8.octets secret) ≠
        cacheMessage (Utf8.octets second) (Utf8.octets guess) := by
  intro first second secret guess
  have storable : Entries.isStorableId first = true := by decide
  have storable' : Entries.isStorableId second = true := by decide
  have encodable : Utf8.isEncodable secret = true := by decide
  have encodable' : Utf8.isEncodable guess = true := by decide
  obtain ⟨-, -, -, apart⟩ := cacheKey_tells_apart storable storable' encodable encodable'
  refine ⟨storable, storable', encodable, encodable', fun same => ?_⟩
  exact absurd (apart.mp same).1 (by decide)

/-- An id with a zero in it would have its message in common with a shorter one. -/
example :
    cacheMessage (Utf8.octets [97, 0, 98]) (Utf8.octets [99]) =
      cacheMessage (Utf8.octets [97]) (Utf8.octets [98, 0, 99]) := by
  decide

end Keyring.Secret
