import Keyring.Proofs.Credential.Fresh
import Keyring.Proofs.Entries.RoundTrip
import Keyring.Proofs.Hash.Laws
import Keyring.Proofs.Keychain.Admission

/-!
# Secrets are recognized

A secret that is not too long has a hash with every salt, and is recognized by it: what is printed in
front of the digest is read again as the setting that the hash was made with (`hash_recognized`). All
hashes are of one length and one alphabet, which has neither the colon nor the newline, so that every
keychain takes them and every file keeps them.
-/

namespace Keyring

namespace Entries

variable {entries : Entries} {id : Text} {hash : Bytes}

/-- A hash is acceptable for every id that can be stored. -/
theorem isAcceptable_of_isHash (strict : Bcrypt.IsHash hash) (named : id ≠ [])
    (storable : isStorableId id = true) : isAcceptable id hash = true :=
  isAcceptable_iff.mpr ⟨named, storable, strict.ne_nil, strict.not_mem (by decide)⟩

end Entries

namespace Secret

variable {secret : Given} {password : Bytes} {cost : Int} {salts : Salts}

/-- A secret that is not too long has a hash, with any cost that hashes can have and any salt. The
hash is 60 octets of its alphabet, and cost and salt are read from it again. So the secret is
recognized by it, every keychain takes it for an id that can be stored, and a file keeps it beside
whatever else it can keep. -/
theorem hash_recognized (encoded : octets secret = .ok password)
    (short : password.length ≤ maxLength) (least : 4 ≤ cost) (most : cost ≤ 31)
    (salted : Bcrypt.salt? salts.next.1 = some salts.next.1) :
    ∃ hash, (Secret.hash secret cost salts).1 = .ok hash ∧
      hash.length = 60 ∧ (∀ octet ∈ hash, octet ∈ Bcrypt.signs) ∧
      Bcrypt.Setting.parse? hash = some ⟨Bcrypt.currentVersion, cost.toNat, salts.next.1⟩ ∧
      check secret hash = .ok true ∧
      ∀ id : Text, id ≠ [] → Entries.isStorableId id = true →
        (∀ keychain : Keychain, (keychain.add (.ofText id) (.ofBytes hash)).1 = .ok ()) ∧
        ∀ entries : Entries, entries.Storable →
          ∃ content, Entries.render (entries.put (.ofText id) (.ofBytes hash)) = .ok content ∧
            Entries.parse content = .ok (entries.put (.ofText id) (.ofBytes hash)) := by
  obtain ⟨hash, made, read⟩ := Bcrypt.laws.hashes (isProper_fresh least most salted) password
  have strict := Bcrypt.laws.strict made
  refine ⟨hash, hash_of_made encoded short least most made, strict.length_eq,
    fun octet => strict.mem_signs, read, ?_, fun id named storable => ?_⟩
  · have right := Bcrypt.laws.recognizes made
    simp [check, encoded, Except.map, matchesHash, right, short]
  · have acceptable := Entries.isAcceptable_of_isHash strict named storable
    refine ⟨fun keychain => (keychain.add_ok_iff id _).mpr acceptable, fun entries kept => ?_⟩
    exact (kept.put acceptable).parse_render

/-- As many octets as there may be, a zero among them, at the highest cost. -/
theorem hash_recognized_longest :
    let secret := Given.ofBytes ((List.range 72).map UInt8.ofNat)
    let salts : Salts := ⟨[], Utf8.octets (Text.lit "abcdefghijklmnopqrstuu")⟩
    ∃ hash, (Secret.hash secret 31 salts).1 = .ok hash ∧
      hash.length = 60 ∧ (∀ octet ∈ hash, octet ∈ Bcrypt.signs) ∧
      check secret hash = .ok true ∧
      ∀ keychain : Keychain,
        (keychain.add (.ofText (Text.lit "KEY 1")) (.ofBytes hash)).1 = .ok () := by
  intro secret salts
  have encoded : octets secret = .ok ((List.range 72).map UInt8.ofNat) := rfl
  have salted : Bcrypt.salt? salts.next.1 = some salts.next.1 := by decide
  obtain ⟨hash, made, long, signs, -, right, taken⟩ :=
    hash_recognized encoded (by decide) (by decide) (by decide : (31 : Int) ≤ 31) salted
  exact ⟨hash, made, long, signs, right, (taken (Text.lit "KEY 1") (by decide) (by decide)).1⟩

end Secret

end Keyring
