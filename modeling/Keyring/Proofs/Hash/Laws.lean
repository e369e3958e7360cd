import Keyring.Proofs.Hash.EffectiveKey

/-!
# What is relied on of bcrypt

Whoever keeps secrets knows nothing of the cipher. All that is relied on are the laws of three
functions (`Laws`): the digest of a key, the hash of a password with a setting, and the check of a
password against what is stored. They are about the text of settings and hashes, and about which
passwords are told apart; that digests are hard to find or to come by is not among them. The functions
here keep these laws (`laws`), by the length of their digests alone.

Less still is relied on of SHA-512, for which there is no law at all: where digests have to tell
messages apart, that is assumed of the messages.
-/

namespace Keyring.Bcrypt

/-- The laws of a library for bcrypt: of the digest of a key by cost and salt, of the hash of a password
with what is described as a setting, and of the check of a password against what is stored. -/
structure Laws (digest : Nat → Bytes → Bytes → Bytes) (hash? : Bytes → Bytes → Option Bytes)
    (check? : Bytes → Bytes → Option Bool) : Prop where
  /-- Every password has a hash with every setting that hashes can have, and the setting is read from
  it again. -/
  hashes {setting : Setting} (proper : setting.IsProper) (password : Bytes) :
    ∃ hash, hash? password setting.render = some hash ∧ Setting.parse? hash = some setting
  /-- Whatever is described, there is a hash only if that is a setting, and the hash starts with it. -/
  keeps {password described hash : Bytes} (hashed : hash? password described = some hash) :
    ∃ setting digits, Setting.parse? described = some setting ∧ setting.IsProper ∧
      Setting.parse? hash = some setting ∧ hash = setting.render ++ digits
  /-- Whatever setting a hash was made with, it has the one form. -/
  strict {password described hash : Bytes} (hashed : hash? password described = some hash) :
    IsHash hash
  /-- The password that was hashed is found to be the right one. -/
  recognizes {password described hash : Bytes} (hashed : hash? password described = some hash) :
    check? password hash = some true
  /-- Passwords are told apart by the digests of their keys, and by nothing else. -/
  tells {password described hash : Bytes} {setting : Setting}
    (hashed : hash? password described = some hash) (read : Setting.parse? hash = some setting)
    (other : Bytes) :
    check? other hash = some true ↔
      digest setting.cost (saltBytes setting.salt) (effectiveKey other) =
        digest setting.cost (saltBytes setting.salt) (effectiveKey password)
  /-- No password is the right one for what has another form. -/
  admits {password stored : Bytes} (right : check? password stored = some true) : IsHash stored

/-- The functions for bcrypt keep their laws. -/
theorem laws : Laws digest hash? check? where
  hashes proper _ := ⟨_, proper.hash?_render, proper.parse?_hashWith⟩
  keeps hashed := by
    obtain ⟨setting, read, rfl⟩ := Option.map_eq_some_iff.mp hashed
    have proper := Setting.parse?_eq_some read
    exact ⟨setting, _, read, proper, proper.parse?_hashWith, rfl⟩
  strict := isHash_of_hash?
  recognizes := check?_of_hash?
  tells hashed read other := by
    obtain ⟨setting, proper, rfl⟩ := hash?_eq_some hashed
    cases proper.parse?_hashWith.symm.trans read
    exact check?_hashWith proper _ other
  admits := isHash_of_check?

end Keyring.Bcrypt
