import Keyring.Proofs.Hash.Laws
import Keyring.Proofs.Secret.Outcome

/-!
# What a check says

There is a verdict on every secret with octets, whatever is stored, and only what has the form of a
hash is matched by a secret at all (`check_admits_hashes_alone`).

A hash is matched by all secrets whose keys have the digest that was stored. Beside the secret that was
hashed these are the ones with the same key, which the cipher cannot tell apart, and those whose keys
happen to have the same digest. A key is shared only by secrets of which one holds a zero
(`check_tells_apart`).
-/

namespace Keyring

/-- Octets are there to be hashed, and so is a text unless it holds a surrogate. -/
def Given.isEncodable : Given → Bool
  | .ofText text => Utf8.isEncodable text
  | .ofBytes _ => true

namespace Secret

variable {secret other : Given} {password password' stored hash : Bytes} {cost : Int} {salts : Salts}

theorem octets_isOk (encodable : secret.isEncodable = true) :
    ∃ password, octets secret = .ok password := by
  cases secret with
  | ofBytes bytes => exact ⟨bytes, rfl⟩
  | ofText text =>
    refine ⟨Utf8.octets text, ?_⟩
    rw [octets, Utf8.encode_eq_ok_iff.mpr ⟨encodable, rfl⟩]

/-- Texts with the same octets are the same. -/
theorem eq_of_octets_ofText {text text' : Text} (encoded : octets (.ofText text) = .ok password)
    (encoded' : octets (.ofText text') = .ok password) : text' = text := by
  obtain ⟨encodable, rfl⟩ := octets_ofText_eq_ok encoded
  obtain ⟨encodable', same⟩ := octets_ofText_eq_ok encoded'
  exact Utf8.octets_inj encodable' encodable same

/-- A secret matches what is stored if it is not too long and what is stored is its hash. -/
theorem check_eq_true_iff (encoded : octets secret = .ok password) :
    check secret stored = .ok true ↔
      password.length ≤ maxLength ∧ Bcrypt.check? password stored = some true := by
  unfold check matchesHash
  rw [encoded]
  cases judged : Bcrypt.check? password stored <;> simp [Except.map, judged]

/-- There is a verdict on every secret with octets, by any octets that are stored. It is favourable
only if those have the one form of hashes: whatever else is stored, no secret matches it. -/
theorem check_admits_hashes_alone (encodable : secret.isEncodable = true) (stored : Bytes) :
    (∃ verdict, check secret stored = .ok verdict) ∧
    (check secret stored = .ok true → stored.length = 60 ∧ Bcrypt.IsHash stored) ∧
    (¬ Bcrypt.IsHash stored → check secret stored = .ok false) := by
  obtain ⟨password, encoded⟩ := octets_isOk encodable
  have verdict : check secret stored = .ok (matchesHash password stored) := by
    rw [check, encoded]
    rfl
  have strict : check secret stored = .ok true → Bcrypt.IsHash stored := fun right =>
    Bcrypt.laws.admits ((check_eq_true_iff encoded).mp right).2
  refine ⟨⟨_, verdict⟩, fun right => ⟨(strict right).length_eq, strict right⟩, fun loose => ?_⟩
  cases judged : matchesHash password stored with
  | false => rw [verdict, judged]
  | true => exact absurd (strict (judged ▸ verdict)) loose

/-- A hash with a carriage return behind it is a setting that can be read, but no hash. -/
theorem check_admits_hashes_alone_returned :
    let stored := Utf8.octets
      (Text.lit "$2b$04$abcdefghijklmnopqrstuu0123456789012345678901234567890\r")
    (Bcrypt.Setting.parse? stored).isSome = true ∧
      check (.ofText (Text.lit "é")) stored = .ok false := by
  intro stored
  have loose : ¬ Bcrypt.IsHash stored := fun strict => absurd strict.length_eq (by decide)
  have read : (Bcrypt.Setting.parse? stored).isSome = true := by
    decide +kernel
  exact ⟨read, (check_admits_hashes_alone (by decide) stored).2.2 loose⟩

/-- The hash of a secret is matched by exactly the secrets whose keys have the same digest, among them
the key of the secret itself. Of two secrets the keys are the same exactly if the key of the one says
the other over and over, and if neither of them holds a zero this means that they are the same
secret. -/
theorem check_tells_apart (encoded : octets secret = .ok password)
    (encoded' : octets other = .ok password')
    (hashed : (Secret.hash secret cost salts).1 = .ok hash) :
    (∃ setting : Bcrypt.Setting, setting.IsProper ∧ hash = Bcrypt.hashWith setting password ∧
      (check other hash = .ok true ↔ password'.length ≤ maxLength ∧
        Bcrypt.digest setting.cost (Bcrypt.saltBytes setting.salt)
            (Bcrypt.effectiveKey password') =
          Bcrypt.digest setting.cost (Bcrypt.saltBytes setting.salt)
            (Bcrypt.effectiveKey password))) ∧
    check (.ofBytes (Bcrypt.effectiveKey password)) hash = .ok true ∧
    (password'.length ≤ maxLength →
      (Bcrypt.effectiveKey password' = Bcrypt.effectiveKey password ↔
        Bcrypt.Repeats (Bcrypt.effectiveKey password) password') ∧
      (0 ∉ password → 0 ∉ password' →
        Bcrypt.effectiveKey password' = Bcrypt.effectiveKey password →
          password' = password ∧
            ∀ text text', secret = .ofText text → other = .ofText text' → text' = text)) := by
  have outcome := hash_outcome secret cost salts
  rw [hashed] at outcome
  cases outcome with
  | hashed encoded'' short fit made =>
    cases encoded.symm.trans encoded''
    obtain ⟨setting, proper, rfl⟩ := Bcrypt.hash?_eq_some made
    have tells := Bcrypt.laws.tells made proper.parse?_hashWith
    refine ⟨⟨setting, proper, rfl, ?_⟩, ?_, fun short' =>
      ⟨Bcrypt.effectiveKey_eq_effectiveKey_iff short', fun free free' same => ?_⟩⟩
    · rw [check_eq_true_iff encoded', tells]
    · rw [check_eq_true_iff rfl, tells, Bcrypt.effectiveKey_effectiveKey]
      exact ⟨Nat.le_of_eq (Bcrypt.length_effectiveKey password), rfl⟩
    · obtain rfl := Bcrypt.eq_of_effectiveKey_eq short short' free free' same
      refine ⟨rfl, ?_⟩
      rintro text text' rfl rfl
      exact eq_of_octets_ofText encoded encoded'

/-- A secret and twice the same have different keys, so that one digest of both would be needed. -/
theorem check_tells_apart_doubled :
    let secret := Given.ofText (Text.lit "ab")
    let other := Given.ofText (Text.lit "abab")
    let salts : Salts := ⟨[], Utf8.octets (Text.lit "abcdefghijklmnopqrstuu")⟩
    ∃ hash, (Secret.hash secret 4 salts).1 = .ok hash ∧
      (check other hash = .ok true → ∃ cost salt key key', key' ≠ key ∧
        Bcrypt.digest cost salt key' = Bcrypt.digest cost salt key) := by
  intro secret other salts
  have encoded : octets secret = .ok [97, 98] := rfl
  have encoded' : octets other = .ok [97, 98, 97, 98] := rfl
  have hashed : (Secret.hash secret 4 salts).1 = .ok _ :=
    hash_of_salt encoded (by decide) (by decide) (by decide) (by decide)
  obtain ⟨⟨setting, -, -, matched⟩, -, apart⟩ := check_tells_apart encoded encoded' hashed
  refine ⟨_, hashed, fun right => ⟨_, _, _, _, fun same => ?_, (matched.mp right).2⟩⟩
  exact absurd ((apart (by decide)).2 (by decide) (by decide) same).1 (by decide)

/-- A secret, a zero, and the secret again have the key of the secret alone, and match its hash. So do
71 letters and the same with a zero behind them. -/
theorem check_tells_not_zeros_apart :
    let secret := Given.ofText (Text.lit "ab")
    let other := Given.ofText [97, 98, 0, 97, 98]
    let salts : Salts := ⟨[], Utf8.octets (Text.lit "abcdefghijklmnopqrstuu")⟩
    (∃ hash, (Secret.hash secret 4 salts).1 = .ok hash ∧ check other hash = .ok true) ∧
      other ≠ secret ∧
      Bcrypt.effectiveKey [97, 98, 0, 97, 98] = Bcrypt.effectiveKey [97, 98] ∧
      Bcrypt.effectiveKey (List.replicate 71 120 ++ [0]) =
        Bcrypt.effectiveKey (List.replicate 71 120) := by
  intro secret other salts
  have encoded : octets secret = .ok [97, 98] := rfl
  have encoded' : octets other = .ok [97, 98, 0, 97, 98] := rfl
  have same : Bcrypt.effectiveKey [97, 98, 0, 97, 98] = Bcrypt.effectiveKey [97, 98] := by
    decide
  have proper : Bcrypt.Setting.IsProper ⟨Bcrypt.currentVersion, (4 : Int).toNat, salts.next.1⟩ :=
    isProper_fresh (by decide) (by decide) (by decide)
  obtain ⟨hash, made, read⟩ := Bcrypt.laws.hashes proper [97, 98]
  have hashed : (Secret.hash secret 4 salts).1 = .ok hash :=
    hash_of_made encoded (by decide) (by decide) (by decide) made
  refine ⟨⟨hash, hashed, ?_⟩, by decide, same, by decide⟩
  rw [check_eq_true_iff encoded', Bcrypt.laws.tells made read, same]
  exact ⟨by decide, rfl⟩

end Secret

end Keyring
