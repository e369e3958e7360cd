import Keyring.Proofs.Hash.Laws
import Keyring.Secret

/-!
# What comes of hashing

A secret is hashed, or there is one thing that keeps it from being hashed (`Outcome`): what it is made
of, how long it is, the cost, or the salt. Of these the length, the salt and a cost of sixteen bits are
told as failures of hashing. Surrogates in the secret and any other cost are not, though nobody who
hashes a secret is to expect more than failures of hashing (`hash_tells_iff`).
-/

namespace Keyring

namespace Secret

variable {secret : Given} {cost : Int} {salts : Salts} {hash : Bytes}

/-- The setting of a new hash. -/
def freshText (cost : Int) (salts : Salts) : Bytes :=
  Bcrypt.Setting.render ⟨Bcrypt.currentVersion, cost.toNat, salts.next.1⟩

/-- What comes of hashing a secret, by what decides it. -/
inductive Outcome (secret : Given) (cost : Int) (salts : Salts) : Except Failure Bytes → Prop
  /-- The secret has no octets. -/
  | unencodable {run : Utf8.Unencodable} (refused : octets secret = .error (.unencodable run)) :
      Outcome secret cost salts (.error (.unencodable run))
  /-- It has more octets than count. -/
  | tooLong {password : Bytes} (encoded : octets secret = .ok password)
      (long : maxLength < password.length) :
      Outcome secret cost salts (.error (.hashing .tooLong))
  /-- The cost is no number of 64 bits. -/
  | costTooLarge {password : Bytes} (encoded : octets secret = .ok password)
      (short : password.length ≤ maxLength) (beyond : cost < -wordBound ∨ wordBound ≤ cost) :
      Outcome secret cost salts (.error .costTooLarge)
  /-- The cost is a number of 64 bits, but none of sixteen. -/
  | costOutOfRange {password : Bytes} (encoded : octets secret = .ok password)
      (short : password.length ≤ maxLength) (within : -wordBound ≤ cost ∧ cost < wordBound)
      (beyond : cost < 0 ∨ 65535 < cost) :
      Outcome secret cost salts (.error .costOutOfRange)
  /-- The cost is a number of sixteen bits, but none that hashes can have. -/
  | invalidCost {password : Bytes} (encoded : octets secret = .ok password)
      (short : password.length ≤ maxLength) (within : 0 ≤ cost ∧ cost ≤ 65535)
      (unfit : cost < 4 ∨ 31 < cost) :
      Outcome secret cost salts (.error (.hashing .invalidCost))
  /-- What was taken for a salt is none. -/
  | invalidSalt {password : Bytes} (encoded : octets secret = .ok password)
      (short : password.length ≤ maxLength) (fit : 4 ≤ cost ∧ cost ≤ 31)
      (unread : Bcrypt.hash? password (freshText cost salts) = none) :
      Outcome secret cost salts (.error (.hashing .invalidSalt))
  /-- The secret is hashed. -/
  | hashed {password hash : Bytes} (encoded : octets secret = .ok password)
      (short : password.length ≤ maxLength) (fit : 4 ≤ cost ∧ cost ≤ 31)
      (made : Bcrypt.hash? password (freshText cost salts) = some hash) :
      Outcome secret cost salts (.ok hash)

/-- Only surrogates keep a secret from having octets. -/
theorem octets_eq_error {failure : Failure} (refused : octets secret = .error failure) :
    ∃ run, failure = .unencodable run := by
  cases secret with
  | ofBytes bytes => cases refused
  | ofText text =>
    rw [octets] at refused
    split at refused
    · cases refused
    · cases refused
      exact ⟨_, rfl⟩

theorem hash_outcome (secret : Given) (cost : Int) (salts : Salts) :
    Outcome secret cost salts (Secret.hash secret cost salts).1 := by
  unfold Secret.hash
  split
  · rename_i failure refused
    obtain ⟨run, rfl⟩ := octets_eq_error refused
    exact .unencodable refused
  · rename_i password encoded
    split
    · rename_i long
      exact .tooLong encoded long
    · rename_i notLong
      have short := Nat.not_lt.mp notLong
      -- Whether a salt is taken depends on the cost alone.
      unfold freshSetting
      by_cases fit : 4 ≤ cost ∧ cost ≤ 31
      · rw [if_pos (by simpa using fit)]
        dsimp only
        split
        · rename_i made
          exact .hashed encoded short fit made
        · rename_i unread
          exact .invalidSalt encoded short fit unread
      · rw [if_neg (by simpa using fit)]
        by_cases within : 0 ≤ cost ∧ cost ≤ 65535
        · rw [if_pos (by simpa using within)]
          exact .invalidCost encoded short within (by omega)
        · rw [if_neg (by simpa using within)]
          by_cases word : -wordBound ≤ cost ∧ cost < wordBound
          · rw [if_pos (by simpa using word)]
            exact .costOutOfRange encoded short word (by omega)
          · rw [if_neg (by simpa using word)]
            exact .costTooLarge encoded short (by omega)

namespace Outcome

variable {result : Except Failure Bytes}

/-- A hash or a failure of hashing comes of the secrets with octets that are too many, or that come
with a cost of sixteen bits. -/
theorem tells_iff (outcome : Outcome secret cost salts result) :
    ((∃ hash, result = .ok hash ∧ Bcrypt.IsHash hash) ∨
        ∃ fault, result = .error (.hashing fault)) ↔
      ∃ password, octets secret = .ok password ∧
        (maxLength < password.length ∨ 0 ≤ cost ∧ cost ≤ 65535) := by
  cases outcome with
  | unencodable refused => simp [refused]
  | tooLong encoded long => simp [encoded, long]
  | costTooLarge encoded short beyond =>
    have wide : ¬ (0 ≤ cost ∧ cost ≤ 65535) := by
      unfold wordBound at beyond
      omega
    simp [encoded, wide, Nat.not_lt.mpr short]
  | costOutOfRange encoded short within beyond =>
    have wide : ¬ (0 ≤ cost ∧ cost ≤ 65535) := by omega
    simp [encoded, wide, Nat.not_lt.mpr short]
  | invalidCost encoded short within unfit => simp [encoded, within]
  | invalidSalt encoded short fit unread =>
    have within : 0 ≤ cost ∧ cost ≤ 65535 := by omega
    simp [encoded, within]
  | hashed encoded short fit made =>
    have within : 0 ≤ cost ∧ cost ≤ 65535 := by omega
    simp [encoded, within, Bcrypt.laws.strict made]

/-- A secret without octets is told by its first surrogates, before anything else is looked at. -/
theorem unencodable_iff (outcome : Outcome secret cost salts result) (run : Utf8.Unencodable) :
    result = .error (.unencodable run) ↔ octets secret = .error (.unencodable run) := by
  cases outcome with
  | unencodable refused => simp [refused]
  | _ encoded => simp [encoded]

/-- A cost of more than sixteen bits is told only for a secret that could be hashed. -/
theorem costOutOfRange_iff (outcome : Outcome secret cost salts result) :
    result = .error .costOutOfRange ↔
      ∃ password, octets secret = .ok password ∧ password.length ≤ maxLength ∧
        (-wordBound ≤ cost ∧ cost < wordBound) ∧ (cost < 0 ∨ 65535 < cost) := by
  have small (least : 0 ≤ cost) (most : cost ≤ 65535) : ¬ (cost < 0 ∨ 65535 < cost) := by
    omega
  cases outcome with
  | unencodable refused => simp [refused]
  | tooLong encoded long => simp [encoded, Nat.not_le.mpr long]
  | costTooLarge encoded short beyond =>
    have large : ¬ (-wordBound ≤ cost ∧ cost < wordBound) := by omega
    simp [encoded, large]
  | costOutOfRange encoded short within beyond => simp [encoded, short, within, beyond]
  | invalidCost encoded short within unfit => simp [encoded, small within.1 within.2]
  | invalidSalt encoded short fit unread => simp [encoded, small (by omega) (by omega)]
  | hashed encoded short fit made => simp [encoded, small (by omega) (by omega)]

/-- A cost of more than 64 bits is told apart from those. -/
theorem costTooLarge_iff (outcome : Outcome secret cost salts result) :
    result = .error .costTooLarge ↔
      ∃ password, octets secret = .ok password ∧ password.length ≤ maxLength ∧
        (cost < -wordBound ∨ wordBound ≤ cost) := by
  have small (least : 0 ≤ cost) (most : cost ≤ 65535) :
      ¬ (cost < -wordBound ∨ wordBound ≤ cost) := by
    unfold wordBound
    omega
  cases outcome with
  | unencodable refused => simp [refused]
  | tooLong encoded long => simp [encoded, Nat.not_le.mpr long]
  | costTooLarge encoded short beyond => simp [encoded, short, beyond]
  | costOutOfRange encoded short within beyond =>
    have word : ¬ (cost < -wordBound ∨ wordBound ≤ cost) := by omega
    simp [encoded, word]
  | invalidCost encoded short within unfit => simp [encoded, small within.1 within.2]
  | invalidSalt encoded short fit unread => simp [encoded, small (by omega) (by omega)]
  | hashed encoded short fit made => simp [encoded, small (by omega) (by omega)]

end Outcome

/-- Hashing a secret returns a hash or fails as hashing does exactly if the secret has octets, and
they are too many or the cost is a number of sixteen bits. In all other cases the failure is another
one: that of the surrogates in the secret, or one that tells whether the cost has 64 bits. -/
theorem hash_tells_iff (secret : Given) (cost : Int) (salts : Salts) :
    let result := (Secret.hash secret cost salts).1
    (((∃ hash, result = .ok hash ∧ Bcrypt.IsHash hash) ∨
        ∃ fault, result = .error (.hashing fault)) ↔
      ∃ password, octets secret = .ok password ∧
        (maxLength < password.length ∨ 0 ≤ cost ∧ cost ≤ 65535)) ∧
    (∀ run, result = .error (.unencodable run) ↔ octets secret = .error (.unencodable run)) ∧
    (result = .error .costOutOfRange ↔
      ∃ password, octets secret = .ok password ∧ password.length ≤ maxLength ∧
        (-wordBound ≤ cost ∧ cost < wordBound) ∧ (cost < 0 ∨ 65535 < cost)) ∧
    (result = .error .costTooLarge ↔
      ∃ password, octets secret = .ok password ∧ password.length ≤ maxLength ∧
        (cost < -wordBound ∨ wordBound ≤ cost)) := by
  have outcome := hash_outcome secret cost salts
  exact ⟨outcome.tells_iff, outcome.unencodable_iff, outcome.costOutOfRange_iff,
    outcome.costTooLarge_iff⟩

/-- A cost of seventeen bits is no failure of hashing, nor of a keychain, and neither is a surrogate in
the secret. -/
theorem hash_tells_not_every_cost :
    let salts : Salts := ⟨[], Utf8.octets (Text.lit "abcdefghijklmnopqrstuu")⟩
    let surrogate : Utf8.Unencodable := ⟨0xD800, 0, 1⟩
    (Secret.hash (.ofText (Text.lit "s3cret")) 65536 salts).1 = .error .costOutOfRange ∧
      (Secret.hash (.ofText [0xD800]) defaultCost salts).1 = .error (.unencodable surrogate) ∧
      Failure.costOutOfRange.isKeychainError = false ∧
      (Failure.unencodable surrogate).isKeychainError = false := by
  decide +kernel

/-! ## What can be said of a hash -/

/-- A text with octets has those of UTF-8. -/
theorem octets_ofText_eq_ok {text : Text} {password : Bytes}
    (encoded : octets (.ofText text) = .ok password) :
    Utf8.isEncodable text = true ∧ Utf8.octets text = password := by
  rw [octets] at encoded
  split at encoded
  · rename_i bytes read
    cases encoded
    exact Utf8.encode_eq_ok_iff.mp read
  · cases encoded

/-- What was hashed matches its hash, which stands on one line. -/
theorem hash_eq_ok (hashed : (Secret.hash secret cost salts).1 = .ok hash) :
    ∃ password, octets secret = .ok password ∧ matchesHash password hash = true ∧
      hash ≠ [] ∧ Entries.newline ∉ hash := by
  have outcome := hash_outcome secret cost salts
  rw [hashed] at outcome
  cases outcome with
  | @hashed password _ encoded short fit made =>
    have strict := Bcrypt.laws.strict made
    refine ⟨password, encoded, ?_, strict.ne_nil, strict.not_mem (by decide)⟩
    simp [matchesHash, Bcrypt.laws.recognizes made, short]

/-- What new hashes are made with is a setting that hashes can have. -/
theorem isProper_fresh {salt : Bytes} (least : 4 ≤ cost) (most : cost ≤ 31)
    (salted : Bcrypt.salt? salt = some salt) :
    Bcrypt.Setting.IsProper ⟨Bcrypt.currentVersion, cost.toNat, salt⟩ :=
  ⟨by simp [Bcrypt.currentVersion, Bcrypt.versions], ⟨by simp; omega, by simp; omega⟩, salted⟩

/-- A secret that is not too long has the hash that is made of it with a fresh setting. -/
theorem hash_of_made {password : Bytes} (encoded : octets secret = .ok password)
    (short : password.length ≤ maxLength) (least : 4 ≤ cost) (most : cost ≤ 31)
    (made : Bcrypt.hash? password (freshText cost salts) = some hash) :
    (Secret.hash secret cost salts).1 = .ok hash := by
  unfold freshText at made
  unfold Secret.hash freshSetting
  rw [encoded]
  dsimp only
  rw [if_neg (Nat.not_lt.mpr short), if_pos (by simp [least, most])]
  dsimp only
  rw [made]

/-- A secret that is not too long has a hash if there is a salt. -/
theorem hash_of_salt {password : Bytes} (encoded : octets secret = .ok password)
    (short : password.length ≤ maxLength) (least : 4 ≤ cost) (most : cost ≤ 31)
    (salted : Bcrypt.salt? salts.next.1 = some salts.next.1) :
    (Secret.hash secret cost salts).1 =
      .ok (Bcrypt.hashWith ⟨Bcrypt.currentVersion, cost.toNat, salts.next.1⟩ password) :=
  hash_of_made encoded short least most (isProper_fresh least most salted).hash?_render

/-- A text that is not too long has a hash that it matches, which stands on one line. -/
theorem exists_hash (text : Text) (cost : Int) (salts : Salts)
    (encodable : Utf8.isEncodable text = true) (short : (Utf8.octets text).length ≤ maxLength)
    (fit : 4 ≤ cost ∧ cost ≤ 31) (salted : Bcrypt.salt? salts.next.1 = some salts.next.1) :
    ∃ hash, (Secret.hash (.ofText text) cost salts).1 = .ok hash ∧
      matchesHash (Utf8.octets text) hash = true ∧ hash ≠ [] ∧ Entries.newline ∉ hash := by
  have encoded : octets (.ofText text) = .ok (Utf8.octets text) := by
    rw [octets, Utf8.encode_eq_ok_iff.mpr ⟨encodable, rfl⟩]
  have hashed := hash_of_salt encoded short fit.1 fit.2 salted
  obtain ⟨_, encoded', right, kept⟩ := hash_eq_ok hashed
  cases encoded.symm.trans encoded'
  exact ⟨_, hashed, right, kept⟩

/-- A text with octets fails to be hashed because of its length or the salt alone, if the cost is one
that hashes can have. -/
theorem hash_eq_error {text : Text} {failure : Failure}
    (encodable : Utf8.isEncodable text = true) (fit : 4 ≤ cost ∧ cost ≤ 31)
    (failed : (Secret.hash (.ofText text) cost salts).1 = .error failure) :
    ∃ fault, failure = .hashing fault := by
  have outcome := hash_outcome (.ofText text) cost salts
  rw [failed] at outcome
  cases outcome with
  | unencodable refused =>
    rw [octets, Utf8.encode_eq_ok_iff.mpr ⟨encodable, rfl⟩] at refused
    cases refused
  | costTooLarge _ _ beyond =>
    unfold wordBound at beyond
    omega
  | costOutOfRange _ _ _ beyond => omega
  | _ => exact ⟨_, rfl⟩

end Secret

end Keyring
