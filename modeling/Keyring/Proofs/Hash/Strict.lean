import Keyring.Proofs.Codec.Radix64
import Keyring.Proofs.Hash.Bcrypt

/-!
# What hashes look like

All hashes have one form (`IsHash`): 60 octets, all of them dollar signs and letters of one alphabet.
A setting is read in other forms too, with empty parts, signs and zeros in front of the cost, or more
behind the salt. But what is written with it has the one form again, so what is stored in any other
form equals no hash (`isHash_of_check?`).

A salt is sixteen octets in 22 letters. The last letter has four bits more than there are to write,
and those are zero (`salt?_eq_self_iff`).
-/

namespace Keyring.Bcrypt

variable {salt hash password : Bytes} {cost : Nat}

/-- The alphabet of hashes. -/
def signs : Bytes :=
  Utf8.octets (Text.lit "$./ABCDEFGHIJKLMNOPQRSTUVWXYZabcdefghijklmnopqrstuvwxyz0123456789")

/-- A letter stands for one sextet alone. -/
theorem letter_of_sextet? {octet : UInt8} {sextet : Radix64.Sextet}
    (found : sextet? octet = some sextet) : letter sextet = octet := by
  have bound := octet.toNat_lt
  unfold sextet? at found
  simp only [Bool.and_eq_true, decide_eq_true_eq] at found
  rw [← UInt8.toNat_inj]
  grind [letter, Radix64.Sextet.ofNat, UInt8.toNat_ofNat', Fin.val_ofNat]

/-- The alphabet of hashes has the dollar sign and the letters. -/
theorem mem_signs_iff {octet : UInt8} :
    octet ∈ signs ↔ octet = separator ∨ isLetter octet = true := by
  have listed : signs = separator :: (List.finRange 64).map letter := by decide +kernel
  rw [listed, isLetter, Option.isSome_iff_exists]
  simp only [List.mem_cons, List.mem_map, List.mem_finRange, true_and]
  refine or_congr_right ⟨?_, ?_⟩
  · rintro ⟨sextet, rfl⟩
    exact ⟨sextet, sextet?_letter sextet⟩
  · rintro ⟨sextet, found⟩
    exact ⟨sextet, letter_of_sextet? found⟩

/-- Letters are read as the sextets that they were written for. -/
theorem mapM_sextet?_eq_some_iff {letters : Bytes} {sextets : List Radix64.Sextet} :
    letters.mapM sextet? = some sextets ↔ sextets.map letter = letters := by
  constructor
  · intro read
    induction letters generalizing sextets with
    | nil =>
      cases read
      rfl
    | cons first others ih =>
      rw [List.mapM_cons] at read
      obtain ⟨sextet, found, rest⟩ := Option.bind_eq_some_iff.mp read
      obtain ⟨more, mapped, same⟩ := Option.bind_eq_some_iff.mp rest
      cases same
      rw [List.map_cons, letter_of_sextet? found, ih mapped]
  · rintro rfl
    induction sextets with
    | nil => rfl
    | cons sextet sextets ih => simp [List.mapM_cons, ih]

theorem length_encode (bytes : Bytes) : (encode bytes).length = (4 * bytes.length + 2) / 3 := by
  rw [encode, List.length_map, Radix64.length_sextets]

/-- The salts are the letters of sixteen octets. -/
theorem salt?_eq_self_iff :
    salt? salt = some salt ↔ ∃ raw : Bytes, raw.length = 16 ∧ salt = encode raw := by
  constructor
  · intro read
    obtain ⟨-, length, -⟩ := salt?_eq_some read
    have whole : salt.take saltLength = salt := List.take_of_length_le (Nat.le_of_eq length)
    unfold salt? at read
    rw [whole] at read
    dsimp only at read
    rw [if_neg (by omega)] at read
    split at read
    · cases read
    · rename_i sextets mapped
      split at read
      · rename_i filled
        have letters := mapM_sextet?_eq_some_iff.mp mapped
        have count : sextets.length = 4 * 5 + 2 := by
          rw [← List.length_map letter, letters, length, saltLength]
        have back := Radix64.sextets_octets count filled
        have raw := Radix64.length_sextets (Radix64.octets sextets)
        rw [back, count] at raw
        exact ⟨Radix64.octets sextets, by omega, by rw [encode, back, letters]⟩
      · cases read
  · rintro ⟨raw, length, rfl⟩
    have count : (encode raw).length = saltLength := by rw [length_encode, length, saltLength]
    have read : (encode raw).mapM sextet? = some (Radix64.sextets raw) :=
      mapM_sextet?_eq_some_iff.mpr rfl
    unfold salt?
    rw [List.take_of_length_le (Nat.le_of_eq count)]
    dsimp only
    rw [if_neg (by omega), read]
    dsimp only
    have filled : ((Radix64.sextets raw).getD (4 * 5 + 1) 0).val % 16 = 0 :=
      Radix64.filled_sextets length
    rw [if_pos filled]

theorem length_digest (cost : Nat) (salt key : Bytes) : (digest cost salt key).length = 23 := by
  unfold digest
  dsimp only
  rw [List.length_take]
  simp [wordBytes]

/-! ## The one form -/

/-- The letters that a salt may end with. Of their six bits the last four are zero. -/
def lastLetters : Bytes :=
  Utf8.octets (Text.lit ".Oeu")

/-- A version, a cost of two digits and a salt of 22 letters, each with a dollar sign before it, and
31 letters of digest. -/
inductive IsHash : Bytes → Prop
  | intro {version salt digest : Bytes} {cost : Nat} {last : UInt8} (named : version ∈ versions)
      (least : 4 ≤ cost) (most : cost ≤ 31) (salted : salt.length = 22)
      (closed : salt.getLast? = some last) (filled : last ∈ lastLetters)
      (digested : digest.length = 31) (letters : ∀ octet ∈ salt ++ digest, isLetter octet = true) :
      IsHash ([separator] ++ version ++ [separator] ++ twoDigits cost ++ [separator] ++ salt
        ++ digest)

namespace IsHash

/-- A hash has 60 octets. -/
theorem length_eq (strict : IsHash hash) : hash.length = 60 := by
  have two : ∀ version ∈ versions, version.length = 2 := by decide
  cases strict with
  | intro named _ _ salted _ _ digested =>
    simp [two _ named, twoDigits, salted, digested]

/-- No hash is empty. -/
theorem ne_nil (strict : IsHash hash) : hash ≠ [] := by
  rintro rfl
  cases strict.length_eq

/-- Hashes are of one alphabet. -/
theorem mem_signs (strict : IsHash hash) {octet : UInt8} (member : octet ∈ hash) :
    octet ∈ signs := by
  rw [mem_signs_iff]
  cases strict with
  | intro named _ _ _ _ _ _ letters =>
    simp only [List.mem_append, List.mem_singleton, or_assoc] at member letters
    rcases member with sign | version | sign | digit | sign | letter
    · exact .inl sign
    · exact .inr (isLetter_of_mem_version named version)
    · exact .inl sign
    · exact .inr (isLetter_of_mem_twoDigits digit)
    · exact .inl sign
    · exact .inr (letters octet letter)

/-- A hash has no octet that is not of the alphabet. -/
theorem not_mem (strict : IsHash hash) {octet : UInt8} (other : octet ∉ signs) : octet ∉ hash :=
  fun member => other (strict.mem_signs member)

end IsHash

/-- A salt ends with one of four letters. -/
theorem getLast?_of_salt? (read : salt? salt = some salt) :
    ∃ last ∈ lastLetters, salt.getLast? = some last := by
  have closing : ∀ sextet : Radix64.Sextet, sextet.val % 16 = 0 → letter sextet ∈ lastLetters := by
    decide
  obtain ⟨raw, length, rfl⟩ := salt?_eq_self_iff.mp read
  have count : (Radix64.sextets raw).length = 4 * 5 + 1 + 1 := by
    rw [Radix64.length_sextets, length]
  have filled : ((Radix64.sextets raw).getD (4 * 5 + 1) 0).val % 16 = 0 :=
    Radix64.filled_sextets length
  refine ⟨_, closing _ filled, ?_⟩
  rw [encode, List.getLast?_map, List.getLast?_eq_getElem?, count, Nat.add_sub_cancel,
    List.getD_eq_getElem?_getD, List.getElem?_eq_getElem (by omega)]
  rfl

/-- Every hash with a setting that hashes can have has the one form. -/
theorem Setting.IsProper.isHash {setting : Setting} (proper : setting.IsProper)
    (password : Bytes) : IsHash (hashWith setting password) := by
  obtain ⟨-, salted, letters⟩ := salt?_eq_some proper.salt
  obtain ⟨last, filled, closed⟩ := getLast?_of_salt? proper.salt
  refine .intro proper.version proper.cost.1 proper.cost.2 salted closed filled ?_ ?_
  · rw [length_encode, length_digest]
  · intro octet member
    exact (List.mem_append.mp member).elim (letters octet) isLetter_of_mem_encode

/-- Whatever setting a hash was made with, it has the one form. -/
theorem isHash_of_hash? {setting : Bytes} (hashed : hash? password setting = some hash) :
    IsHash hash := by
  obtain ⟨setting, proper, rfl⟩ := hash?_eq_some hashed
  exact proper.isHash password

/-- Only what has the one form is the hash of a password with itself as the setting. -/
theorem isHash_of_check? {stored : Bytes} (right : check? password stored = some true) :
    IsHash stored := by
  obtain ⟨hash, hashed, same⟩ := Option.map_eq_some_iff.mp right
  rw [← beq_iff_eq.mp same]
  exact isHash_of_hash? hashed

end Keyring.Bcrypt
