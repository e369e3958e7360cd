import Keyring.Hash.Bcrypt
import Keyring.Proofs.Host.Route

/-!
# Hashes are settings

A hash serves as the setting of a further hash, and that is how a password is checked. This works
because all that a hash is written with besides the dollar signs are letters of its alphabet: so the
signs cut it where it was joined, and the setting that it was made with is read from it again
(`parse?_hashWith`). The password that was hashed is therefore found to be the right one
(`check?_of_hash?`).
-/

namespace Keyring.Bcrypt

/-- An octet stands for a sextet. -/
def isLetter (octet : UInt8) : Bool :=
  (sextet? octet).isSome

/-- The letter of a sextet stands for it. -/
@[simp]
theorem sextet?_letter (sextet : Radix64.Sextet) : sextet? (letter sextet) = some sextet := by
  revert sextet
  decide

/-- The dollar sign is no letter. -/
theorem not_mem_of_isLetter {octets : Bytes} (letters : ∀ octet ∈ octets, isLetter octet = true) :
    separator ∉ octets :=
  fun member => absurd (letters _ member) (by decide)

theorem isLetter_of_mem_encode {bytes : Bytes} {octet : UInt8} (member : octet ∈ encode bytes) :
    isLetter octet = true := by
  obtain ⟨sextet, -, rfl⟩ := List.mem_map.mp member
  simp [isLetter]

/-! ## The parts of a setting -/

variable {bytes salt rest password setting hash : Bytes} {cost : Nat}

/-- Digits are letters. -/
theorem isLetter_of_mem_twoDigits {octet : UInt8} (member : octet ∈ twoDigits cost) :
    isLetter octet = true := by
  have digit : ∀ value < 10, isLetter (UInt8.ofNat (48 + value)) = true := by decide
  simp only [twoDigits, List.mem_cons, List.not_mem_nil, or_false] at member
  rcases member with rfl | rfl
  · exact digit _ (Nat.mod_lt _ (by decide))
  · exact digit _ (Nat.mod_lt _ (by decide))

/-- A cost is read from its digits. -/
theorem cost?_twoDigits (least : 4 ≤ cost) (most : cost ≤ 31) :
    cost? (twoDigits cost) = some cost := by
  have each : ∀ cost < 32, 4 ≤ cost → cost? (twoDigits cost) = some cost := by decide
  exact each cost (by omega) least

/-- A cost that is read is one that hashes can have. -/
theorem cost?_eq_some (read : cost? bytes = some cost) : 4 ≤ cost ∧ cost ≤ 31 := by
  obtain ⟨value, -, bounded⟩ := Option.bind_eq_some_iff.mp read
  split at bounded
  · rename_i within
    cases bounded
    simpa using within
  · cases bounded

/-- Only letters stand for sextets. -/
theorem isLetter_of_mapM {sextets : List Radix64.Sextet} (read : bytes.mapM sextet? = some sextets) :
    ∀ octet ∈ bytes, isLetter octet = true := by
  induction bytes generalizing sextets with
  | nil => simp
  | cons first others ih =>
    rw [List.mapM_cons] at read
    obtain ⟨sextet, found, rest⟩ := Option.bind_eq_some_iff.mp read
    obtain ⟨_, mapped, -⟩ := Option.bind_eq_some_iff.mp rest
    rintro octet (_ | ⟨_, member⟩)
    · simp [isLetter, found]
    · exact ih mapped octet member

/-- A salt that is read stands in front, and is all letters. -/
theorem salt?_eq_some (read : salt? bytes = some salt) :
    salt = bytes.take saltLength ∧ salt.length = saltLength ∧
      ∀ octet ∈ salt, isLetter octet = true := by
  unfold salt? at read
  dsimp only at read
  split at read
  · cases read
  · rename_i long
    split at read
    · cases read
    · rename_i sextets mapped
      split at read
      · cases read
        have length := List.length_take_le saltLength bytes
        refine ⟨rfl, by omega, fun octet member => ?_⟩
        exact isLetter_of_mapM mapped octet member
      · cases read

/-- A salt is read again, whatever follows it. -/
theorem salt?_append (read : salt? bytes = some salt) (rest : Bytes) :
    salt? (salt ++ rest) = some salt := by
  obtain ⟨front, length, -⟩ := salt?_eq_some read
  have same : (salt ++ rest).take saltLength = bytes.take saltLength := by
    rw [List.take_left' length, front]
  unfold salt? at read ⊢
  rwa [same]

/-- A setting that hashes can have. -/
structure Setting.IsProper (setting : Setting) : Prop where
  version : setting.version ∈ versions
  cost : 4 ≤ setting.cost ∧ setting.cost ≤ 31
  salt : salt? setting.salt = some setting.salt

/-- Only proper settings are read. -/
theorem Setting.parse?_eq_some {setting : Setting} (read : parse? bytes = some setting) :
    setting.IsProper := by
  unfold parse? at read
  split at read
  · split at read
    · rename_i known
      split at read
      · rename_i cost salt costRead saltRead
        cases read
        refine ⟨by simpa using known, cost?_eq_some costRead, ?_⟩
        simpa using salt?_append saltRead []
      · cases read
    · cases read
  · cases read

/-! ## Hashes -/

/-- Versions are made of letters. -/
theorem isLetter_of_mem_version {version : Bytes} (known : version ∈ versions) {octet : UInt8}
    (member : octet ∈ version) : isLetter octet = true := by
  have each : ∀ version ∈ versions, ∀ octet ∈ version, isLetter octet = true := by
    decide +kernel
  exact each _ known _ member

/-- The parts of a rendered setting are its version, its cost, and the parts of what follows, which
need not be a salt. -/
theorem Setting.parts_render {setting : Setting} (known : setting.version ∈ versions)
    (rest : Bytes) :
    parts (setting.render ++ rest) =
      setting.version :: twoDigits setting.cost :: parts (setting.salt ++ rest) := by
  have named : setting.version ≠ [] := fun none => absurd known (by rw [none]; decide)
  have joined : setting.render ++ rest =
      [] ++ separator :: (setting.version ++ separator ::
        (twoDigits setting.cost ++ separator :: (setting.salt ++ rest))) := by
    simp [render]
  unfold parts
  rw [joined, splitAll_append _ (by simp),
    splitAll_append _ (not_mem_of_isLetter fun _ => isLetter_of_mem_version known),
    splitAll_append _ (not_mem_of_isLetter fun _ => isLetter_of_mem_twoDigits)]
  simp [named, twoDigits]

namespace Setting.IsProper

variable {setting : Setting}

/-- The parts of a rendered setting are its version, its cost and its salt, and the letters that
follow it belong to the salt. -/
theorem parts_render_append (proper : setting.IsProper)
    (letters : ∀ octet ∈ rest, isLetter octet = true) :
    parts (setting.render ++ rest) =
      [setting.version, twoDigits setting.cost, setting.salt ++ rest] := by
  obtain ⟨-, length, salted⟩ := salt?_eq_some proper.salt
  have filled : setting.salt ≠ [] := fun none => absurd length (by simp [none, saltLength])
  have last : ∀ octet ∈ setting.salt ++ rest, isLetter octet = true := fun octet member =>
    (List.mem_append.mp member).elim (salted octet) (letters octet)
  rw [parts_render proper.version]
  unfold parts
  rw [splitAll_of_not_mem (not_mem_of_isLetter last)]
  simp [filled]

/-- A setting is read from what was rendered, whatever letters follow. -/
theorem parse?_render_append (proper : setting.IsProper)
    (letters : ∀ octet ∈ rest, isLetter octet = true) :
    parse? (setting.render ++ rest) = some setting := by
  unfold parse?
  rw [proper.parts_render_append letters]
  dsimp only
  rw [if_pos (by simpa using proper.version), cost?_twoDigits proper.cost.1 proper.cost.2,
    salt?_append proper.salt]

/-- The setting that a hash was made with is read from it again. -/
theorem parse?_hashWith (proper : setting.IsProper) :
    parse? (hashWith setting password) = some setting :=
  proper.parse?_render_append fun _ => isLetter_of_mem_encode

/-- There is a hash with every proper setting. -/
theorem hash?_render (proper : setting.IsProper) :
    hash? password setting.render = some (hashWith setting password) := by
  have read : parse? (setting.render ++ []) = some setting :=
    proper.parse?_render_append (by simp)
  rw [List.append_nil] at read
  rw [hash?, read]
  rfl

end Setting.IsProper

/-- A hash is one with a proper setting. -/
theorem hash?_eq_some (hashed : hash? password setting = some hash) :
    ∃ setting : Setting, setting.IsProper ∧ hash = hashWith setting password := by
  obtain ⟨setting, read, rfl⟩ := Option.map_eq_some_iff.mp hashed
  exact ⟨setting, Setting.parse?_eq_some read, rfl⟩

/-- The password that was hashed is found to be the right one. -/
theorem check?_of_hash? (hashed : hash? password setting = some hash) :
    check? password hash = some true := by
  obtain ⟨setting, proper, rfl⟩ := hash?_eq_some hashed
  unfold check? hash?
  rw [proper.parse?_hashWith]
  simp

end Keyring.Bcrypt
