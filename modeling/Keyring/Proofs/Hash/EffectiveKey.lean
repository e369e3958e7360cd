import Keyring.Proofs.Hash.Strict
import Keyring.Proofs.Text.Octets

/-!
# Passwords with one key

The cipher works with a key of 72 octets, which says the password and a zero behind it over and over
(`effectiveKey_eq_iff`). So a key does not tell by itself where its password ends: that may be at any
zero behind which the key starts again, or at the end of the key. Of two passwords with one key the
longer one goes on behind such a zero, so that passwords without zeros have keys of their own
(`eq_of_effectiveKey_eq`).

A hash tells passwords from each other by the digests of their keys alone (`check?_hashWith`). So
every shorter password shares its hashes with another one at least, namely with its own key
(`effectiveKey_effectiveKey`).
-/

namespace Keyring.Bcrypt

variable {password other key period rest : Bytes}

/-! ## Repetitions -/

/-- What goes on as it starts repeats its start. -/
theorem getElem?_of_again (filled : 0 < period.length) (whole : key = period ++ rest)
    (again : rest <+: key) {index : Nat} (within : index < key.length) :
    key[index]? = some (period.getD (index % period.length) 0) := by
  induction index using Nat.strongRecOn with
  | _ index ih =>
    by_cases first : index < period.length
    · have start : key[index]? = period[index]? := by rw [whole, List.getElem?_append_left first]
      rw [start, Nat.mod_eq_of_lt first, List.getD_eq_getElem?_getD, List.getElem?_eq_getElem first,
        Option.getD_some]
    · have count : key.length = period.length + rest.length := by rw [whole, List.length_append]
      have inside : index - period.length < rest.length := by omega
      have shifted : key[index]? = rest[index - period.length]? := by
        rw [whole, List.getElem?_append_right (by omega)]
      have earlier : rest[index - period.length]? = key[index - period.length]? := by
        rw [List.getElem?_eq_getElem inside]
        exact (List.prefix_iff_getElem?.mp again _ inside).symm
      rw [shifted, earlier, ih _ (by omega) (by omega), ← Nat.mod_eq_sub_mod (by omega)]

/-- A period over and over, up to some length, is what starts with the period and goes on as it
starts. -/
theorem repeated_eq_iff {length : Nat} (filled : 0 < period.length)
    (fits : period.length ≤ length) :
    (List.range length).map (fun index => period.getD (index % period.length) 0) = key ↔
      key.length = length ∧ ∃ rest, key = period ++ rest ∧ rest <+: key := by
  constructor
  · intro same
    have each : ∀ index < length, key[index]? = some (period.getD (index % period.length) 0) := by
      intro index within
      rw [← same, List.getElem?_map, List.getElem?_range within, Option.map_some]
    have count : key.length = length := by rw [← same, List.length_map, List.length_range]
    have start : period <+: key := List.prefix_iff_getElem?.mpr fun index inside => by
      rw [each index (by omega), Nat.mod_eq_of_lt inside, List.getD_eq_getElem?_getD,
        List.getElem?_eq_getElem inside, Option.getD_some]
    obtain ⟨rest, whole⟩ := start
    refine ⟨count, rest, whole.symm, List.prefix_iff_getElem?.mpr fun index inside => ?_⟩
    have joined : period.length + rest.length = length := by
      rw [← List.length_append, whole, count]
    have shifted : rest[index]? = key[period.length + index]? := by
      rw [← whole, List.getElem?_append_right (by omega), Nat.add_sub_cancel_left]
    rw [← List.getElem?_eq_getElem inside, shifted, each _ (by omega), each _ (by omega),
      Nat.add_mod_left]
  · rintro ⟨rfl, rest, whole, again⟩
    refine List.ext_getElem? fun index => ?_
    by_cases within : index < key.length
    · rw [getElem?_of_again filled whole again within, List.getElem?_map,
        List.getElem?_range within, Option.map_some]
    · rw [List.getElem?_eq_none (by simpa using within), List.getElem?_eq_none (by omega)]

/-! ## Keys -/

/-- A key says a password over and over: it is the password, or the password and a zero, behind which
it goes on as it starts. -/
def Repeats (key password : Bytes) : Prop :=
  key = password ∨ ∃ rest, key = password ++ 0 :: rest ∧ rest <+: key

@[simp]
theorem length_effectiveKey (password : Bytes) : (effectiveKey password).length = 72 := by
  simp [effectiveKey]

/-- The key of a password is the one key that says it over and over. -/
theorem effectiveKey_eq_iff (short : password.length ≤ 72) :
    effectiveKey password = key ↔ key.length = 72 ∧ Repeats key password := by
  have count : (password ++ [0]).length = password.length + 1 := by simp
  have general : effectiveKey password = key ↔
      key.length = 72 ∧ ∃ rest, key = (password ++ [0]).take 72 ++ rest ∧ rest <+: key :=
    repeated_eq_iff (by rw [List.length_take]; omega) (List.length_take_le _ _)
  refine general.trans (and_congr_right fun long => ?_)
  rcases Nat.lt_or_eq_of_le short with shorter | full
  · have other : key ≠ password := fun same => by rw [same] at long; omega
    simp [Repeats, List.take_of_length_le (show (password ++ [0]).length ≤ 72 by omega), other]
  · rw [List.take_left' full]
    constructor
    · rintro ⟨rest, whole, -⟩
      have none : rest = [] := List.eq_nil_of_length_eq_zero (by
        have := congrArg List.length whole
        rw [List.length_append] at this
        omega)
      exact .inl (by rw [whole, none, List.append_nil])
    · rintro (rfl | ⟨rest, whole, -⟩)
      · exact ⟨[], by simp⟩
      · have := congrArg List.length whole
        simp only [List.length_append, List.length_cons] at this
        omega

/-- Two passwords are said over and over by one key only if they are the same or one of them holds a
zero. -/
theorem Repeats.zero_mem (first : Repeats key password) (second : Repeats key other)
    (different : password ≠ other) : 0 ∈ password ∨ 0 ∈ other := by
  by_contra free
  obtain ⟨free, free'⟩ := not_or.mp free
  rcases first with rfl | ⟨rest, whole, -⟩
  · rcases second with same | ⟨rest', whole', -⟩
    · exact different same
    · exact free (by rw [whole']; simp)
  · rcases second with rfl | ⟨rest', whole', -⟩
    · exact free' (by rw [whole]; simp)
    · exact different (append_cons_inj free free' (whole.symm.trans whole')).1

/-- A key taken for a password is its own key. -/
@[simp]
theorem effectiveKey_effectiveKey (password : Bytes) :
    effectiveKey (effectiveKey password) = effectiveKey password :=
  (effectiveKey_eq_iff (Nat.le_of_eq (length_effectiveKey password))).mpr
    ⟨length_effectiveKey password, .inl rfl⟩

/-- Passwords have one key exactly if the key of the one says the other over and over. -/
theorem effectiveKey_eq_effectiveKey_iff (short : other.length ≤ 72) :
    effectiveKey other = effectiveKey password ↔ Repeats (effectiveKey password) other :=
  (effectiveKey_eq_iff short).trans (and_iff_right (length_effectiveKey password))

/-- Passwords without zeros have keys of their own. -/
theorem eq_of_effectiveKey_eq (short : password.length ≤ 72) (short' : other.length ≤ 72)
    (free : 0 ∉ password) (free' : 0 ∉ other)
    (same : effectiveKey other = effectiveKey password) : other = password := by
  by_contra different
  have first := (effectiveKey_eq_effectiveKey_iff short').mp same
  have second : Repeats (effectiveKey password) password :=
    (effectiveKey_eq_effectiveKey_iff short).mp rfl
  exact (first.zero_mem second different).elim free' free

/-! ## Hashes -/

/-- Octets are told from their letters. -/
theorem encode_inj {bytes bytes' : Bytes} : encode bytes = encode bytes' ↔ bytes = bytes' := by
  refine ⟨fun same => ?_, congrArg encode⟩
  have read : some (Radix64.sextets bytes) = some (Radix64.sextets bytes') :=
    (mapM_sextet?_eq_some_iff.mpr rfl).symm.trans (mapM_sextet?_eq_some_iff.mpr same.symm)
  rw [← Radix64.octets_sextets bytes, Option.some.inj read, Radix64.octets_sextets]

/-- A password is taken for the one that was hashed if the digests of their keys are the same, and only
then. -/
theorem check?_hashWith {setting : Setting} (proper : setting.IsProper) (password other : Bytes) :
    check? other (hashWith setting password) = some true ↔
      digest setting.cost (saltBytes setting.salt) (effectiveKey other) =
        digest setting.cost (saltBytes setting.salt) (effectiveKey password) := by
  unfold check? hash?
  rw [proper.parse?_hashWith, Option.map_some, Option.map_some, Option.some.injEq, beq_iff_eq]
  unfold hashWith
  rw [List.append_cancel_left_eq, encode_inj]

end Keyring.Bcrypt
