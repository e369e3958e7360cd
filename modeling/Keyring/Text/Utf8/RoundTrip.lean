import Keyring.Text.Utf8

/-!
# What is encoded is read back

Text without surrogates comes back from its octets (`decode_octets`), and text has octets exactly if
it holds no surrogate (`encode_eq_ok_iff`). The lemmas on the way say what each number of octets is
read as.
-/

namespace Keyring.Utf8

/-- A text has no first surrogate exactly if it can be encoded. -/
theorem firstSurrogates_eq_none_iff (start : Nat) (text : Text) :
    firstSurrogates start text = none ↔ isEncodable text = true := by
  induction text generalizing start with
  | nil => simp [firstSurrogates, isEncodable]
  | cons point rest ih =>
    cases surrogate : point.isSurrogate
    · simpa [firstSurrogates, isEncodable, surrogate] using ih (start + 1)
    · simp [firstSurrogates, isEncodable, surrogate]

/-- A text is encoded exactly if it holds no surrogate, and then by its octets. -/
theorem encode_eq_ok_iff {text : Text} {bytes : Bytes} :
    encode text = .ok bytes ↔ isEncodable text = true ∧ octets text = bytes := by
  rw [← firstSurrogates_eq_none_iff 0]
  unfold encode
  split <;> simp_all

/-- The number of an octet below 256. -/
theorem toNat_octet {value : Nat} (bound : value < 256) : (UInt8.ofNat value).toNat = value := by
  rw [UInt8.toNat_ofNat']
  exact Nat.mod_eq_of_lt bound

/-- An octet continues a character if its first two bits are one and zero. -/
theorem isContinuation_iff {octet : UInt8} :
    isContinuation octet = true ↔ 0x80 ≤ octet.toNat ∧ octet.toNat ≤ 0xBF := by
  simp [isContinuation, UInt8.le_iff_toNat_le]

/-- One octet is read as one code point. -/
theorem decode_one {lead : UInt8} (rest : Bytes) (low : lead.toNat < 0x80) :
    decode (lead :: rest) = prepend lead.toNat 1 (decode rest) := by
  have first : lead < 0x80 := UInt8.lt_iff_toNat_lt.mpr low
  rw [decode.eq_def]
  exact if_pos first

/-- Two octets are read as one code point. -/
theorem decode_two {lead second : UInt8} (rest : Bytes) (least : 0xC2 ≤ lead.toNat)
    (most : lead.toNat < 0xE0) (continues : isContinuation second = true) :
    decode (lead :: second :: rest) =
      prepend (lead.toNat % 32 * 64 + payload second) 2 (decode rest) := by
  have one : ¬ lead < 0x80 := by simp only [UInt8.lt_iff_toNat_lt, UInt8.reduceToNat]; omega
  have two : ¬ lead < 0xC2 := by simp only [UInt8.lt_iff_toNat_lt, UInt8.reduceToNat]; omega
  have three : lead < 0xE0 := by simp only [UInt8.lt_iff_toNat_lt, UInt8.reduceToNat]; omega
  rw [decode.eq_def]
  simp only [if_neg one, if_neg two, if_pos three, continues, if_true]

/-- Three octets are read as one code point. -/
theorem decode_three {lead second third : UInt8} (rest : Bytes) (least : 0xE0 ≤ lead.toNat)
    (most : lead.toNat < 0xF0) (follows : isSecond lead second = true)
    (continues : isContinuation third = true) :
    decode (lead :: second :: third :: rest) =
      prepend (lead.toNat % 16 * 4096 + payload second * 64 + payload third) 3 (decode rest) := by
  have one : ¬ lead < 0x80 := by simp only [UInt8.lt_iff_toNat_lt, UInt8.reduceToNat]; omega
  have two : ¬ lead < 0xC2 := by simp only [UInt8.lt_iff_toNat_lt, UInt8.reduceToNat]; omega
  have three : ¬ lead < 0xE0 := by simp only [UInt8.lt_iff_toNat_lt, UInt8.reduceToNat]; omega
  have four : lead < 0xF0 := by simp only [UInt8.lt_iff_toNat_lt, UInt8.reduceToNat]; omega
  rw [decode.eq_def]
  simp only [if_neg one, if_neg two, if_neg three, if_pos four, follows, continues, if_true]

/-- Four octets are read as one code point. -/
theorem decode_four {lead second third fourth : UInt8} (rest : Bytes) (least : 0xF0 ≤ lead.toNat)
    (most : lead.toNat < 0xF5) (follows : isSecond lead second = true)
    (continues : isContinuation third = true) (ends : isContinuation fourth = true) :
    decode (lead :: second :: third :: fourth :: rest) =
      prepend (lead.toNat % 8 * 262144 + payload second * 4096 + payload third * 64
        + payload fourth) 4 (decode rest) := by
  have one : ¬ lead < 0x80 := by simp only [UInt8.lt_iff_toNat_lt, UInt8.reduceToNat]; omega
  have two : ¬ lead < 0xC2 := by simp only [UInt8.lt_iff_toNat_lt, UInt8.reduceToNat]; omega
  have three : ¬ lead < 0xE0 := by simp only [UInt8.lt_iff_toNat_lt, UInt8.reduceToNat]; omega
  have four : ¬ lead < 0xF0 := by simp only [UInt8.lt_iff_toNat_lt, UInt8.reduceToNat]; omega
  have five : lead < 0xF5 := by simp only [UInt8.lt_iff_toNat_lt, UInt8.reduceToNat]; omega
  rw [decode.eq_def]
  simp only [if_neg one, if_neg two, if_neg three, if_neg four, if_pos five, follows, continues,
    ends, if_true]

/-- The second octet of a character, by the first. -/
theorem isSecond_iff {lead second : UInt8} :
    isSecond lead second = true ↔
      (if lead.toNat = 0xE0 then 0xA0 else if lead.toNat = 0xF0 then 0x90 else 0x80) ≤
          second.toNat ∧
        second.toNat ≤
          (if lead.toNat = 0xED then 0x9F else if lead.toNat = 0xF4 then 0x8F else 0xBF) := by
  unfold isSecond
  simp only [← UInt8.toNat_inj, UInt8.reduceToNat]
  split
  · simp_all [UInt8.le_iff_toNat_le]
  · split
    · simp_all [UInt8.le_iff_toNat_le]
    · split
      · simp_all [UInt8.le_iff_toNat_le]
      · split <;> simp_all [isContinuation_iff, UInt8.le_iff_toNat_le]

/-- The octets of one code point are read back as that code point. -/
theorem decode_encodePoint_append {point : CodePoint} (rest : Bytes)
    (character : point.isSurrogate = false) :
    decode (encodePoint point ++ rest) =
      prepend point.val (encodePoint point).length (decode rest) := by
  have bound := point.isLt
  have outside : ¬ (0xD800 ≤ point.val ∧ point.val ≤ 0xDFFF) := by
    simpa [CodePoint.isSurrogate] using character
  unfold encodePoint
  dsimp only
  split
  · have whole := toNat_octet (show point.val < 256 by omega)
    rw [List.singleton_append, decode_one _ (by omega), whole, List.length_singleton]
  · split
    · have first := toNat_octet (show 0xC0 + point.val / 64 < 256 by omega)
      have second := toNat_octet (show 0x80 + point.val % 64 < 256 by omega)
      rw [List.cons_append, List.singleton_append, decode_two _ (by omega) (by omega)
        (isContinuation_iff.mpr (by omega)), payload, first, second]
      congr 1
      omega
    · split
      · have first := toNat_octet (show 0xE0 + point.val / 4096 < 256 by omega)
        have second := toNat_octet (show 0x80 + point.val / 64 % 64 < 256 by omega)
        have third := toNat_octet (show 0x80 + point.val % 64 < 256 by omega)
        have follows : isSecond (UInt8.ofNat (0xE0 + point.val / 4096))
            (UInt8.ofNat (0x80 + point.val / 64 % 64)) = true := by
          rw [isSecond_iff, first, second]
          constructor
          · split
            · omega
            · split <;> omega
          · split
            · omega
            · split <;> omega
        rw [List.cons_append, List.cons_append, List.singleton_append,
          decode_three _ (by omega) (by omega)
            follows
            (isContinuation_iff.mpr (by omega)), payload, payload, first, second, third]
        congr 1
        omega
      · have first := toNat_octet (show 0xF0 + point.val / 262144 < 256 by omega)
        have second := toNat_octet (show 0x80 + point.val / 4096 % 64 < 256 by omega)
        have third := toNat_octet (show 0x80 + point.val / 64 % 64 < 256 by omega)
        have fourth := toNat_octet (show 0x80 + point.val % 64 < 256 by omega)
        have follows : isSecond (UInt8.ofNat (0xF0 + point.val / 262144))
            (UInt8.ofNat (0x80 + point.val / 4096 % 64)) = true := by
          rw [isSecond_iff, first, second]
          constructor
          · split
            · omega
            · split <;> omega
          · split
            · omega
            · split <;> omega
        rw [List.cons_append, List.cons_append, List.cons_append, List.singleton_append,
          decode_four _ (by omega) (by omega)
            follows
            (isContinuation_iff.mpr (by omega)) (isContinuation_iff.mpr (by omega)),
          payload, payload, payload, first, second, third, fourth]
        congr 1
        omega

/-- Text without surrogates is read back from its octets. -/
theorem decode_octets {text : Text} (encodable : isEncodable text = true) :
    decode (octets text) = .ok text := by
  induction text with
  | nil => simp [octets, decode]
  | cons point rest ih =>
    simp only [isEncodable, List.all_cons, Bool.and_eq_true, Bool.not_eq_true'] at encodable
    have later := ih encodable.2
    unfold octets at later ⊢
    rw [List.flatMap_cons, decode_encodePoint_append _ encodable.1, later]
    simp [prepend, CodePoint.ofNat]

end Keyring.Utf8
