import Keyring.Text.Utf8.RoundTrip

/-!
# Octets are read strictly

Octets are read as a text only if they are the octets of that text and it holds no surrogate
(`decode_eq_ok_iff`). So a text has one spelling: no longer form of a character is read, and whatever
was read comes back as it was when it is written.
-/

namespace Keyring.Utf8

/-- Octets are those of a character with a given number. -/
structure Spells (bytes : Bytes) (value : Nat) : Prop where
  octets : encodePoint (CodePoint.ofNat value) = bytes
  character : (CodePoint.ofNat value).isSurrogate = false

/-- A number of the code space beside those of the surrogates is the number of a character. -/
theorem character_ofNat (value : Nat) (bound : value < 0x110000)
    (outside : value < 0xD800 ∨ 0xDFFF < value) :
    (CodePoint.ofNat value).val = value ∧ (CodePoint.ofNat value).isSurrogate = false := by
  have same : (CodePoint.ofNat value).val = value := Nat.mod_eq_of_lt bound
  refine ⟨same, ?_⟩
  unfold CodePoint.isSurrogate
  rw [same]
  simp only [Bool.and_eq_false_iff, decide_eq_false_iff_not]
  omega

/-- The octet with the number of an octet is that octet. -/
theorem ofNat_eq_octet {value : Nat} (octet : UInt8) (same : value = octet.toNat) :
    UInt8.ofNat value = octet := by
  rw [same, UInt8.ofNat_toNat]

/-- The bounds that the first octet of a character sets to the second. They rule out longer forms
than needed, surrogates, and numbers beyond the code space. -/
theorem bounds_of_isSecond {lead second : UInt8} (follows : isSecond lead second = true) :
    (0x80 ≤ second.toNat ∧ second.toNat ≤ 0xBF) ∧
      (lead.toNat = 0xE0 → 0xA0 ≤ second.toNat) ∧ (lead.toNat = 0xED → second.toNat ≤ 0x9F) ∧
      (lead.toNat = 0xF0 → 0x90 ≤ second.toNat) ∧ (lead.toNat = 0xF4 → second.toNat ≤ 0x8F) := by
  rw [isSecond_iff] at follows
  grind

theorem spells_one {lead : UInt8} (low : lead.toNat < 0x80) : Spells [lead] lead.toNat := by
  obtain ⟨value, character⟩ := character_ofNat lead.toNat (by omega) (by omega)
  refine ⟨?_, character⟩
  unfold encodePoint
  dsimp only
  rw [value, if_pos low, UInt8.ofNat_toNat]

theorem spells_two {lead second : UInt8} (least : 0xC2 ≤ lead.toNat) (most : lead.toNat < 0xE0)
    (continues : isContinuation second = true) :
    Spells [lead, second] (lead.toNat % 32 * 64 + payload second) := by
  rw [isContinuation_iff] at continues
  unfold payload
  obtain ⟨value, character⟩ :=
    character_ofNat (lead.toNat % 32 * 64 + second.toNat % 64) (by omega) (by omega)
  refine ⟨?_, character⟩
  unfold encodePoint
  dsimp only
  rw [value, if_neg (by omega), if_pos (by omega), ofNat_eq_octet lead (by omega),
    ofNat_eq_octet second (by omega)]

theorem spells_three {lead second third : UInt8} (least : 0xE0 ≤ lead.toNat)
    (most : lead.toNat < 0xF0) (follows : isSecond lead second = true)
    (continues : isContinuation third = true) :
    Spells [lead, second, third]
      (lead.toNat % 16 * 4096 + payload second * 64 + payload third) := by
  rw [isContinuation_iff] at continues
  have bounds := bounds_of_isSecond follows
  unfold payload
  obtain ⟨value, character⟩ := character_ofNat
    (lead.toNat % 16 * 4096 + second.toNat % 64 * 64 + third.toNat % 64)
    (by omega) (by omega)
  refine ⟨?_, character⟩
  unfold encodePoint
  dsimp only
  rw [value, if_neg (by omega), if_neg (by omega), if_pos (by omega),
    ofNat_eq_octet lead (by omega), ofNat_eq_octet second (by omega),
    ofNat_eq_octet third (by omega)]

theorem spells_four {lead second third fourth : UInt8} (least : 0xF0 ≤ lead.toNat)
    (most : lead.toNat < 0xF5) (follows : isSecond lead second = true)
    (continues : isContinuation third = true) (ends : isContinuation fourth = true) :
    Spells [lead, second, third, fourth]
      (lead.toNat % 8 * 262144 + payload second * 4096 + payload third * 64 + payload fourth) := by
  rw [isContinuation_iff] at continues ends
  have bounds := bounds_of_isSecond follows
  unfold payload
  obtain ⟨value, character⟩ := character_ofNat
    (lead.toNat % 8 * 262144 + second.toNat % 64 * 4096 + third.toNat % 64 * 64
      + fourth.toNat % 64) (by omega) (by omega)
  refine ⟨?_, character⟩
  unfold encodePoint
  dsimp only
  rw [value, if_neg (by omega), if_neg (by omega), if_neg (by omega),
    ofNat_eq_octet lead (by omega), ofNat_eq_octet second (by omega),
    ofNat_eq_octet third (by omega), ofNat_eq_octet fourth (by omega)]

/-- A text that is read comes back as its octets if the rest of it does after the first character. -/
theorem Spells.encodes {bytes rest : Bytes} {value width : Nat} {text : Text}
    (spells : Spells bytes value) (read : prepend value width (decode rest) = .ok text)
    (later : ∀ text, decode rest = .ok text → isEncodable text = true ∧ Utf8.octets text = rest) :
    isEncodable text = true ∧ Utf8.octets text = bytes ++ rest := by
  cases decoded : decode rest with
  | error fault =>
    rw [decoded] at read
    cases read
  | ok others =>
    rw [decoded] at read
    cases read
    obtain ⟨encodable, same⟩ := later others decoded
    constructor
    · rw [isEncodable, List.all_cons, spells.character]
      exact encodable
    · rw [Utf8.octets, List.flatMap_cons, spells.octets, ← same, Utf8.octets]

/-- What is read is a text without surrogates, and the octets are its own. -/
theorem octets_of_decode {bytes : Bytes} {text : Text} (read : decode bytes = .ok text) :
    isEncodable text = true ∧ octets text = bytes := by
  -- Only four cases of `decode` succeed, one for each number of octets that a character may have.
  fun_induction decode bytes generalizing text with
  | case1 =>
    cases read
    exact ⟨rfl, rfl⟩
  | case2 lead rest low ih =>
    exact (spells_one (UInt8.lt_iff_toNat_lt.mp low)).encodes read fun _ => ih
  | case5 lead _ least most second rest continues ih =>
    simp only [UInt8.lt_iff_toNat_lt, UInt8.reduceToNat] at least most
    exact (spells_two (by omega) (by omega) continues).encodes read fun _ => ih
  | case9 lead _ _ least most second follows third rest continues ih =>
    simp only [UInt8.lt_iff_toNat_lt, UInt8.reduceToNat] at least most
    exact (spells_three (by omega) (by omega) follows continues).encodes read fun _ => ih
  | case15 lead _ _ _ least most second follows third continues fourth rest ends ih =>
    simp only [UInt8.lt_iff_toNat_lt, UInt8.reduceToNat] at least most
    exact (spells_four (by omega) (by omega) follows continues ends).encodes read fun _ => ih
  | _ => cases read

/-- Octets are read as a text exactly if they are its octets and it holds no surrogate. -/
theorem decode_eq_ok_iff {bytes : Bytes} {text : Text} :
    decode bytes = .ok text ↔ isEncodable text = true ∧ octets text = bytes := by
  refine ⟨octets_of_decode, ?_⟩
  rintro ⟨encodable, rfl⟩
  exact decode_octets encodable

end Keyring.Utf8
