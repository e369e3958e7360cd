import Keyring.Codec.Base64
import Keyring.Proofs.Codec.Radix64
import Keyring.Text.Blank

/-!
# Base64 is read as it was written

Each letter stands for the sextet that it was written for, and there are as many equals signs as the
reader asks for. So octets come back from their letters (`decode?_encode`), whatever they are. What is
written is ASCII, and has neither the space nor any other blank in it (`plain_of_mem_encode`).
-/

namespace Keyring.Base64

variable {bytes : Bytes}

/-- The letter of a sextet stands for it. -/
@[simp]
theorem sextet?_letter (sextet : Radix64.Sextet) : sextet? (letter sextet) = some sextet := by
  revert sextet
  decide

/-- Letters are read as the sextets that they were written for. -/
theorem mapM_sextet?_letters (sextets : List Radix64.Sextet) :
    (sextets.map letter).mapM sextet? = some sextets := by
  induction sextets with
  | nil => rfl
  | cons sextet sextets ih => simp [List.mapM_cons, ih]

/-- No letter is the equals sign. -/
theorem letter_ne_filler (sextet : Radix64.Sextet) : letter sextet ≠ filler := by
  revert sextet
  decide

/-- The letters are told from the equals signs behind them. -/
theorem takeWhile_letters (sextets : List Radix64.Sextet) (count : Nat) :
    (sextets.map letter ++ List.replicate count filler).takeWhile (· ≠ filler) =
      sextets.map letter := by
  rw [List.takeWhile_append_of_pos (by simp [letter_ne_filler])]
  cases count <;> simp [List.replicate_succ]

theorem dropWhile_letters (sextets : List Radix64.Sextet) (count : Nat) :
    (sextets.map letter ++ List.replicate count filler).dropWhile (· ≠ filler) =
      List.replicate count filler := by
  rw [List.dropWhile_append_of_pos (by simp [letter_ne_filler])]
  cases count <;> simp [List.replicate_succ]

/-- Octets come back from their letters. -/
@[simp]
theorem decode?_encode (bytes : Bytes) : decode? (encode bytes) = some bytes := by
  have count := Radix64.length_sextets bytes
  unfold decode? encode
  rw [takeWhile_letters, dropWhile_letters]
  dsimp only
  rw [mapM_sextet?_letters, List.length_map, List.length_replicate, Option.map_some,
    Radix64.octets_sextets]
  refine if_pos ?_
  -- The octets that are left over decide how many letters the last group has.
  have left : bytes.length % 3 = 0 ∨ bytes.length % 3 = 1 ∨ bytes.length % 3 = 2 := by omega
  rcases left with none | one | two
  · have groups : (Radix64.sextets bytes).length % 4 = 0 := by omega
    simp [none, groups]
  · have groups : (Radix64.sextets bytes).length % 4 = 2 := by omega
    simp [one, groups]
  · have groups : (Radix64.sextets bytes).length % 4 = 3 := by omega
    simp [two, groups]

/-- Where there are octets there are letters. -/
theorem encode_ne_nil (filled : bytes ≠ []) : encode bytes ≠ [] := by
  intro empty
  have read := decode?_encode bytes
  rw [empty] at read
  exact filled (Option.some.inj read).symm

/-- What is written is ASCII without blanks. -/
theorem plain_of_mem_encode {point : CodePoint} (member : point ∈ encode bytes) :
    point.isAscii = true ∧ point.isBlank = false := by
  have each : ∀ sextet, (letter sextet).isAscii = true ∧ (letter sextet).isBlank = false := by
    decide
  rcases List.mem_append.mp member with letters | fillers
  · obtain ⟨sextet, -, rfl⟩ := List.mem_map.mp letters
    exact each sextet
  · obtain rfl := List.eq_of_mem_replicate fillers
    decide

end Keyring.Base64
