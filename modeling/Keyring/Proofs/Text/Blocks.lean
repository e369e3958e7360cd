import Mathlib.Tactic.ByContra
import Keyring.Proofs.Text.Strict

/-!
# Reading block by block

It does not matter where the blocks of a text begin and end, not even if that is inside a character:
text that is written as UTF-8 is read back from blocks of any size (`decodeBlocks_octets`).
-/

namespace Keyring.Utf8

variable {bytes more : Bytes} {text before : Text} {fault : Undecodable}

/-! ## Blocks -/

/-- The first blocks are the first octets. -/
theorem flatten_blocks_range (size count : Nat) (bytes : Bytes) :
    ((List.range count).map fun index => (bytes.drop (index * size)).take size).flatten =
      bytes.take (count * size) := by
  induction count with
  | zero => simp
  | succ count ih =>
    rw [List.range_succ, List.map_append, List.flatten_append, ih, Nat.succ_mul, List.take_add]
    simp

/-- The blocks one after another are all the octets. -/
theorem flatten_blocks {size : Nat} (positive : 0 < size) (bytes : Bytes) :
    (blocks size bytes).flatten = bytes := by
  unfold blocks
  rw [flatten_blocks_range]
  refine List.take_of_length_le ?_
  have := Nat.lt_div_mul_add (a := bytes.length + size - 1) positive
  omega

/-! ## Faults -/

/-- What fails after a code point fails in the rest. -/
theorem prepend_eq_error {value width : Nat} {result : Except Undecodable Text} :
    prepend value width result = .error fault ↔
      ∃ inner, result = .error inner ∧ inner.later width = fault := by
  cases result <;> simp [prepend]

theorem prepend_eq_ok {value width : Nat} {result : Except Undecodable Text} :
    prepend value width result = .ok text ↔
      ∃ rest, result = .ok rest ∧ CodePoint.ofNat value :: rest = text := by
  cases result <;> simp [prepend]

/-- A fault that is not at the end is one whatever comes after it. -/
theorem decode_append_of_error (failed : decode bytes = .error fault)
    (inside : fault.reason ≠ .truncated) (more : Bytes) :
    decode (bytes ++ more) = .error fault := by
  -- Four cases go on to the rest; the others fail by what is there, or because nothing more is there.
  fun_induction decode bytes generalizing fault with
  | case1 => cases failed
  | case2 lead rest low ih =>
    obtain ⟨inner, broken, rfl⟩ := prepend_eq_error.mp failed
    rw [List.cons_append, decode_one _ (UInt8.lt_iff_toNat_lt.mp low), ih broken inside]
    rfl
  | case5 lead _ least most second rest continues ih =>
    obtain ⟨inner, broken, rfl⟩ := prepend_eq_error.mp failed
    simp only [UInt8.lt_iff_toNat_lt, UInt8.reduceToNat] at least most
    simp only [List.cons_append]
    rw [decode_two _ (by omega) (by omega) continues, ih broken inside]
    rfl
  | case9 lead _ _ least most second follows third rest continues ih =>
    obtain ⟨inner, broken, rfl⟩ := prepend_eq_error.mp failed
    simp only [UInt8.lt_iff_toNat_lt, UInt8.reduceToNat] at least most
    simp only [List.cons_append]
    rw [decode_three _ (by omega) (by omega) follows continues, ih broken inside]
    rfl
  | case15 lead _ _ _ least most second follows third continues fourth rest ends ih =>
    obtain ⟨inner, broken, rfl⟩ := prepend_eq_error.mp failed
    simp only [UInt8.lt_iff_toNat_lt, UInt8.reduceToNat] at least most
    simp only [List.cons_append]
    rw [decode_four _ (by omega) (by omega) follows continues ends, ih broken inside]
    rfl
  | _ =>
    cases failed
    first
    | exact absurd rfl inside
    | (simp only [List.cons_append]
       rw [decode.eq_def]
       simp only [*, if_false, if_true, Bool.false_eq_true])

/-- What stands before a fault is text. -/
theorem decode_take_of_error (failed : decode bytes = .error fault) :
    ∃ text, decode (bytes.take fault.start) = .ok text := by
  fun_induction decode bytes generalizing fault with
  | case1 => cases failed
  | case2 lead rest low ih =>
    obtain ⟨inner, broken, rfl⟩ := prepend_eq_error.mp failed
    obtain ⟨text, read⟩ := ih broken
    exact ⟨_, (decode_one _ (UInt8.lt_iff_toNat_lt.mp low)).trans (congrArg (prepend _ 1) read)⟩
  | case5 lead _ least most second rest continues ih =>
    obtain ⟨inner, broken, rfl⟩ := prepend_eq_error.mp failed
    obtain ⟨text, read⟩ := ih broken
    simp only [UInt8.lt_iff_toNat_lt, UInt8.reduceToNat] at least most
    exact ⟨_, (decode_two _ (by omega) (by omega) continues).trans (congrArg (prepend _ 2) read)⟩
  | case9 lead _ _ least most second follows third rest continues ih =>
    obtain ⟨inner, broken, rfl⟩ := prepend_eq_error.mp failed
    obtain ⟨text, read⟩ := ih broken
    simp only [UInt8.lt_iff_toNat_lt, UInt8.reduceToNat] at least most
    exact ⟨_, (decode_three _ (by omega) (by omega) follows continues).trans
      (congrArg (prepend _ 3) read)⟩
  | case15 lead _ _ _ least most second follows third continues fourth rest ends ih =>
    obtain ⟨inner, broken, rfl⟩ := prepend_eq_error.mp failed
    obtain ⟨text, read⟩ := ih broken
    simp only [UInt8.lt_iff_toNat_lt, UInt8.reduceToNat] at least most
    exact ⟨_, (decode_four _ (by omega) (by omega) follows continues ends).trans
      (congrArg (prepend _ 4) read)⟩
  | _ =>
    cases failed
    exact ⟨[], by simp [decode]⟩

/-! ## Text in pieces -/

/-- Octets that go on after a text are read as the text and the rest. -/
theorem decode_octets_append (encodable : isEncodable before = true) (more : Bytes)
    (read : decode (octets before ++ more) = .ok text) :
    ∃ after, decode more = .ok after ∧ text = before ++ after := by
  induction before generalizing text with
  | nil => exact ⟨text, read, rfl⟩
  | cons point rest ih =>
    simp only [isEncodable, List.all_cons, Bool.and_eq_true, Bool.not_eq_true'] at encodable
    unfold octets at ih read
    rw [List.flatMap_cons, List.append_assoc, decode_encodePoint_append _ encodable.1] at read
    obtain ⟨others, later, rfl⟩ := prepend_eq_ok.mp read
    obtain ⟨after, last, rfl⟩ := ih encodable.2 later
    exact ⟨after, last, by simp [CodePoint.ofNat]⟩

/-- Octets of a text that go on after another text are those of what the text goes on with. -/
theorem octets_append_eq (encodable : isEncodable text = true)
    (encodable' : isEncodable before = true) (whole : octets before ++ more = octets text) :
    ∃ after, text = before ++ after ∧ isEncodable after = true ∧ octets after = more := by
  have read := decode_octets encodable
  rw [← whole] at read
  obtain ⟨after, read, same⟩ := decode_octets_append encodable' more read
  exact ⟨after, same, octets_of_decode read⟩

/-- Whatever was left over and whatever blocks come, what makes up the octets of a text is read as the
text. -/
theorem decodeBlocks_eq_ok {pending : Bytes} {blocks : List Bytes}
    (encodable : isEncodable text = true) (whole : pending ++ blocks.flatten = octets text) :
    decodeBlocks pending blocks = .ok text := by
  induction blocks generalizing pending text with
  | nil =>
    rw [List.flatten_nil, List.append_nil] at whole
    rw [decodeBlocks, whole, decode_octets encodable]
  | cons block later ih =>
    rw [List.flatten_cons, ← List.append_assoc] at whole
    rw [decodeBlocks]
    cases read : decode (pending ++ block) with
    | ok before =>
      obtain ⟨encodable', same⟩ := octets_of_decode read
      obtain ⟨after, rfl, encodable, rest⟩ := octets_append_eq encodable encodable' (same ▸ whole)
      dsimp only
      rw [ih encodable (by simpa using rest.symm)]
      rfl
    | error fault =>
      -- A fault inside would be one of the whole.
      have truncated : fault.reason = .truncated := by
        by_contra inside
        have failed := decode_append_of_error read inside later.flatten
        rw [whole, decode_octets encodable] at failed
        cases failed
      have unfinished : isUnfinished (pending ++ block) fault = true := by
        simp [isUnfinished, truncated]
      obtain ⟨before, taken⟩ := decode_take_of_error read
      obtain ⟨encodable', same⟩ := octets_of_decode taken
      rw [← List.take_append_drop fault.start (pending ++ block), ← same, List.append_assoc] at whole
      obtain ⟨after, rfl, encodable, rest⟩ := octets_append_eq encodable encodable' whole
      dsimp only
      rw [if_pos unfinished, taken]
      dsimp only
      rw [ih encodable rest.symm]
      rfl

/-- Text is read back from its octets in blocks of any size. -/
theorem decodeBlocks_octets {size : Nat} (positive : 0 < size) (encodable : isEncodable text = true) :
    decodeBlocks [] (blocks size (octets text)) = .ok text :=
  decodeBlocks_eq_ok encodable (by rw [List.nil_append, flatten_blocks positive])

end Keyring.Utf8
